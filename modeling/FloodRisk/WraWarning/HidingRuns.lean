import FloodRisk.WraHistorical.AdapterRun
import FloodRisk.WraWarning.Hiding

/-!
# When no document hides another
-/

namespace FloodRisk.WraWarning
open Python Adapters WraHistorical

variable {runtime : WarningRuntime} {fetch : Fetch} {payload : Value} {document : Document}
  {visit : Visit}

/-! ### A document that is read through a link -/

theorem networkLinks_linked {root : Element} {links : List Document}
    (h : networkLinks runtime root true = some links) :
    networkLinks runtime root false = if links = [] then some [] else none := by
  unfold networkLinks at h ⊢
  cases hnodes : root.nodes.filter fun element => tagOf element = kmlTag "NetworkLink" with
  | nil =>
    rw [hnodes] at h
    cases h
    rfl
  | cons first rest =>
    rw [hnodes] at h
    dsimp only at h ⊢
    split_ifs at h with hmany
    obtain ⟨found, hfound, rfl⟩ := Option.map_eq_some_iff.mp h
    have hlinks : found.eraseDups ≠ [] := by
      rw [List.mapM_cons] at hfound
      cases hfirst : linkedDocument runtime first with
      | none =>
        rw [hfirst] at hfound
        cases hfound
      | some document =>
        rw [hfirst] at hfound
        cases hrest : rest.mapM (linkedDocument runtime) with
        | none =>
          rw [hrest] at hfound
          cases hfound
        | some others =>
          rw [hrest] at hfound
          cases hfound
          rw [List.eraseDups_cons]
          exact List.cons_ne_nil _ _
    rw [if_neg hlinks]
    rfl

theorem readVisit_linked {links : List Document} {records : List PlacemarkRecord}
    (h : readVisit runtime fetch ⟨document, none⟩ = .ok (some (links, records)))
    (source : Document) :
    readVisit runtime fetch ⟨document, some source⟩ =
      .ok (if links = [] then some ([], records) else none) := by
  unfold readVisit readDocument at h ⊢
  cases hfetch : fetch document with
  | none =>
    rw [hfetch] at h
    cases h
  | some t =>
    rw [hfetch] at h
    dsimp only at h ⊢
    obtain ⟨parsed, hparsed, h⟩ := Outcome.bind_eq_ok.mp h
    rw [hparsed]
    cases parsed with
    | none => cases h
    | some root =>
      dsimp only [Option.isNone] at h
      simp only [Option.isNone_some, bind, Except.bind]
      cases hlinks : networkLinks runtime root true with
      | none =>
        rw [hlinks] at h
        cases h
      | some found =>
        rw [hlinks] at h
        obtain ⟨records', hrecords, h⟩ := Outcome.bind_eq_ok.mp h
        cases h
        rw [networkLinks_linked hlinks]
        split_ifs
        · dsimp only
          rw [hrecords]
          rfl
        · rfl

/-! ### What a document yields alone -/

theorem mem_visitFetched_of_alone {id : Text} (h : id ∈ fetchedAlone runtime fetch document) :
    id ∈ visitFetched runtime fetch ⟨document, none⟩ := by
  unfold fetchedAlone at h
  unfold visitFetched
  cases hread : readVisit runtime fetch ⟨document, none⟩ with
  | error e =>
    rw [hread] at h
    exact absurd h List.not_mem_nil
  | ok read =>
    rw [hread] at h
    cases read with
    | none => exact absurd h List.not_mem_nil
    | some found =>
      dsimp only at h ⊢
      cases hcollected : collectRecords document none found.2 ⟨[], [], [], [], [], 0⟩ with
      | error e =>
        rw [hcollected] at h
        exact absurd h List.not_mem_nil
      | ok state =>
        rw [hcollected] at h
        have hids := (collected_of_ok hcollected).1.fetched
        rw [List.map_nil, List.nil_append] at hids
        rw [← hids]
        exact h

theorem visitFetched_linked (hlinks : linksOf runtime fetch document = []) (source : Document) :
    ∀ id ∈ visitFetched runtime fetch ⟨document, none⟩,
      id ∈ visitFetched runtime fetch ⟨document, some source⟩ := by
  intro id hid
  unfold linksOf at hlinks
  unfold visitFetched at hid ⊢
  cases hread : readVisit runtime fetch ⟨document, none⟩ with
  | error e =>
    rw [hread] at hid
    exact absurd hid List.not_mem_nil
  | ok read =>
    cases read with
    | none =>
      rw [hread] at hid
      exact absurd hid List.not_mem_nil
    | some found =>
      obtain ⟨links, records⟩ := found
      rw [hread] at hlinks hid
      dsimp only at hlinks
      rw [readVisit_linked hread, if_pos hlinks]
      exact hid

theorem owner_of_visitFetched {id : Text} (h : id ∈ visitFetched runtime fetch visit) :
    ownerOf id = text visit.document.filename := by
  unfold visitFetched at h
  split at h
  · rename_i links records hread
    obtain ⟨record, hrecord, rfl⟩ := List.mem_map.mp h
    have hfresh := List.mem_of_mem_filter hrecord
    exact owned_of_readVisit hread record ((freshRecords_sublist []).mem hfresh)
  · exact absurd h List.not_mem_nil

/-- A document that a link reaches first is refused for links of its own. -/
theorem visitFetched_refused (hlinks : linksOf runtime fetch document ≠ []) (source : Document) :
    visitFetched runtime fetch ⟨document, some source⟩ = [] := by
  unfold linksOf at hlinks
  unfold visitFetched
  split at hlinks
  · rename_i links records hread
    rw [readVisit_linked hread, if_neg hlinks]
  · exact absurd rfl hlinks

/-! ### Groups -/

theorem groupFails_of_fails {visits : List Visit} (h : groupFails runtime fetch visits = true) :
    ∃ visit ∈ visits, readVisit runtime fetch visit = .ok none := by
  unfold groupFails at h
  rw [decide_eq_true_eq] at h
  by_contra hnone
  push Not at hnone
  have hzero : (visits.map (visitFailures runtime fetch)).sum = 0 := by
    rw [List.sum_eq_zero_iff_forall_eq_nat]
    intro count hcount
    obtain ⟨visit, hvisit, rfl⟩ := List.mem_map.mp hcount
    unfold visitFailures
    split
    · rename_i hread
      exact absurd hread (hnone visit hvisit)
    · rfl
  omega

/-- A document that was read with its links keeps the walk from failing. -/
theorem not_allFail_of_fullyRead (hdocument : document ∈ selectedDocuments runtime payload)
    (hread : FullyRead runtime fetch document) : ¬ allFail runtime fetch payload := by
  intro hall
  obtain ⟨links, records, hown, hlinks⟩ := hread
  obtain ⟨before, hgroup, -⟩ := @exists_group runtime fetch document _ [] hdocument
  obtain ⟨visit, hvisit, hfails⟩ := groupFails_of_fails (hall _ hgroup)
  obtain ⟨-, hkind⟩ := mem_visitGroup hvisit
  rcases hkind with rfl | ⟨hsource, hlink, hother⟩
  · rw [hown] at hfails
    cases hfails
  · unfold linksOf at hlink
    rw [hown] at hlink
    obtain ⟨read, hread⟩ := hlinks visit.document hlink hother
    have hsame : (⟨visit.document, some document⟩ : Visit) = visit := by
      rw [← hsource]
    rw [hsame, hfails] at hread
    cases hread

theorem not_allFail_of_hidden {source : Document}
    (hdocument : document ∈ selectedDocuments runtime payload)
    (hvisit : (⟨document, some source⟩ : Visit) ∈ visitsOf runtime fetch payload) :
    ¬ allFail runtime fetch payload := by
  intro hall
  obtain ⟨before, hgroup, -⟩ := @exists_group runtime fetch document _ [] hdocument
  obtain ⟨visit, hmem, -⟩ := groupFails_of_fails (hall _ hgroup)
  -- the group of the document is empty, since the document is not visited twice
  have hfirst : (⟨document, none⟩ : Visit) ∈ visitGroup runtime fetch before document := by
    unfold visitGroup
    rw [if_neg]
    · exact List.mem_cons_self
    · intro hbefore
      unfold visitGroup at hmem
      rw [if_pos hbefore] at hmem
      exact List.not_mem_nil hmem
  have heq := visit_unique (List.mem_flatten.mpr ⟨_, hgroup, hfirst⟩) hvisit rfl
  cases heq

/-! ### All visits are silent -/

theorem visitSilent_of_clear {result : RunResult} (h : run runtime fetch payload = .ok result)
    (hclear : result.noActiveEvent = true) (hvisit : visit ∈ visitsOf runtime fetch payload) :
    VisitSilent runtime fetch visit := by
  obtain ⟨-, hquiet, hcollects⟩ := run_collects h
  obtain ⟨hfetched, hrejected, hfailures⟩ := hcollects.noActiveEvent.mp hclear
  have hnone : (visitsOf runtime fetch payload).flatMap (visitFetched runtime fetch) = [] := by
    rw [← hcollects.fetched, hfetched, List.map_nil]
  have hnone' : (visitsOf runtime fetch payload).flatMap (visitRejected runtime fetch) = [] := by
    rw [← hcollects.rejected, hrejected]
  have hids := List.flatMap_eq_nil_iff.mp hnone visit hvisit
  have hids' := List.flatMap_eq_nil_iff.mp hnone' visit hvisit
  have hraises := hquiet visit hvisit
  unfold VisitSilent
  unfold VisitRaises at hraises
  unfold visitFetched at hids
  unfold visitRejected at hids'
  cases hread : readVisit runtime fetch visit with
  | error e =>
    rw [hread] at hraises
    exact absurd trivial hraises
  | ok read =>
    rw [hread] at hids hids'
    cases read with
    | none => exact absurd hids' (List.cons_ne_nil _ _)
    | some found =>
      obtain ⟨links, records⟩ := found
      cases records with
      | nil => exact ⟨links, rfl⟩
      | cons record rest =>
        -- the first record is always fresh, and is accepted or rejected
        have hfresh : record ∈ freshRecords [] (record :: rest) := by
          rw [freshRecords, if_neg List.not_mem_nil]
          exact List.mem_cons_self
        unfold acceptedIds at hids
        unfold rejectedIds at hids'
        rw [List.map_eq_nil_iff, List.filter_eq_nil_iff] at hids hids'
        have haccepted := hids record hfresh
        have hrejected := hids' record hfresh
        cases hkind : record.isAccepted with
        | true => exact absurd hkind haccepted
        | false =>
          rw [hkind] at hrejected
          exact absurd rfl hrejected

theorem clear_of_silent (hselected : selectedDocuments runtime payload ≠ [])
    (hsilent : ∀ visit ∈ visitsOf runtime fetch payload, VisitSilent runtime fetch visit) :
    ∃ result, run runtime fetch payload = .ok result ∧ result.noActiveEvent = true := by
  have hquiet : ∀ visit ∈ visitsOf runtime fetch payload, ¬ VisitRaises runtime fetch visit := by
    intro visit hvisit
    obtain ⟨links, hread⟩ := hsilent visit hvisit
    unfold VisitRaises
    rw [hread]
    exact not_not.mpr fun record hrecord => absurd hrecord List.not_mem_nil
  have hread : ¬ allFail runtime fetch payload := by
    intro hall
    obtain ⟨document, hdocument⟩ := List.exists_mem_of_ne_nil _ hselected
    obtain ⟨before, hgroup, -⟩ := @exists_group runtime fetch document _ [] hdocument
    obtain ⟨visit, hvisit, hfails⟩ := groupFails_of_fails (hall _ hgroup)
    obtain ⟨links, hlinks⟩ := hsilent visit (List.mem_flatten.mpr ⟨_, hgroup, hvisit⟩)
    rw [hlinks] at hfails
    cases hfails
  obtain ⟨result, hrun⟩ := run_returns hselected hquiet hread
  obtain ⟨-, -, hcollects⟩ := run_collects hrun
  refine ⟨result, hrun, hcollects.noActiveEvent.mpr ⟨?_, ?_, ?_⟩⟩
  · rw [← List.map_eq_nil_iff, hcollects.fetched, List.flatMap_eq_nil_iff]
    intro visit hvisit
    obtain ⟨links, hlinks⟩ := hsilent visit hvisit
    unfold visitFetched
    rw [hlinks]
    rfl
  · rw [hcollects.rejected, List.flatMap_eq_nil_iff]
    intro visit hvisit
    obtain ⟨links, hlinks⟩ := hsilent visit hvisit
    unfold visitRejected
    rw [hlinks]
    rfl
  · rw [List.sum_eq_zero_iff_forall_eq_nat]
    intro count hcount
    obtain ⟨visit, hvisit, rfl⟩ := List.mem_map.mp hcount
    obtain ⟨links, hlinks⟩ := hsilent visit hvisit
    unfold visitFailures
    rw [hlinks]

/-! ### The two directions -/

theorem undisturbed_of_hidesNothing (h : HidesNothing runtime fetch payload) :
    Undisturbed runtime fetch payload := by
  constructor
  · rintro ⟨document, hdocument, hread⟩ visit hvisit hraises
    obtain ⟨e, hrun⟩ := not_returns_run ⟨visit, hvisit, hraises⟩
    exact h.raises e hrun document hdocument hread
  · intro hquiet visit hvisit hsource hdocument
    by_contra hnot
    rw [not_or] at hnot
    obtain ⟨hlinks, halone⟩ := hnot
    obtain ⟨document, source⟩ := visit
    cases source with
    | none => exact hsource rfl
    | some source =>
      dsimp only at hdocument hlinks halone
      obtain ⟨result, hrun⟩ := run_returns (List.ne_nil_of_mem hdocument) hquiet
        (not_allFail_of_hidden hdocument hvisit)
      obtain ⟨id, hid⟩ := List.exists_mem_of_ne_nil _ halone
      have hfetched := h.fetches result hrun document hdocument id hid
      rw [(run_collects hrun).2.2.fetched] at hfetched
      obtain ⟨other, hother, hotherId⟩ := List.mem_flatMap.mp hfetched
      have howner := owner_of_visitFetched (mem_visitFetched_of_alone hid)
      have hsame : other.document = document :=
        filename_injective (text_injective ((owner_of_visitFetched hotherId).symm.trans howner))
      rw [visit_unique hother hvisit hsame, visitFetched_refused hlinks] at hotherId
      exact List.not_mem_nil hotherId
  · intro hsilent document hdocument
    obtain ⟨result, hrun, hclear⟩ := clear_of_silent (List.ne_nil_of_mem hdocument) hsilent
    exact h.allClear result hrun hclear document hdocument

theorem hidesNothing_of_undisturbed (h : Undisturbed runtime fetch payload) :
    HidesNothing runtime fetch payload := by
  constructor
  · intro e hrun document hdocument hread
    obtain ⟨result, hresult⟩ := run_returns (List.ne_nil_of_mem hdocument) (h.quiet ⟨document, hdocument, hread⟩)
      (not_allFail_of_fullyRead hdocument hread)
    rw [hresult] at hrun
    cases hrun
  · intro result hrun document hdocument id hid
    obtain ⟨-, hquiet, hcollects⟩ := run_collects hrun
    obtain ⟨visit, hvisit, rfl⟩ := exists_visit hdocument
    rw [hcollects.fetched]
    apply List.mem_flatMap.mpr
    refine ⟨visit, hvisit, ?_⟩
    have hown := mem_visitFetched_of_alone hid
    obtain ⟨document, source⟩ := visit
    cases source with
    | none => exact hown
    | some source =>
      rcases h.direct hquiet _ hvisit (Option.some_ne_none source) hdocument with hlinks | halone
      · exact visitFetched_linked hlinks source id hown
      · rw [halone] at hid
        exact absurd hid List.not_mem_nil
  · intro result hrun hclear document hdocument
    exact h.placed (fun visit hvisit => visitSilent_of_clear hrun hclear hvisit) document hdocument

theorem hidesNothing_iff :
    HidesNothing runtime fetch payload ↔ Undisturbed runtime fetch payload :=
  ⟨undisturbed_of_hidesNothing, hidesNothing_of_undisturbed⟩

/-! ### A linked document with a link of its own -/

def kmlUrl (document : Document) : String :=
  "https://fhy.wra.gov.tw/pub_web_2011/kml/KmlShare/" ++ document.filename

def linkTo (document : Document) : Element :=
  kmlElement "NetworkLink" none none
    [kmlElement "Link" none none [kmlElement "href" none (some (kmlUrl document)) []]]

def linkingKml : Element :=
  kmlElement "kml" none none [kmlElement "Document" none none [linkTo .waterWarm]]

def timedPlacemark : Element :=
  kmlElement "Placemark" (some "a") none
    [kmlElement "TimeStamp" none none [kmlElement "when" none (some "2026-09-26T09:00:00") []],
      kmlElement "Point" none none [kmlElement "coordinates" none (some "121,23") []]]

/-- A document that links to itself. -/
def warningKml : Element :=
  kmlElement "kml" none none
    [kmlElement "Document" none none [linkTo .waterWarm, timedPlacemark]]

/-- A link, and other features behind it. -/
def kmlText (features : Text) : Text :=
  text "<kml xmlns=\"http://www.opengis.net/kml/2.2\"><Document><NetworkLink><Link><href>" ++
    text (kmlUrl .waterWarm) ++ text "</href></Link></NetworkLink>" ++ features ++
    text "</Document></kml>"

def linkingText : Text := kmlText []

def warningText : Text :=
  kmlText (text "<Placemark id=\"a\"><TimeStamp><when>2026-09-26T09:00:00</when></TimeStamp>" ++
    text "<Point><coordinates>121,23</coordinates></Point></Placemark>")

def twoTrees : WarningRuntime where
  toRuntime := witnessRuntime
  rules := ⟨id, id, fun _ => true⟩
  parseXml := fun t =>
    if t = linkingText then some linkingKml else if t = warningText then some warningKml else none
  syntheticIdentity := fun _ _ _ => ""

def twoTexts : Fetch
  | .floodWarm => some linkingText
  | .waterWarm => some warningText
  | _ => none

def indexRecord (document : Document) : Value :=
  .object [("sourceurl", .text (text (kmlUrl document)))]

def indexOfTwo : Value := .list [indexRecord .floodWarm, indexRecord .waterWarm]

def warningId : Text := text "NewstWaterWarm.kml:a"

/-- Whether a run returns without an id. -/
def returnsWithout (id : Text) : Except RunError RunResult → Bool
  | .ok result => id ∉ result.fetched.map WarningItem.sourceId
  | .error _ => false

theorem exists_of_returnsWithout {id : Text} {outcome : Except RunError RunResult}
    (h : returnsWithout id outcome = true) :
    ∃ result, outcome = .ok result ∧ id ∉ result.fetched.map WarningItem.sourceId := by
  cases outcome with
  | error e => cases h
  | ok result => exact ⟨result, rfl, of_decide_eq_true h⟩

theorem linked_warning_is_hidden : ¬ HidesNothing twoTrees twoTexts indexOfTwo := by
  intro h
  have hselected : Document.waterWarm ∈ selectedDocuments twoTrees indexOfTwo := by decide +kernel
  have halone : warningId ∈ fetchedAlone twoTrees twoTexts .waterWarm := by decide +kernel
  have hrun : returnsWithout warningId (run twoTrees twoTexts indexOfTwo) = true := by
    decide +kernel
  obtain ⟨result, hresult, hmissing⟩ := exists_of_returnsWithout hrun
  exact hmissing (h.fetches result hresult .waterWarm hselected warningId halone)

end FloodRisk.WraWarning
