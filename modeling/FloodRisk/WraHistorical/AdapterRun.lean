import FloodRisk.WraHistorical.Accounting

/-!
# The run of the historical flood adapter

Placemarks, records, rows, and what the run reports of them.
-/

namespace FloodRisk.WraHistorical

variable {ι : Type} [DecidableEq ι] {runtime : Runtime} {recordDigest : RecordIdentity → ι}
  {placemarkDigest : Element → ι} {root : Element} {records : List Record} {rejections : List ι}

/-- Each Placemark that lies in no other has one entry, a record or a rejection. -/
structure AccountsFor (runtime : Runtime) (placemarkDigest : Element → ι) (root : Element)
    (records : List Record) (rejections : List ι) : Prop where
  entries : ∃ entries : List (Element × (Record ⊕ ι)),
    (entries.map Prod.fst).Perm (topPlacemarks root) ∧ recordsOf entries = records ∧
      (rejectionsOf entries).Perm rejections ∧
      (∀ placemark record, (placemark, Sum.inl record) ∈ entries →
        (∃ inherited, placemarkRecord runtime inherited placemark = some record) ∧
          ¬ containsPlacemark placemark) ∧
      ∀ placemark id, (placemark, Sum.inr id) ∈ entries → id = placemarkDigest placemark

/-! ### The parse -/

omit [DecidableEq ι] in
theorem externallyMisplaced_eq (root : Element) :
    externallyMisplacedPlacemarkRejections placemarkDigest root =
      (misplaced ⟨true, false⟩ root).map placemarkDigest := by
  unfold externallyMisplacedPlacemarkRejections misplaced
  rw [Rose.traverse_eq_collect]
  generalize (⟨true, false⟩ : Reach) = reach
  induction root using Rose.induction_on generalizing reach with
  | h data children ih =>
    rw [Rose.collect_node, Rose.collect_node, List.map_append, List.map_flatMap]
    congr 1
    apply List.flatMap_congr
    intro child hchild
    exact ih child hchild _

omit [DecidableEq ι] in
theorem accountsFor_of_parse
    (h : parseKmlWithRejections runtime placemarkDigest root = .ok (records, rejections)) :
    AccountsFor runtime placemarkDigest root records rejections := by
  unfold parseKmlWithRejections at h
  split_ifs at h
  dsimp only at h
  split_ifs at h
  rw [walkKml_eq, externallyMisplaced_eq] at h
  obtain ⟨hrecords, hrejections⟩ := Prod.mk.inj (Except.ok.inj h)
  have hleft : recordsOf ((misplaced ⟨true, false⟩ root).map fun placemark =>
      (placemark, (Sum.inr (placemarkDigest placemark) : Record ⊕ ι))) = [] := by
    unfold recordsOf
    rw [List.filterMap_map, List.filterMap_eq_nil_iff]
    exact fun _ _ => rfl
  have hright : rejectionsOf ((misplaced ⟨true, false⟩ root).map fun placemark =>
      (placemark, (Sum.inr (placemarkDigest placemark) : Record ⊕ ι))) =
        (misplaced ⟨true, false⟩ root).map placemarkDigest := by
    unfold rejectionsOf
    rw [List.filterMap_map, ← List.filterMap_eq_map]
    rfl
  refine ⟨(walked runtime (some ⟨none, none⟩) root).map (walkedEntry runtime placemarkDigest) ++
    (misplaced ⟨true, false⟩ root).map fun placemark =>
      (placemark, Sum.inr (placemarkDigest placemark)), ?_, ?_, ?_, ?_, ?_⟩
  · have hperm := @topPlacemarksBelow_perm runtime root (some ⟨none, none⟩) ⟨true, false⟩ rfl
      (fun _ => rfl)
    have hself : misplacedSelf ⟨true, false⟩ root = [] := by simp [misplacedSelf]
    rw [hself, List.nil_append] at hperm
    rw [List.map_append, List.map_map, List.map_map]
    have hfst : ∀ place : Inherited × Element,
        (walkedEntry runtime placemarkDigest place).1 = place.2 := by
      intro place
      unfold walkedEntry
      split <;> rfl
    have hmap : (walked runtime (some ⟨none, none⟩) root).map
        (Prod.fst ∘ walkedEntry runtime placemarkDigest) =
          (walked runtime (some ⟨none, none⟩) root).map Prod.snd :=
      List.map_congr_left fun place _ => hfst place
    rw [hmap]
    unfold topPlacemarks
    simpa [Function.comp_def] using hperm.symm
  · rw [recordsOf, List.filterMap_append]
    have hnil := hleft
    unfold recordsOf at hnil
    rw [hnil, List.append_nil]
    exact hrecords
  · have happend : ∀ first second : List (Element × (Record ⊕ ι)),
        rejectionsOf (first ++ second) = rejectionsOf first ++ rejectionsOf second :=
      fun _ _ => List.filterMap_append
    rw [happend, hright, ← hrejections]
    exact List.perm_append_comm
  · intro placemark record hentry
    rcases List.mem_append.mp hentry with hentry | hentry
    · obtain ⟨⟨inherited, element⟩, -, heq⟩ := List.mem_map.mp hentry
      unfold walkedEntry at heq
      cases hrecord : placemarkRecord runtime inherited element with
      | none =>
        simp only [hrecord] at heq
        cases heq
      | some found =>
        simp only [hrecord] at heq
        cases heq
        refine ⟨⟨inherited, hrecord⟩, ?_⟩
        intro hcontains
        rw [placemarkRecord_of_contains hcontains] at hrecord
        cases hrecord
    · obtain ⟨element, -, heq⟩ := List.mem_map.mp hentry
      cases heq
  · intro placemark id hentry
    rcases List.mem_append.mp hentry with hentry | hentry
    · obtain ⟨⟨inherited, element⟩, -, heq⟩ := List.mem_map.mp hentry
      unfold walkedEntry at heq
      cases hrecord : placemarkRecord runtime inherited element with
      | none =>
        simp only [hrecord] at heq
        cases heq
        rfl
      | some found =>
        simp only [hrecord] at heq
        cases heq
    · obtain ⟨element, -, heq⟩ := List.mem_map.mp hentry
      cases heq
      rfl

/-! ### The rows -/

theorem rowsOf_spec (records : List Record) : ∀ seen : List ι,
    ((rowsOf recordDigest seen records).map RawSourceItem.sourceId).Nodup ∧
      ∀ id, id ∈ (rowsOf recordDigest seen records).map RawSourceItem.sourceId ↔
        id ∉ seen ∧ id ∈ records.map fun record => recordDigest record.identity := by
  induction records with
  | nil => exact fun seen => ⟨List.nodup_nil, fun id => by simp [rowsOf]⟩
  | cons record rest ih =>
    intro seen
    unfold rowsOf
    split_ifs with hseen
    · obtain ⟨hnodup, hmem⟩ := ih seen
      refine ⟨hnodup, fun id => ?_⟩
      rw [hmem id, List.map_cons, List.mem_cons]
      constructor
      · exact fun h => ⟨h.1, Or.inr h.2⟩
      · rintro ⟨hnew, rfl | hrest⟩
        · exact absurd hseen hnew
        · exact ⟨hnew, hrest⟩
    · obtain ⟨hnodup, hmem⟩ := ih (recordDigest record.identity :: seen)
      refine ⟨?_, fun id => ?_⟩
      · rw [List.map_cons, List.nodup_cons, hmem]
        exact ⟨fun h => h.1 List.mem_cons_self, hnodup⟩
      · rw [List.map_cons, List.mem_cons, hmem id, List.map_cons, List.mem_cons, List.mem_cons,
          not_or]
        constructor
        · rintro (rfl | ⟨⟨hne, hnew⟩, hrest⟩)
          · exact ⟨hseen, Or.inl rfl⟩
          · exact ⟨hnew, Or.inr hrest⟩
        · rintro ⟨hnew, rfl | hrest⟩
          · exact Or.inl rfl
          · by_cases heq : id = recordDigest record.identity
            · exact Or.inl heq
            · exact Or.inr ⟨⟨heq, hnew⟩, hrest⟩

/-- As many rows as distinct identities. -/
theorem rowsOf_length (hdigest : Function.Injective recordDigest) (records : List Record) :
    (rowsOf recordDigest [] records).length = (records.map Record.identity).dedup.length := by
  obtain ⟨hnodup, hmem⟩ := @rowsOf_spec ι _ recordDigest records []
  have hother : ((records.map Record.identity).dedup.map recordDigest).Nodup :=
    (List.nodup_dedup _).map hdigest
  have hperm : ((rowsOf recordDigest [] records).map RawSourceItem.sourceId).Perm
      ((records.map Record.identity).dedup.map recordDigest) := by
    rw [List.perm_ext_iff_of_nodup hnodup hother]
    intro id
    rw [hmem id]
    simp
  have hlength := hperm.length_eq
  rwa [List.length_map, List.length_map] at hlength

omit [DecidableEq ι] in
/-- The loop reports each row once. -/
theorem runRows_spec (rows : List (RawSourceItem ι)) :
    ∀ (normalized : List (NormalizedEvidence ι)) (rejected : List ι),
      ∃ evidence refused, (runRows normalized rejected rows).1 = normalized ++ evidence ∧
        (runRows normalized rejected rows).2 = rejected ++ refused ∧
        (evidence.map NormalizedEvidence.sourceId ++ refused).Perm
          (rows.map RawSourceItem.sourceId) := by
  induction rows with
  | nil => exact fun normalized rejected => ⟨[], [], by simp [runRows], by simp [runRows], .nil⟩
  | cons raw rest ih =>
    intro normalized rejected
    unfold runRows
    cases hraw : normalize raw with
    | none =>
      obtain ⟨evidence, refused, hfirst, hsecond, hperm⟩ := ih normalized (rejected ++ [raw.sourceId])
      refine ⟨evidence, raw.sourceId :: refused, hfirst, ?_, ?_⟩
      · dsimp only
        rw [hsecond, List.append_assoc, List.singleton_append]
      · exact List.perm_middle.trans (hperm.cons _)
    | some found =>
      obtain ⟨evidence, refused, hfirst, hsecond, hperm⟩ := ih (normalized ++ [found]) rejected
      have hid : found.sourceId = raw.sourceId := by
        unfold normalize at hraw
        split at hraw
        · cases hraw
          rfl
        · cases hraw
      refine ⟨found :: evidence, refused, ?_, hsecond, ?_⟩
      · dsimp only
        rw [hfirst, List.append_assoc, List.singleton_append]
      · rw [List.map_cons, List.map_cons, List.cons_append, hid]
        exact hperm.cons _

/-- What a run reports of a tree. -/
structure ReportsOnce (recordDigest : RecordIdentity → ι) (root : Element) (records : List Record)
    (rejections : List ι) (result : AdapterRunResult ι) : Prop where
  reported : ∃ refused, result.rejected = rejections ++ refused ∧
    (∀ identity ∈ records.map Record.identity,
      (result.normalized.map NormalizedEvidence.sourceId ++ refused).count
        (recordDigest identity) = 1) ∧
    ∀ id ∈ result.normalized.map NormalizedEvidence.sourceId ++ refused,
      ∃ identity ∈ records.map Record.identity, recordDigest identity = id
  counted : (topPlacemarks root).length =
    result.normalized.length + result.rejected.length +
      (records.length - (records.map Record.identity).dedup.length)

omit [DecidableEq ι] in
theorem entries_length (entries : List (Element × (Record ⊕ ι))) :
    (recordsOf entries).length + (rejectionsOf entries).length = entries.length := by
  induction entries with
  | nil => rfl
  | cons entry entries ih =>
    obtain ⟨element, found⟩ := entry
    cases found with
    | inl record =>
      have hrecords : recordsOf ((element, Sum.inl record) :: entries) =
          record :: recordsOf entries := rfl
      have hrejections : rejectionsOf ((element, (Sum.inl record : Record ⊕ ι)) :: entries) =
          rejectionsOf entries := rfl
      rw [hrecords, hrejections, List.length_cons, List.length_cons]
      omega
    | inr id =>
      have hrecords : recordsOf ((element, Sum.inr id) :: entries) = recordsOf entries := rfl
      have hrejections : rejectionsOf ((element, (Sum.inr id : Record ⊕ ι)) :: entries) =
          id :: rejectionsOf entries := rfl
      rw [hrecords, hrejections, List.length_cons, List.length_cons]
      omega

theorem placemarks_accounted_for (hdigest : Function.Injective recordDigest)
    (h : parseKmlWithRejections runtime placemarkDigest root = .ok (records, rejections)) :
    AccountsFor runtime placemarkDigest root records rejections ∧
      ∃ result, run runtime recordDigest placemarkDigest root = .ok result ∧
        ReportsOnce recordDigest root records rejections result := by
  have haccounts := accountsFor_of_parse h
  obtain ⟨evidence, refused, hevidence, hrefused, hperm⟩ :=
    runRows_spec (rowsOf recordDigest [] records) [] rejections
  obtain ⟨hnodup, hmem⟩ := @rowsOf_spec ι _ recordDigest records []
  rw [List.nil_append] at hevidence
  refine ⟨haccounts, ⟨rowsOf recordDigest [] records,
    (runRows [] rejections (rowsOf recordDigest [] records)).1,
    (runRows [] rejections (rowsOf recordDigest [] records)).2⟩, ?_, ⟨refused, hrefused, ?_, ?_⟩, ?_⟩
  · simp only [run, fetchWithRejections, h]
  · intro identity hidentity
    dsimp only
    rw [hevidence, hperm.count_eq]
    apply List.count_eq_one_of_mem hnodup
    rw [hmem]
    obtain ⟨record, hrecord, rfl⟩ := List.mem_map.mp hidentity
    exact ⟨List.not_mem_nil, List.mem_map.mpr ⟨record, hrecord, rfl⟩⟩
  · intro id hid
    dsimp only at hid
    rw [hevidence, hperm.mem_iff, hmem] at hid
    obtain ⟨record, hrecord, rfl⟩ := List.mem_map.mp hid.2
    exact ⟨record.identity, List.mem_map.mpr ⟨record, hrecord, rfl⟩, rfl⟩
  · obtain ⟨entries, hplacemarks, hrecords, hrejections, -, -⟩ := haccounts.entries
    have hentries := entries_length entries
    have htop := hplacemarks.length_eq
    have hrows := hperm.length_eq
    have hdistinct := rowsOf_length hdigest records
    have hfewer : (records.map Record.identity).dedup.length ≤ records.length := by
      rw [← @List.length_map _ _ records Record.identity]
      exact (List.dedup_sublist _).length_le
    rw [hrecords, hrejections.length_eq] at hentries
    rw [List.length_map] at htop
    rw [List.length_append, List.length_map, List.length_map] at hrows
    dsimp only
    rw [hevidence, hrefused, List.length_append]
    omega

/-! ### A tree with a record, its copy, and three refused Placemarks -/

def kmlElement (name : String) (id : Option String) (text : Option String)
    (children : List Element) : Element :=
  .node ⟨kmlTag name, id.toList.map fun value => ("id", value), text⟩ children

def pointPlacemark (id : String) : Element :=
  kmlElement "Placemark" (some id) none
    [kmlElement "Point" none none [kmlElement "coordinates" none (some "121,23") []]]

def mixedKml : Element :=
  kmlElement "kml" none none
    [kmlElement "Document" none none
        [pointPlacemark "a", pointPlacemark "a", kmlElement "Placemark" (some "b") none [],
          kmlElement "Placemark" (some "c") none [pointPlacemark "d"]],
      kmlElement "Region" none none [pointPlacemark "e"]]

def witnessRuntime : Runtime where
  searchTimestamp := fun _ => none
  lower := id
  parseFloat := fun text =>
    if text = "121" then some 121 else if text = "23" then some 23 else none

def witnessRecord : Record where
  placemarkId := "a"
  placemarkName := "historical flood area"
  eventName := "historical flood area"
  geometry := .point (121, 23)
  locationPrecision := "point"
  sourceTimestamp := none

def witnessDigest (placemark : Element) : RecordIdentity ⊕ Option String :=
  .inr (placemark.label.attrib.lookup "id")

theorem mixedKml_parse :
    parseKmlWithRejections witnessRuntime witnessDigest mixedKml =
      .ok ([witnessRecord, witnessRecord], [.inr (some "e"), .inr (some "b"), .inr (some "c")]) := by
  decide +kernel

theorem placemarks_accounted_for_mixed :
    AccountsFor witnessRuntime witnessDigest mixedKml [witnessRecord, witnessRecord]
        [.inr (some "e"), .inr (some "b"), .inr (some "c")] ∧
      ∃ result, run witnessRuntime Sum.inl witnessDigest mixedKml = .ok result ∧
        ReportsOnce Sum.inl mixedKml [witnessRecord, witnessRecord]
          [.inr (some "e"), .inr (some "b"), .inr (some "c")] result :=
  placemarks_accounted_for Sum.inl_injective mixedKml_parse

end FloodRisk.WraHistorical
