import FloodRisk.WraWarning.WalkRuns

/-!
# Documents that hide each other

A document that is reached through a link first is refused where it has links itself, also when it
is selected; a Placemark outside the containers is not seen at all.
-/

namespace FloodRisk.WraWarning
open Python Adapters WraHistorical

variable {runtime : WarningRuntime} {fetch : Fetch} {payload : Value} {document : Document}
  {visit : Visit} {selected seen : List Document}

/-- A selected document and all its links could be read. -/
def FullyRead (runtime : WarningRuntime) (fetch : Fetch) (document : Document) : Prop :=
  ∃ links records, readVisit runtime fetch ⟨document, none⟩ = .ok (some (links, records)) ∧
    ∀ link ∈ links, link ≠ document →
      ∃ read, readVisit runtime fetch ⟨link, some document⟩ = .ok (some read)

/-- The ids that are fetched of a document alone, where its links are not followed. -/
def fetchedAlone (runtime : WarningRuntime) (fetch : Fetch) (document : Document) : List Text :=
  match readVisit runtime fetch ⟨document, none⟩ with
  | .ok (some (_, records)) =>
      match collectRecords document none records ⟨[], [], [], [], [], 0⟩ with
      | .ok state => state.fetched.map WarningItem.sourceId
      | .error _ => []
  | _ => []

/-- The document was read and parsed, and has no Placemark anywhere. -/
def HasNoPlacemark (runtime : WarningRuntime) (fetch : Fetch) (document : Document) : Prop :=
  ∃ t root, fetch document = some t ∧ parseKmlDocument runtime t = .ok (some root) ∧
    ∀ element ∈ root.nodes, tagOf element ≠ kmlPlacemark

structure HidesNothing (runtime : WarningRuntime) (fetch : Fetch) (payload : Value) : Prop where
  raises : ∀ e, run runtime fetch payload = .error e →
    ∀ document ∈ selectedDocuments runtime payload, ¬ FullyRead runtime fetch document
  fetches : ∀ result, run runtime fetch payload = .ok result →
    ∀ document ∈ selectedDocuments runtime payload, ∀ id ∈ fetchedAlone runtime fetch document,
      id ∈ result.fetched.map WarningItem.sourceId
  allClear : ∀ result, run runtime fetch payload = .ok result → result.noActiveEvent = true →
    ∀ document ∈ selectedDocuments runtime payload, HasNoPlacemark runtime fetch document

/-- The visit reads a document without a Placemark that the walk reaches. -/
def VisitSilent (runtime : WarningRuntime) (fetch : Fetch) (visit : Visit) : Prop :=
  ∃ links, readVisit runtime fetch visit = .ok (some (links, []))

/-- What keeps the documents from hiding each other. -/
structure Undisturbed (runtime : WarningRuntime) (fetch : Fetch) (payload : Value) : Prop where
  quiet : (∃ document ∈ selectedDocuments runtime payload, FullyRead runtime fetch document) →
    ∀ visit ∈ visitsOf runtime fetch payload, ¬ VisitRaises runtime fetch visit
  direct : (∀ visit ∈ visitsOf runtime fetch payload, ¬ VisitRaises runtime fetch visit) →
    ∀ visit ∈ visitsOf runtime fetch payload, visit.source ≠ none →
      visit.document ∈ selectedDocuments runtime payload →
        linksOf runtime fetch visit.document = [] ∨ fetchedAlone runtime fetch visit.document = []
  placed : (∀ visit ∈ visitsOf runtime fetch payload, VisitSilent runtime fetch visit) →
    ∀ document ∈ selectedDocuments runtime payload, HasNoPlacemark runtime fetch document

/-! ### The end of a run -/

theorem run_collects {result : RunResult} (h : run runtime fetch payload = .ok result) :
    selectedDocuments runtime payload ≠ [] ∧
      (∀ visit ∈ visitsOf runtime fetch payload, ¬ VisitRaises runtime fetch visit) ∧
      RunCollects runtime fetch payload result := by
  unfold run at h
  dsimp only at h
  by_cases hselected : selectedDocuments runtime payload = []
  · rw [if_pos hselected] at h
    cases h
  rw [if_neg hselected] at h
  obtain ⟨walked, hwalked, h⟩ := Outcome.bind_eq_ok.mp h
  obtain ⟨count, state⟩ := walked
  obtain ⟨hinv, hadded, -, hquiet⟩ := selected_spec walkInv_start (mapError_eq_ok.mp hwalked)
  dsimp only at h
  split_ifs at h with hfailed
  obtain ⟨_, -, h⟩ := Outcome.bind_eq_ok.mp h
  cases h
  refine ⟨hselected, hquiet, ?_⟩
  constructor
  · exact hadded.fetched
  · exact hadded.rejected
  · dsimp only
    rw [Bool.and_eq_true, Bool.and_eq_true, List.isEmpty_iff, List.isEmpty_iff, decide_eq_true_eq,
      hadded.failures, and_assoc]
    show _ ∧ _ ∧ 0 + _ = 0 ↔ _
    rw [Nat.zero_add]
    rfl

theorem run_returns (hselected : selectedDocuments runtime payload ≠ [])
    (hquiet : ∀ visit ∈ visitsOf runtime fetch payload, ¬ VisitRaises runtime fetch visit)
    (hread : ¬ allFail runtime fetch payload) : Outcome.Returns (run runtime fetch payload) := by
  obtain ⟨walked, hwalked⟩ := @returns_selected runtime fetch _
    (selectedDocuments runtime payload) 0 walkInv_start hquiet
  obtain ⟨count, state⟩ := walked
  obtain ⟨hinv, -, hcount, -⟩ := selected_spec walkInv_start hwalked
  unfold run
  dsimp only
  rw [if_neg hselected, Outcome.returns_bind]
  refine ⟨(count, state), mapError_eq_ok.mpr hwalked, ?_⟩
  dsimp only
  rw [if_neg]
  · obtain ⟨_, hchecked⟩ := returns_checkRejections.mpr (accepts_rejections hinv
      (List.mergeSort_perm state.candidates fun a b => textLe a.sourceId b.sourceId)
      (List.take_sublist maxAuditedRejections _) (List.length_take_le _ _))
    rw [Outcome.returns_bind]
    exact ⟨_, mapError_eq_ok.mpr hchecked, Outcome.returns_ok _⟩
  · rintro ⟨-, hall⟩
    apply hread
    rw [← failedGroups_eq_length, ← hall, hcount]
    exact (Nat.zero_add _).symm

theorem not_returns_run (h : ∃ visit ∈ visitsOf runtime fetch payload,
    VisitRaises runtime fetch visit) : ∃ e, run runtime fetch payload = .error e := by
  cases hrun : run runtime fetch payload with
  | error e => exact ⟨e, rfl⟩
  | ok result =>
    obtain ⟨visit, hvisit, hraises⟩ := h
    exact absurd hraises ((run_collects hrun).2.1 visit hvisit)

/-! ### The visits -/

theorem mem_linkVisits {origin : Document} {links : List Document}
    (h : visit ∈ linkVisits origin seen links) :
    visit.source = some origin ∧ visit.document ∈ links ∧ visit.document ∉ seen := by
  induction links generalizing seen with
  | nil => exact absurd h List.not_mem_nil
  | cons link rest ih =>
    rw [linkVisits] at h
    split_ifs at h with hseen
    · obtain ⟨hsource, hmem, hnew⟩ := ih h
      exact ⟨hsource, List.mem_cons_of_mem link hmem, hnew⟩
    · cases List.mem_cons.mp h with
      | inl heq =>
        rw [heq]
        exact ⟨rfl, List.mem_cons_self, hseen⟩
      | inr hrest =>
        obtain ⟨hsource, hmem, hnew⟩ := ih hrest
        exact ⟨hsource, List.mem_cons_of_mem link hmem,
          fun hold => hnew (List.mem_cons_of_mem link hold)⟩

theorem nodup_linkVisits {origin : Document} (links : List Document) :
    ((linkVisits origin seen links).map Visit.document).Nodup := by
  induction links generalizing seen with
  | nil => exact List.nodup_nil
  | cons link rest ih =>
    rw [linkVisits]
    split_ifs
    · exact ih
    · rw [List.map_cons, List.nodup_cons]
      refine ⟨?_, ih⟩
      intro hmem
      obtain ⟨visit, hvisit, heq⟩ := List.mem_map.mp hmem
      apply (mem_linkVisits hvisit).2.2
      rw [heq]
      exact List.mem_cons_self

theorem mem_visitGroup (h : visit ∈ visitGroup runtime fetch seen document) :
    visit.document ∉ seen ∧ (visit = ⟨document, none⟩ ∨
      (visit.source = some document ∧ visit.document ∈ linksOf runtime fetch document ∧
        visit.document ≠ document)) := by
  unfold visitGroup at h
  split_ifs at h with hseen
  · exact absurd h List.not_mem_nil
  · cases List.mem_cons.mp h with
    | inl heq =>
      rw [heq]
      exact ⟨hseen, Or.inl rfl⟩
    | inr hlink =>
      obtain ⟨hsource, hmem, hnew⟩ := mem_linkVisits hlink
      refine ⟨fun hold => hnew (List.mem_cons_of_mem document hold), Or.inr ⟨hsource, hmem, ?_⟩⟩
      intro heq
      rw [heq] at hnew
      exact hnew List.mem_cons_self

theorem nodup_visitGroup : ((visitGroup runtime fetch seen document).map Visit.document).Nodup := by
  unfold visitGroup
  split_ifs
  · exact List.nodup_nil
  · rw [List.map_cons, List.nodup_cons]
    refine ⟨?_, nodup_linkVisits _⟩
    intro hmem
    obtain ⟨visit, hvisit, heq⟩ := List.mem_map.mp hmem
    apply (mem_linkVisits hvisit).2.2
    rw [heq]
    exact List.mem_cons_self

theorem mem_seenAfter {visits : List Visit} :
    document ∈ seenAfter seen visits ↔ (∃ visit ∈ visits, visit.document = document) ∨
      document ∈ seen := by
  unfold seenAfter
  rw [List.mem_append, List.mem_reverse, List.mem_map]

theorem visits_new : ∀ visit ∈ (visitGroups runtime fetch seen selected).flatten,
    visit.document ∉ seen := by
  induction selected generalizing seen with
  | nil =>
    intro visit hvisit
    exact absurd hvisit List.not_mem_nil
  | cons document rest ih =>
    intro visit hvisit
    rw [visitGroups, List.flatten_cons] at hvisit
    cases List.mem_append.mp hvisit with
    | inl hfirst => exact (mem_visitGroup hfirst).1
    | inr hlater => exact fun hold => ih visit hlater (mem_seenAfter.mpr (Or.inr hold))

/-- A document is visited once. -/
theorem visits_nodup :
    ((visitGroups runtime fetch seen selected).flatten.map Visit.document).Nodup := by
  induction selected generalizing seen with
  | nil => exact List.nodup_nil
  | cons document rest ih =>
    rw [visitGroups, List.flatten_cons, List.map_append, List.nodup_append]
    refine ⟨nodup_visitGroup, ih, ?_⟩
    intro other hother later hlater heq
    obtain ⟨visit, hvisit, rfl⟩ := List.mem_map.mp hlater
    apply visits_new visit hvisit
    obtain ⟨first, hfirst, hdocument⟩ := List.mem_map.mp hother
    exact mem_seenAfter.mpr (Or.inl ⟨first, hfirst, hdocument.trans heq⟩)

theorem visit_unique {other : Visit} (h : visit ∈ visitsOf runtime fetch payload)
    (h' : other ∈ visitsOf runtime fetch payload) (heq : visit.document = other.document) :
    visit = other :=
  List.inj_on_of_nodup_map visits_nodup h h' heq

/-- The group of a selected document. -/
theorem exists_group (h : document ∈ selected) :
    ∃ before, visitGroup runtime fetch before document ∈ visitGroups runtime fetch seen selected ∧
      ∀ other ∈ before, other ∈ seen ∨
        ∃ visit ∈ (visitGroups runtime fetch seen selected).flatten, visit.document = other := by
  induction selected generalizing seen with
  | nil => exact absurd h List.not_mem_nil
  | cons first rest ih =>
    rw [visitGroups, List.flatten_cons]
    by_cases heq : document = first
    · rw [heq]
      exact ⟨seen, List.mem_cons_self, fun other hother => Or.inl hother⟩
    · have hrest : document ∈ rest := (List.mem_cons.mp h).resolve_left heq
      obtain ⟨before, hgroup, hbefore⟩ :=
        @ih (seenAfter seen (visitGroup runtime fetch seen first)) hrest
      refine ⟨before, List.mem_cons_of_mem _ hgroup, ?_⟩
      intro other hother
      rcases hbefore other hother with hold | ⟨visit, hvisit, hdocument⟩
      · rcases mem_seenAfter.mp hold with ⟨visit, hvisit, hdocument⟩ | hseen
        · exact Or.inr ⟨visit, List.mem_append_left _ hvisit, hdocument⟩
        · exact Or.inl hseen
      · exact Or.inr ⟨visit, List.mem_append_right _ hvisit, hdocument⟩

theorem exists_visit (h : document ∈ selectedDocuments runtime payload) :
    ∃ visit ∈ visitsOf runtime fetch payload, visit.document = document := by
  obtain ⟨before, hgroup, hbefore⟩ := @exists_group runtime fetch document _ [] h
  by_cases hseen : document ∈ before
  · exact (hbefore document hseen).resolve_left List.not_mem_nil
  · have hfirst : (⟨document, none⟩ : Visit) ∈ visitGroup runtime fetch before document := by
      unfold visitGroup
      rw [if_neg hseen]
      exact List.mem_cons_self
    exact ⟨_, List.mem_flatten.mpr ⟨_, hgroup, hfirst⟩, rfl⟩

end FloodRisk.WraWarning
