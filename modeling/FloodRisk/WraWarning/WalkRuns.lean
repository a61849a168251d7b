import FloodRisk.WraWarning.Visits

/-!
# What a walk collects

The lists after a walk, from its visits, and when the walk returns.
-/

namespace FloodRisk.WraWarning
open Python Adapters WraHistorical

variable {runtime : WarningRuntime} {fetch : Fetch} {document : Document}
  {source : Option Document} {visit : Visit} {visits : List Visit} {state state' : WalkState}
  {records : List PlacemarkRecord} {seen selected : List Document}

/-- The ids that were seen are those of the two lists, belong to documents that were seen, and
every rejection has its candidate. -/
structure WalkInv (state : WalkState) : Prop where
  owned : ∀ id ∈ state.seenIds, ∃ document ∈ state.seenDocuments, Owned document id
  listed : state.seenIds.Perm (state.fetched.map WarningItem.sourceId ++ state.rejected)
  nodup : state.seenIds.Nodup
  candidates : state.candidates.map SourceRejection.sourceId = state.rejected

/-- What visits add to the lists. -/
structure Added (runtime : WarningRuntime) (fetch : Fetch) (visits : List Visit)
    (state state' : WalkState) : Prop where
  seenDocuments : state'.seenDocuments = seenAfter state.seenDocuments visits
  fetched : state'.fetched.map WarningItem.sourceId =
    state.fetched.map WarningItem.sourceId ++ visits.flatMap (visitFetched runtime fetch)
  rejected : state'.rejected = state.rejected ++ visits.flatMap (visitRejected runtime fetch)
  failures : state'.failures = state.failures + (visits.map (visitFailures runtime fetch)).sum

theorem Added.refl (state : WalkState) : Added runtime fetch [] state state :=
  ⟨rfl, (List.append_nil _).symm, (List.append_nil _).symm, rfl⟩

theorem Added.append {others : List Visit} {last : WalkState}
    (h : Added runtime fetch visits state state') (h' : Added runtime fetch others state' last) :
    Added runtime fetch (visits ++ others) state last := by
  constructor
  · rw [h'.seenDocuments, h.seenDocuments]
    unfold seenAfter
    rw [List.map_append, List.reverse_append, List.append_assoc]
  · rw [h'.fetched, h.fetched, List.flatMap_append, List.append_assoc]
  · rw [h'.rejected, h.rejected, List.flatMap_append, List.append_assoc]
  · rw [h'.failures, h.failures, List.map_append, List.sum_append]
    omega

/-! ### One visit -/

theorem not_seen_of_owned {id : Text} (hinv : WalkInv state) (hnew : document ∉ state.seenDocuments)
    (h : Owned document id) : id ∉ state.seenIds := by
  intro hid
  obtain ⟨other, hother, howned⟩ := hinv.owned id hid
  rw [owner_unique h howned] at hnew
  exact hnew hother

theorem sourceRejection_failureId (document : Document) :
    sourceRejection (failureId document) "wra_flood_warning_child_read_failed" =
      .ok ⟨failureId document, "wra_flood_warning_child_read_failed"⟩ := by
  cases document <;> decide +kernel

/-- The ids of the fresh records are those of the two kinds. -/
theorem perm_ids (fresh : List PlacemarkRecord) (ids fetched rejected : List Text)
    (h : ids.Perm (fetched ++ rejected)) :
    (ids ++ fresh.map PlacemarkRecord.sourceId).Perm
      (fetched ++ acceptedIds fresh ++ (rejected ++ rejectedIds fresh)) := by
  have hkinds : (fresh.map PlacemarkRecord.sourceId).Perm (acceptedIds fresh ++ rejectedIds fresh) := by
    unfold acceptedIds rejectedIds
    rw [← List.map_append]
    exact (List.filter_append_perm PlacemarkRecord.isAccepted fresh).symm.map _
  have hmiddle : (rejected ++ (acceptedIds fresh ++ rejectedIds fresh)).Perm
      (acceptedIds fresh ++ (rejected ++ rejectedIds fresh)) := by
    rw [← List.append_assoc, ← List.append_assoc]
    exact List.perm_append_comm.append_right _
  calc (ids ++ fresh.map PlacemarkRecord.sourceId).Perm
        (fetched ++ rejected ++ (acceptedIds fresh ++ rejectedIds fresh)) := h.append hkinds
    _ = fetched ++ (rejected ++ (acceptedIds fresh ++ rejectedIds fresh)) := List.append_assoc ..
    List.Perm _ (fetched ++ (acceptedIds fresh ++ (rejected ++ rejectedIds fresh))) :=
      hmiddle.append_left fetched
    _ = fetched ++ acceptedIds fresh ++ (rejected ++ rejectedIds fresh) :=
      (List.append_assoc ..).symm

theorem WalkInv.collected {fresh : List PlacemarkRecord} (hinv : WalkInv state)
    (hseen : document ∈ state.seenDocuments)
    (howned : ∀ record ∈ fresh, ownerOf record.sourceId = text document.filename)
    (hnew : ∀ record ∈ fresh, record.sourceId ∉ state.seenIds)
    (hnodup : (fresh.map PlacemarkRecord.sourceId).Nodup) (h : Collected fresh state state') :
    WalkInv state' := by
  constructor
  · intro id hid
    rw [h.seenIds, List.mem_append] at hid
    rw [h.seenDocuments]
    rcases hid with hid | hid
    · exact hinv.owned id hid
    · obtain ⟨record, hrecord, rfl⟩ := List.mem_map.mp hid
      exact ⟨document, hseen, Or.inr (howned record hrecord)⟩
  · rw [h.seenIds, h.fetched, h.rejected]
    exact perm_ids fresh _ _ _ hinv.listed
  · rw [h.seenIds, List.nodup_append]
    refine ⟨hinv.nodup, hnodup, ?_⟩
    intro id hid other hother heq
    obtain ⟨record, hrecord, rfl⟩ := List.mem_map.mp hother
    exact hnew record hrecord (heq ▸ hid)
  · rw [h.candidates, h.rejected, hinv.candidates]

theorem WalkInv.failed (hinv : WalkInv state) (hseen : document ∈ state.seenDocuments)
    (hnew : failureId document ∉ state.seenIds) (rejection : SourceRejection)
    (hrejection : rejection.sourceId = failureId document) (failures : ℕ) :
    WalkInv ⟨state.seenDocuments, state.seenIds ++ [failureId document], state.fetched,
      state.rejected ++ [failureId document], state.candidates ++ [rejection], failures⟩ := by
  constructor
  · intro id hid
    rcases List.mem_append.mp hid with hid | hid
    · exact hinv.owned id hid
    · rw [List.mem_singleton.mp hid]
      exact ⟨document, hseen, Or.inl rfl⟩
  · rw [← List.append_assoc]
    exact hinv.listed.append_right _
  · rw [List.nodup_append]
    refine ⟨hinv.nodup, List.pairwise_singleton _ _, ?_⟩
    intro id hid other hother heq
    rw [List.mem_singleton.mp hother] at heq
    exact hnew (heq ▸ hid)
  · rw [List.map_append, List.map_singleton, hinv.candidates, hrejection]

/-- The state in which a document counts as seen. -/
theorem WalkInv.see (hinv : WalkInv state) (document : Document) :
    WalkInv { state with seenDocuments := document :: state.seenDocuments } := by
  refine ⟨?_, hinv.listed, hinv.nodup, hinv.candidates⟩
  intro id hid
  obtain ⟨other, hother, howned⟩ := hinv.owned id hid
  exact ⟨other, List.mem_cons_of_mem document hother, howned⟩

theorem fresh_of_new (hinv : WalkInv state) (hnew : visit.document ∉ state.seenDocuments)
    {links : List Document} (hread : readVisit runtime fetch visit = .ok (some (links, records))) :
    freshRecords state.seenIds records = freshRecords [] records := by
  apply freshRecords_nil
  intro record hrecord
  exact not_seen_of_owned hinv hnew (Or.inr (owned_of_readVisit hread record hrecord))

/-- A visit of a new document adds what it yields by itself. -/
theorem visit_spec (hinv : WalkInv state) (hnew : visit.document ∉ state.seenDocuments)
    {result : WalkState × List Document}
    (h : visitDocument runtime fetch visit.source visit.document state = .ok result) :
    WalkInv result.1 ∧ Added runtime fetch [visit] state result.1 ∧
      ¬ VisitRaises runtime fetch visit ∧
      (visit.source = none → result.2 = linksOf runtime fetch visit.document) := by
  unfold visitDocument at h
  obtain ⟨read, hread, h⟩ := Outcome.bind_eq_ok.mp h
  have hvisit : readVisit runtime fetch visit = .ok read := hread
  have hseen := hinv.see visit.document
  have hlinks : ∀ links, (∀ others, read = some others → others.1 = links) →
      (read = none → links = []) → visit.source = none →
        links = linksOf runtime fetch visit.document := by
    intro links hsome hnone hsource
    have heta : (⟨visit.document, none⟩ : Visit) = visit := by
      rw [← hsource]
    unfold linksOf
    rw [heta, hvisit]
    cases read with
    | none => exact hnone rfl
    | some others => exact (hsome others rfl).symm
  cases read with
  | none =>
    dsimp only at h
    obtain ⟨failed, hfailed, h⟩ := Outcome.bind_eq_ok.mp h
    cases h
    have hid := not_seen_of_owned hinv hnew (Or.inl rfl)
    unfold recordFailure at hfailed
    rw [if_neg hid, sourceRejection_failureId] at hfailed
    cases hfailed
    refine ⟨hseen.failed List.mem_cons_self hid _ rfl _, ?_, ?_, ?_⟩
    · constructor
      · rfl
      · simp [visitFetched, hvisit]
      · simp [visitRejected, hvisit]
      · simp [visitFailures, hvisit]
    · unfold VisitRaises
      rw [hvisit]
      exact id
    · exact hlinks [] (fun _ hsome => nomatch hsome) fun _ => rfl
  | some found =>
    obtain ⟨links, records⟩ := found
    dsimp only at h
    obtain ⟨collected, hcollected, h⟩ := Outcome.bind_eq_ok.mp h
    cases h
    obtain ⟨hadded, hreturn⟩ := collected_of_ok hcollected
    have hfresh := fresh_of_new hinv hnew hvisit
    dsimp only at hadded hreturn
    rw [hfresh] at hadded hreturn
    have howned : ∀ record ∈ freshRecords [] records,
        ownerOf record.sourceId = text visit.document.filename :=
      fun record hrecord => owned_of_readVisit hvisit record ((freshRecords_sublist []).mem hrecord)
    have hids : ∀ record ∈ freshRecords [] records, record.sourceId ∉ state.seenIds :=
      fun record hrecord => not_seen_of_owned hinv hnew (Or.inr (howned record hrecord))
    refine ⟨?_, ?_, ?_, ?_⟩
    · exact hseen.collected List.mem_cons_self howned hids (freshRecords_nodup []) hadded
    · constructor
      · exact hadded.seenDocuments
      · rw [hadded.fetched]
        simp [visitFetched, hvisit]
      · rw [hadded.rejected]
        simp [visitRejected, hvisit]
      · rw [hadded.failures]
        simp [visitFailures, hvisit]
    · unfold VisitRaises
      rw [hvisit]
      exact not_not.mpr hreturn
    · exact hlinks links (fun _ hsome => by cases hsome; rfl) fun hnone => nomatch hnone

theorem returns_visit (hinv : WalkInv state) (hnew : visit.document ∉ state.seenDocuments)
    (h : ¬ VisitRaises runtime fetch visit) :
    Outcome.Returns (visitDocument runtime fetch visit.source visit.document state) := by
  unfold visitDocument
  rw [Outcome.returns_bind]
  have hsame : readDocument runtime fetch visit.source.isNone visit.document =
      readVisit runtime fetch visit := rfl
  rw [hsame]
  unfold VisitRaises at h
  cases hvisit : readVisit runtime fetch visit with
  | error e =>
    rw [hvisit] at h
    exact absurd trivial h
  | ok read =>
    rw [hvisit] at h
    refine ⟨read, rfl, ?_⟩
    cases read with
    | none =>
      dsimp only
      have hid := not_seen_of_owned hinv hnew (Or.inl rfl)
      rw [Outcome.returns_bind]
      unfold recordFailure
      rw [if_neg hid, sourceRejection_failureId]
      exact ⟨_, rfl, Outcome.returns_ok _⟩
    | some found =>
      obtain ⟨links, records⟩ := found
      dsimp only at h ⊢
      rw [not_not, ← fresh_of_new hinv hnew hvisit] at h
      obtain ⟨collected, hcollected⟩ := @returns_collectRecords visit.document visit.source
        { state with seenDocuments := visit.document :: state.seenDocuments } records h
      rw [Outcome.returns_bind]
      exact ⟨collected, hcollected, Outcome.returns_ok _⟩

/-! ### The loops -/

theorem links_spec {origin : Document} {links : List Document} (hinv : WalkInv state)
    (h : collectLinks runtime fetch origin links state = .ok state') :
    WalkInv state' ∧ Added runtime fetch (linkVisits origin state.seenDocuments links) state state' ∧
      ∀ visit ∈ linkVisits origin state.seenDocuments links, ¬ VisitRaises runtime fetch visit := by
  induction links generalizing state with
  | nil =>
    cases h
    exact ⟨hinv, Added.refl _, fun _ hvisit => absurd hvisit List.not_mem_nil⟩
  | cons link rest ih =>
    rw [collectLinks] at h
    rw [linkVisits]
    by_cases hseen : link ∈ state.seenDocuments
    · rw [if_pos hseen] at h ⊢
      exact ih hinv h
    · rw [if_neg hseen] at h ⊢
      obtain ⟨result, hresult, h⟩ := Outcome.bind_eq_ok.mp h
      obtain ⟨hnext, hadded, hquiet, -⟩ := @visit_spec runtime fetch ⟨link, some origin⟩ state hinv
        hseen result hresult
      have hafter : result.1.seenDocuments = link :: state.seenDocuments := hadded.seenDocuments
      obtain ⟨hlast, hrest, hothers⟩ := ih hnext h
      rw [hafter] at hrest hothers
      refine ⟨hlast, hadded.append hrest, ?_⟩
      rw [List.forall_mem_cons]
      exact ⟨hquiet, hothers⟩

theorem returns_links {origin : Document} {links : List Document} (hinv : WalkInv state)
    (h : ∀ visit ∈ linkVisits origin state.seenDocuments links, ¬ VisitRaises runtime fetch visit) :
    Outcome.Returns (collectLinks runtime fetch origin links state) := by
  induction links generalizing state with
  | nil => exact Outcome.returns_ok state
  | cons link rest ih =>
    rw [collectLinks]
    rw [linkVisits] at h
    by_cases hseen : link ∈ state.seenDocuments
    · rw [if_pos hseen] at h ⊢
      exact ih hinv h
    · rw [if_neg hseen] at h ⊢
      rw [List.forall_mem_cons] at h
      obtain ⟨result, hresult⟩ := @returns_visit runtime fetch ⟨link, some origin⟩ state hinv hseen h.1
      obtain ⟨hnext, hadded, -, -⟩ := @visit_spec runtime fetch ⟨link, some origin⟩ state hinv
        hseen result hresult
      have hafter : result.1.seenDocuments = link :: state.seenDocuments := hadded.seenDocuments
      rw [Outcome.returns_bind]
      exact ⟨result, hresult, ih hnext (hafter ▸ h.2)⟩

theorem document_spec (hinv : WalkInv state)
    (h : collectDocument runtime fetch document state = .ok state') :
    WalkInv state' ∧
      Added runtime fetch (visitGroup runtime fetch state.seenDocuments document) state state' ∧
      ∀ visit ∈ visitGroup runtime fetch state.seenDocuments document,
        ¬ VisitRaises runtime fetch visit := by
  unfold collectDocument at h
  unfold visitGroup
  by_cases hseen : document ∈ state.seenDocuments
  · rw [if_pos hseen] at h ⊢
    cases h
    exact ⟨hinv, Added.refl state, fun _ hvisit => absurd hvisit List.not_mem_nil⟩
  · rw [if_neg hseen] at h ⊢
    obtain ⟨result, hresult, h⟩ := Outcome.bind_eq_ok.mp h
    obtain ⟨hnext, hadded, hquiet, hlinks⟩ := @visit_spec runtime fetch ⟨document, none⟩ state hinv
      hseen result hresult
    have hafter : result.1.seenDocuments = document :: state.seenDocuments := hadded.seenDocuments
    obtain ⟨hlast, hrest, hothers⟩ := links_spec hnext h
    rw [hlinks rfl, hafter] at hrest hothers
    refine ⟨hlast, hadded.append hrest, ?_⟩
    rw [List.forall_mem_cons]
    exact ⟨hquiet, hothers⟩

theorem returns_document (hinv : WalkInv state)
    (h : ∀ visit ∈ visitGroup runtime fetch state.seenDocuments document,
      ¬ VisitRaises runtime fetch visit) :
    Outcome.Returns (collectDocument runtime fetch document state) := by
  unfold collectDocument
  unfold visitGroup at h
  by_cases hseen : document ∈ state.seenDocuments
  · rw [if_pos hseen]
    exact Outcome.returns_ok state
  · rw [if_neg hseen] at h ⊢
    rw [List.forall_mem_cons] at h
    obtain ⟨result, hresult⟩ := @returns_visit runtime fetch ⟨document, none⟩ state hinv hseen h.1
    obtain ⟨hnext, hadded, -, hlinks⟩ := @visit_spec runtime fetch ⟨document, none⟩ state hinv
      hseen result hresult
    have hafter : result.1.seenDocuments = document :: state.seenDocuments := hadded.seenDocuments
    rw [Outcome.returns_bind]
    refine ⟨result, hresult, returns_links hnext ?_⟩
    rw [hlinks rfl, hafter]
    exact h.2

/-- A selected document counts as failed where one of its visits fails. -/
def groupFails (runtime : WarningRuntime) (fetch : Fetch) (visits : List Visit) : Bool :=
  0 < (visits.map (visitFailures runtime fetch)).sum

def failedGroups (runtime : WarningRuntime) (fetch : Fetch) (groups : List (List Visit)) : ℕ :=
  groups.countP (groupFails runtime fetch)

theorem selected_spec {failed count : ℕ} (hinv : WalkInv state)
    (h : collectSelected runtime fetch selected failed state = .ok (count, state')) :
    WalkInv state' ∧
      Added runtime fetch (visitGroups runtime fetch state.seenDocuments selected).flatten state
        state' ∧
      count = failed +
        failedGroups runtime fetch (visitGroups runtime fetch state.seenDocuments selected) ∧
      ∀ visit ∈ (visitGroups runtime fetch state.seenDocuments selected).flatten,
        ¬ VisitRaises runtime fetch visit := by
  induction selected generalizing state failed with
  | nil =>
    cases h
    exact ⟨hinv, Added.refl _, rfl, fun _ hvisit => absurd hvisit List.not_mem_nil⟩
  | cons document rest ih =>
    rw [collectSelected] at h
    obtain ⟨next, hdocument, h⟩ := Outcome.bind_eq_ok.mp h
    obtain ⟨hnext, hadded, hquiet⟩ := document_spec hinv hdocument
    obtain ⟨hlast, hrest, hcount, hothers⟩ := ih hnext h
    rw [hadded.seenDocuments] at hrest hcount hothers
    rw [visitGroups, List.flatten_cons]
    refine ⟨hlast, hadded.append hrest, ?_, ?_⟩
    · have hfails : state.failures < next.failures ↔ groupFails runtime fetch
          (visitGroup runtime fetch state.seenDocuments document) = true := by
        unfold groupFails
        rw [hadded.failures, decide_eq_true_eq]
        omega
      unfold failedGroups at hcount ⊢
      rw [hcount, List.countP_cons]
      by_cases hmore : state.failures < next.failures
      · rw [if_pos hmore, if_pos (hfails.mp hmore)]
        omega
      · rw [if_neg hmore, if_neg fun hgroup => hmore (hfails.mpr hgroup)]
        omega
    · intro visit hvisit
      cases List.mem_append.mp hvisit with
      | inl hfirst => exact hquiet visit hfirst
      | inr hlater => exact hothers visit hlater

theorem returns_selected {failed : ℕ} (hinv : WalkInv state)
    (h : ∀ visit ∈ (visitGroups runtime fetch state.seenDocuments selected).flatten,
      ¬ VisitRaises runtime fetch visit) :
    Outcome.Returns (collectSelected runtime fetch selected failed state) := by
  induction selected generalizing state failed with
  | nil => exact Outcome.returns_ok _
  | cons document rest ih =>
    rw [visitGroups, List.flatten_cons] at h
    obtain ⟨next, hdocument⟩ := returns_document hinv fun visit hvisit =>
      h visit (List.mem_append_left _ hvisit)
    obtain ⟨hnext, hadded, -⟩ := document_spec hinv hdocument
    rw [collectSelected, Outcome.returns_bind]
    refine ⟨next, hdocument, ih hnext ?_⟩
    rw [hadded.seenDocuments]
    exact fun visit hvisit => h visit (List.mem_append_right _ hvisit)

/-! ### The run -/

theorem walkInv_start : WalkInv ⟨[], [], [], [], [], 0⟩ :=
  ⟨fun _ hid => absurd hid List.not_mem_nil, List.Perm.refl [], List.nodup_nil, rfl⟩

/-- The constructor of the result never refuses what a walk leaves. -/
theorem accepts_rejections {sorted rejections : List SourceRejection} (hinv : WalkInv state)
    (hperm : sorted.Perm state.candidates) (hsub : rejections.Sublist sorted)
    (hlength : rejections.length ≤ 256) :
    AcceptsRejections (state.fetched.map WarningItem.sourceId) state.rejected rejections := by
  have hids : (sorted.map SourceRejection.sourceId).Perm state.rejected := by
    rw [← hinv.candidates]
    exact hperm.map _
  have hboth := hinv.listed.nodup_iff.mp hinv.nodup
  rw [List.nodup_append] at hboth
  obtain ⟨-, hrejected, hapart⟩ := hboth
  have hmem : ∀ rejection ∈ rejections, rejection.sourceId ∈ state.rejected :=
    fun rejection hrejection => hids.mem_iff.mp (List.mem_map_of_mem (hsub.mem hrejection))
  constructor
  · exact hlength
  · exact (hids.nodup_iff.mpr hrejected).sublist (hsub.map _)
  · exact hmem
  · intro rejection hrejection hfetched
    exact hapart _ hfetched _ (hmem rejection hrejection) rfl

/-- The visits of the walk over what a payload selects. -/
def visitsOf (runtime : WarningRuntime) (fetch : Fetch) (payload : Value) : List Visit :=
  (visitGroups runtime fetch [] (selectedDocuments runtime payload)).flatten

/-- What a run that returns has collected. -/
structure RunCollects (runtime : WarningRuntime) (fetch : Fetch) (payload : Value)
    (result : RunResult) : Prop where
  fetched : result.fetched.map WarningItem.sourceId =
    (visitsOf runtime fetch payload).flatMap (visitFetched runtime fetch)
  rejected : result.rejected =
    (visitsOf runtime fetch payload).flatMap (visitRejected runtime fetch)
  noActiveEvent : result.noActiveEvent = true ↔ result.fetched = [] ∧ result.rejected = [] ∧
    ((visitsOf runtime fetch payload).map (visitFailures runtime fetch)).sum = 0

def allFail (runtime : WarningRuntime) (fetch : Fetch) (payload : Value) : Prop :=
  ∀ group ∈ visitGroups runtime fetch [] (selectedDocuments runtime payload),
    groupFails runtime fetch group = true

theorem visitGroups_length (seen : List Document) :
    (visitGroups runtime fetch seen selected).length = selected.length := by
  induction selected generalizing seen with
  | nil => rfl
  | cons document rest ih => rw [visitGroups, List.length_cons, List.length_cons, ih]

theorem failedGroups_eq_length {payload : Value} :
    failedGroups runtime fetch (visitGroups runtime fetch [] (selectedDocuments runtime payload)) =
      (selectedDocuments runtime payload).length ↔ allFail runtime fetch payload := by
  unfold failedGroups allFail
  rw [← @visitGroups_length runtime fetch _ [], List.countP_eq_length]

end FloodRisk.WraWarning
