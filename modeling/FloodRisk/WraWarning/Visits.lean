import FloodRisk.WraWarning.Walk

/-!
# The visits of a walk

A document is visited once, selected or through a link. What a visit adds does not depend on the
visits before it, since the ids of a document start with its file name.
-/

namespace FloodRisk.WraWarning
open Python Adapters WraHistorical

structure Visit where
  document : Document
  source : Option Document
  deriving DecidableEq

variable (runtime : WarningRuntime) (fetch : Fetch)

def readVisit (visit : Visit) : Except Raised (Option (List Document × List PlacemarkRecord)) :=
  readDocument runtime fetch visit.source.isNone visit.document

/-- The links of a document that is selected. -/
def linksOf (document : Document) : List Document :=
  match readVisit runtime fetch ⟨document, none⟩ with
  | .ok (some (links, _)) => links
  | _ => []

def linkVisits (source : Document) : List Document → List Document → List Visit
  | _, [] => []
  | seen, link :: rest =>
      if link ∈ seen then linkVisits source seen rest
      else ⟨link, some source⟩ :: linkVisits source (link :: seen) rest

/-- The visits that a selected document makes. -/
def visitGroup (seen : List Document) (document : Document) : List Visit :=
  if document ∈ seen then []
  else ⟨document, none⟩ ::
    linkVisits document (document :: seen) (linksOf runtime fetch document)

def seenAfter (seen : List Document) (visits : List Visit) : List Document :=
  (visits.map Visit.document).reverse ++ seen

def visitGroups : List Document → List Document → List (List Visit)
  | _, [] => []
  | seen, document :: rest =>
      let group := visitGroup runtime fetch seen document
      group :: visitGroups (seenAfter seen group) rest

/-! ### What a visit adds -/

/-- The records whose ids did not occur before. -/
def freshRecords : List Text → List PlacemarkRecord → List PlacemarkRecord
  | _, [] => []
  | seen, record :: rest =>
      if record.sourceId ∈ seen then freshRecords seen rest
      else record :: freshRecords (seen ++ [record.sourceId]) rest

def PlacemarkRecord.isAccepted (record : PlacemarkRecord) : Bool := record.outcome.isLeft

def acceptedIds (records : List PlacemarkRecord) : List Text :=
  (records.filter PlacemarkRecord.isAccepted).map PlacemarkRecord.sourceId

def rejectedIds (records : List PlacemarkRecord) : List Text :=
  (records.filter fun record => !record.isAccepted).map PlacemarkRecord.sourceId

/-- The rejections of the records can be built. -/
def RejectionsReturn (records : List PlacemarkRecord) : Prop :=
  ∀ record ∈ records, ∀ reason, record.outcome = .inr reason →
    Outcome.Returns (sourceRejection record.sourceId reason)

/-- A visit that raises what the walk does not catch. -/
def VisitRaises (visit : Visit) : Prop :=
  match readVisit runtime fetch visit with
  | .error _ => True
  | .ok none => False
  | .ok (some (_, records)) => ¬ RejectionsReturn (freshRecords [] records)

def visitFetched (visit : Visit) : List Text :=
  match readVisit runtime fetch visit with
  | .ok (some (_, records)) => acceptedIds (freshRecords [] records)
  | _ => []

def visitRejected (visit : Visit) : List Text :=
  match readVisit runtime fetch visit with
  | .ok none => [failureId visit.document]
  | .ok (some (_, records)) => rejectedIds (freshRecords [] records)
  | .error _ => []

def visitFailures (visit : Visit) : ℕ :=
  match readVisit runtime fetch visit with
  | .ok none => 1
  | _ => 0

variable {runtime fetch} {document : Document} {source : Option Document} {visit : Visit}
  {state state' : WalkState} {records : List PlacemarkRecord} {seen : List Document}

/-! ### Owners of ids -/

def ownerOf (id : Text) : Text := id.takeWhile fun c => c ≠ .scalar ':'

/-- An id of a document, or of its failure. -/
def Owned (document : Document) (id : Text) : Prop :=
  id = failureId document ∨ ownerOf id = text document.filename

theorem ownerOf_failureId (document : Document) : ownerOf (failureId document) = text "kml" := by
  cases document <;> decide +kernel

theorem filename_ne_kml (document : Document) : text document.filename ≠ text "kml" := by
  cases document <;> decide +kernel

theorem filename_injective : Function.Injective Document.filename := by
  intro document other h
  cases document <;> cases other <;> first | rfl | exact absurd h (by decide)

theorem failureId_injective : Function.Injective failureId := by
  intro document other h
  exact filename_injective (text_injective (List.append_cancel_left h))

theorem owner_unique {other : Document} {id : Text} (h : Owned document id)
    (h' : Owned other id) : document = other := by
  rcases h with rfl | howner
  · rcases h' with heq | howner'
    · exact failureId_injective heq
    · rw [ownerOf_failureId] at howner'
      exact absurd howner'.symm (filename_ne_kml other)
  · rcases h' with rfl | howner'
    · rw [ownerOf_failureId] at howner
      exact absurd howner.symm (filename_ne_kml document)
    · exact filename_injective (text_injective (howner.symm.trans howner'))

theorem ownerOf_sourceId (document : Document) (rest : Text) :
    ownerOf (text document.filename ++ text ":" ++ rest) = text document.filename := by
  have hkept : ∀ c ∈ text document.filename, decide (c ≠ CodePoint.scalar ':') = true := by
    cases document <;> decide +kernel
  unfold ownerOf
  rw [List.append_assoc, List.takeWhile_append_of_pos hkept]
  have hcolon : text ":" ++ rest = CodePoint.scalar ':' :: rest := rfl
  rw [hcolon, List.takeWhile_cons_of_neg (by simp), List.append_nil]

theorem owned_of_placemarkRecords {root : Element}
    (h : placemarkRecords runtime document root = .ok records) :
    ∀ record ∈ records, ownerOf record.sourceId = text document.filename := by
  intro record hrecord
  obtain ⟨entry, -, hentry⟩ := Outcome.exists_of_mem_mapM h hrecord
  unfold placemarkRecord at hentry
  dsimp only at hentry
  split at hentry
  · cases hentry
    exact ownerOf_sourceId document _
  · obtain ⟨times, -, hentry⟩ := Outcome.bind_eq_ok.mp hentry
    split at hentry
    · cases hentry
      exact ownerOf_sourceId document _
    · cases hentry
      exact ownerOf_sourceId document _

theorem owned_of_readVisit {links : List Document}
    (h : readVisit runtime fetch visit = .ok (some (links, records))) :
    ∀ record ∈ records, ownerOf record.sourceId = text visit.document.filename := by
  unfold readVisit readDocument at h
  cases hfetch : fetch visit.document with
  | none =>
    rw [hfetch] at h
    cases h
  | some t =>
    rw [hfetch] at h
    obtain ⟨parsed, -, h⟩ := Outcome.bind_eq_ok.mp h
    cases parsed with
    | none => cases h
    | some root =>
      dsimp only at h
      split at h
      · cases h
      · obtain ⟨found, hfound, h⟩ := Outcome.bind_eq_ok.mp h
        cases h
        exact owned_of_placemarkRecords hfound

/-! ### The records of a document -/

theorem freshRecords_append {foreign own : List Text}
    (h : ∀ record ∈ records, record.sourceId ∉ foreign) :
    freshRecords (foreign ++ own) records = freshRecords own records := by
  induction records generalizing own with
  | nil => rfl
  | cons record rest ih =>
    have hrest : ∀ other ∈ rest, other.sourceId ∉ foreign :=
      fun other hother => h other (List.mem_cons_of_mem record hother)
    have hsame : record.sourceId ∈ foreign ++ own ↔ record.sourceId ∈ own := by
      rw [List.mem_append, or_iff_right (h record List.mem_cons_self)]
    rw [freshRecords, freshRecords]
    by_cases hown : record.sourceId ∈ own
    · rw [if_pos hown, if_pos (hsame.mpr hown), ih hrest]
    · rw [if_neg hown, if_neg fun hmem => hown (hsame.mp hmem), List.append_assoc, ih hrest]

theorem freshRecords_sublist (ids : List Text) :
    (freshRecords ids records).Sublist records := by
  induction records generalizing ids with
  | nil => exact List.Sublist.refl []
  | cons record rest ih =>
    rw [freshRecords]
    split_ifs
    · exact (ih ids).cons record
    · exact (ih _).cons_cons record

theorem freshRecords_new (ids : List Text) :
    ∀ record ∈ freshRecords ids records, record.sourceId ∉ ids := by
  induction records generalizing ids with
  | nil =>
    intro record hrecord
    exact absurd hrecord List.not_mem_nil
  | cons record rest ih =>
    rw [freshRecords]
    split_ifs with hseen
    · exact ih ids
    · intro other hother
      cases List.mem_cons.mp hother with
      | inl heq => rwa [heq]
      | inr hmem => exact fun hids => ih _ other hmem (List.mem_append_left _ hids)

theorem freshRecords_nodup (ids : List Text) :
    ((freshRecords ids records).map PlacemarkRecord.sourceId).Nodup := by
  induction records generalizing ids with
  | nil => exact List.nodup_nil
  | cons record rest ih =>
    rw [freshRecords]
    split_ifs with hseen
    · exact ih ids
    · rw [List.map_cons, List.nodup_cons]
      refine ⟨?_, ih _⟩
      intro hmem
      obtain ⟨other, hother, heq⟩ := List.mem_map.mp hmem
      apply freshRecords_new _ other hother
      rw [heq]
      exact List.mem_append_right _ List.mem_cons_self

/-- Records of other documents were seen before, and make no difference. -/
theorem freshRecords_nil {ids : List Text} (h : ∀ record ∈ records, record.sourceId ∉ ids) :
    freshRecords ids records = freshRecords [] records := by
  have happend := @freshRecords_append records ids [] h
  rwa [List.append_nil] at happend

/-- What the loop over the records of a document does to the lists. -/
structure Collected (fresh : List PlacemarkRecord) (state state' : WalkState) : Prop where
  seenDocuments : state'.seenDocuments = state.seenDocuments
  seenIds : state'.seenIds = state.seenIds ++ fresh.map PlacemarkRecord.sourceId
  fetched : state'.fetched.map WarningItem.sourceId =
    state.fetched.map WarningItem.sourceId ++ acceptedIds fresh
  rejected : state'.rejected = state.rejected ++ rejectedIds fresh
  candidates : state'.candidates.map SourceRejection.sourceId =
    state.candidates.map SourceRejection.sourceId ++ rejectedIds fresh
  failures : state'.failures = state.failures

theorem sourceId_sourceRejection {id : Text} {reason : String} {rejection : SourceRejection}
    (h : sourceRejection id reason = .ok rejection) : rejection.sourceId = id := by
  unfold sourceRejection at h
  split_ifs at h
  cases h
  rfl

theorem collected_of_ok (h : collectRecords document source records state = .ok state') :
    Collected (freshRecords state.seenIds records) state state' ∧
      RejectionsReturn (freshRecords state.seenIds records) := by
  induction records generalizing state with
  | nil =>
    cases h
    refine ⟨⟨rfl, ?_, ?_, ?_, ?_, rfl⟩, ?_⟩
    · exact (List.append_nil _).symm
    · exact (List.append_nil _).symm
    · exact (List.append_nil _).symm
    · exact (List.append_nil _).symm
    · intro record hrecord
      exact absurd hrecord List.not_mem_nil
  | cons record rest ih =>
    rw [collectRecords] at h
    rw [freshRecords]
    by_cases hseen : record.sourceId ∈ state.seenIds
    · rw [if_pos hseen] at h ⊢
      exact ih h
    · rw [if_neg hseen] at h ⊢
      cases houtcome : record.outcome with
      | inl payload =>
        rw [houtcome] at h
        obtain ⟨hcollected, hreturn⟩ := ih h
        have haccepted : record.isAccepted = true := by
          unfold PlacemarkRecord.isAccepted
          rw [houtcome]
          rfl
        refine ⟨⟨hcollected.seenDocuments, ?_, ?_, ?_, ?_, hcollected.failures⟩, ?_⟩
        · rw [hcollected.seenIds, List.map_cons, List.append_assoc]
          rfl
        · rw [hcollected.fetched, List.map_append, List.append_assoc]
          simp [acceptedIds, haccepted]
        · rw [hcollected.rejected]
          simp [rejectedIds, haccepted]
        · rw [hcollected.candidates]
          simp [rejectedIds, haccepted]
        · intro other hother reason hreason
          cases List.mem_cons.mp hother with
          | inl heq =>
            rw [heq, houtcome] at hreason
            cases hreason
          | inr hmem => exact hreturn other hmem reason hreason
      | inr reason =>
        rw [houtcome] at h
        obtain ⟨rejection, hrejection, h⟩ := Outcome.bind_eq_ok.mp h
        obtain ⟨hcollected, hreturn⟩ := ih h
        have haccepted : record.isAccepted = false := by
          unfold PlacemarkRecord.isAccepted
          rw [houtcome]
          rfl
        refine ⟨⟨hcollected.seenDocuments, ?_, ?_, ?_, ?_, hcollected.failures⟩, ?_⟩
        · rw [hcollected.seenIds, List.map_cons, List.append_assoc]
          rfl
        · rw [hcollected.fetched]
          simp [acceptedIds, haccepted]
        · rw [hcollected.rejected, List.append_assoc]
          simp [rejectedIds, haccepted]
        · rw [hcollected.candidates, List.map_append, List.append_assoc]
          simp [rejectedIds, haccepted, sourceId_sourceRejection hrejection]
        · intro other hother other_reason hreason
          cases List.mem_cons.mp hother with
          | inl heq =>
            rw [heq, houtcome] at hreason
            cases hreason
            rw [heq]
            exact ⟨rejection, hrejection⟩
          | inr hmem => exact hreturn other hmem other_reason hreason

theorem returns_collectRecords
    (h : RejectionsReturn (freshRecords state.seenIds records)) :
    Outcome.Returns (collectRecords document source records state) := by
  induction records generalizing state with
  | nil => exact Outcome.returns_ok state
  | cons record rest ih =>
    rw [collectRecords]
    rw [freshRecords] at h
    by_cases hseen : record.sourceId ∈ state.seenIds
    · rw [if_pos hseen] at h ⊢
      exact ih h
    · rw [if_neg hseen] at h ⊢
      have hrest : RejectionsReturn (freshRecords (state.seenIds ++ [record.sourceId]) rest) :=
        fun other hother => h other (List.mem_cons_of_mem record hother)
      cases houtcome : record.outcome with
      | inl payload => exact ih hrest
      | inr reason =>
        obtain ⟨rejection, hrejection⟩ := h record List.mem_cons_self reason houtcome
        rw [Outcome.returns_bind]
        exact ⟨rejection, hrejection, ih hrest⟩

end FloodRisk.WraWarning
