import FloodRisk.Promotion.Batch
import FloodRisk.Promotion.Settlement

/-!
# Interrupted and repeated promotions (pipelines/promotion.py:155-225)

A call of `promote_accepted_staging` fetches once and then commits one
transaction after the other.  A crash, or an exception out of a transaction,
ends it after any number of commits.
-/

namespace FloodRisk.Promotion
open Transition

variable {env : Environment} {now : ℤ} {payload : EvidencePromotionPayload}
  {db next : Database}

/-! ### Calls and crashes -/

/-- One call with a writer that has `write_evidence_batch` or not.  The clock is
read for each batch, or for each candidate. -/
structure PromotionCall where
  limit : Option ℕ := none
  adapterKeys : Option (List String) := none
  rawRefs : Option (List String) := none
  batched : Bool := true
  clock : ℕ → ℤ
  crashedAfter : Option ℕ := none

def PromotionCall.writes (call : PromotionCall) (db : Database) : List Call :=
  let payloads := fetchAcceptedStaging call.limit call.adapterKeys call.rawRefs db
  if call.batched then
    (chunksOf defaultPromotionBatchSize payloads.length payloads).zipIdx.map fun chunk =>
      .batch (call.clock chunk.2) chunk.1
  else payloads.zipIdx.map fun payload => .single (call.clock payload.2) payload.1

def promote (env : Environment) (call : PromotionCall) (db : Database) : Database :=
  match call.crashedAfter with
  | none => run (callStep env) db (call.writes db)
  | some commits => ((committedRun env db (call.writes db)).take commits).getLastD db

inductive WorkerStep where
  | stage (batch : AdapterStagingBatch)
  | promote (call : PromotionCall)

def workerStep (env : Environment) (db : Database) : WorkerStep → Database
  | .stage batch => writeBatch batch db
  | .promote call => promote env call db

theorem promoteChunks_eq_run (env : Environment)
    (chunks : List (ℤ × List EvidencePromotionPayload)) (db : Database) :
    (promoteChunks env chunks db).2 =
      run (callStep env) db (chunks.map fun chunk => .batch chunk.1 chunk.2) := by
  induction chunks generalizing db with
  | nil => rfl
  | cons chunk rest ih => exact ih (writeEvidenceBatch env chunk.1 chunk.2 db).2

theorem numbered_batches (now : ℤ) (chunks : List (List EvidencePromotionPayload)) :
    (chunks.zipIdx.map fun chunk => Call.batch now chunk.1) =
      (chunks.map fun chunk => (now, chunk)).map fun chunk => .batch chunk.1 chunk.2 := by
  have hfirst := congrArg (List.map (Call.batch now)) (List.zipIdx_map_fst 0 chunks)
  rw [List.map_map] at hfirst
  rw [List.map_map]
  exact hfirst

/-- A call that is not interrupted is `promote_accepted_staging`. -/
theorem promote_eq_promoteAcceptedStaging (env : Environment) (now : ℤ) (limit : Option ℕ)
    (adapterKeys rawRefs : Option (List String)) (db : Database) :
    promote env { limit, adapterKeys, rawRefs, clock := fun _ => now } db =
      (promoteAcceptedStaging env now limit adapterKeys rawRefs db).2 := by
  simp only [promoteAcceptedStaging, promoteChunks_eq_run, promote, PromotionCall.writes, if_true,
    numbered_batches]

/-! ### What every step keeps -/

/-- Between two states of a run the tables grow, and evidence stays traced. -/
structure Keeps (db next : Database) : Prop where
  grows : Grows db next
  traced : Traced db → Traced next

theorem Keeps.refl (db : Database) : Keeps db db := ⟨Grows.refl db, id⟩

theorem Keeps.trans {first second third : Database} (h : Keeps first second)
    (k : Keeps second third) : Keeps first third :=
  ⟨h.grows.trans k.grows, fun traced => k.traced (h.traced traced)⟩

theorem Keeps.stage (batch : AdapterStagingBatch) (db : Database) :
    Keeps db (writeBatch batch db) := by
  have grows := writeBatch_grows batch db
  refine ⟨grows, fun traced => traced.grows grows ?_⟩
  intro stored hstored
  rw [writeBatch_evidence] at hstored
  exact hstored

theorem Keeps.reject (ids : List ℕ) (reason : RejectionReason) (db : Database) :
    Keeps db (rejectStagingRows ids reason db) := by
  have grows := (Commits.reject ids reason db).toGrows
  exact ⟨grows, fun traced => traced.grows grows fun _ h => h⟩

theorem Keeps.write (env : Environment) (db : Database)
    (call : ℤ × EvidencePromotionPayload) : Keeps db (writeStep env db call) :=
  ⟨(Commits.write env call.1 call.2 db).toGrows, fun traced => traced.write env call.1 call.2⟩

theorem between_commits (env : Environment) (db : Database) (calls : List Call) :
    Between Keeps db (run (callStep env) db calls) (committedRun env db calls) := by
  apply between_committedRun env Keeps.refl (fun _ _ _ h k => h.trans k) Keeps.reject
  · exact fun now db payload (_ : True) => Keeps.write env db (now, payload)
  · exact fun _ _ => trivial

theorem Keeps.promote (env : Environment) (call : PromotionCall) (db : Database) :
    Keeps db (promote env call db) := by
  have between := between_commits env db (call.writes db)
  unfold Promotion.promote
  cases call.crashedAfter with
  | none => exact between.ends
  | some commits =>
      simp only [List.getLastD_eq_getLast?]
      cases hlast : ((committedRun env db (call.writes db)).take commits).getLast? with
      | none => exact Keeps.refl db
      | some reached =>
          have hmem := List.mem_of_mem_take (List.mem_of_getLast? hlast)
          exact between.reached reached hmem

theorem Keeps.step (env : Environment) (db : Database) (step : WorkerStep) :
    Keeps db (workerStep env db step) := by
  cases step with
  | stage batch => exact Keeps.stage batch db
  | promote call => exact Keeps.promote env call db

theorem Keeps.run (env : Environment) (db : Database) (steps : List WorkerStep) :
    Keeps db (Transition.run (workerStep env) db steps) :=
  run_related Keeps.refl (fun _ _ _ h k => h.trans k) (Keeps.step env) db steps

/-! ### A call spends the staging rows it authorises -/

/-- What holds of a candidate until its own transaction. -/
def AwaitsWrite (payload : EvidencePromotionPayload) (id : ℕ) (db : Database) : Prop :=
  Traced db ∧ (authorizeStagingCandidate db payload = some true ∨ Spent db id)

section Candidate

variable {id : ℕ} (hid : validatedStagingId payload = some id)
include hid

theorem AwaitsWrite.commit (h : AwaitsWrite payload id db) (commits : Commits db next)
    (keeps : Keeps db next) : AwaitsWrite payload id next := by
  refine ⟨keeps.traced h.1, ?_⟩
  rcases h.2 with hauth | hspent
  · exact authorized_or_spent commits hauth hid
  · exact Or.inr (hspent.grows keeps.grows)

theorem AwaitsWrite.write (h : AwaitsWrite payload id db)
    (call : ℤ × EvidencePromotionPayload) : AwaitsWrite payload id (writeStep env db call) :=
  h.commit hid (Commits.write env call.1 call.2 db) (Keeps.write env db call)

theorem AwaitsWrite.reject (h : AwaitsWrite payload id db) (ids : List ℕ)
    (reason : RejectionReason) : AwaitsWrite payload id (rejectStagingRows ids reason db) :=
  h.commit hid (Commits.reject ids reason db) (Keeps.reject ids reason db)

theorem AwaitsWrite.call (h : AwaitsWrite payload id db) (call : Call) :
    AwaitsWrite payload id (callStep env db call) := by
  cases call with
  | single now other => exact h.write hid (now, other)
  | batch now payloads =>
      rw [callStep_batch]
      exact run_invariant (fun _ write hstate => hstate.write hid write) (h.reject hid _ _) _

theorem AwaitsWrite.spent_of_write (h : AwaitsWrite payload id db) (now : ℤ) :
    Spent (writeStep env db (now, payload)) id := by
  rcases h.2 with hauth | hspent
  · exact Promotion.spent_of_write h.1 hauth hid
  · exact hspent.grows (Keeps.write env db (now, payload)).grows

theorem spent_of_settled {ids : List ℕ} {reason : RejectionReason} (h : AwaitsWrite payload id db)
    (hmem : id ∈ ids) : Spent (rejectStagingRows ids reason db) id := by
  rcases h.2 with hauth | hspent
  · obtain ⟨row, hrow, hown, -⟩ := authorized_row hauth hid
    exact spent_of_rejected hmem hrow hown
  · exact hspent.grows (Keeps.reject ids reason db).grows

theorem AwaitsWrite.spent_of_call (h : AwaitsWrite payload id db) {call : Call}
    (hmem : payload ∈ call.payloads) : Spent (callStep env db call) id := by
  have stable : ∀ (s : Database) (write : ℤ × EvidencePromotionPayload), Spent s id →
      Spent (writeStep env s write) id :=
    fun s write hspent => hspent.grows (Keeps.write env s write).grows
  cases call with
  | single now other =>
      have hsame : payload = other := List.mem_singleton.mp hmem
      rw [← hsame]
      exact h.spent_of_write hid now
  | batch now payloads =>
      rw [callStep_batch]
      cases hsettled : isSettled (settledStagingIds env now db payloads) payload with
      | true =>
          have hin : id ∈ settledStagingIds env now db payloads := by
            simpa only [isSettled, hid, Option.any_some, decide_eq_true_eq] using hsettled
          exact run_invariant stable (spent_of_settled hid h hin) _
      | false =>
          have hwrite : (now, payload) ∈
              unsettledWrites now (settledStagingIds env now db payloads) payloads := by
            refine List.mem_map.mpr ⟨payload, List.mem_filter.mpr ⟨hmem, ?_⟩, rfl⟩
            rw [hsettled]
            rfl
          exact run_done_of_mem (AwaitsWrite payload id) (fun s => Spent s id)
            (fun _ write hstate => hstate.write hid write) stable
            (fun _ hstate => hstate.spent_of_write hid now) hwrite (h.reject hid _ _)

end Candidate

theorem exists_chunk {size fuel : ℕ} (hsize : 0 < size) {payloads : List EvidencePromotionPayload}
    (hfuel : payloads.length ≤ fuel) (h : payload ∈ payloads) :
    ∃ chunk ∈ chunksOf size fuel payloads, payload ∈ chunk := by
  induction fuel generalizing payloads with
  | zero =>
      have hnil : payloads = [] := List.length_eq_zero_iff.mp (by omega)
      rw [hnil] at h
      exact absurd h List.not_mem_nil
  | succ fuel ih =>
      cases payloads with
      | nil => exact absurd h List.not_mem_nil
      | cons first rest =>
          have hsplit : payload ∈ (first :: rest).take size ∨ payload ∈ (first :: rest).drop size := by
            rw [← List.mem_append, List.take_append_drop]
            exact h
          rcases hsplit with htake | hdrop
          · exact ⟨_, List.mem_cons_self, htake⟩
          · have hshort : ((first :: rest).drop size).length ≤ fuel := by
              rw [List.length_drop]
              simp only [List.length_cons] at hfuel ⊢
              omega
            obtain ⟨chunk, hchunk, hmem⟩ := ih hshort hdrop
            exact ⟨chunk, List.mem_cons_of_mem _ hchunk, hmem⟩

theorem exists_mem_zipIdx {α : Type*} {items : List α} {item : α} (h : item ∈ items) :
    ∃ position, (item, position) ∈ items.zipIdx := by
  rw [← List.zipIdx_map_fst 0 items] at h
  obtain ⟨numbered, hmem, heq⟩ := List.mem_map.mp h
  exact ⟨numbered.2, heq ▸ hmem⟩

theorem PromotionCall.exists_write (call : PromotionCall)
    (h : payload ∈ fetchAcceptedStaging call.limit call.adapterKeys call.rawRefs db) :
    ∃ write ∈ call.writes db, payload ∈ write.payloads := by
  unfold PromotionCall.writes
  cases call.batched with
  | true =>
      have hsize : 0 < defaultPromotionBatchSize := by decide
      obtain ⟨chunk, hchunk, hmem⟩ := exists_chunk hsize le_rfl h
      obtain ⟨position, hnumbered⟩ := exists_mem_zipIdx hchunk
      exact ⟨_, List.mem_map.mpr ⟨(chunk, position), hnumbered, rfl⟩, hmem⟩
  | false =>
      obtain ⟨position, hnumbered⟩ := exists_mem_zipIdx h
      exact ⟨_, List.mem_map.mpr ⟨(payload, position), hnumbered, rfl⟩, List.mem_singleton_self _⟩

theorem spent_of_promote (traced : Traced db) {call : PromotionCall}
    (hcompleted : call.crashedAfter = none)
    (h : payload ∈ fetchAcceptedStaging call.limit call.adapterKeys call.rawRefs db)
    (hauth : authorizeStagingCandidate db payload = some true) {id : ℕ}
    (hid : validatedStagingId payload = some id) : Spent (promote env call db) id := by
  obtain ⟨write, hwrite, hmem⟩ := call.exists_write h
  simp only [promote, hcompleted]
  refine run_done_of_mem (AwaitsWrite payload id) (fun s => Spent s id) ?_ ?_ ?_ hwrite
    ⟨traced, Or.inl hauth⟩
  · exact fun _ other hstate => hstate.call hid other
  · exact fun s other hspent => hspent.grows (between_commits env s [other]).ends.grows
  · exact fun _ hstate => hstate.spent_of_call hid hmem

/-! ### Every run -/

/-- Promotion keeps one evidence row for a source id and a raw reference, moves
a staging row from accepted to rejected only, and a call that is not interrupted
leaves none of the rows it authorised to a later fetch. -/
theorem promotion_is_at_most_once (env : Environment) (start : Database)
    (fresh : start.evidence.rows = []) (before after : List WorkerStep) :
    let reached := run (workerStep env) start before
    let later := run (workerStep env) reached after
    (later.evidence.rows.map Evidence.sourceRawRef).Nodup ∧
    (∀ stored ∈ reached.evidence, stored ∈ later.evidence) ∧
    (∀ row ∈ reached.stagingEvidence, ∃ next ∈ later.stagingEvidence, StatusMoved row next) ∧
    ∀ call : PromotionCall, call.limit = none → call.crashedAfter = none →
      ∀ payload ∈ fetchAcceptedStaging none call.adapterKeys call.rawRefs reached,
        authorizeStagingCandidate reached payload = some true →
        ∀ limit adapterKeys rawRefs, ∀ fetched ∈ fetchAcceptedStaging limit adapterKeys rawRefs
            (run (workerStep env) (promote env call reached) after),
          validatedStagingId fetched ≠ validatedStagingId payload := by
  intro reached later
  have grows := (Keeps.run env reached after).grows
  refine ⟨later.evidence.keysNodup, grows.evidence, grows.staging, ?_⟩
  intro call hlimit hcompleted payload hfetched hauth limit adapterKeys rawRefs
  have traced : Traced reached := by
    apply (Keeps.run env start before).traced
    intro stored hstored
    rw [Table.mem_def, fresh] at hstored
    exact absurd hstored List.not_mem_nil
  obtain ⟨row, -, -, heq⟩ := exists_ready_of_fetched hfetched
  have hid : validatedStagingId payload = some row.id := by
    rw [heq]
    rfl
  rw [hid]
  rw [← hlimit] at hfetched
  have hspent : Spent (promote env call reached) row.id :=
    spent_of_promote traced hcompleted hfetched hauth hid
  exact not_fetched_of_spent (hspent.grows (Keeps.run env _ after).grows)

/-! ### A promotion that is interrupted between two candidates -/

def rainPoll : AdapterStagingBatch where
  adapterKey := "official.cwa.rainfall"
  rawRef := "raw/rain"
  accepted := ["C1", "C2"].map fun station =>
    { adapterKey := "official.cwa.rainfall"
      sourceId := station
      sourceType := .official
      eventType := .rainfall
      occurredAt := 1000
      observedAt := 1000
      payload :=
        { evidenceScope := some .current
          ingestionGenerationStartedAt := some (.aware 2000)
          locationPayload := .object (.object (.point [121, 23]))
          stationId := some station
          rainfallMm1h := some 12 } }

/-- The crash follows the settling of the batch and the first candidate. -/
def interruptedPoll : List WorkerStep :=
  [.stage rainPoll, .promote { clock := fun _ => 2000, crashedAfter := some 2 }]

def interruptedDatabase : Database :=
  run (workerStep bareEnvironment) (catalogued ["official.cwa.rainfall"]) interruptedPoll

def remainingCandidates : List EvidencePromotionPayload :=
  fetchAcceptedStaging none none none interruptedDatabase

theorem remaining_length_pos : 0 < remainingCandidates.length := by
  decide +kernel

def remainingCandidate : EvidencePromotionPayload :=
  remainingCandidates.get ⟨0, remaining_length_pos⟩

/-- The second call promotes the candidate the first one left. -/
theorem interrupted_promotion_is_completed :
    remainingCandidates.map validatedStagingId = [some 2] ∧
    ∀ fetched ∈ fetchAcceptedStaging none none none
        (promote bareEnvironment { clock := fun _ => 3000 } interruptedDatabase),
      validatedStagingId fetched ≠ some 2 := by
  have hremaining : remainingCandidates.map validatedStagingId = [some 2] := by
    decide +kernel
  have hauth : authorizeStagingCandidate interruptedDatabase remainingCandidate = some true := by
    decide +kernel
  have hid : validatedStagingId remainingCandidate = some 2 := by
    decide +kernel
  have hspent := (promotion_is_at_most_once bareEnvironment
    (catalogued ["official.cwa.rainfall"]) rfl interruptedPoll []).2.2.2
    { clock := fun _ => 3000 } rfl rfl remainingCandidate (List.get_mem _ _) hauth none none none
  rw [hid] at hspent
  exact ⟨hremaining, hspent⟩

end FloodRisk.Promotion
