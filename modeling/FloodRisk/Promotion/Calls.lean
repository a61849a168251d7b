import FloodRisk.Lib.Transition
import FloodRisk.Promotion.Write

/-!
# Calls of the promotion writer

A worker calls `write_evidence` or `write_evidence_batch`.  A batch commits its
settling transaction and then one transaction for each remaining candidate, so
a call is a sequence of committed states.
-/

namespace FloodRisk.Promotion
open Transition

inductive Call where
  | single (now : ℤ) (payload : EvidencePromotionPayload)
  | batch (now : ℤ) (payloads : List EvidencePromotionPayload)

namespace Call

def now : Call → ℤ
  | single now _ => now
  | batch now _ => now

def payloads : Call → List EvidencePromotionPayload
  | single _ payload => [payload]
  | batch _ payloads => payloads

end Call

def callStep (env : Environment) (db : Database) : Call → Database
  | .single now payload => (writeEvidence env now payload db).2
  | .batch now payloads => (writeEvidenceBatch env now payloads db).2

def isSettled (settled : List ℕ) (payload : EvidencePromotionPayload) : Bool :=
  (validatedStagingId payload).any (· ∈ settled)

def unsettledWrites (now : ℤ) (settled : List ℕ) (payloads : List EvidencePromotionPayload) :
    List (ℤ × EvidencePromotionPayload) :=
  (payloads.filter fun payload => !isSettled settled payload).map (Prod.mk now)

def writeStep (env : Environment) (db : Database) (call : ℤ × EvidencePromotionPayload) :
    Database :=
  (writeEvidence env call.1 call.2 db).2

/-- The states a call commits: a batch commits its settling transaction first. -/
def committedStates (env : Environment) (db : Database) : Call → List Database
  | .single now payload => [writeStep env db (now, payload)]
  | .batch now payloads =>
      let prepared := settleUnchangedObservations env now payloads db
      prepared.2 ::
        trajectory (writeStep env) prepared.2 (unsettledWrites now prepared.1 payloads)

def committedRun (env : Environment) : Database → List Call → List Database
  | _, [] => []
  | db, call :: rest => committedStates env db call ++ committedRun env (callStep env db call) rest

/-! ### A batch is its settling transaction and a run of the rest -/

theorem writeUnsettled_eq_run (env : Environment) (now : ℤ) (settled : List ℕ)
    (payloads : List EvidencePromotionPayload) (db : Database) :
    (writeUnsettled env now settled payloads db).2 =
      run (writeStep env) db (unsettledWrites now settled payloads) := by
  induction payloads generalizing db with
  | nil => rfl
  | cons payload rest ih =>
      cases h : isSettled settled payload with
      | true =>
          have hsettled : (validatedStagingId payload).any (· ∈ settled) = true := h
          simp only [writeUnsettled, hsettled, if_true, ih]
          simp only [unsettledWrites, List.filter_cons, h, Bool.not_true, Bool.false_eq_true,
            if_false]
      | false =>
          have hsettled : (validatedStagingId payload).any (· ∈ settled) = false := h
          simp only [writeUnsettled, hsettled, Bool.false_eq_true, if_false, ih]
          simp only [unsettledWrites, List.filter_cons, h, Bool.not_false, if_true, List.map_cons,
            run_cons]
          rfl

theorem callStep_batch (env : Environment) (now : ℤ) (payloads : List EvidencePromotionPayload)
    (db : Database) :
    callStep env db (.batch now payloads) =
      run (writeStep env) (settleUnchangedObservations env now payloads db).2
        (unsettledWrites now (settledStagingIds env now db payloads) payloads) :=
  writeUnsettled_eq_run env now _ payloads _

/-! ### Relations between committed states -/

section Related

variable {related : Database → Database → Prop} {allowed : EvidencePromotionPayload → Prop}
  (env : Environment)
  (refl : ∀ db, related db db)
  (trans : ∀ first second third, related first second → related second third →
    related first third)
  (rejected : ∀ ids reason db, related db (rejectStagingRows ids reason db))
  (stepped : ∀ now db payload, allowed payload → related db (writeStep env db (now, payload)))
include refl trans rejected stepped

theorem between_committedStates {call : Call}
    (hallowed : ∀ payload ∈ call.payloads, allowed payload) (db : Database) :
    Between related db (callStep env db call) (committedStates env db call) := by
  cases call with
  | single now payload =>
      exact Between.step refl (stepped now db payload (hallowed payload List.mem_cons_self))
  | batch now payloads =>
      rw [callStep_batch]
      have hfirst : Between related db (settleUnchangedObservations env now payloads db).2
          [(settleUnchangedObservations env now payloads db).2] :=
        Between.step refl (rejected _ _ db)
      refine hfirst.append trans (between_trajectory refl trans ?_ _)
      intro db write hmem
      obtain ⟨payload, hkept, rfl⟩ := List.mem_map.mp hmem
      exact stepped now db payload (hallowed payload (List.mem_of_mem_filter hkept))

/-- What every write and every rejection preserves holds between the committed
states of a sequence of calls. -/
theorem between_committedRun {calls : List Call}
    (hallowed : ∀ payload ∈ calls.flatMap Call.payloads, allowed payload) (db : Database) :
    Between related db (run (callStep env) db calls) (committedRun env db calls) := by
  induction calls generalizing db with
  | nil => exact ⟨refl db, by simp [committedRun], by simp [committedRun], List.Pairwise.nil⟩
  | cons call rest ih =>
      have hcall : ∀ payload ∈ call.payloads, allowed payload := by
        intro payload hmem
        exact hallowed payload (List.mem_flatMap.mpr ⟨call, List.mem_cons_self, hmem⟩)
      have hrest : ∀ payload ∈ rest.flatMap Call.payloads, allowed payload := by
        intro payload hmem
        rw [List.flatMap_cons] at hallowed
        exact hallowed payload (List.mem_append_right _ hmem)
      have hfirst := between_committedStates env refl trans rejected stepped hcall db
      exact hfirst.append trans (ih hrest (callStep env db call))

end Related

end FloodRisk.Promotion
