import FloodRisk.Adapters.Helpers

/-!
# Rejections of a run (adapters/contracts.py)

What the constructors of `SourceRejection` and `AdapterRunResult` refuse.
-/

namespace FloodRisk.Adapters
open Python

structure SourceRejection where
  sourceId : Text
  reasonCode : String
  deriving DecidableEq

/-- `re.fullmatch(r"[a-z][a-z0-9_]{0,63}", reason_code)`. -/
def canonicalReason (reasonCode : String) : Bool :=
  match reasonCode.toList with
  | [] => false
  | first :: rest => 'a' ≤ first && first ≤ 'z' && rest.length ≤ 63 &&
      rest.all fun c => 'a' ≤ c && c ≤ 'z' || '0' ≤ c && c ≤ '9' || c = '_'

/-- `SourceRejection.__post_init__`. -/
def sourceRejection (sourceId : Text) (reasonCode : String) : Except Raised SourceRejection :=
  if sourceId = [] ∨ sourceId ≠ stripText sourceId ∨ 512 < sourceId.length then .error .valueError
  else if canonicalReason reasonCode then .ok ⟨sourceId, reasonCode⟩
  else .error .valueError

/-- What `AdapterRunResult.__post_init__` asks of the rejections. -/
structure AcceptsRejections (normalized rejected : List Text) (rejections : List SourceRejection) :
    Prop where
  bounded : rejections.length ≤ 256
  unique : (rejections.map SourceRejection.sourceId).Nodup
  isRejected : ∀ rejection ∈ rejections, rejection.sourceId ∈ rejected
  disjoint : ∀ rejection ∈ rejections, rejection.sourceId ∉ normalized

/-- `AdapterRunResult.__post_init__`, of the ids of the normalized and of the rejected. -/
def checkRejections (normalized rejected : List Text) (rejections : List SourceRejection) :
    Except Raised Unit :=
  if 256 < rejections.length then .error .valueError
  else if (rejections.map SourceRejection.sourceId).Nodup then
    if ∀ rejection ∈ rejections, rejection.sourceId ∈ rejected then
      if ∀ rejection ∈ rejections, rejection.sourceId ∉ normalized then .ok ()
      else .error .valueError
    else .error .valueError
  else .error .valueError

theorem returns_checkRejections {normalized rejected : List Text}
    {rejections : List SourceRejection} :
    Outcome.Returns (checkRejections normalized rejected rejections) ↔
      AcceptsRejections normalized rejected rejections := by
  unfold checkRejections
  constructor
  · intro h
    split_ifs at h with hbounded hunique hrejected hdisjoint
    · exact absurd h (Outcome.not_returns_error _)
    · exact ⟨not_lt.mp hbounded, hunique, hrejected, hdisjoint⟩
    · exact absurd h (Outcome.not_returns_error _)
    · exact absurd h (Outcome.not_returns_error _)
    · exact absurd h (Outcome.not_returns_error _)
  · intro h
    rw [if_neg (not_lt.mpr h.bounded), if_pos h.unique, if_pos h.isRejected, if_pos h.disjoint]
    exact Outcome.returns_ok ()

/-! ### Errors of another kind -/

theorem mapError_eq_ok {ε δ α : Type} {f : ε → δ} {x : Except ε α} {a : α} :
    x.mapError f = .ok a ↔ x = .ok a := by
  cases x with
  | error e => constructor <;> intro h <;> cases h
  | ok b =>
    constructor
    · intro h
      rw [Except.ok.inj h]
    · intro h
      rw [Except.ok.inj h]
      rfl

end FloodRisk.Adapters
