import FloodRisk.Lib.Outcome
import FloodRisk.Lib.Rounding
import Mathlib.Order.WithBot

/-! # Python values of a JSON document

Texts with lone surrogates, doubles with the infinities and the value that is no number, and
integers of any size.  A member whose name has a surrogate is never looked up, so that the names
are strings. -/

namespace Python

/-- What is raised. -/
inductive Raised where
  | valueError
  | typeError
  | overflowError
  | unicodeEncodeError
  deriving DecidableEq

/-! ### Texts -/

inductive CodePoint where
  | scalar (c : Char)
  | surrogate (n : Fin 2048)
  deriving DecidableEq

abbrev Text := List CodePoint

instance lawfulBEq_text : LawfulBEq Text := inferInstance

def text (s : String) : Text := s.toList.map .scalar

/-- A reader of ASCII syntax treats a surrogate like any other code point that it does not know. -/
def CodePoint.shown : CodePoint → Char
  | .scalar c => c
  | .surrogate _ => '\ufffd'

def shown (t : Text) : String := String.ofList (t.map CodePoint.shown)

def CodePoint.isScalar : CodePoint → Bool
  | .scalar _ => true
  | .surrogate _ => false

/-- Whether `encode("utf-8")` accepts the text. -/
def encodes (t : Text) : Bool := t.all CodePoint.isScalar

theorem shown_text (s : String) : shown (text s) = s := by
  unfold shown text
  rw [List.map_map]
  have hid : CodePoint.shown ∘ CodePoint.scalar = id := rfl
  rw [hid, List.map_id, String.ofList_toList]

theorem text_injective : Function.Injective text := by
  intro s t h
  rw [← shown_text s, h, shown_text]

inductive Double where
  | finite (q : ℚ)
  | negativeZero
  | infinite (negative : Bool)
  | nan
  deriving DecidableEq

namespace Double

def rank : Double → Option (WithBot (WithTop ℚ))
  | .finite q => some ((q : WithTop ℚ) : WithBot (WithTop ℚ))
  | .negativeZero => some (((0 : ℚ) : WithTop ℚ) : WithBot (WithTop ℚ))
  | .infinite true => some ⊥
  | .infinite false => some ((⊤ : WithTop ℚ) : WithBot (WithTop ℚ))
  | .nan => none

/-- Nothing compares with the value that is no number. -/
def le (x y : Double) : Bool :=
  match x.rank, y.rank with
  | some a, some b => a ≤ b
  | _, _ => false

def lt (x y : Double) : Bool :=
  match x.rank, y.rank with
  | some a, some b => a < b
  | _, _ => false

def isZero (x : Double) : Bool := x = .finite 0 || x = .negativeZero

def isFinite : Double → Bool
  | .finite _ => true
  | .negativeZero => true
  | _ => false

/-- The least integer that `float` refuses: half a step above the largest double. -/
def integerLimit : ℕ := 2 ^ 1024 - 2 ^ 970

/-- The nearest integer of 53 binary digits, the even one of two. -/
def nearest (n : ℤ) : ℚ :=
  let step := 2 ^ (Nat.log2 n.natAbs - 52)
  roundHalfEven (n / step) * step

/-- `float` of an integer. -/
def ofInteger (n : ℤ) : Except Raised Double :=
  if n.natAbs < integerLimit then .ok (.finite (nearest n)) else .error .overflowError

end Double

/-! ### Values -/

inductive Value where
  | null
  | boolean (b : Bool)
  | integer (n : ℤ)
  | float (x : Double)
  | text (t : Text)
  | list (values : List Value)
  | object (members : List (String × Value))

abbrev Members := List (String × Value)

namespace Value

def isNull : Value → Bool
  | .null => true
  | _ => false

/-- `bool(value)`. -/
def truthy : Value → Bool
  | .null => false
  | .boolean b => b
  | .integer n => n ≠ 0
  | .float x => !x.isZero
  | .text t => t ≠ []
  | .list values => !values.isEmpty
  | .object members => !members.isEmpty

mutual

/-- Whether all numbers of a value are finite. -/
def isFinite : Value → Bool
  | .float x => x.isFinite
  | .list values => allFinite values
  | .object members => membersFinite members
  | _ => true

def allFinite : List Value → Bool
  | [] => true
  | value :: rest => value.isFinite && allFinite rest

def membersFinite : Members → Bool
  | [] => true
  | (_, value) :: rest => value.isFinite && membersFinite rest

end

theorem membersFinite_eq (members : Members) :
    membersFinite members = members.all fun entry => entry.2.isFinite := by
  induction members with
  | nil => rfl
  | cons entry rest ih =>
    obtain ⟨name, value⟩ := entry
    rw [membersFinite, ih]
    rfl

end Value

/-- `members.get(key)`. -/
def get (members : Members) (key : String) : Value := (members.lookup key).getD .null

/-- The texts that `str` prints of the values whose texts are not modelled. -/
structure Printing where
  float : Double → Text
  container : Value → Except Raised Text

/-- The most digits of an integer that is printed. -/
def printedDigits : ℕ := 4300

/-- `str(value)`. -/
def str (printing : Printing) : Value → Except Raised Text
  | .null => .ok (text "None")
  | .boolean b => .ok (text (if b then "True" else "False"))
  | .integer n => if n.natAbs < 10 ^ printedDigits then .ok (text (toString n)) else .error .valueError
  | .float x => .ok (printing.float x)
  | .text t => .ok t
  | .list values => printing.container (.list values)
  | .object members => printing.container (.object members)

end Python
