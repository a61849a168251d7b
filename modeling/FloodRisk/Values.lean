import Mathlib.Algebra.Order.Round
import Mathlib.Data.Rat.Floor
import Mathlib.Data.List.Basic

/-!
# Scalar values of the worker (adapters/_helpers.py, pipelines/promotion.py)

Text as Python strips it, timestamps as `datetime.fromisoformat` returns them,
and GeoJSON objects.  Instants are microseconds since the epoch; a finite
double is the rational it denotes.
-/

namespace FloodRisk

/-! ### Text -/

/-- The code points `str.strip()` removes. -/
def isWhitespace (c : Char) : Bool :=
  c.toNat ∈ [9, 10, 11, 12, 13, 28, 29, 30, 31, 32, 133, 160, 5760, 8192, 8193, 8194, 8195,
    8196, 8197, 8198, 8199, 8200, 8201, 8202, 8232, 8233, 8239, 8287, 12288]

def strip (s : String) : String :=
  String.ofList ((s.toList.dropWhile isWhitespace).reverse.dropWhile isWhitespace).reverse

/-- Postgres `btrim(text)`: only the blank is trimmed. -/
def btrim (s : String) : String :=
  String.ofList ((s.toList.dropWhile (· == ' ')).reverse.dropWhile (· == ' ')).reverse

def optionalText : Option String → Option String
  | none => none
  | some value => if strip value = "" then none else some (strip value)

def fullmatchDigits (n : ℕ) (text : String) : Bool :=
  text.toList.length == n && text.toList.all (fun c => '0' ≤ c && c ≤ '9')

theorem optionalText_eq_some {value : Option String} {text : String}
    (h : optionalText value = some text) : ∃ raw, value = some raw ∧ strip raw = text := by
  cases value with
  | none => simp [optionalText] at h
  | some raw =>
      simp only [optionalText] at h
      split at h
      · exact absurd h (by simp)
      · exact ⟨raw, rfl, Option.some.inj h⟩

theorem optionalText_ne_empty {value : Option String} {text : String}
    (h : optionalText value = some text) : text ≠ "" := by
  cases value with
  | none => simp [optionalText] at h
  | some raw =>
      simp only [optionalText] at h
      split at h
      · exact absurd h (by simp)
      · rename_i hne
        exact Option.some.inj h ▸ hne

theorem dropWhile_eq_self_of_imp {p q : Char → Bool} (himp : ∀ c, q c = true → p c = true)
    {l : List Char} (h : l.dropWhile p = l) : l.dropWhile q = l := by
  cases l with
  | nil => rfl
  | cons c rest =>
      cases hq : q c with
      | false => simp [hq]
      | true =>
          rw [List.dropWhile_cons, if_pos (himp c hq)] at h
          have hlength := congrArg List.length h
          have hle := (List.dropWhile_suffix p (l := rest)).length_le
          simp only [List.length_cons] at hlength
          omega

theorem dropWhile_eq_self_of_trim {p : Char → Bool} {l : List Char}
    (h : ((l.dropWhile p).reverse.dropWhile p).reverse = l) :
    l.dropWhile p = l ∧ l.reverse.dropWhile p = l.reverse := by
  have hfirst := (List.dropWhile_suffix p (l := l)).length_le
  have hsecond := (List.dropWhile_suffix p (l := (l.dropWhile p).reverse)).length_le
  have hlength := congrArg List.length h
  simp only [List.length_reverse] at hsecond hlength
  have heq : l.dropWhile p = l :=
    (List.dropWhile_suffix p).eq_of_length (by omega)
  rw [heq] at h
  exact ⟨heq, List.reverse_eq_iff.mp h⟩

theorem btrim_of_strip {text : String} (h : strip text = text) : btrim text = text := by
  have hblank : ∀ c, (c == ' ') = true → isWhitespace c = true := by
    intro c hc
    rw [beq_iff_eq.mp hc]
    decide
  have hlist : ((text.toList.dropWhile isWhitespace).reverse.dropWhile isWhitespace).reverse =
      text.toList := by
    have hchars := congrArg String.toList h
    simpa only [strip, String.toList_ofList] using hchars
  obtain ⟨hfront, hback⟩ := dropWhile_eq_self_of_trim hlist
  unfold btrim
  rw [dropWhile_eq_self_of_imp hblank hfront, dropWhile_eq_self_of_imp hblank hback,
    List.reverse_reverse, String.ofList_toList]

/-! ### Timestamps -/

/-- A parsed timestamp: with an offset it names an instant, without one it is
the wall clock reading only. -/
inductive Datetime where
  | aware (instant : ℤ)
  | naive (wall : ℤ)
  deriving DecidableEq, Repr

/-- The instant of `_is_aware_datetime` values. -/
def awareInstant : Option Datetime → Option ℤ
  | some (.aware instant) => some instant
  | _ => none

/-- Value of a `timestamptz` cast; the session time zone is UTC. -/
def Datetime.timestamptz : Datetime → ℤ
  | .aware instant => instant
  | .naive wall => wall

def fifteenMinutes : ℤ := 15 * 60 * 1000000

@[simp] theorem awareInstant_aware (t : ℤ) : awareInstant (some (.aware t)) = some t := rfl

@[simp] theorem awareInstant_none : awareInstant none = none := rfl

theorem awareInstant_eq_some {value : Option Datetime} {t : ℤ} :
    awareInstant value = some t ↔ value = some (.aware t) := by
  rcases value with _ | (s | s) <;> simp [awareInstant]

/-! ### GeoJSON -/

abbrev Position := ℚ × ℚ

/-- A GeoJSON object by its type.  Coordinates that are not arrays of numbers
read as the empty array. -/
inductive Geometry where
  | point (coordinates : List ℚ)
  | polygon (coordinates : List (List (List ℚ)))
  | multiPolygon (coordinates : List (List (List (List ℚ))))
  | other
  deriving DecidableEq

/-- A JSON member that should hold an object. -/
inductive JsonObject (α : Type) where
  | absent
  | notObject
  | object (value : α)
  deriving DecidableEq

def wgs84Position : List ℚ → Option Position
  | [longitude, latitude] =>
      if -180 ≤ longitude ∧ longitude ≤ 180 ∧ -90 ≤ latitude ∧ latitude ≤ 90 then
        some (longitude, latitude)
      else none
  | _ => none

def validLinearRing (ring : List (List ℚ)) : Bool :=
  let positions := ring.filterMap wgs84Position
  ring.length ≥ 4 && ring.all (fun value => (wgs84Position value).isSome) &&
    positions.head? == positions.getLast? && positions.dropLast.dedup.length ≥ 3

def validPolygonCoordinates (rings : List (List (List ℚ))) : Bool :=
  !rings.isEmpty && rings.all validLinearRing

def validWgs84AreaGeometry : Geometry → Bool
  | .polygon coordinates => validPolygonCoordinates coordinates
  | .multiPolygon coordinates =>
      !coordinates.isEmpty && coordinates.all validPolygonCoordinates
  | _ => false

/-- `_valid_wgs84_point` on an object of type Point. -/
def validWgs84Point : Geometry → Bool
  | .point coordinates => (wgs84Position coordinates).isSome
  | _ => false

/-- `round(value, 7)` in units of the seventh decimal; ties go to the even
neighbour. -/
def round7 (value : ℚ) : ℤ :=
  let scaled : ℚ := value * 10 ^ 7
  let low := ⌊scaled⌋
  let rest := scaled - low
  if rest < 1 / 2 then low
  else if 1 / 2 < rest then low + 1
  else if low % 2 = 0 then low else low + 1

def roundedGeometry : Option Geometry → Option (ℤ × ℤ)
  | some (.point [longitude, latitude]) => some (round7 longitude, round7 latitude)
  | _ => none

end FloodRisk
