import FloodRisk.IsoText
import FloodRisk.Lib.PythonValue
import FloodRisk.Sensors.DepthText

/-!
# Reading one upstream item (adapters/_helpers.py)

The helpers that the station adapters share, and what each of them raises.
-/

namespace FloodRisk.Adapters
open Python

/-- The parts of Python that are parameters: the texts of `str` and of formatted floats, `float` of
a text, case folding, the hash, and arithmetic on floats with the trigonometry of
`_twd97_xy_to_wgs84`. -/
structure Runtime where
  printing : Printing
  parseFloat : String → Option Double
  casefold : Text → Text
  formatFixed : ℕ → Double → Text
  shortest : ℚ → DecimalText.Decimal
  sha256 : Text → Text
  subtract : Double → Double → Double
  twd97ToWgs84 : Double → Double → Except Raised (Double × Double)

variable (runtime : Runtime)

/-- `str.strip()`. -/
def stripText (t : Text) : Text :=
  ((t.dropWhile fun c => isWhitespace c.shown).reverse.dropWhile fun c =>
    isWhitespace c.shown).reverse

def optionalStr (value : Value) : Except Raised (Option Text) :=
  if value.isNull then .ok none
  else (str runtime.printing value).map fun t => if stripText t = [] then none else some (stripText t)

def optionalFloat : Value → Except Raised (Option Double)
  | .boolean b => .ok (some (.finite (if b then 1 else 0)))
  | .integer n => (Double.ofInteger n).map some
  | .float x => .ok (some x)
  | .text t => .ok (runtime.parseFloat (shown t))
  | _ => .ok none

def parseDatetime (value : Value) : Except Raised (Option Datetime) :=
  if value.truthy then (str runtime.printing value).map fun t => parseDatetimeText (shown t)
  else .ok none

/-- The instant of a time, which is in a zone where it names none. -/
def instantIn (zone : ℤ) : Datetime → ℤ
  | .aware instant => instant
  | .naive wall => wall - zone

/-- `parse_observed_at_utc`, and the same with another zone. -/
def parseObservedAt (zone : ℤ) (value : Value) : Except Raised (Option ℤ) := do
  match ← parseDatetime runtime value with
  | none => .ok none
  | some stamp =>
      if InCalendar (instantIn zone stamp) then .ok (some (instantIn zone stamp))
      else .error .overflowError

/-- `timezone(timedelta(hours=8))`. -/
def localZone : ℤ := 8 * 3600 * 1000000

def stableEvidenceId (adapterKey : String) (sourceId : Text) : Except Raised Text :=
  if encodes sourceId then
    .ok (text "ev_" ++ (runtime.sha256 (text adapterKey ++ text ":" ++ sourceId)).take 16)
  else .error .unicodeEncodeError

/-- `isoformat` of an instant in UTC. -/
def isoText (instant : ℤ) : Text := text (isoformat (utcReading instant))

/-! ### The first of several members -/

/-- The value of the first key that is there. -/
def firstPresent (members : Members) : List String → Value
  | [] => .null
  | key :: rest =>
      match members.lookup key with
      | some value => value
      | none => firstPresent members rest

/-- The first value that is not `None`. -/
def firstNotNone (members : Members) : List String → Value
  | [] => .null
  | key :: rest => if (get members key).isNull then firstNotNone members rest else get members key

/-- The first text that is not blank. -/
def firstText (members : Members) : List String → Except Raised (Option Text)
  | [] => .ok none
  | key :: rest => do
      match ← optionalStr runtime (get members key) with
      | some t => .ok (some t)
      | none => firstText members rest

/-- The text of the first value that is not `None`. -/
def textOfFirst (members : Members) (keys : List String) : Except Raised (Option Text) :=
  optionalStr runtime (firstNotNone members keys)

/-- `_optional_bool`; `lower` of no other letters gives these words. -/
def optionalBool (value : Value) : Except Raised (Option Bool) :=
  match value with
  | .boolean b => .ok (some b)
  | .integer n => .ok (some (decide (n ≠ 0)))
  | .float x => .ok (some !x.isZero)
  | value => (optionalStr runtime value).map fun t =>
      let lowered := t.map fun t => (shown t).map Char.toLower
      if lowered.any (· ∈ ["true", "1", "yes", "y", "on"]) then some true
      else if lowered.any (· ∈ ["false", "0", "no", "n", "off"]) then some false
      else none

def textMember (key : String) (t : Option Text) : Members :=
  t.toList.map fun t => (key, .text t)

def floatMember (key : String) (x : Option Double) : Members :=
  x.toList.map fun x => (key, .float x)

def booleanMember (key : String) (b : Option Bool) : Members :=
  b.toList.map fun b => (key, .boolean b)

/-- `{"type": "Point", "coordinates": [longitude, latitude]}`. -/
def pointValue (longitude latitude : Double) : Value :=
  .object [("type", .text (text "Point")), ("coordinates", .list [.float longitude, .float latitude])]

/-- `_format_depth_cm`, of the decimal that `str` prints. -/
def formatDepthCm (depthCm : Double) : Text :=
  match depthCm with
  | .finite q =>
      if q = 0 then text "0"
      else
        text (if q < 0 then "-" else "") ++
          (Sensors.formatDepthCm (runtime.shortest |q|)).map .scalar
  | .negativeZero => text "0"
  | .infinite negative => text (if negative then "-Infinity" else "Infinity")
  | .nan => text "NaN"

/-! ### What the helpers raise -/

/-- `str` prints the value. -/
def Prints (value : Value) : Prop := Outcome.Returns (str runtime.printing value)

/-- `float` takes the value where it is an integer. -/
def FitsFloat (value : Value) : Prop := ∀ n, value = .integer n → n.natAbs < Double.integerLimit

/-- The time is in the calendar of UTC. -/
def FitsCalendar (zone : ℤ) (value : Value) : Prop :=
  value.truthy = true → Prints runtime value ∧
    ∀ t stamp, str runtime.printing value = .ok t → parseDatetimeText (shown t) = some stamp →
      InCalendar (instantIn zone stamp)

/-- `None`, or printed as a blank text. -/
def Blank (value : Value) : Prop := optionalStr runtime value = .ok none

/-- The first of the members that is not `None` is printed. -/
def FirstPrints (members : Members) (keys : List String) : Prop :=
  Prints runtime (firstNotNone members keys)

/-- The first of the members with a text that is not blank is printed, and those before it. -/
def FirstTextReads (members : Members) : List String → Prop
  | [] => True
  | key :: rest => Prints runtime (get members key) ∧
      (Blank runtime (get members key) → FirstTextReads members rest)

/-- A number is a flag without its text. -/
def FlagReads (value : Value) : Prop := (∀ n, value ≠ .integer n) → Prints runtime value

theorem returns_optionalStr {value : Value} :
    Outcome.Returns (optionalStr runtime value) ↔ Prints runtime value := by
  unfold optionalStr Prints
  cases hnull : value.isNull with
  | true =>
    cases value with
    | null => exact ⟨fun _ => ⟨_, rfl⟩, fun _ => ⟨_, rfl⟩⟩
    | _ => cases hnull
  | false =>
    rw [if_neg Bool.false_ne_true]
    exact Outcome.returns_map

theorem returns_optionalFloat {value : Value} :
    Outcome.Returns (optionalFloat runtime value) ↔ FitsFloat value := by
  unfold FitsFloat
  cases value with
  | integer n =>
    unfold optionalFloat Double.ofInteger
    rw [Outcome.returns_map]
    split_ifs with hfits
    · refine ⟨fun _ m hm => ?_, fun _ => Outcome.returns_ok _⟩
      cases hm
      exact hfits
    · exact ⟨fun h => absurd h (Outcome.not_returns_error _), fun h => absurd (h n rfl) hfits⟩
  | null => exact ⟨fun _ n hn => Value.noConfusion hn, fun _ => ⟨_, rfl⟩⟩
  | boolean b => exact ⟨fun _ n hn => Value.noConfusion hn, fun _ => ⟨_, rfl⟩⟩
  | float x => exact ⟨fun _ n hn => Value.noConfusion hn, fun _ => ⟨_, rfl⟩⟩
  | text t => exact ⟨fun _ n hn => Value.noConfusion hn, fun _ => ⟨_, rfl⟩⟩
  | list values => exact ⟨fun _ n hn => Value.noConfusion hn, fun _ => ⟨_, rfl⟩⟩
  | object members => exact ⟨fun _ n hn => Value.noConfusion hn, fun _ => ⟨_, rfl⟩⟩

theorem returns_parseObservedAt {zone : ℤ} {value : Value} :
    Outcome.Returns (parseObservedAt runtime zone value) ↔ FitsCalendar runtime zone value := by
  unfold parseObservedAt FitsCalendar Prints parseDatetime
  rw [Outcome.returns_bind]
  cases htruthy : value.truthy with
  | false =>
    simp only [Bool.false_eq_true, if_false, false_implies, iff_true]
    exact ⟨none, rfl, Outcome.returns_ok none⟩
  | true =>
    simp only [if_true, true_implies]
    cases hstr : str runtime.printing value with
    | error e =>
      constructor
      · rintro ⟨stamp, hstamp, -⟩
        cases hstamp
      · rintro ⟨hreturns, -⟩
        exact absurd hreturns (Outcome.not_returns_error e)
    | ok t =>
      constructor
      · rintro ⟨stamp, hstamp, hreturns⟩
        refine ⟨Outcome.returns_ok t, fun t' found ht' hfound => ?_⟩
        cases ht'
        cases hstamp
        dsimp only at hreturns
        rw [hfound] at hreturns
        by_contra hout
        simp only [if_neg hout] at hreturns
        exact Outcome.not_returns_error _ hreturns
      · rintro ⟨-, hcalendar⟩
        refine ⟨parseDatetimeText (shown t), rfl, ?_⟩
        cases hparsed : parseDatetimeText (shown t) with
        | none => exact Outcome.returns_ok none
        | some stamp =>
          simp only [if_pos (hcalendar t stamp rfl hparsed)]
          exact Outcome.returns_ok _

variable {runtime}

/-- Only an object is read. -/
theorem returns_of_object {α : Type} {value : Value} {f : Members → Except Raised (Option α)} :
    Outcome.Returns (match value with
      | .object members => f members
      | _ => .ok none) ↔ ∀ members, value = .object members → Outcome.Returns (f members) := by
  cases value with
  | object members =>
    constructor
    · rintro h _ ⟨⟩
      exact h
    · exact fun h => h members rfl
  | _ => exact ⟨fun _ _ h => (nomatch h), fun _ => Outcome.returns_ok none⟩

theorem returns_textOfFirst {members : Members} {keys : List String} :
    Outcome.Returns (textOfFirst runtime members keys) ↔ FirstPrints runtime members keys :=
  returns_optionalStr runtime

/-- Stripping a stripped text changes nothing. -/
theorem stripText_stripText (t : Text) : stripText (stripText t) = stripText t := by
  obtain ⟨p, hp⟩ : ∃ p : CodePoint → Bool, p = fun c => isWhitespace c.shown := ⟨_, rfl⟩
  unfold stripText
  rw [← hp]
  obtain ⟨front, hfront⟩ : ∃ front, front = t.dropWhile p := ⟨_, rfl⟩
  obtain ⟨back, hback⟩ : ∃ back, back = front.reverse.dropWhile p := ⟨_, rfl⟩
  rw [← hfront, ← hback]
  have hkept : back.reverse.dropWhile p = back.reverse := by
    cases hreverse : back.reverse with
    | nil => rfl
    | cons a rest =>
      -- the first code point of what is left is the first of the front
      have hsuffix := List.dropWhile_suffix p (l := front.reverse)
      rw [← hback] at hsuffix
      obtain ⟨others, hothers⟩ := List.reverse_prefix.mpr hsuffix
      rw [List.reverse_reverse, hreverse, List.cons_append] at hothers
      have hidem : front.dropWhile p = front := by
        rw [hfront]
        exact List.dropWhile_idempotent p t
      rw [← hothers, List.dropWhile_cons] at hidem
      split_ifs at hidem with ha
      · have hlength := congrArg List.length hidem
        have hle := (List.dropWhile_suffix p (l := rest ++ others)).length_le
        rw [List.length_cons] at hlength
        omega
      · rw [List.dropWhile_cons, if_neg ha]
  rw [hkept, List.reverse_reverse, hback, List.dropWhile_idempotent]

/-- A text that was read is stripped, and not empty. -/
theorem optionalStr_eq_some (runtime : Runtime) {value : Value} {t : Text}
    (h : optionalStr runtime value = .ok (some t)) : stripText t = t ∧ t ≠ [] := by
  unfold optionalStr at h
  by_cases hnull : value.isNull = true
  · rw [if_pos hnull] at h
    cases h
  · rw [if_neg hnull] at h
    cases hstr : str runtime.printing value with
    | error e =>
      rw [hstr] at h
      cases h
    | ok raw =>
      rw [hstr] at h
      have hfound := Except.ok.inj h
      dsimp only at hfound
      split_ifs at hfound with hempty
      cases hfound
      exact ⟨stripText_stripText raw, hempty⟩

end FloodRisk.Adapters
