import FloodRisk.Lib.UrlSplit

/-! # Percent-decoding (urllib.parse.unquote)

Escapes are bytes of UTF-8. A decoder of one state reads them; a code point that is not ASCII ends
what it has begun. -/

namespace Python

/-! ### The UTF-8 decoder -/

/-- A sequence of bytes that is not complete: how many are missing, and the range of the next. -/
structure Utf8Pending where
  missing : ℕ
  lower : ℕ
  upper : ℕ
  value : ℕ
  lower_ge : 128 ≤ lower

def begun (missing lower upper value : ℕ) (h : 128 ≤ lower) : Option Utf8Pending :=
  some ⟨missing, lower, upper, value, h⟩

/-- What the first byte of a sequence opens. -/
def utf8Lead (b : ℕ) : Option Utf8Pending :=
  if b < 0xc2 then none
  else if b < 0xe0 then begun 1 0x80 0xbf (b - 0xc0) (by omega)
  else if b = 0xe0 then begun 2 0xa0 0xbf 0 (by omega)
  else if b = 0xed then begun 2 0x80 0x9f 13 (by omega)
  else if b < 0xf0 then begun 2 0x80 0xbf (b - 0xe0) (by omega)
  else if b = 0xf0 then begun 3 0x90 0xbf 0 (by omega)
  else if b < 0xf4 then begun 3 0x80 0xbf (b - 0xf0) (by omega)
  else if b = 0xf4 then begun 3 0x80 0x8f 4 (by omega)
  else none

/-- Nothing stands for an error. -/
abbrev Decoded := List (Option CodePoint)

def utf8First (b : ℕ) : Decoded × Option Utf8Pending :=
  if b < 128 then ([some (.scalar (Char.ofNat b))], none)
  else
    match utf8Lead b with
    | some pending => ([], some pending)
    | none => ([none], none)

def utf8Step (b : ℕ) : Option Utf8Pending → Decoded × Option Utf8Pending
  | none => utf8First b
  | some pending =>
      if pending.lower ≤ b ∧ b ≤ pending.upper then
        let value := pending.value * 64 + (b - 0x80)
        if pending.missing ≤ 1 then ([some (.scalar (Char.ofNat value))], none)
        else ([], begun (pending.missing - 1) 0x80 0xbf value (by omega))
      else (none :: (utf8First b).1, (utf8First b).2)

/-- A byte, or a code point that is not ASCII. -/
abbrev UrlItem := ℕ ⊕ CodePoint

def decodeItems : Option Utf8Pending → List UrlItem → Decoded
  | none, [] => []
  | some _, [] => [none]
  | state, .inl b :: rest => (utf8Step b state).1 ++ decodeItems (utf8Step b state).2 rest
  | none, .inr c :: rest => some c :: decodeItems none rest
  | some _, .inr c :: rest => none :: some c :: decodeItems none rest

/-! ### Escapes -/

def escapedByte (high low : CodePoint) : Option ℕ := do
  let a ← digitOf high
  let b ← digitOf low
  return a * 16 + b

def plainItem : CodePoint → UrlItem
  | .scalar c => if c.toNat < 128 then .inl c.toNat else .inr (.scalar c)
  | .surrogate n => .inr (.surrogate n)

/-- `unquote_to_bytes`, with the code points that are not ASCII between the bytes. -/
def urlItems : Text → List UrlItem
  | [] => []
  | [c] => [plainItem c]
  | [c, d] => [plainItem c, plainItem d]
  | c :: high :: low :: rest =>
      if c = .scalar '%' then
        match escapedByte high low with
        | some b => .inl b :: urlItems rest
        | none => plainItem c :: urlItems (high :: low :: rest)
      else plainItem c :: urlItems (high :: low :: rest)

def unquoteItems (t : Text) : Decoded := decodeItems none (urlItems t)

/-- `unquote` with `errors="strict"`; nothing where it raises. -/
def unquoteStrict (t : Text) : Option Text := (unquoteItems t).mapM id

/-- `unquote`. -/
def unquote (t : Text) : Text := (unquoteItems t).map fun c => c.getD (.scalar '\ufffd')

/-- `parse_qsl`: a name without a value is left out. -/
def parseQsl (query : Text) : List (Text × Text) :=
  let plain := fun t : Text => unquote (t.map fun c => if c = .scalar '+' then .scalar ' ' else c)
  (query.splitOn (.scalar '&')).filterMap fun field =>
    match partition '=' field with
    | (name, some value) => if value = [] then none else some (plain name, plain value)
    | (_, none) => none

/-- Whether a `%` without two hexadecimal digits after it occurs. -/
def hasBareEscape : Text → Bool
  | [] => false
  | c :: rest =>
      (c = .scalar '%' &&
        match rest with
        | high :: low :: _ => (escapedByte high low).isNone
        | _ => true) || hasBareEscape rest

/-! ### Delimiters -/

theorem decodeItems_ascii {a : ℕ} (ha : a < 128) (items others : List UrlItem)
    (state : Option Utf8Pending) :
    decodeItems state (items ++ .inl a :: others) =
      decodeItems state items ++ some (.scalar (Char.ofNat a)) :: decodeItems none others := by
  have hfirst : utf8First a = ([some (.scalar (Char.ofNat a))], none) := by
    unfold utf8First
    rw [if_pos ha]
  induction items generalizing state with
  | nil =>
    cases state with
    | none =>
      show (utf8First a).1 ++ decodeItems (utf8First a).2 others = _
      rw [hfirst]
      rfl
    | some pending =>
      have hnot : ¬ (pending.lower ≤ a ∧ a ≤ pending.upper) := by
        have := pending.lower_ge
        omega
      show (utf8Step a (some pending)).1 ++ decodeItems (utf8Step a (some pending)).2 others = _
      rw [utf8Step, if_neg hnot, hfirst]
      rfl
  | cons item rest ih =>
    cases item with
    | inl b =>
      rw [List.cons_append, decodeItems, decodeItems, ih, List.append_assoc]
    | inr c =>
      cases state with
      | none =>
        rw [List.cons_append, decodeItems, decodeItems, ih, List.cons_append]
      | some pending =>
        rw [List.cons_append, decodeItems, decodeItems, ih, List.cons_append, List.cons_append]

/-- Not a part of an escape. -/
structure IsDelimiter (c : CodePoint) : Prop where
  ne_percent : c ≠ .scalar '%'
  no_digit : digitOf c = none

theorem escapedByte_left {c d : CodePoint} (h : digitOf c = none) : escapedByte c d = none := by
  unfold escapedByte
  rw [h]
  rfl

theorem escapedByte_right {c d : CodePoint} (h : digitOf d = none) : escapedByte c d = none := by
  unfold escapedByte
  rw [h]
  cases digitOf c <;> rfl

theorem urlItems_cons {c : CodePoint} (h : c ≠ .scalar '%') (t : Text) :
    urlItems (c :: t) = plainItem c :: urlItems t := by
  cases t with
  | nil => rfl
  | cons d t =>
    cases t with
    | nil => rfl
    | cons e t => rw [urlItems, if_neg h]

theorem urlItems_bare {high low : CodePoint} {rest : Text} (h : escapedByte high low = none) :
    urlItems (.scalar '%' :: high :: low :: rest) =
      plainItem (.scalar '%') :: urlItems (high :: low :: rest) := by
  rw [urlItems, if_pos rfl, h]

theorem urlItems_append {c : CodePoint} (h : IsDelimiter c) (t rest : Text) :
    urlItems (t ++ c :: rest) = urlItems t ++ plainItem c :: urlItems rest := by
  induction t using urlItems.induct with
  | case1 => exact urlItems_cons h.ne_percent rest
  | case2 d =>
    by_cases hd : d = .scalar '%'
    · rw [hd]
      show urlItems (.scalar '%' :: c :: rest) = _
      cases rest with
      | nil => rfl
      | cons e rest =>
        rw [urlItems_bare (escapedByte_left h.no_digit), urlItems_cons h.ne_percent]
        rfl
    · show urlItems (d :: c :: rest) = _
      rw [urlItems_cons hd, urlItems_cons h.ne_percent]
      rfl
  | case3 d e =>
    show urlItems (d :: e :: c :: rest) = _
    have htail : urlItems (e :: c :: rest) = plainItem e :: plainItem c :: urlItems rest := by
      by_cases he : e = .scalar '%'
      · rw [he]
        cases rest with
        | nil => rfl
        | cons f rest =>
          rw [urlItems_bare (escapedByte_left h.no_digit), urlItems_cons h.ne_percent]
      · rw [urlItems_cons he, urlItems_cons h.ne_percent]
    by_cases hd : d = .scalar '%'
    · rw [hd, urlItems_bare (escapedByte_right h.no_digit), htail]
      rfl
    · rw [urlItems_cons hd, htail]
      rfl
  | case4 high low t b hb ih =>
    show urlItems (.scalar '%' :: high :: low :: (t ++ c :: rest)) = _
    rw [urlItems, if_pos rfl, hb, urlItems, if_pos rfl, hb]
    dsimp only
    rw [ih]
    rfl
  | case5 high low t hnone ih =>
    show urlItems (.scalar '%' :: high :: low :: (t ++ c :: rest)) = _
    rw [urlItems_bare hnone, urlItems_bare hnone]
    show plainItem _ :: urlItems ((high :: low :: t) ++ c :: rest) = _
    rw [ih]
    rfl
  | case6 d high low t hd ih =>
    show urlItems (d :: ((high :: low :: t) ++ c :: rest)) = _
    rw [urlItems_cons hd, urlItems_cons hd, ih]
    rfl

theorem unquote_append {c : Char} (hascii : c.toNat < 128) (h : IsDelimiter (.scalar c))
    (t rest : Text) : unquote (t ++ .scalar c :: rest) = unquote t ++ .scalar c :: unquote rest := by
  have hitem : plainItem (.scalar c) = .inl c.toNat := if_pos hascii
  unfold unquote unquoteItems
  rw [urlItems_append h, hitem, decodeItems_ascii hascii, List.map_append, List.map_cons,
    Char.ofNat_toNat]
  rfl

theorem unquote_of_no_escape {t : Text} (h : CodePoint.scalar '%' ∉ t) : unquote t = t := by
  have hitems : decodeItems none (urlItems t) = t.map some := by
    induction t with
    | nil => rfl
    | cons c rest ih =>
      have hrest := ih fun hmem => h (List.mem_cons_of_mem c hmem)
      have hc : c ≠ .scalar '%' := by
        rintro rfl
        exact h List.mem_cons_self
      rw [urlItems_cons hc, List.map_cons, ← hrest]
      cases c with
      | surrogate n => rfl
      | scalar c =>
        unfold plainItem
        dsimp only
        split_ifs with hascii
        · show (utf8First c.toNat).1 ++ decodeItems (utf8First c.toNat).2 (urlItems rest) = _
          unfold utf8First
          rw [if_pos hascii, Char.ofNat_toNat]
          rfl
        · rfl
  unfold unquote unquoteItems
  rw [hitems, List.map_map]
  exact List.map_id t

/-- Where the strict decoder returns, the other returns the same. -/
theorem unquote_of_strict {t decoded : Text} (h : unquoteStrict t = some decoded) :
    unquote t = decoded := by
  unfold unquoteStrict at h
  unfold unquote
  generalize unquoteItems t = items at h ⊢
  induction items generalizing decoded with
  | nil =>
    cases h
    rfl
  | cons item rest ih =>
    rw [List.mapM_cons] at h
    cases item with
    | none => cases h
    | some c =>
      cases hrest : rest.mapM id with
      | none =>
        rw [hrest] at h
        cases h
      | some others =>
        rw [hrest] at h
        cases h
        rw [List.map_cons, ih hrest]
        rfl

end Python
