import FloodRisk.Lib.UrlSplit

/-! # IP addresses and networks (ipaddress)

Nothing is returned where a constructor raises `ValueError`. -/

namespace Python

inductive IpAddress where
  | v4 (value : ℕ)
  | v6 (value : ℕ) (scope : Option Text)
  deriving DecidableEq

/-! ### Numbers -/

/-- The number that a group of digits starts with, the first the highest. -/
def ofGroups (base : ℕ) (groups : List ℕ) : ℕ := groups.foldl (fun n group => n * base + group) 0

def number (base : ℕ) (t : Text) : Option ℕ :=
  if t = [] then none
  else (t.mapM fun c => (digitOf c).filter (· < base)).map (ofGroups base)

/-! ### Addresses -/

/-- `_parse_octet`: no leading zeros. -/
def octet (t : Text) : Option ℕ :=
  if 3 < t.length ∨ t ≠ text "0" ∧ t.head? = some (.scalar '0') then none
  else (number 10 t).filter (· ≤ 255)

/-- `_ip_int_from_string` of version 4. -/
def ipv4Value (t : Text) : Option ℕ :=
  let octets := t.splitOn (.scalar '.')
  if octets.length = 4 then (octets.mapM octet).map (ofGroups 256) else none

/-- `_parse_hextet`. -/
def hextet (t : Text) : Option ℕ := if 4 < t.length then none else number 16 t

def hexText (n : ℕ) : Text := (Nat.toDigits 16 n).map .scalar

/-- The parts between colons, with an address of version 4 at the end as two of them. -/
def ipv6Parts (t : Text) : Option (List Text) :=
  let parts := t.splitOn (.scalar ':')
  if parts.length < 3 then none
  else if CodePoint.scalar '.' ∈ parts.getLastD [] then
    (ipv4Value (parts.getLastD [])).map fun n =>
      parts.dropLast ++ [hexText (n / 2 ^ 16), hexText (n % 2 ^ 16)]
  else some parts

/-- The parts on one side of `::`, whose outer part is only empty where it is the only one. -/
def besideSkip (outer : Text) (side : List Text) : Option (List Text) :=
  if outer = [] then if side.length = 1 then some [] else none else some side

/-- `_ip_int_from_string` of version 6. -/
def ipv6Value (t : Text) : Option ℕ := do
  let parts ← ipv6Parts t
  let inner := parts.tail.dropLast
  if 9 < parts.length ∨ 1 < inner.count [] then none
  else if [] ∈ inner then
    let skip := inner.idxOf [] + 1
    let front ← besideSkip (parts.headD []) (parts.take skip)
    let back ← besideSkip (parts.getLastD []) (parts.drop (skip + 1))
    if 8 ≤ front.length + back.length then none
    else
      let high ← front.mapM hextet
      let low ← back.mapM hextet
      return ofGroups (2 ^ 16) (high ++ List.replicate (8 - (high.length + low.length)) 0 ++ low)
  else if parts.length = 8 then (parts.mapM hextet).map (ofGroups (2 ^ 16))
  else none

/-- `_split_scope_id`. -/
def splitScope (t : Text) : Option (Text × Option Text) :=
  match partition '%' t with
  | (address, none) => some (address, none)
  | (address, some scope) =>
      if scope = [] ∨ CodePoint.scalar '%' ∈ scope then none else some (address, some scope)

/-- `IPv6Address`. -/
def ipv6Address (t : Text) : Option (ℕ × Option Text) := do
  let (address, scope) ← splitScope t
  let value ← ipv6Value address
  return (value, scope)

/-- `ip_address`. -/
def ipAddress (t : Text) : Option IpAddress :=
  if CodePoint.scalar '/' ∈ t then none
  else ((ipv4Value t).map .v4).or ((ipv6Address t).map fun found => .v6 found.1 found.2)

/-- A character that does not split a text stands in one of its parts. -/
theorem exists_mem_splitOn {c separator : CodePoint} (hne : c ≠ separator) {t : Text} (h : c ∈ t) :
    ∃ part ∈ t.splitOn separator, c ∈ part := by
  rw [List.splitOn_eq_splitOnP]
  induction t with
  | nil => cases h
  | cons d t ih =>
    rw [List.splitOnP_cons_eq_if_modifyHead]
    split_ifs with hd
    · rcases List.mem_cons.mp h with rfl | h
      · exact absurd (eq_of_beq hd) hne
      · obtain ⟨part, hpart, hc⟩ := ih h
        exact ⟨part, List.mem_cons_of_mem _ hpart, hc⟩
    · obtain ⟨first, others, hparts⟩ :=
        List.exists_cons_of_ne_nil (List.splitOnP_ne_nil (· == separator) t)
      rw [hparts] at ih ⊢
      rcases List.mem_cons.mp h with rfl | h
      · exact ⟨c :: first, List.mem_cons_self, List.mem_cons_self⟩
      · obtain ⟨part, hpart, hc⟩ := ih h
        rcases List.mem_cons.mp hpart with rfl | hpart
        · exact ⟨d :: part, List.mem_cons_self, List.mem_cons_of_mem d hc⟩
        · exact ⟨part, List.mem_cons_of_mem _ hpart, hc⟩

theorem mapM_eq_none {α β : Type} {f : α → Option β} {l : List α} {a : α} (h : a ∈ l)
    (hnone : f a = none) : l.mapM f = none := by
  induction l with
  | nil => cases h
  | cons first rest ih =>
    rw [List.mapM_cons]
    rcases List.mem_cons.mp h with rfl | h
    · rw [hnone]
      rfl
    · rw [ih h]
      cases f first <;> rfl

theorem ipv4Value_eq_none {t : Text} (h : CodePoint.scalar '%' ∈ t) : ipv4Value t = none := by
  obtain ⟨part, hpart, hmem⟩ := exists_mem_splitOn (by decide : _ ≠ CodePoint.scalar '.') h
  have hdigit : (digitOf (.scalar '%')).filter (· < 10) = none := by decide
  have hnumber : number 10 part = none := by
    unfold number
    split_ifs
    · rfl
    · rw [mapM_eq_none hmem hdigit]
      rfl
  have hoctet : octet part = none := by
    unfold octet
    split_ifs
    · rfl
    · rw [hnumber]
      rfl
  unfold ipv4Value
  dsimp only
  split_ifs
  · rw [mapM_eq_none hpart hoctet]
    rfl
  · rfl

theorem ipv6Value_eq_none {t : Text} (h : CodePoint.scalar ':' ∉ t) : ipv6Value t = none := by
  have hone : t.splitOn (.scalar ':') = [t] := by
    rw [List.splitOn_eq_splitOnP]
    apply List.splitOnP_eq_singleton
    rintro c hc
    rw [beq_eq_false_iff_ne]
    rintro rfl
    exact h hc
  have hparts : ipv6Parts t = none := by
    unfold ipv6Parts
    rw [hone]
    rfl
  unfold ipv6Value
  rw [hparts]
  rfl

/-- An escape stands in no address but in the zone of one of version 6. -/
theorem ipAddress_eq_none {t : Text} (hescape : CodePoint.scalar '%' ∈ t)
    (hcolon : CodePoint.scalar ':' ∉ t) : ipAddress t = none := by
  have hnot : CodePoint.scalar ':' ∉ (partition '%' t).1 :=
    fun hmem => hcolon (List.takeWhile_prefix _ |>.subset hmem)
  have hsix : ipv6Address t = none := by
    unfold ipv6Address
    cases hscope : splitScope t with
    | none => rfl
    | some found =>
      have haddress : found.1 = (partition '%' t).1 := by
        unfold splitScope at hscope
        split at hscope
        · rename_i hpartition
          cases hscope
          rw [hpartition]
        · rename_i hpartition
          split_ifs at hscope
          cases hscope
          rw [hpartition]
      show (ipv6Value found.1).bind _ = none
      rw [haddress, ipv6Value_eq_none hnot]
      rfl
  unfold ipAddress
  split_ifs
  · rfl
  · rw [ipv4Value_eq_none hescape, hsix]
    rfl

/-! ### Networks -/

/-- The addresses of a version that agree before their host bits. -/
structure IpNetwork where
  isV6 : Bool
  hostBits : ℕ
  upper : ℕ

def IpNetwork.contains (network : IpNetwork) : IpAddress → Bool
  | .v4 value => !network.isV6 && value / 2 ^ network.hostBits = network.upper
  | .v6 value _ => network.isV6 && value / 2 ^ network.hostBits = network.upper

/-- The host bits of `_prefix_from_prefix_string`. -/
def hostBitsOfLength (width : ℕ) (t : Text) : Option ℕ :=
  ((number 10 t).filter (· ≤ width)).map (width - ·)

/-- The host bits of a mask in dotted form, or of its complement. -/
def hostBitsOfMask (mask : ℕ) : Option ℕ :=
  ((List.range 33).find? fun bits => mask = 2 ^ 32 - 2 ^ bits).or
    ((List.range 33).find? fun bits => mask = 2 ^ bits - 1)

/-- `IPv4Network`, with host bits that are set. -/
def ipv4Network (address : Text) (mask : Option Text) : Option IpNetwork := do
  let value ← ipv4Value address
  let bits ←
    match mask with
    | none => some 0
    | some t => (hostBitsOfLength 32 t).or ((ipv4Value t).bind hostBitsOfMask)
  return ⟨false, bits, value / 2 ^ bits⟩

/-- `IPv6Network`. -/
def ipv6Network (address : Text) (mask : Option Text) : Option IpNetwork := do
  let (value, _) ← ipv6Address address
  let bits ←
    match mask with
    | none => some 0
    | some t => hostBitsOfLength 128 t
  return ⟨true, bits, value / 2 ^ bits⟩

/-- `ip_network` with `strict=False`. -/
def ipNetwork (t : Text) : Option IpNetwork :=
  match t.splitOn (.scalar '/') with
  | [address] => (ipv4Network address none).or (ipv6Network address none)
  | [address, mask] => (ipv4Network address (some mask)).or (ipv6Network address (some mask))
  | _ => none

end Python
