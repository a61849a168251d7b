import FloodRisk.Geocoding.Normalization
import Mathlib.Logic.Relation

/-!
# One spelling for all of them

A text without its separators, with 台 for 臺 and digits before 段. The rewrites of an
address keep it, and lead to it.
-/

namespace FloodRisk.Geocoding
open Replace

def asTai (c : Char) : Char := if c = '臺' then '台' else c

/-- The numerals directly before 段 written with their digits. -/
def toDigits (digits : Char → Option Text) : Text → Text
  | [] => []
  | c :: rest =>
      (if rest.head? = some '段' then (digits c).getD [c] else [c]) ++ toDigits digits rest

def digitsOf (c : Char) : Option Text := sectionDigits.lookup c

def spelling (drop : Char → Bool) (value : Text) : Text :=
  toDigits digitsOf ((value.filter fun c => !drop c).map asTai)

/-- The letters that the rewrites read or write. -/
def plainLetters : List Char := "臺台段一二三四五六七八九十0123456789".toList

/-- One replacement, of every occurrence. -/
inductive Rewrite : Text → Text → Prop where
  | toTai (s : Text) : Rewrite s (replaceAll ['臺'] ['台'] s)
  | toTraditional (s : Text) : Rewrite s (replaceAll ['台'] ['臺'] s)
  | toDigits (s : Text) {entry : Char × Text} : entry ∈ sectionDigits →
      Rewrite s (replaceAll (entry.1 :: ['段']) (entry.2 ++ ['段']) s)
  | toNumeral (s : Text) {entry : Char × Text} : entry ∈ sectionDigits →
      Rewrite s (replaceAll (entry.2 ++ ['段']) (entry.1 :: ['段']) s)

variable {drop : Char → Bool} {s t x l : Text} {c : Char} {d : Text}
  {digits : Char → Option Text}

/-! ### The table of numerals -/

theorem sectionDigits_keys : (sectionDigits.map Prod.fst).Nodup := by decide

theorem sectionDigits_entry : ∀ entry ∈ sectionDigits, entry.1 ∈ plainLetters ∧
    entry.1 ≠ '段' ∧ asTai entry.1 = entry.1 ∧ digitsOf entry.1 = some entry.2 ∧
      entry.2 ≠ [] ∧ entry.2.head? ≠ some '段' := by decide

theorem sectionDigits_digits : ∀ entry ∈ sectionDigits, ∀ a ∈ entry.2,
    a ∈ plainLetters ∧ asTai a = a ∧ digitsOf a = none := by
  have hall : sectionDigits.all (fun entry => entry.2.all fun a =>
      a ∈ plainLetters ∧ asTai a = a ∧ digitsOf a = none) = true := by decide
  intro entry hentry a ha
  exact of_decide_eq_true (List.all_eq_true.mp (List.all_eq_true.mp hall entry hentry) a ha)

theorem sectionDigits_apart : ∀ entry ∈ sectionDigits, ∀ other ∈ sectionDigits,
    entry.1 ∉ other.2 := by decide

theorem mem_of_lookup {table : List (Char × Text)} (h : table.lookup c = some d) :
    (c, d) ∈ table := by
  obtain ⟨front, back, rfl, -⟩ := List.lookup_eq_some_iff.mp h
  exact List.mem_append_right _ List.mem_cons_self

/-! ### Letter by letter -/

/-- What is known of numerals: none is 段, and none is written with nothing or with 段. -/
def Digits (digits : Char → Option Text) : Prop :=
  ∀ a e, digits a = some e → a ≠ '段' ∧ e ≠ [] ∧ e.head? ≠ some '段'

theorem digits_of_table {front back : List (Char × Text)} (h : front ++ back = sectionDigits) :
    Digits fun a => front.lookup a := by
  intro a e hlookup
  have hmem : (a, e) ∈ sectionDigits := h ▸ List.mem_append_left _ (mem_of_lookup hlookup)
  obtain ⟨-, hne, -, -, hdigits⟩ := sectionDigits_entry _ hmem
  exact ⟨hne, hdigits⟩

theorem head_toDigits (h : Digits digits) (l : Text) :
    (toDigits digits l).head? = some '段' ↔ l.head? = some '段' := by
  cases l with
  | nil => exact Iff.rfl
  | cons a l =>
    unfold toDigits
    split_ifs with hsection
    · cases hdigits : digits a with
      | none => simp
      | some e =>
        obtain ⟨hne, hnil, hhead⟩ := h a e hdigits
        rw [Option.getD_some, List.head?_append_of_ne_nil _ hnil]
        exact iff_of_false hhead (by simpa using hne)
    · simp

theorem digits_digitsOf : Digits digitsOf :=
  digits_of_table (List.append_nil sectionDigits)

/-- How a letter is written before the rest of a spelling. -/
def letter (c : Char) (after : Text) : Text :=
  if after.head? = some '段' then (digitsOf (asTai c)).getD [asTai c] else [asTai c]

theorem spelling_cons_dropped (h : drop c = true) : spelling drop (c :: l) = spelling drop l := by
  simp [spelling, h]

theorem spelling_cons_kept (h : drop c = false) :
    spelling drop (c :: l) = letter c (spelling drop l) ++ spelling drop l := by
  have hhead := head_toDigits digits_digitsOf ((l.filter fun c => !drop c).map asTai)
  simp only [spelling, List.filter_cons, h, Bool.not_false, if_true, List.map_cons, toDigits,
    letter, hhead]

/-- A letter that is no numeral of a section. -/
theorem letter_eq_self {after : Text}
    (h : ¬ (after.head? = some '段' ∧ ∃ e, digitsOf (asTai c) = some e)) :
    letter c after = [asTai c] := by
  unfold letter
  split_ifs with hhead
  · cases hdigits : digitsOf (asTai c) with
    | none => rfl
    | some e => exact absurd ⟨hhead, e, hdigits⟩ h
  · rfl

theorem letter_ne_nil (c : Char) (after : Text) : letter c after ≠ [] := by
  unfold letter
  split_ifs
  · cases hdigits : digitsOf (asTai c) with
    | none => simp
    | some e => exact (digits_digitsOf _ _ hdigits).2.1
  · simp

theorem spelling_append_congr (x : Text) (h : spelling drop s = spelling drop t) :
    spelling drop (x ++ s) = spelling drop (x ++ t) := by
  induction x with
  | nil => exact h
  | cons c x ih =>
    cases hdrop : drop c with
    | true => rw [List.cons_append, List.cons_append, spelling_cons_dropped hdrop,
        spelling_cons_dropped hdrop, ih]
    | false => rw [List.cons_append, List.cons_append, spelling_cons_kept hdrop,
        spelling_cons_kept hdrop, ih]

theorem spelling_dropped_append (hx : ∀ c ∈ x, drop c = true) :
    spelling drop (x ++ s) = spelling drop s := by
  induction x with
  | nil => rfl
  | cons c x ih =>
    rw [List.cons_append, spelling_cons_dropped (hx c List.mem_cons_self)]
    exact ih fun a ha => hx a (List.mem_cons_of_mem _ ha)

/-! ### The rewrites keep the spelling -/

theorem spelling_replaceAll {old new : Text} (hold : old ≠ [])
    (hsame : ∀ l, spelling drop (new ++ l) = spelling drop (old ++ l)) (l : Text) :
    spelling drop (replaceAll old new l) = spelling drop l := by
  induction l using Replace.induction_on hold with
  | hnil => rfl
  | hword l ih =>
    rw [replaceAll_append hold, spelling_append_congr new ih, hsame]
  | hletter a l hprefix ih =>
    rw [replaceAll_cons hprefix]
    exact spelling_append_congr [a] ih

section Keeps

variable (hdrop : ∀ c ∈ plainLetters, drop c = false)
include hdrop

theorem spelling_digits {entry : Char × Text} (h : entry ∈ sectionDigits) :
    spelling drop (entry.2 ++ l) = entry.2 ++ spelling drop l := by
  have hdigits := sectionDigits_digits entry h
  revert hdigits
  induction entry.2 with
  | nil => exact fun _ => rfl
  | cons a e ih =>
    intro hdigits
    obtain ⟨hplain, htai, hnone⟩ := hdigits a List.mem_cons_self
    have hletter : letter a (spelling drop (e ++ l)) = [a] := by
      unfold letter
      rw [htai, hnone]
      split_ifs <;> rfl
    rw [List.cons_append, spelling_cons_kept (hdrop a hplain), hletter,
      ih fun b hb => hdigits b (List.mem_cons_of_mem _ hb)]
    rfl

theorem spelling_section : spelling drop ('段' :: l) = '段' :: spelling drop l := by
  rw [spelling_cons_kept (hdrop '段' (by decide))]
  have hletter : letter '段' (spelling drop l) = ['段'] := by
    unfold letter
    split_ifs <;> rfl
  rw [hletter]
  rfl

theorem spelling_numeral {entry : Char × Text} (h : entry ∈ sectionDigits) :
    spelling drop (entry.1 :: '段' :: l) = entry.2 ++ '段' :: spelling drop l := by
  obtain ⟨hplain, -, htai, hdigits, -⟩ := sectionDigits_entry entry h
  rw [spelling_cons_kept (hdrop _ hplain), spelling_section hdrop]
  unfold letter
  rw [htai, hdigits]
  rfl

theorem spelling_tai : spelling drop ('台' :: l) = spelling drop ('臺' :: l) := by
  rw [spelling_cons_kept (hdrop '台' (by decide)), spelling_cons_kept (hdrop '臺' (by decide))]
  rfl

theorem spelling_of_rewrite (h : Rewrite s t) : spelling drop t = spelling drop s := by
  have htai : ∀ l, spelling drop (['台'] ++ l) = spelling drop (['臺'] ++ l) :=
    fun _ => spelling_tai hdrop
  have hsection : ∀ entry ∈ sectionDigits, ∀ l, spelling drop (entry.2 ++ ['段'] ++ l) =
      spelling drop (entry.1 :: ['段'] ++ l) := by
    intro entry hentry l
    rw [List.append_assoc, spelling_digits hdrop hentry]
    exact (congrArg _ (spelling_section hdrop)).trans (spelling_numeral hdrop hentry).symm
  cases h with
  | toTai => exact spelling_replaceAll (List.cons_ne_nil _ _) htai s
  | toTraditional =>
    exact spelling_replaceAll (List.cons_ne_nil _ _) (fun l => (htai l).symm) s
  | toDigits hentry =>
    exact spelling_replaceAll (List.cons_ne_nil _ _) (hsection _ hentry) s
  | toNumeral hentry =>
    exact spelling_replaceAll (by simp) (fun l => (hsection _ hentry l).symm) s

theorem spelling_of_rewrites (h : Relation.ReflTransGen Rewrite s t) :
    spelling drop t = spelling drop s := by
  induction h with
  | refl => rfl
  | tail _ hrewrite ih => exact (spelling_of_rewrite hdrop hrewrite).trans ih

end Keeps

/-! ### The rewrites lead to digits -/

theorem replaceAll_toDigits (h : Digits digits) (hc : c ≠ '段') (hnew : digits c = none)
    (hapart : ∀ a e, digits a = some e → c ∉ e) (l : Text) :
    replaceAll (c :: ['段']) (d ++ ['段']) (toDigits digits l) =
      toDigits (fun a => if a = c then some d else digits a) l := by
  induction l with
  | nil => rfl
  | cons a l ih =>
    have hhead := head_toDigits h l
    unfold toDigits
    by_cases hsection : l.head? = some '段'
    · rw [if_pos hsection, if_pos hsection]
      by_cases hac : a = c
      · subst hac
        obtain ⟨l', hl'⟩ := List.head?_eq_some_iff.mp (hhead.mpr hsection)
        rw [hnew, if_pos rfl, ← ih, hl', Option.getD_none, Option.getD_some]
        have hword : replaceAll (a :: ['段']) (d ++ ['段']) ((a :: ['段']) ++ l') =
            d ++ ['段'] ++ replaceAll (a :: ['段']) (d ++ ['段']) l' :=
          replaceAll_append (List.cons_ne_nil _ _)
        have hrest : replaceAll (a :: ['段']) (d ++ ['段']) ('段' :: l') =
            '段' :: replaceAll (a :: ['段']) (d ++ ['段']) l' := by
          apply replaceAll_cons
          intro hp
          exact hc (List.cons_prefix_cons.mp hp).1
        rw [hrest]
        simpa using hword
      · rw [if_neg hac, ← ih]
        apply replaceAll_apart
        cases hdigits : digits a with
        | none => simpa using Ne.symm hac
        | some e => exact hapart a e hdigits
    · rw [if_neg hsection, if_neg hsection, ← ih]
      apply replaceAll_cons
      intro hp
      obtain ⟨tail, htail⟩ : ['段'] <+: toDigits digits l := (List.cons_prefix_cons.mp hp).2
      apply hsection
      apply hhead.mp
      rw [← htail]
      rfl

/-- The replacements by digits, in the order of the table, write every numeral with digits. -/
theorem foldl_toDigits (x : Text) (front back : List (Char × Text))
    (h : front ++ back = sectionDigits) :
    front.foldl (fun text entry =>
      replaceAll (entry.1 :: ['段']) (entry.2 ++ ['段']) text) x =
        toDigits (fun a => front.lookup a) x := by
  induction front using List.reverseRecOn generalizing back with
  | nil =>
    induction x with
    | nil => rfl
    | cons a x ih => simpa [toDigits] using ih
  | append_singleton front entry ih =>
    have hfront : front ++ (entry :: back) = sectionDigits := by simpa using h
    have hentry : entry ∈ sectionDigits := hfront ▸ by simp
    have hmem : ∀ p ∈ front, p ∈ sectionDigits := by
      intro p hp
      exact hfront ▸ List.mem_append_left _ hp
    have hnew : front.lookup entry.1 = none := by
      cases hlookup : front.lookup entry.1 with
      | none => rfl
      | some e =>
        have hkeys := sectionDigits_keys
        rw [← hfront, List.map_append, List.map_cons] at hkeys
        have hkey := List.mem_map_of_mem (f := Prod.fst) (mem_of_lookup hlookup)
        exact absurd rfl ((List.nodup_append.mp hkeys).2.2 _ hkey _ List.mem_cons_self)
    rw [List.foldl_append, List.foldl_cons, List.foldl_nil, ih (entry :: back) hfront,
      replaceAll_toDigits (digits_of_table hfront) (sectionDigits_entry entry hentry).2.1 hnew
        fun a e he => sectionDigits_apart entry hentry (a, e) (hmem _ (mem_of_lookup he))]
    have htable : (fun a => if a = entry.1 then some entry.2 else front.lookup a) =
        fun a => (front ++ [entry]).lookup a := by
      funext a
      rw [List.lookup_append]
      by_cases ha : a = entry.1
      · rw [if_pos ha, ha, hnew]
        exact List.lookup_cons_self.symm
      · have hnone : [entry].lookup a = none := by
          rw [List.lookup_cons, beq_false_of_ne ha]
          rfl
        rw [if_neg ha, hnone, Option.or_none]
    rw [htable]

theorem rewrites_to_digits (x : Text) :
    Relation.ReflTransGen Rewrite x (toDigits digitsOf x) := by
  have hfold : ∀ table : List (Char × Text), (∀ entry ∈ table, entry ∈ sectionDigits) → ∀ x,
      Relation.ReflTransGen Rewrite x (table.foldl (fun text entry =>
        replaceAll (entry.1 :: ['段']) (entry.2 ++ ['段']) text) x) := by
    intro table htable
    induction table with
    | nil => exact fun x => .refl
    | cons entry table ih =>
      intro x
      have hfirst := Rewrite.toDigits x (htable entry List.mem_cons_self)
      exact .head hfirst (ih (fun e he => htable e (List.mem_cons_of_mem _ he)) _)
  have hdigits := foldl_toDigits x sectionDigits [] (List.append_nil _)
  unfold digitsOf
  rw [← hdigits]
  exact hfold sectionDigits (fun _ h => h) x

end FloodRisk.Geocoding
