import FloodRisk.Lib.PythonValue
import Mathlib.Data.List.Lex

/-! # The order of texts -/

namespace Python

def CodePoint.code : CodePoint → ℕ
  | .scalar c => c.toNat
  | .surrogate n => 0xd800 + n

/-- The order of texts by code points. -/
def textLe (s t : Text) : Bool := decide (s.map CodePoint.code ≤ t.map CodePoint.code)

/-- `sorted`. -/
def sortTexts (texts : List Text) : List Text := texts.mergeSort textLe

theorem textLe_trans (s t u : Text) (hst : textLe s t = true) (htu : textLe t u = true) :
    textLe s u = true :=
  decide_eq_true (le_trans (of_decide_eq_true hst) (of_decide_eq_true htu))

theorem textLe_total (s t : Text) : (textLe s t || textLe t s) = true := by
  rw [Bool.or_eq_true]
  exact (le_total (s.map CodePoint.code) (t.map CodePoint.code)).imp decide_eq_true decide_eq_true

/-- Sorting sorted texts changes nothing. -/
theorem sortTexts_sortTexts (texts : List Text) : sortTexts (sortTexts texts) = sortTexts texts :=
  List.mergeSort_of_pairwise (List.pairwise_mergeSort textLe_trans textLe_total texts)

theorem sortTexts_perm (texts : List Text) : (sortTexts texts).Perm texts :=
  List.mergeSort_perm texts textLe

end Python
