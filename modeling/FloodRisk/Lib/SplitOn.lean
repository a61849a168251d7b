import Mathlib.Data.String.Basic

/-! # Splitting a text at a character

`String.splitOn` at a text of one character splits the list of characters. -/

namespace SplitOn
open String

/-- The scan stands after `m`, which it keeps for the current part. -/
theorem splitOnAux_singleton (c : Char) (r l m : List Char) (parts : List String) :
    splitOnAux (ofList (l ++ (m ++ r))) (ofList [c]) ⟨utf8Len l⟩ ⟨utf8Len l + utf8Len m⟩ 0 parts =
      parts.reverse ++ (List.splitOnPPrepend (· == c) r m.reverse).map ofList := by
  induction r generalizing l m parts with
  | nil =>
      have hend : Pos.Raw.atEnd (ofList (l ++ (m ++ []))) ⟨utf8Len l + utf8Len m⟩ = true := by
        simp [atEnd_iff, -ofList_append, rawEndPos_ofList]
      have hpart : Pos.Raw.extract (ofList (l ++ (m ++ []))) ⟨utf8Len l⟩
          ⟨utf8Len l + utf8Len m⟩ = ofList m := by
        simpa [-ofList_append] using extract_of_valid l m []
      rw [splitOnAux.eq_def, if_pos hend]
      simp only [hpart, List.splitOnPPrepend_nil, List.reverse_reverse, List.map_cons, List.map_nil,
        List.reverse_cons]
  | cons d r ih =>
      have hend : ¬ Pos.Raw.atEnd (ofList (l ++ (m ++ d :: r))) ⟨utf8Len l + utf8Len m⟩ = true := by
        simpa [-ofList_append] using atEnd_of_valid (l ++ m) (d :: r)
      have hget : Pos.Raw.get (ofList (l ++ (m ++ d :: r))) ⟨utf8Len l + utf8Len m⟩ = d := by
        simpa [-ofList_append] using get_of_valid (l ++ m) (d :: r)
      have hnext : Pos.Raw.next (ofList (l ++ (m ++ d :: r))) ⟨utf8Len l + utf8Len m⟩ =
          ⟨utf8Len l + utf8Len m + d.utf8Size⟩ := by
        simpa [-ofList_append] using next_of_valid (l ++ m) d r
      have hsep : Pos.Raw.get (ofList [c]) 0 = c := get_of_valid [] [c]
      have hsepNext : Pos.Raw.next (ofList [c]) 0 = ⟨c.utf8Size⟩ := by
        simpa using next_of_valid [] c []
      have hsepEnd : Pos.Raw.atEnd (ofList [c]) ⟨c.utf8Size⟩ = true := by
        simpa using atEnd_of_valid [c] []
      rw [splitOnAux.eq_def, if_neg hend]
      simp only [hget, hnext, hsep, hsepNext, hsepEnd, beq_iff_eq, if_true]
      by_cases hd : d = c
      · rw [if_pos hd]
        have hback : (⟨utf8Len l + utf8Len m + d.utf8Size⟩ : Pos.Raw).unoffsetBy ⟨c.utf8Size⟩ =
            ⟨utf8Len l + utf8Len m⟩ := by
          rw [hd]
          simp [Pos.Raw.unoffsetBy]
        have hpart : Pos.Raw.extract (ofList (l ++ (m ++ d :: r))) ⟨utf8Len l⟩
            ⟨utf8Len l + utf8Len m⟩ = ofList m := by
          simpa [-ofList_append] using extract_of_valid l m (d :: r)
        have hstep := ih (l ++ (m ++ [d])) [] (ofList m :: parts)
        rw [hback, hpart, List.splitOnPPrepend_cons_pos (by simpa using hd)]
        simpa [-ofList_append, Nat.add_assoc] using hstep
      · rw [if_neg hd]
        have hstay : (⟨utf8Len l + utf8Len m⟩ : Pos.Raw).unoffsetBy 0 = ⟨utf8Len l + utf8Len m⟩ := by
          simp [Pos.Raw.unoffsetBy]
        have hstep := ih l (m ++ [d]) parts
        rw [hstay, hnext, List.splitOnPPrepend_cons_neg (by simpa using hd)]
        simpa [-ofList_append, Nat.add_assoc] using hstep

theorem splitOn_singleton (text : String) (c : Char) :
    text.splitOn (ofList [c]) = (text.toList.splitOnP (· == c)).map ofList := by
  have hsep : (ofList [c] == "") = false := by
    rw [beq_eq_false_iff_ne]
    intro h
    have hnil := congrArg String.toList h
    simp at hnil
  have hscan := splitOnAux_singleton c text.toList [] [] []
  rw [List.nil_append, List.nil_append, ofList_toList] at hscan
  rw [String.splitOn.eq_def]
  simp only [hsep, Bool.false_eq_true, if_false]
  exact hscan

end SplitOn
