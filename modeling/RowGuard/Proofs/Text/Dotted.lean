import RowGuard.Text.CharClass

/-! Dotted texts. The parts of a text make up the text, and parts without a dot
are found again. -/

set_option autoImplicit false

namespace RowGuard.Text

theorem toList_joinWith (separator first : String) (more : List String) :
    (joinWith separator (first :: more)).toList =
      first.toList ++ (more.map String.toList).flatMap (separator.toList ++ ·) := by
  induction more generalizing first with
  | nil => simp [joinWith]
  | cons next more ih => simp [joinWith, ih]

theorem exists_splitAtEach (sep : Char) (cs : List Char) :
    ∃ piece pieces, splitAtEach sep cs = piece :: pieces ∧
      piece ++ pieces.flatMap ([sep] ++ ·) = cs := by
  induction cs with
  | nil => exact ⟨[], [], rfl, rfl⟩
  | cons c rest ih =>
      obtain ⟨piece, pieces, split, joined⟩ := ih
      rw [splitAtEach, split]
      split
      · rename_i same
        rw [beq_iff_eq] at same
        subst same
        exact ⟨[], piece :: pieces, rfl, by simp [← joined]⟩
      · exact ⟨c :: piece, pieces, rfl, by simp [← joined]⟩

theorem exists_dottedParts (name : String) :
    ∃ first more, dottedParts name = first :: more ∧ joinWith "." (first :: more) = name := by
  obtain ⟨piece, pieces, split, joined⟩ := exists_splitAtEach '.' name.toList
  refine ⟨String.ofList piece, pieces.map String.ofList, ?_, ?_⟩
  · rw [dottedParts, split]
    rfl
  · rw [← String.toList_inj, toList_joinWith, ← joined]
    simp [Function.comp_def]

theorem not_mem_of_mem_splitAtEach {sep : Char} {cs piece : List Char}
    (member : piece ∈ splitAtEach sep cs) : sep ∉ piece := by
  induction cs generalizing piece with
  | nil =>
      rw [splitAtEach, List.mem_singleton] at member
      exact member ▸ List.not_mem_nil
  | cons c rest ih =>
      obtain ⟨first, more, split, _⟩ := exists_splitAtEach sep rest
      rw [splitAtEach, split] at member
      rw [split] at ih
      split at member
      · rcases List.mem_cons.mp member with rfl | later
        · exact List.not_mem_nil
        · exact ih later
      · rename_i other
        rcases List.mem_cons.mp member with rfl | later
        · rw [List.mem_cons, not_or]
          exact ⟨fun same => other (beq_iff_eq.mpr same.symm), ih (.head _)⟩
        · exact ih (.tail _ later)

theorem splitAtEach_append {sep : Char} {piece : List Char} (plain : sep ∉ piece)
    {rest first : List Char} {more : List (List Char)}
    (split : splitAtEach sep rest = first :: more) :
    splitAtEach sep (piece ++ rest) = (piece ++ first) :: more := by
  induction piece with
  | nil => exact split
  | cons c piece ih =>
      rw [List.mem_cons, not_or] at plain
      rw [List.cons_append, splitAtEach, if_neg (by simpa using Ne.symm plain.1), ih plain.2]
      rfl

/-- Pieces without the separator are those of the text they make up. -/
theorem splitAtEach_flatMap {sep : Char} {piece : List Char} {pieces : List (List Char)}
    (plain : ∀ each ∈ piece :: pieces, sep ∉ each) :
    splitAtEach sep (piece ++ pieces.flatMap ([sep] ++ ·)) = piece :: pieces := by
  induction pieces generalizing piece with
  | nil =>
      have alone : splitAtEach sep (piece ++ []) = [piece ++ []] :=
        splitAtEach_append (plain piece (.head _)) rfl
      rw [List.append_nil] at alone
      rwa [List.flatMap_nil, List.append_nil]
  | cons next pieces ih =>
      have later : splitAtEach sep (next ++ pieces.flatMap ([sep] ++ ·)) = next :: pieces :=
        ih fun each member => plain each (.tail _ member)
      have cut : splitAtEach sep ((next :: pieces).flatMap ([sep] ++ ·)) = [] :: next :: pieces := by
        rw [List.flatMap_cons, List.append_assoc, List.singleton_append, splitAtEach, later]
        exact if_pos (beq_self_eq_true sep)
      rw [splitAtEach_append (plain piece (.head _)) cut, List.append_nil]

/-- Parts without a dot are those of the name they make up. -/
theorem dottedParts_joinWith {parts : List String} (filled : parts ≠ [])
    (plain : ∀ part ∈ parts, '.' ∉ part.toList) : dottedParts (joinWith "." parts) = parts := by
  cases parts with
  | nil => exact absurd rfl filled
  | cons first more =>
      have pieces : ∀ each ∈ first.toList :: more.map String.toList, '.' ∉ each := by
        rw [← List.map_cons, List.forall_mem_map]
        exact plain
      have split := splitAtEach_flatMap pieces
      rw [dottedParts, toList_joinWith]
      change (splitAtEach '.' (first.toList ++ (more.map String.toList).flatMap (['.'] ++ ·))).map
        String.ofList = _
      rw [split]
      simp [Function.comp_def]

theorem not_mem_of_mem_dottedParts {name part : String} (member : part ∈ dottedParts name) :
    '.' ∉ part.toList := by
  obtain ⟨piece, among, rfl⟩ := List.mem_map.mp member
  rw [String.toList_ofList]
  exact not_mem_of_mem_splitAtEach among

end RowGuard.Text
