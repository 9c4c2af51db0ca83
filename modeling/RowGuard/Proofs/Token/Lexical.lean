import Mathlib.Data.List.Find
import Mathlib.Data.List.Infix
import RowGuard.Proofs.Text.CharClass

/-! Lexical rules take characters from the front of a text. What a rule leaves is
a suffix of the text, and a run of characters ends where the next character does
not go on with it, whatever follows. -/

set_option autoImplicit false

namespace RowGuard

section Outcomes

variable {ε α β : Type} {first : Except ε α} {value : β}

theorem except_bind_eq_ok {next : α → Except ε β} (ended : first >>= next = .ok value) :
    ∃ middle, first = .ok middle ∧ next middle = .ok value := by
  cases first with
  | error _ => cases ended
  | ok middle => exact ⟨middle, rfl, ended⟩

theorem except_map_eq_ok {next : α → β} (ended : first.map next = .ok value) :
    ∃ middle, first = .ok middle ∧ next middle = value := by
  cases first with
  | error _ => cases ended
  | ok middle =>
      cases ended
      exact ⟨middle, rfl, rfl⟩

end Outcomes

namespace Token

/-! ## What is left -/

section Suffixes

variable {cs after : List Char}

theorem unquote_suffix {quote : Char} {content : List Char}
    (read : unquote quote cs = some (content, after)) : after <:+ cs := by
  fun_induction unquote quote cs generalizing content with
  | case1 => cases read
  | case2 c closes =>
      cases read
      exact List.nil_suffix
  | case3 => cases read
  | case4 c d rest closes doubled ih =>
      obtain ⟨inner, innerRead, same⟩ := Option.map_eq_some_iff.mp read
      cases same
      exact (ih innerRead).trans ((List.suffix_cons _ _).trans (List.suffix_cons _ _))
  | case5 c d rest closes single =>
      cases read
      exact List.suffix_cons _ _
  | case6 c d rest other ih =>
      obtain ⟨inner, innerRead, same⟩ := Option.map_eq_some_iff.mp read
      cases same
      exact (ih innerRead).trans (List.suffix_cons _ _)

theorem afterPair_suffix {first second : Char} (read : afterPair first second cs = some after) :
    after <:+ cs := by
  fun_induction afterPair first second cs with
  | case1 => cases read
  | case2 => cases read
  | case3 c d rest found =>
      cases read
      exact (List.suffix_cons _ _).trans (List.suffix_cons _ _)
  | case4 c d rest other ih => exact (ih read).trans (List.suffix_cons _ _)

theorem afterFirst_suffix {wanted : Char} (read : afterFirst wanted cs = some after) :
    after <:+ cs := by
  fun_induction afterFirst wanted cs with
  | case1 => cases read
  | case2 c rest found =>
      cases read
      exact List.suffix_cons _ _
  | case3 c rest other ih => exact (ih read).trans (List.suffix_cons _ _)

theorem afterLine_suffix (cs : List Char) : afterLine cs <:+ cs :=
  (List.drop_suffix _ _).trans (List.dropWhile_suffix _)

theorem takeFraction_suffix (cs : List Char) : (takeFraction cs).2 <:+ cs := by
  unfold takeFraction
  split
  · split
    · exact List.suffix_rfl
    · exact (List.dropWhile_suffix _).trans (List.suffix_cons _ _)
  · exact List.suffix_rfl

theorem takeExponent_suffix (cs : List Char) : (takeExponent cs).2 <:+ cs := by
  unfold takeExponent
  split
  · rename_i mark rest
    split
    · dsimp only
      split
      · exact List.suffix_rfl
      · refine (List.dropWhile_suffix _).trans ?_
        split
        · split
          · exact (List.suffix_cons _ _).trans (List.suffix_cons _ _)
          · exact List.suffix_cons _ _
        · exact List.suffix_cons _ _
    · exact List.suffix_rfl
  · exact List.suffix_rfl

theorem number_suffix {lexeme : Lexeme} (read : number cs = .ok (lexeme, after)) :
    after <:+ cs.dropWhile Text.isDigit := by
  have suffix := (takeExponent_suffix (takeFraction (cs.dropWhile Text.isDigit)).2).trans
    (takeFraction_suffix _)
  unfold number at read
  dsimp only at read
  split at read
  · obtain ⟨n, _, same⟩ := except_map_eq_ok read
    cases same
    exact suffix
  · split at read
    · cases read
      exact suffix
    · cases read

theorem typeWord_suffix {size : Nat} {word : String}
    (read : typeWord size cs = .ok (word, after)) : after <:+ cs := by
  unfold typeWord at read
  split at read
  · split at read
    · cases read
    · rename_i quoted
      cases read
      exact (unquote_suffix quoted).trans (List.suffix_cons _ _)
  · split at read
    · cases read
      exact List.dropWhile_suffix _
    · cases read
  · cases read

theorem typeName_suffix {size fuel : Nat} {word : String}
    (read : typeName size fuel cs = .ok (word, after)) : after <:+ cs := by
  induction fuel generalizing cs with
  | zero => exact typeWord_suffix read
  | succ fuel ih =>
      obtain ⟨⟨first, middle⟩, firstRead, read⟩ := except_bind_eq_ok read
      have suffix := typeWord_suffix firstRead
      dsimp only at read
      split at read
      · exact (ih read).trans ((List.suffix_cons _ _).trans suffix)
      · cases read
        exact suffix

theorem skipModifiers_suffix {size : Nat} (read : skipModifiers size cs = .ok after) :
    after <:+ cs := by
  unfold skipModifiers at read
  split at read
  · rename_i rest opens
    split at read
    · rename_i found
      cases read
      refine (afterFirst_suffix found).trans ((List.suffix_cons '(' rest).trans ?_)
      rw [← opens]
      exact List.dropWhile_suffix _
    · cases read
  · cases read
    exact List.suffix_rfl

theorem afterPhrase_suffix {parts : List String} (read : afterPhrase cs parts = some after) :
    after <:+ cs := by
  induction parts generalizing cs with
  | nil =>
      cases read
      exact List.suffix_rfl
  | cons part parts ih =>
      rw [afterPhrase] at read
      split at read
      · exact (ih read).trans ((List.dropWhile_suffix _).trans (List.dropWhile_suffix _))
      · cases read

theorem skipDimensions_suffix {size fuel : Nat} (read : skipDimensions size fuel cs = .ok after) :
    after <:+ cs := by
  induction fuel generalizing cs with
  | zero =>
      cases read
      exact List.suffix_rfl
  | succ fuel ih =>
      rw [skipDimensions] at read
      split at read
      · rename_i rest opens
        split at read
        · cases read
        · rename_i inner found
          dsimp only at read
          split at read
          · refine (ih read).trans ((afterFirst_suffix found).trans
              ((List.suffix_cons '[' rest).trans ?_))
            rw [← opens]
            exact List.dropWhile_suffix _
          · cases read
            exact List.suffix_rfl
      · cases read
        exact List.suffix_rfl

theorem skipType_suffix {size : Nat} (read : skipType size cs = .ok after) : after <:+ cs := by
  obtain ⟨⟨word, named⟩, nameRead, read⟩ := except_bind_eq_ok read
  obtain ⟨modified, modifiersRead, read⟩ := except_bind_eq_ok read
  have suffix := (skipModifiers_suffix modifiersRead).trans
    ((typeName_suffix nameRead).trans (List.dropWhile_suffix _))
  dsimp only at read
  split at read
  · rename_i rest found
    obtain ⟨phrase, _, phraseRead⟩ := List.exists_of_findSome?_eq_some found
    obtain ⟨remodified, modifiersRead, read⟩ := except_bind_eq_ok read
    exact (skipDimensions_suffix read).trans ((skipModifiers_suffix modifiersRead).trans
      ((afterPhrase_suffix phraseRead).trans suffix))
  · exact (skipDimensions_suffix read).trans suffix

end Suffixes

/-! ## Runs -/

section Runs

variable {p : Char → Bool} {tail : List Char}

theorem takeWhile_append_of_stops (stops : ∀ c ∈ tail.head?, p c = false) (cs : List Char) :
    (cs ++ tail).takeWhile p = cs.takeWhile p := by
  induction cs with
  | nil =>
      cases tail with
      | nil => rfl
      | cons c rest => simp [stops c rfl]
  | cons c rest ih => simp only [List.cons_append, List.takeWhile_cons, ih]

theorem dropWhile_append_of_stops (stops : ∀ c ∈ tail.head?, p c = false) (cs : List Char) :
    (cs ++ tail).dropWhile p = cs.dropWhile p ++ tail := by
  induction cs with
  | nil =>
      cases tail with
      | nil => rfl
      | cons c rest => simp [stops c rfl]
  | cons c rest ih =>
      simp only [List.cons_append, List.dropWhile_cons, ih]
      split <;> rfl

theorem isPrefixOf_append_of_stops {symbol : List Char} (stops : ∀ c ∈ tail.head?, c ∉ symbol)
    (cs : List Char) : symbol.isPrefixOf (cs ++ tail) = symbol.isPrefixOf cs := by
  induction cs generalizing symbol with
  | nil =>
      cases symbol with
      | nil => rfl
      | cons d symbol =>
          cases tail with
          | nil => rfl
          | cons c rest =>
              have other : (d == c) = false :=
                beq_eq_false_iff_ne.mpr fun same => stops c rfl (by simp [same])
              simp [List.isPrefixOf, other]
  | cons c rest ih =>
      cases symbol with
      | nil => rfl
      | cons d symbol =>
          have fewer : ∀ c ∈ tail.head?, c ∉ symbol :=
            fun c first member => stops c first (List.mem_cons_of_mem _ member)
          simp [List.isPrefixOf, ih fewer]

/-- What a rule has taken does not depend on what follows the text. -/
theorem taken_append (cs after tail : List Char) :
    (cs ++ tail).take ((cs ++ tail).length - (after ++ tail).length) =
      cs.take (cs.length - after.length) := by
  rw [List.length_append, List.length_append, Nat.add_sub_add_right,
    List.take_append_of_le_length (Nat.sub_le _ _)]

theorem takeFraction_append (stops : ∀ c ∈ tail.head?, Text.isDigit c = false ∧ c ≠ '.')
    (cs : List Char) :
    takeFraction (cs ++ tail) = ((takeFraction cs).1, (takeFraction cs).2 ++ tail) := by
  have digits : ∀ c ∈ tail.head?, Text.isDigit c = false := fun c first => (stops c first).1
  cases cs with
  | nil =>
      cases tail with
      | nil => rfl
      | cons c rest => simp [takeFraction, (stops c rfl).2]
  | cons c rest =>
      by_cases point : c = '.'
      · subst point
        simp only [List.cons_append, takeFraction, takeWhile_append_of_stops digits,
          dropWhile_append_of_stops digits]
        split <;> rfl
      · simp [takeFraction, point]

theorem takeExponent_append
    (stops : ∀ c ∈ tail.head?, Text.isDigit c = false ∧ c ∉ ['e', 'E', '+', '-'])
    (cs : List Char) :
    takeExponent (cs ++ tail) = ((takeExponent cs).1, (takeExponent cs).2 ++ tail) := by
  have digits : ∀ c ∈ tail.head?, Text.isDigit c = false := fun c first => (stops c first).1
  cases cs with
  | nil =>
      cases tail with
      | nil => rfl
      | cons c rest =>
          have other := (stops c rfl).2
          simp only [List.mem_cons, List.not_mem_nil, or_false, not_or] at other
          simp [takeExponent, other]
  | cons mark rest =>
      cases rest with
      | nil =>
          cases tail with
          | nil => simp
          | cons c rest =>
              have other := (stops c rfl).2
              simp only [List.mem_cons, List.not_mem_nil, or_false, not_or] at other
              simp [takeExponent, other, (stops c rfl).1]
      | cons d rest =>
          simp only [List.cons_append, takeExponent]
          split
          · by_cases sign : (d == '+' || d == '-') = true
            · simp only [sign, if_true, takeWhile_append_of_stops digits,
                dropWhile_append_of_stops digits]
              split <;> rfl
            · simp only [sign, Bool.false_eq_true, if_false]
              simp only [← List.cons_append, takeWhile_append_of_stops digits,
                dropWhile_append_of_stops digits]
              split <;> rfl
          · rfl

theorem number_append
    (stops : ∀ c ∈ tail.head?, Text.isDigit c = false ∧ c ∉ ['.', 'e', 'E', '+', '-'])
    (cs : List Char) :
    number (cs ++ tail) = (number cs).map fun read => (read.1, read.2 ++ tail) := by
  have digits : ∀ c ∈ tail.head?, Text.isDigit c = false := fun c first => (stops c first).1
  have fraction : ∀ c ∈ tail.head?, Text.isDigit c = false ∧ c ≠ '.' :=
    fun c first => ⟨digits c first, fun same => (stops c first).2 (by simp [same])⟩
  have exponent : ∀ c ∈ tail.head?, Text.isDigit c = false ∧ c ∉ ['e', 'E', '+', '-'] :=
    fun c first => ⟨digits c first, fun listed => (stops c first).2 (List.mem_cons_of_mem _ listed)⟩
  simp only [number, takeWhile_append_of_stops digits, dropWhile_append_of_stops digits,
    takeFraction_append fraction, takeExponent_append exponent]
  split
  · cases integer (cs.takeWhile Text.isDigit) <;> rfl
  · split <;> rfl

theorem isPrefixOf_append_of_operator (stops : ∀ c ∈ tail.head?, isOperatorChar c = false)
    {symbol : List Char} (made : symbol.all isOperatorChar) (cs : List Char) :
    symbol.isPrefixOf (cs ++ tail) = symbol.isPrefixOf cs := by
  refine isPrefixOf_append_of_stops (fun c first inside => ?_) cs
  exact absurd (List.all_eq_true.mp made c inside) (by simp [stops c first])

theorem operatorAt_append (stops : ∀ c ∈ tail.head?, isOperatorChar c = false) (c : Char)
    (rest : List Char) : operatorAt c (rest ++ tail) = operatorAt c rest := by
  have every : ∀ symbol ∈ longOperators, symbol.toList.all isOperatorChar := by decide
  have same : ∀ symbol ∈ longOperators,
      symbol.toList.isPrefixOf (c :: (rest ++ tail)) = symbol.toList.isPrefixOf (c :: rest) :=
    fun symbol listed => isPrefixOf_append_of_operator stops (every symbol listed) (c :: rest)
  rw [operatorAt, operatorAt, List.find?_congr same]

end Runs

end Token

end RowGuard
