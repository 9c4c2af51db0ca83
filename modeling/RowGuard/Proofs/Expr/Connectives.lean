import RowGuard.Proofs.Expr.Embedding
import RowGuard.Proofs.Expr.Reading

/-! Accepted texts in parentheses of their own are joined like the expressions
they are read to. A line break before the closing parenthesis ends a comment that
the text may end with. -/

set_option autoImplicit false

namespace RowGuard

namespace Expr

variable {text first second entity : String} {e f : Expr}

theorem scans_line (filled : (Text.trim text.toList).isEmpty = Bool.false)
    (parsed : parse text entity = .ok e) :
    Scans entity Whatever (text.toList ++ ['\n', ')']) (YieldsClosed e) := by
  intro source start behind about placed _
  obtain ⟨tokens, walk, derives⟩ := exists_tokens_of_parse filled parsed
  rw [List.append_assoc] at placed ⊢
  have closes : Token.Walk start (text.toList ++ '\n' :: ')' :: behind) (')' :: behind)
      (tokens.map (Token.shift start)) :=
    (walk.append_line (by simp)).shift start
  refine ⟨_, closes.trans (Token.Walk.here.mark rfl), fun rest => ?_⟩
  rw [List.append_assoc]
  exact ⟨_, rfl, derives source start _ ⟨about, ⟨_, placed⟩, rfl⟩⟩

theorem reads_line (filled : (Text.trim text.toList).isEmpty = Bool.false)
    (parsed : parse text entity = .ok e) :
    Reads entity ('(' :: (text.toList ++ ['\n', ')'])) 5 e :=
  reads_of_closed (scans_line filled parsed)

/-- Accepted texts in parentheses are read to the disjunction, the conjunction and the negation of
what they are read to by themselves. -/
theorem parse_connectives (firstFilled : (Text.trim first.toList).isEmpty = Bool.false)
    (secondFilled : (Text.trim second.toList).isEmpty = Bool.false)
    (firstRead : parse first entity = .ok e) (secondRead : parse second entity = .ok f) :
    parse ("(" ++ first ++ "\n) OR (" ++ second ++ "\n)") entity = .ok (.any [e, f]) ∧
      parse ("(" ++ first ++ "\n) AND (" ++ second ++ "\n)") entity = .ok (.all [e, f]) ∧
      parse ("NOT (" ++ first ++ "\n)") entity = .ok (.not e) ∧
      parse ("(" ++ first ++ "\n)") entity = .ok e := by
  have left := reads_line firstFilled firstRead
  have right := reads_line secondFilled secondRead
  refine ⟨?_, ?_, ?_, ?_⟩
  · have whole : Reads entity _ 1 (.any [e, f]) :=
      Reads.any (left.lift (by decide)) (.cons (right.lift (by decide)) .nil) (by simp)
    exact (whole.of_eq (by simp [furtherTexts, Keyword.text])).parse
  · have joined : Reads entity _ 2 (.all [e, f]) :=
      Reads.all (left.lift (by decide)) (.cons (right.lift (by decide)) .nil) (by simp)
    have whole : Reads entity _ 1 (.all [e, f]) := joined.lift (by decide)
    exact (whole.of_eq (by simp [furtherTexts, Keyword.text])).parse
  · have negated : Reads entity _ 3 (.not e) := Reads.not (left.lift (by decide))
    have whole : Reads entity _ 1 (.not e) := negated.lift (by decide)
    exact (whole.of_eq (by simp [Keyword.text])).parse
  · have whole : Reads entity _ 1 e := left.lift (by decide)
    exact (whole.of_eq (by simp)).parse

/-- A text that ends in a comment, and a quantified comparison that ends in a cast. -/
theorem parse_connectives_commentAndCast :
    let e : Expr := .condition (.compare .eq) (.column "owner_id" none)
      (.literal ⟨.integer, .int 1⟩)
    let f : Expr := .condition (.member Bool.false) (.column "kind" none)
      (.array [.literal ⟨.text, .text "a"⟩])
    parse "owner_id = 1 -- mine" "Post" = .ok e ∧
      parse "kind = ANY (ARRAY['a'])::bool" "Post" = .ok f ∧
      parse "(owner_id = 1 -- mine\n) OR (kind = ANY (ARRAY['a'])::bool\n)" "Post" =
        .ok (.any [e, f]) := by
  have first : parse "owner_id = 1 -- mine" "Post" = .ok (.condition (.compare .eq)
      (.column "owner_id" none) (.literal ⟨.integer, .int 1⟩)) := by
    with_unfolding_all rfl
  have second : parse "kind = ANY (ARRAY['a'])::bool" "Post" = .ok (.condition
      (.member Bool.false) (.column "kind" none) (.array [.literal ⟨.text, .text "a"⟩])) := by
    with_unfolding_all rfl
  exact ⟨first, second, (parse_connectives (by decide) (by decide) first second).1⟩

end Expr

end RowGuard
