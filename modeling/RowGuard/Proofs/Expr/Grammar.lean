import RowGuard.Proofs.Expr.Completeness
import RowGuard.Proofs.Value.Definedness

/-! The trees that texts are read to. A class of expressions that is closed under
the forms of the grammar holds every tree that a text is read to, so a property
of parsed policies is shown form by form. -/

set_option autoImplicit false

namespace RowGuard

namespace Expr

/-- The forms that a text is read to, as closure conditions on a class of expressions. -/
structure Grammar (holds : Expr → Prop) : Prop where
  any {operands : List Expr} : (∀ e ∈ operands, holds e) → holds (.any operands)
  all {operands : List Expr} : (∀ e ∈ operands, holds e) → holds (.all operands)
  not {operand : Expr} : holds operand → holds (.not operand)
  compare {comparator : Comparator} {left right : Expr} : (∀ symbol, comparator ≠ .unknown symbol) →
    holds left → holds right → holds (.condition (.compare comparator) left right)
  member {negated : Bool} {left right : Expr} : holds left → holds right →
    holds (.condition (.member negated) left right)
  null {negated : Bool} {left : Expr} : holds left →
    holds (.condition (.null negated) left (.literal .null))
  choice {subject : Option Expr} {branches : List (Expr × Expr)} {otherwise : Option Expr} :
    (∀ e ∈ subject, holds e) → (∀ branch ∈ branches, holds branch.1 ∧ holds branch.2) →
    (∀ e ∈ otherwise, holds e) → holds (.choice subject branches otherwise)
  existence {source : Option String} {body : String} : holds (.existence source body)
  subquery {source : Option String} {body : String} : holds (.subquery source body)
  call {name : String} {arguments : List Expr} : (∀ e ∈ arguments, holds e) →
    holds (.call name arguments)
  column {name : String} {qualifier : Option String} : holds (.column name qualifier)
  setting {key : String} : holds (.setting key)
  literal {item : Literal} : item.value.isDefined → holds (.literal item)
  array {items : List Expr} : (∀ e ∈ items, holds e) → holds (.array items)

section Forms

variable {holds : Expr → Prop} {source : Source}

theorem Grammar.joined_any (grammar : Grammar holds) {first : Expr} {more : List Expr}
    (firstHolds : holds first) (moreHold : ∀ e ∈ more, holds e) :
    holds (joined .any first more) := by
  rw [joined]
  split
  · exact firstHolds
  · exact grammar.any (List.forall_mem_cons.mpr ⟨firstHolds, moreHold⟩)

theorem Grammar.joined_all (grammar : Grammar holds) {first : Expr} {more : List Expr}
    (firstHolds : holds first) (moreHold : ∀ e ∈ more, holds e) :
    holds (joined .all first more) := by
  rw [joined]
  split
  · exact firstHolds
  · exact grammar.all (List.forall_mem_cons.mpr ⟨firstHolds, moreHold⟩)

theorem Grammar.ofParts (grammar : Grammar holds) (first : String) (more : List String) :
    holds (Expr.ofParts source first more) := by
  unfold Expr.ofParts
  split
  · split
    · exact grammar.call (by simp)
    · exact grammar.column
  · dsimp only
    split
    · exact grammar.column
    · exact grammar.column

theorem Grammar.ofCall (grammar : Grammar holds) (name : String) {arguments : List Expr}
    (each : ∀ e ∈ arguments, holds e) : holds (Expr.ofCall name arguments) := by
  unfold Expr.ofCall
  dsimp only
  split
  · split
    · exact grammar.setting
    · exact grammar.call each
  · exact grammar.call each

theorem comparator?_known {symbol : String} {comparator : Comparator}
    (known : comparator? symbol = some comparator) (name : String) :
    comparator ≠ .unknown name := by
  unfold comparator? at known
  split at known <;> cases known <;> exact Comparator.noConfusion

/-! ## Literals -/

theorem isDefined_of_literal {lexeme : Lexeme} {item : Literal}
    (found : literal? lexeme = some item) :
    item.value.isDefined := by
  unfold literal? at found
  split at found <;> cases found <;> rfl

theorem isDefined_of_constant {keyword : Keyword} {item : Literal}
    (found : constant? keyword = some item) : item.value.isDefined := by
  unfold constant? at found
  split at found <;> cases found <;> rfl

theorem isDefined_of_number {lexeme : Lexeme} {item : Literal}
    (found : number? lexeme = some item) :
    item.value.isDefined := by
  unfold number? at found
  split at found <;> cases found <;> rfl

theorem isDefined_of_negated {positive item : Literal} (defined : positive.value.isDefined)
    (negation : negated positive = .ok item) : item.value.isDefined := by
  unfold negated at negation
  split at negation
  · split at negation <;> cases negation
    rfl
  · cases negation
    rfl
  · cases negation
    exact defined

/-- What a class of expressions says about a form. -/
def Form.Holds (holds : Expr → Prop) : Form → Prop
  | .any e | .all e | .not e | .condition e | .primary e | .list e => holds e
  | .moreAny es | .moreAll es | .moreItems es | .items _ es => ∀ e ∈ es, holds e
  | .body parts otherwise =>
    (∀ branch ∈ parts, holds branch.1 ∧ holds branch.2) ∧ ∀ e ∈ otherwise, holds e
  | .branches parts => ∀ branch ∈ parts, holds branch.1 ∧ holds branch.2

theorem Grammar.ofDerives (grammar : Grammar holds) {form : Form} {tokens rest : List Token}
    (derived : Derives source form tokens rest) : form.Holds holds := by
  induction derived with
  | any _ _ first more => exact grammar.joined_any first more
  | all _ _ first more => exact grammar.joined_all first more
  | noMoreAny | noMoreAll | noMoreItems | noItems | noBranches => simp [Form.Holds]
  | moreAny _ _ _ next more | moreAll _ _ _ next more | moreItems _ _ _ next more =>
      exact List.forall_mem_cons.mpr ⟨next, more⟩
  | items _ _ _ _ first more => exact List.forall_mem_cons.mpr ⟨first, more⟩
  | not _ _ operand => exact grammar.not operand
  | unnegated _ _ e => exact e
  | alone _ _ e => exact e
  | compare _ _ known _ _ left right => exact grammar.compare (comparator?_known known) left right
  | anyOf _ _ _ _ _ _ left right | allOf _ _ _ _ _ _ left right =>
      exact grammar.member left right
  | member _ _ _ left right => exact grammar.member left right
  | like _ _ _ left right => exact grammar.compare (by simp) left right
  | null _ _ _ left => exact grammar.null left
  | listedSubquery | subquery => exact grammar.subquery
  | listed _ _ _ _ _ first more => exact grammar.array (List.forall_mem_cons.mpr ⟨first, more⟩)
  | parenthesised _ _ _ _ inner => exact inner
  | literal found => exact grammar.literal (isDefined_of_literal found)
  | negative _ number negation =>
      exact grammar.literal (isDefined_of_negated (isDefined_of_number number) negation)
  | constant _ found => exact grammar.literal (isDefined_of_constant found)
  | existence => exact grammar.existence
  | cast _ _ _ _ _ _ operand => exact operand
  | array _ _ _ items => exact grammar.array items
  | call _ _ _ _ arguments => exact grammar.ofCall _ arguments
  | reference => exact grammar.ofParts _ _
  | searched _ _ _ body => exact grammar.choice (by simp) body.1 body.2
  | simple _ _ _ _ _ subject body =>
      exact grammar.choice (by simpa [Form.Holds] using subject) body.1 body.2
  | otherwise _ _ _ _ branches e => exact ⟨branches, by simpa [Form.Holds] using e⟩
  | ended _ _ branches => exact ⟨branches, by simp⟩
  | branches _ _ _ _ _ key outcome more => exact List.forall_mem_cons.mpr ⟨⟨key, outcome⟩, more⟩

/-- Every tree that a text is read to belongs to the class. -/
theorem Grammar.ofParse (grammar : Grammar holds) {text entity : String} {e : Expr}
    (parsed : parse text entity = .ok e) : holds e := by
  by_cases blank : (Text.trim text.toList).isEmpty = Bool.true
  · rw [parse, if_pos blank] at parsed
    cases parsed
    exact grammar.literal rfl
  · obtain ⟨tokens, rest, _, derived, _⟩ := (parse_eq_ok_iff (by simpa using blank)).mp parsed
    exact grammar.ofDerives derived

end Forms

end Expr

end RowGuard
