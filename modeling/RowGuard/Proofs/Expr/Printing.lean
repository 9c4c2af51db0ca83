import RowGuard.Expr.Printer

/-! Canonical texts and likeness of trees, a node at a time: the text of a node
from the texts of its parts, and when two nodes are the same by their parts. -/

set_option autoImplicit false

namespace RowGuard

namespace Expr

/-! ## Likeness -/

section Likeness

variable {left left' right right' : Expr}

theorem length_of_sameItems {as bs : List Expr} (same : sameItems as bs) :
    as.length = bs.length := by
  induction as generalizing bs with
  | nil =>
      cases bs with
      | nil => rfl
      | cons b bs => cases same
  | cons a as ih =>
      cases bs with
      | nil => cases same
      | cons b bs =>
          rw [sameItems, Bool.and_eq_true] at same
          rw [List.length_cons, List.length_cons, ih same.2]

theorem length_of_sameBranches {as bs : List (Expr × Expr)} (same : sameBranches as bs) :
    as.length = bs.length := by
  induction as generalizing bs with
  | nil =>
      cases bs with
      | nil => rfl
      | cons b bs => cases same
  | cons a as ih =>
      cases bs with
      | nil => cases same
      | cons b bs =>
          rw [sameBranches, Bool.and_eq_true] at same
          rw [List.length_cons, List.length_cons, ih same.2]

theorem exists_literal_of_same {value : Literal} {e : Expr} (same : (Expr.literal value).same e) :
    ∃ value', e = .literal value' ∧ value.kind = value'.kind := by
  cases e with
  | literal value' =>
      rw [Expr.same, Literal.same, Bool.and_eq_true, beq_iff_eq] at same
      exact ⟨value', rfl, same.1⟩
  | _ => cases same

theorem same_condition (operator : Operator) (leftSame : left'.same left)
    (rightSame : right'.same right) :
    (Expr.condition operator left' right').same (.condition operator left right) := by
  rw [same, leftSame, rightSame, beq_self_eq_true]
  rfl

theorem same_choice {subject subject' otherwise otherwise' : Option Expr}
    {branches branches' : List (Expr × Expr)} (subjectSame : sameOption subject' subject)
    (branchesSame : sameBranches branches' branches) (endSame : sameOption otherwise' otherwise) :
    (Expr.choice subject' branches' otherwise').same (.choice subject branches otherwise) := by
  cases subject' with
  | none =>
      cases subject with
      | none =>
          rw [same, branchesSame, endSame]
          rfl
      | some e => cases subjectSame
  | some e' =>
      cases subject with
      | none => cases subjectSame
      | some e =>
          rw [sameOption] at subjectSame
          rw [same, subjectSame, branchesSame, endSame]
          rfl

theorem same_call (name : String) {arguments arguments' : List Expr}
    (argumentsSame : sameItems arguments' arguments) :
    (Expr.call name arguments').same (.call name arguments) := by
  rw [same, argumentsSame, beq_self_eq_true]
  rfl

/-- Whether a node has no parts and holds names and texts only. -/
def isBare : Expr → Bool
  | .existence _ _ => Bool.true
  | .subquery _ _ => Bool.true
  | .column _ _ => Bool.true
  | .setting _ => Bool.true
  | _ => Bool.false

theorem same_self {e : Expr} (bare : e.isBare) : e.same e := by
  cases e with
  | existence target body => simp [same]
  | subquery target body => simp [same]
  | column name qualifier => simp [same]
  | setting key => simp [same]
  | _ => cases bare

end Likeness

/-! ## Texts -/

section Texts

variable {e left right : Expr} {text leftText rightText : String} {es : List Expr}
  {texts : List String}

theorem printItems_cons {parent : Nat} (first : print e = .ok text)
    (more : printItems parent es = .ok texts) :
    printItems parent (e :: es) = .ok (parenthesised (needsParens parent e) text :: texts) := by
  rw [printItems, first, more]
  rfl

theorem printBranches_cons {branches : List (Expr × Expr)} (key : print left = .ok leftText)
    (outcome : print right = .ok rightText) (more : printBranches branches = .ok texts) :
    printBranches ((left, right) :: branches) =
      .ok (("WHEN " ++ leftText ++ " THEN " ++ rightText) :: texts) := by
  rw [printBranches, key, outcome, more]
  rfl

theorem printOption_some (lead : String) (inner : print e = .ok text) :
    printOption lead (some e) = .ok [lead ++ text] := by
  rw [printOption, inner]
  rfl

/-- The text of a node from the texts of its parts. -/
inductive Writes : Expr → String → Prop
  | any {es : List Expr} {texts : List String} (operands : printItems 1 es = .ok texts) :
      Writes (.any es) (Text.joinWith " OR " texts)
  | all {es : List Expr} {texts : List String} (operands : printItems 2 es = .ok texts) :
      Writes (.all es) (Text.joinWith " AND " texts)
  | not {e : Expr} {text : String} (operand : print e = .ok text) :
      Writes (.not e) ("NOT " ++ parenthesised (needsParens 3 e) text)
  | compare {left right : Expr} {first second : String} (comparator : Comparator)
      (leftPrinted : print left = .ok first) (rightPrinted : print right = .ok second) :
      Writes (.condition (.compare comparator) left right)
        (parenthesised (needsParens 4 left) first ++ " " ++ comparator.symbol ++ " " ++
          parenthesised (needsParens 4 right) second)
  | null {left right : Expr} {text : String} (negated : Bool) (leftPrinted : print left = .ok text) :
      Writes (.condition (.null negated) left right)
        (parenthesised (needsParens 4 left) text ++
          if negated then " IS NOT NULL" else " IS NULL")
  | listed {left : Expr} {text : String} {es : List Expr} {texts : List String} (negated : Bool)
      (leftPrinted : print left = .ok text) (items : printItems 0 es = .ok texts) :
      Writes (.condition (.member negated) left (.array es))
        (parenthesised (needsParens 4 left) text ++ " " ++ (Operator.member negated).symbol ++
          " (" ++ Text.joinWith ", " texts ++ ")")
  | selected {left : Expr} {text body : String} {target : Option String} (negated : Bool)
      (leftPrinted : print left = .ok text) :
      Writes (.condition (.member negated) left (.subquery target body))
        (parenthesised (needsParens 4 left) text ++ " " ++ (Operator.member negated).symbol ++
          " (" ++ body ++ ")")
  | quantified {left right : Expr} {first second : String} (negated : Bool)
      (leftPrinted : print left = .ok first) (unlisted : ∀ items, right ≠ .array items)
      (uncaptured : ∀ target body, right ≠ .subquery target body)
      (rightPrinted : print right = .ok second) :
      Writes (.condition (.member negated) left right)
        (parenthesised (needsParens 4 left) first ++
          (if negated then " <> ALL (" else " = ANY (") ++ second ++ ")")
  | choice {subject otherwise : Option Expr} {branches : List (Expr × Expr)}
      {subjectTexts texts endTexts : List String}
      (subjectPrinted : printOption "" subject = .ok subjectTexts)
      (branchesPrinted : printBranches branches = .ok texts)
      (endPrinted : printOption "ELSE " otherwise = .ok endTexts) :
      Writes (.choice subject branches otherwise)
        (Text.joinWith " " ("CASE" :: (subjectTexts ++ texts ++ endTexts ++ ["END"])))
  | bareCall {name : String} (bare : bareFunctions.contains name = Bool.true) :
      Writes (.call name []) name
  | call {name : String} {es : List Expr} {texts : List String}
      (closed : (es.isEmpty && bareFunctions.contains name) ≠ Bool.true)
      (arguments : printItems 0 es = .ok texts) :
      Writes (.call name es) (name ++ "(" ++ Text.joinWith ", " texts ++ ")")
  | array {es : List Expr} {texts : List String} (items : printItems 0 es = .ok texts) :
      Writes (.array es) ("ARRAY[" ++ Text.joinWith ", " texts ++ "]")
  | qualified {name qualifier : String} (filled : qualifier ≠ "") :
      Writes (.column name (some qualifier)) (qualifier ++ "." ++ name)

theorem Writes.printed (writes : Writes e text) : print e = .ok text := by
  cases writes with
  | any operands | all operands | not operands =>
      rw [print, operands]
      rfl
  | compare _ leftPrinted rightPrinted =>
      rw [print, leftPrinted, rightPrinted]
      rfl
  | null _ leftPrinted | selected _ leftPrinted =>
      rw [print, leftPrinted]
      rfl
  | listed _ leftPrinted items =>
      rw [print, leftPrinted, items]
      rfl
  | quantified _ leftPrinted unlisted uncaptured rightPrinted =>
      rw [print, leftPrinted, rightPrinted]
      · rfl
      · exact unlisted
      · exact uncaptured
  | choice subjectPrinted branchesPrinted endPrinted =>
      rw [print, subjectPrinted, branchesPrinted, endPrinted]
      rfl
  | bareCall bare =>
      rw [print, bare]
      rfl
  | call closed arguments =>
      rw [print, if_neg closed, arguments]
      rfl
  | array items =>
      rw [print, items]
      rfl
  | qualified filled =>
      rw [print]
      · rfl
      · exact filled

end Texts

end Expr

end RowGuard
