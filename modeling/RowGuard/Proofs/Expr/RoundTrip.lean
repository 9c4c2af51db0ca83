import RowGuard.Proofs.Expr.Printing
import RowGuard.Proofs.Expr.Recapture
import RowGuard.Proofs.Expr.Walk
import RowGuard.Proofs.Number.Rounding

/-! The canonical text of an expression is read to that expression, numbers being
compared by value, unless the text is one that cannot say what the tree holds. -/

set_option autoImplicit false

namespace RowGuard

/-! ## Trees that are read back -/

/-- Whether a literal is one that a text can hold: its value is of its kind and not too large. -/
def Literal.isShaped : Literal → Bool
  | ⟨.text, .text _⟩ => true
  | ⟨.integer, .int n⟩ => (Nat.toDigits 10 n.natAbs).length ≤ Text.maxDigits
  | ⟨.decimal, .decimal d⟩ => decide d.InRange && (!d.negative || d.isWorking)
  | ⟨.boolean, .bool _⟩ => true
  | ⟨.null, .null⟩ => true
  | _ => false

namespace Expr

/-- Whether a call reads a session setting by a literal key. -/
def isSettingCall (name : String) : List Expr → Bool
  | .literal ⟨.text, _⟩ :: _ =>
    ["current_setting", "pg_catalog.current_setting"].contains (Text.lower name)
  | _ => Bool.false

/-- Whether a node has the shape that nodes read from a text about an entity have. -/
def isShaped (entity : String) : Expr → Bool
  | .any operands => 2 ≤ operands.length
  | .all operands => 2 ≤ operands.length
  | .condition (.compare (.unknown _)) _ _ => Bool.false
  | .condition (.null _) _ right =>
    match right with
    | .literal ⟨.null, .null⟩ => Bool.true
    | _ => Bool.false
  | .choice _ branches _ => !branches.isEmpty
  | .call name arguments => !isSettingCall name arguments
  | .column _ (some qualifier) => Text.lower qualifier != Text.lower entity
  | .literal value => value.isShaped
  | .foreign _ => Bool.false
  | _ => Bool.true

/-- Whether the canonical text of a node says what the node holds: names need no quotes, a column is
not taken for a function, a list has items, and a decimal is not written like an integer. -/
def isPlain : Expr → Bool
  | .condition (.member _) _ (.array []) => Bool.false
  | .call name _ => (Text.dottedParts name).all isName
  | .column name none => isName name && !bareFunctions.contains (Text.lower name)
  | .column name (some qualifier) => isName name && isName qualifier
  | .literal ⟨.decimal, .decimal d⟩ => d.exponent != 0
  | _ => Bool.true

def isCapture : Expr → Bool
  | .existence _ _ => Bool.true
  | .subquery _ _ => Bool.true
  | _ => Bool.false

def Recaptured : Expr → Prop
  | .existence target body => body ≠ "" ∧ ∃ tokens, Recaptures target body tokens
  | .subquery target body =>
    ∃ tokens, Recaptures target body tokens ∧ firstKeyword tokens = some .select
  | _ => True

/-- What a node needs to be read back. -/
structure Restores (entity : String) (node : Expr) : Prop where
  shaped : node.isShaped entity
  plain : node.isPlain
  captured : node.Recaptured

/-! ## Texts of the parts -/

variable {entity : String} {e : Expr}

/-- An expression has a text, which is read to the same tree wherever it stands. -/
def Printed (entity : String) (e : Expr) : Prop :=
  ∃ text e', print e = .ok text ∧ Reads entity text.toList e.precedence e' ∧ e'.same e

def PrintedItems (entity : String) (parent : Nat) (es : List Expr) : Prop :=
  ∃ texts es', printItems parent es = .ok texts ∧
    List.Forall₂ (fun text e => Reads entity text.toList (parent + 1) e) texts es' ∧
    sameItems es' es

def PrintedBranches (entity : String) (branches : List (Expr × Expr)) : Prop :=
  ∃ texts branches', printBranches branches = .ok texts ∧
    List.Forall₂ (fun text branch => Scans entity Parted text.toList (YieldsBranch branch)) texts
      branches' ∧
    sameBranches branches' branches

theorem one_le_precedence (e : Expr) : 1 ≤ e.precedence := by
  cases e <;> simp [precedence]

theorem precedence_le_five (e : Expr) : e.precedence ≤ 5 := by
  cases e <;> simp [precedence]

/-- A part is put in parentheses where it would be read apart without them. -/
theorem reads_operand {parent : Nat} (within : parent ≤ 4) {text : String} {e' : Expr}
    (reads : Reads entity text.toList e.precedence e') :
    Reads entity (parenthesised (needsParens parent e) text).toList (parent + 1) e' := by
  unfold parenthesised
  split
  · have inner := (reads.lift e.one_le_precedence).parenthesised
    have whole : ("(" ++ text ++ ")").toList = '(' :: (text.toList ++ [')']) := by simp
    rw [whole]
    exact inner.lift (by omega)
  · rename_i bare
    refine reads.lift ?_
    have bound := e.precedence_le_five
    simp only [needsParens, Bool.and_eq_true, decide_eq_true_eq] at bare
    omega

theorem Printed.exists_text (printed : Printed entity e) :
    ∃ text e', print e = .ok text ∧ Reads entity text.toList 1 e' ∧ e'.same e := by
  obtain ⟨text, e', written, reads, same⟩ := printed
  exact ⟨text, e', written, reads.lift e.one_le_precedence, same⟩

theorem Printed.exists_operand (printed : Printed entity e) :
    ∃ text e', print e = .ok text ∧
      Reads entity (parenthesised (needsParens 4 e) text).toList 5 e' ∧ e'.same e := by
  obtain ⟨text, e', written, reads, same⟩ := printed
  exact ⟨text, e', written, reads_operand (by decide) reads, same⟩

theorem printedItems_nil {parent : Nat} : PrintedItems entity parent [] :=
  ⟨[], [], rfl, .nil, rfl⟩

theorem printedItems_cons {parent : Nat} (within : parent ≤ 4) {es : List Expr}
    (first : Printed entity e) (more : PrintedItems entity parent es) :
    PrintedItems entity parent (e :: es) := by
  obtain ⟨text, e', written, reads, same⟩ := first
  obtain ⟨texts, es', writtenAll, readAll, sameAll⟩ := more
  refine ⟨_, e' :: es', printItems_cons written writtenAll,
    .cons (reads_operand within reads) readAll, ?_⟩
  rw [sameItems, same, sameAll]
  rfl

theorem printedBranches_nil : PrintedBranches entity [] :=
  ⟨[], [], rfl, .nil, rfl⟩

theorem printedBranches_cons {key outcome : Expr} {branches : List (Expr × Expr)}
    (keyPrinted : Printed entity key) (outcomePrinted : Printed entity outcome)
    (more : PrintedBranches entity branches) :
    PrintedBranches entity ((key, outcome) :: branches) := by
  obtain ⟨keyText, key', keyWritten, keyReads, keySame⟩ := keyPrinted.exists_text
  obtain ⟨text, outcome', written, reads, same⟩ := outcomePrinted.exists_text
  obtain ⟨texts, branches', writtenAll, readAll, sameAll⟩ := more
  refine ⟨_, (key', outcome') :: branches', printBranches_cons keyWritten written writtenAll,
    .cons ?_ readAll, ?_⟩
  · have branch : Scans entity Parted _ (YieldsBranch (key', outcome')) :=
      scans_branch keyReads reads
    convert branch using 1
    simp [Keyword.text]
  · rw [sameBranches, keySame, same, sameAll]
    rfl

/-! ## Connectives -/

section Connectives

variable {es : List Expr}

theorem furtherTexts_map (keyword : Keyword) (texts : List String) :
    furtherTexts keyword (texts.map String.toList) =
      (texts.map String.toList).flatMap ((" " ++ keyword.text ++ " ").toList ++ ·) := by
  simp [furtherTexts]

theorem PrintedItems.exists_several {parent : Nat} (items : PrintedItems entity parent es)
    (several : 2 ≤ es.length) :
    ∃ text texts e' es', printItems parent es = .ok (text :: texts) ∧
      Reads entity text.toList (parent + 1) e' ∧
      List.Forall₂ (Reads entity · (parent + 1) ·) (texts.map String.toList) es' ∧ es' ≠ [] ∧
      sameItems (e' :: es') es := by
  obtain ⟨texts, es', written, reads, same⟩ := items
  have count := length_of_sameItems same
  cases reads with
  | nil =>
      rw [← count] at several
      exact absurd several (by decide)
  | cons first more =>
      refine ⟨_, _, _, _, written, first, List.forall₂_map_left_iff.mpr more, ?_, same⟩
      rintro rfl
      rw [← count, List.length_singleton] at several
      exact absurd several (by decide)

theorem printed_any (several : 2 ≤ es.length) (items : PrintedItems entity 1 es) :
    Printed entity (.any es) := by
  obtain ⟨text, texts, e', es', written, first, more, some, same⟩ := items.exists_several several
  refine ⟨_, .any (e' :: es'), (Writes.any written).printed, ?_, same⟩
  have whole := first.any more some
  rw [Text.toList_joinWith]
  rwa [furtherTexts_map] at whole

theorem printed_all (several : 2 ≤ es.length) (items : PrintedItems entity 2 es) :
    Printed entity (.all es) := by
  obtain ⟨text, texts, e', es', written, first, more, some, same⟩ := items.exists_several several
  refine ⟨_, .all (e' :: es'), (Writes.all written).printed, ?_, same⟩
  have whole := first.all more some
  rw [Text.toList_joinWith]
  rwa [furtherTexts_map] at whole

theorem printed_not (operand : Printed entity e) : Printed entity (.not e) := by
  obtain ⟨text, e', written, reads, same⟩ := operand
  refine ⟨_, .not e', (Writes.not written).printed, ?_, same⟩
  have inner : Reads entity (parenthesised (needsParens 3 e) text).toList 4 e' :=
    reads_operand (by decide) reads
  have whole : Reads entity _ 3 (.not e') := (inner.lift (by decide)).not
  exact whole.of_eq (by simp [Keyword.text])

end Connectives

/-! ## Conditions -/

section Conditions

variable {left right : Expr}

theorem comparator_symbol {comparator : Comparator} (known : ∀ symbol, comparator ≠ .unknown symbol)
    (unlike : ∀ ignoreCase negated, comparator ≠ .like ignoreCase negated) :
    isSymbol comparator.symbol ∧ comparator? comparator.symbol = some comparator := by
  cases comparator with
  | like ignoreCase negated => exact absurd rfl (unlike _ _)
  | unknown symbol => exact absurd rfl (known symbol)
  | eq | ne | lt | le | gt | ge => exact ⟨by decide, rfl⟩

theorem symbol_like (ignoreCase negated : Bool) :
    (Comparator.like ignoreCase negated).symbol.toList =
      phraseText (if ignoreCase then .ilike else .like) negated := by
  cases ignoreCase <;> cases negated <;> decide

theorem printed_compare {comparator : Comparator} (known : ∀ symbol, comparator ≠ .unknown symbol)
    (leftPrinted : Printed entity left) (rightPrinted : Printed entity right) :
    Printed entity (.condition (.compare comparator) left right) := by
  obtain ⟨leftText, left', leftWritten, leftReads, leftSame⟩ := leftPrinted.exists_operand
  obtain ⟨rightText, right', rightWritten, rightReads, rightSame⟩ := rightPrinted.exists_operand
  refine ⟨_, .condition (.compare comparator) left' right',
    (Writes.compare comparator leftWritten rightWritten).printed, ?_,
    same_condition _ leftSame rightSame⟩
  by_cases like : ∃ ignoreCase negated, comparator = .like ignoreCase negated
  · obtain ⟨ignoreCase, negated, rfl⟩ := like
    have whole := leftReads.like rightReads ignoreCase negated
    exact whole.of_eq (by simp [symbol_like])
  · obtain ⟨isSymbol, found⟩ := comparator_symbol known fun ignoreCase negated same =>
      like ⟨ignoreCase, negated, same⟩
    have whole := leftReads.compare rightReads isSymbol found
    exact whole.of_eq (by simp)

theorem right_of_isShaped_null {negated : Bool}
    (shaped : (Expr.condition (.null negated) left right).isShaped entity) :
    right = .literal .null := by
  cases right with
  | literal value =>
      obtain ⟨kind, value⟩ := value
      cases kind with
      | null =>
          cases value with
          | null => rfl
          | _ => cases shaped
      | _ => cases shaped
  | _ => cases shaped

theorem printed_null (negated : Bool) (leftPrinted : Printed entity left) :
    Printed entity (.condition (.null negated) left (.literal .null)) := by
  obtain ⟨leftText, left', leftWritten, leftReads, leftSame⟩ := leftPrinted.exists_operand
  refine ⟨_, .condition (.null negated) left' (.literal .null),
    (Writes.null negated leftWritten).printed, ?_, same_condition _ leftSame rfl⟩
  exact (leftReads.null negated).of_eq (by cases negated <;> simp [phraseText, Keyword.text])

theorem symbol_member (negated : Bool) :
    (Operator.member negated).symbol.toList = phraseText .in negated := by
  cases negated <;> decide

theorem printed_member_array (negated : Bool) {items : List Expr} (some : items ≠ [])
    (leftPrinted : Printed entity left) (printed : PrintedItems entity 0 items) :
    Printed entity (.condition (.member negated) left (.array items)) := by
  obtain ⟨leftText, left', leftWritten, leftReads, leftSame⟩ := leftPrinted.exists_operand
  obtain ⟨texts, items', itemsWritten, reads, same⟩ := printed
  refine ⟨_, .condition (.member negated) left' (.array items'),
    (Writes.listed negated leftWritten itemsWritten).printed, ?_, same_condition _ leftSame same⟩
  cases reads with
  | nil =>
      have count := length_of_sameItems same
      exact absurd (List.length_eq_zero_iff.mp count.symm) some
  | cons first more =>
      have whole := leftReads.member (scans_list first more) negated
      exact whole.of_eq (by simp [symbol_member])

theorem printed_member_subquery (negated : Bool) {target : Option String} {body : String}
    (leftPrinted : Printed entity left) (captured : (Expr.subquery target body).Recaptured) :
    Printed entity (.condition (.member negated) left (.subquery target body)) := by
  obtain ⟨leftText, left', leftWritten, leftReads, leftSame⟩ := leftPrinted.exists_operand
  obtain ⟨tokens, recaptures, selects⟩ := captured
  refine ⟨_, .condition (.member negated) left' (.subquery target body),
    (Writes.selected negated leftWritten).printed, ?_, same_condition _ leftSame (same_self rfl)⟩
  have whole := leftReads.member (scans_listedSubquery recaptures selects) negated
  exact whole.of_eq (by simp [symbol_member])

theorem printed_member_other (negated : Bool) (unlisted : ∀ items, right ≠ .array items)
    (uncaptured : ∀ target body, right ≠ .subquery target body)
    (leftPrinted : Printed entity left) (rightPrinted : Printed entity right) :
    Printed entity (.condition (.member negated) left right) := by
  obtain ⟨leftText, left', leftWritten, leftReads, leftSame⟩ := leftPrinted.exists_operand
  obtain ⟨text, right', rightWritten, reads, same⟩ := rightPrinted.exists_text
  refine ⟨_, .condition (.member negated) left' right',
    (Writes.quantified negated leftWritten unlisted uncaptured rightWritten).printed, ?_,
    same_condition _ leftSame same⟩
  have whole := leftReads.quantified reads negated
  exact whole.of_eq (by cases negated <;> simp [quantifier, Keyword.text])

end Conditions

/-! ## Choices -/

section Choices

variable {branches : List (Expr × Expr)} {otherwise : Option Expr}

def PrintedOption (entity : String) (e : Option Expr) : Prop :=
  ∀ inner ∈ e, Printed entity inner

theorem exists_end (printed : PrintedOption entity otherwise) :
    ∃ texts otherwise' endText, printOption "ELSE " otherwise = .ok texts ∧
      ((texts ++ ["END"]).map String.toList).flatMap (" ".toList ++ ·) = ' ' :: endText ∧
      Scans entity Parted endText (YieldsEnd otherwise') ∧ sameOption otherwise' otherwise := by
  cases otherwise with
  | none => exact ⟨[], none, _, rfl, rfl, scans_ended, rfl⟩
  | some e =>
      obtain ⟨text, e', written, reads, same⟩ := (printed e rfl).exists_text
      refine ⟨["ELSE " ++ text], some e', _, printOption_some _ written, ?_, scans_otherwise reads,
        same⟩
      simp [Keyword.text]

theorem printed_choice {subject : Option Expr} (branched : branches ≠ [])
    (subjectPrinted : PrintedOption entity subject)
    (branchesPrinted : PrintedBranches entity branches)
    (otherwisePrinted : PrintedOption entity otherwise) :
    Printed entity (.choice subject branches otherwise) := by
  obtain ⟨texts, branches', branchesWritten, reads, same⟩ := branchesPrinted
  obtain ⟨lastTexts, otherwise', endText, endWritten, endEq, endReads, endSame⟩ :=
    exists_end otherwisePrinted
  have branched' : branches' ≠ [] := by
    rintro rfl
    exact branched (List.length_eq_zero_iff.mp (length_of_sameBranches same).symm)
  have body := scans_body (List.forall₂_map_left_iff.mpr reads) branched' endReads
  have parted : ∀ behind, Parted
      (((texts.map String.toList).flatMap (" ".toList ++ ·) ++ ' ' :: endText) ++ behind) := by
    intro behind
    rw [List.append_assoc]
    exact Scans.flatMap_ends (fun _ => parted_cons (by decide) _) _ (parted_cons (by decide) _)
  cases subject with
  | none =>
      refine ⟨_, .choice none branches' otherwise',
        (Writes.choice rfl branchesWritten endWritten).printed, ?_, same_choice rfl same endSame⟩
      refine (reads_searched body parted).of_eq ?_
      rw [Text.toList_joinWith, List.append_assoc, List.map_append, List.flatMap_append, endEq]
      rfl
  | some e =>
      obtain ⟨text, e', subjectWritten, subjectReads, subjectSame⟩ :=
        (subjectPrinted e rfl).exists_text
      refine ⟨_, .choice (some e') branches' otherwise',
        (Writes.choice (printOption_some _ subjectWritten) branchesWritten endWritten).printed, ?_,
        same_choice subjectSame same endSame⟩
      refine (reads_simple subjectReads body parted).of_eq ?_
      rw [Text.toList_joinWith, List.append_assoc, List.append_assoc, List.map_append,
        List.flatMap_append, List.map_append, List.flatMap_append, endEq]
      simp [Keyword.text]

end Choices

/-! ## Primaries -/

theorem printed_existence {target : Option String} {body : String}
    (captured : (Expr.existence target body).Recaptured) :
    Printed entity (.existence target body) := by
  obtain ⟨filled, tokens, recaptures⟩ := captured
  refine ⟨_, .existence target body, rfl, ?_, same_self rfl⟩
  exact (reads_existence recaptures filled).of_eq (by simp [Keyword.text])

theorem printed_subquery {target : Option String} {body : String}
    (captured : (Expr.subquery target body).Recaptured) :
    Printed entity (.subquery target body) := by
  obtain ⟨tokens, recaptures, selects⟩ := captured
  refine ⟨_, .subquery target body, rfl, ?_, same_self rfl⟩
  exact (reads_subquery recaptures selects).of_eq (by simp)

theorem printed_array {items : List Expr} (printed : PrintedItems entity 0 items) :
    Printed entity (.array items) := by
  obtain ⟨texts, items', itemsWritten, reads, same⟩ := printed
  refine ⟨_, .array items', (Writes.array itemsWritten).printed, ?_, same⟩
  exact (reads_array reads).of_eq (by simp [Keyword.text])

theorem printed_column {name : String} {qualifier : Option String}
    (shaped : (Expr.column name qualifier).isShaped entity)
    (plain : (Expr.column name qualifier).isPlain) : Printed entity (.column name qualifier) := by
  cases qualifier with
  | none =>
      rw [isPlain, Bool.and_eq_true, Bool.not_eq_true'] at plain
      refine ⟨name, .column name none, rfl, ?_, same_self rfl⟩
      have column : ofParts ⟨[], entity⟩ name [] = .column name none :=
        if_neg (Bool.eq_false_iff.mp plain.2)
      have whole : Reads entity (Text.joinWith "." [name]).toList 5 _ :=
        reads_reference plain.1 nofun
      rwa [column] at whole
  | some qualifier =>
      rw [isPlain, Bool.and_eq_true] at plain
      rw [isShaped, bne_iff_ne] at shaped
      have filled : qualifier ≠ "" := by
        rintro rfl
        exact absurd plain.2 (by decide)
      refine ⟨_, .column name (some qualifier), (Writes.qualified filled).printed, ?_,
        same_self rfl⟩
      have column : ofParts ⟨[], entity⟩ qualifier [name] = .column name (some qualifier) :=
        if_neg (by simpa using shaped)
      have whole : Reads entity (Text.joinWith "." [qualifier, name]).toList 5 _ :=
        reads_reference plain.2 (by simpa using plain.1)
      rwa [column] at whole

/-! ## Calls -/

section Calls

variable {name : String} {arguments : List Expr}

theorem isSettingCall_of_same {arguments' : List Expr} (same : sameItems arguments' arguments)
    (setting : isSettingCall name arguments') : isSettingCall name arguments := by
  cases arguments' with
  | nil => cases setting
  | cons first more =>
      cases arguments with
      | nil => cases same
      | cons next others =>
          rw [sameItems, Bool.and_eq_true] at same
          unfold isSettingCall at setting
          split at setting
          · rename_i value _ listed
            cases listed
            obtain ⟨⟨kind, value'⟩, rfl, rfl⟩ := exists_literal_of_same same.1
            exact setting
          · cases setting

theorem ofCall_of_not_setting (other : isSettingCall name arguments = Bool.false) :
    ofCall name arguments = .call name arguments := by
  unfold ofCall
  dsimp only
  split
  · rename_i setting
    rw [isSettingCall, setting] at other
    cases other
  · rfl

theorem printed_call (shaped : (Expr.call name arguments).isShaped entity)
    (plain : (Expr.call name arguments).isPlain) (printed : PrintedItems entity 0 arguments) :
    Printed entity (.call name arguments) := by
  obtain ⟨texts, arguments', argumentsWritten, reads, same⟩ := printed
  obtain ⟨first, more, parts, joined⟩ := Text.exists_dottedParts name
  rw [isPlain, parts, List.all_cons, Bool.and_eq_true, List.all_eq_true] at plain
  rw [isShaped, Bool.not_eq_true'] at shaped
  by_cases bare : (arguments.isEmpty && bareFunctions.contains name) = Bool.true
  · rw [Bool.and_eq_true, List.isEmpty_iff] at bare
    obtain ⟨rfl, listed⟩ := bare
    have each : ∀ name ∈ bareFunctions,
        isName name ∧ Text.lower name = name := by decide
    obtain ⟨named, lower⟩ := each name (List.contains_iff_mem.mp listed)
    have call : ofParts ⟨[], entity⟩ name [] = .call name [] := by
      rw [ofParts, List.reverse_nil, lower]
      exact if_pos listed
    have whole : Reads entity (Text.joinWith "." [name]).toList 5 _ :=
      reads_reference named nofun
    rw [call] at whole
    exact ⟨name, .call name [], (Writes.bareCall listed).printed, whole, same_call name rfl⟩
  · have whole := reads_call plain.1 plain.2 reads
    have call : ofCall name arguments' = .call name arguments' := by
      refine ofCall_of_not_setting (Bool.eq_false_iff.mpr fun setting => ?_)
      rw [isSettingCall_of_same same setting] at shaped
      cases shaped
    rw [joined, call] at whole
    exact ⟨_, .call name arguments', (Writes.call bare argumentsWritten).printed,
      whole.of_eq (by simp), same_call name same⟩

theorem printed_setting (key : String) : Printed entity (.setting key) := by
  have named : isName "current_setting" := by decide
  have setting : ["current_setting", "pg_catalog.current_setting"].contains
      (Text.lower "current_setting") = Bool.true := by decide
  have whole : Reads entity ((Text.joinWith "." ["current_setting"]).toList ++
      '(' :: ((Text.joinWith ", " [Text.quoteLiteral key]).toList ++ [')'])) 5 _ :=
    reads_call named nofun (.cons ((reads_text key).lift (by decide)) .nil)
  have call : ofCall (Text.joinWith "." ["current_setting"]) [.literal ⟨.text, .text key⟩] =
      .setting key := by
    unfold ofCall
    rw [Text.joinWith, setting]
  rw [call] at whole
  exact ⟨_, .setting key, rfl, whole.of_eq (by simp [Text.joinWith]), same_self rfl⟩

end Calls

/-! ## Literals -/

section Literals

theorem same_of_order_eq {d d' : Decimal} (order : d.order d' = .eq) :
    (Expr.literal ⟨.decimal, .decimal d⟩).same (.literal ⟨.decimal, .decimal d'⟩) := by
  change (some (some (d.order d') == some .eq) == some Bool.true) = Bool.true
  rw [order]
  rfl

theorem printed_integer {n : Int} (few : (Nat.toDigits 10 n.natAbs).length ≤ Text.maxDigits) :
    Printed entity (.literal ⟨.integer, .int n⟩) := by
  have digits := Text.allDigits_toDigits n.natAbs
  have read := Token.number_toDigits few
  have text : (toString n.natAbs).toList = Nat.toDigits 10 n.natAbs := Nat.toList_repr
  obtain ⟨c, rest, whole⟩ :=
    List.exists_cons_of_ne_nil (Nat.toDigits_ne_nil : Nat.toDigits 10 n.natAbs ≠ [])
  rw [whole] at digits read text
  have digit := Text.isDigit_of_ascii (digits c List.mem_cons_self)
  have same : (Expr.literal ⟨.integer, .int n⟩).same (.literal ⟨.integer, .int n⟩) := by
    change (some (some ((Decimal.ofInt n).order (.ofInt n)) == some .eq) == some Bool.true) =
      Bool.true
    rw [Decimal.order_self]
    rfl
  refine ⟨Value.intText n, .literal ⟨.integer, .int n⟩, rfl, ?_, same⟩
  by_cases negative : n < 0
  · have negation : negated ⟨.integer, .int n.natAbs⟩ = .ok ⟨.integer, .int n⟩ := by
      rw [negated]
      congr 3
      omega
    refine (reads_negative digit read rfl negation).of_eq ?_
    rw [Value.intText, if_pos negative, String.toList_append, text]
    rfl
  · have value : literal? (.integer n.natAbs) = some ⟨.integer, .int n⟩ := by
      rw [literal?]
      congr 3
      omega
    refine (reads_literal (scans_number digit read) value).of_eq ?_
    rw [Value.intText, if_neg negative, text]

theorem printed_decimal {d : Decimal} (scaled : d.exponent ≠ 0) (held : d.InRange)
    (working : d.negative = Bool.true → d.isWorking) :
    Printed entity (.literal ⟨.decimal, .decimal d⟩) := by
  have read := d.number_magnitude scaled held
  obtain ⟨c, rest, whole, isDigit⟩ := d.magnitude_begins scaled
  have digit := Text.isDigit_of_ascii isDigit
  rw [whole] at read
  have text := d.toList_toText
  rw [whole] at text
  cases negative : d.negative with
  | false =>
      have unsigned : d.unsigned = d := by
        rw [Decimal.unsigned, ← negative]
      rw [unsigned] at read
      refine ⟨d.toText, .literal ⟨.decimal, .decimal d⟩, rfl, ?_, same_of_order_eq d.order_self⟩
      refine (reads_literal (scans_number digit read) rfl).of_eq ?_
      rw [text, negative]
      rfl
  | true =>
      obtain ⟨d', negation, order⟩ := d.exists_negated negative (working negative)
      refine ⟨d.toText, .literal ⟨.decimal, .decimal d'⟩, rfl, ?_, same_of_order_eq order⟩
      have negated : negated ⟨.decimal, .decimal d.unsigned⟩ = .ok ⟨.decimal, .decimal d'⟩ := by
        rw [Expr.negated, negation]
      refine (reads_negative digit read rfl negated).of_eq ?_
      rw [text, negative]
      rfl

theorem printed_literal {value : Literal} (shaped : (Expr.literal value).isShaped entity)
    (plain : (Expr.literal value).isPlain) : Printed entity (.literal value) := by
  rw [isShaped] at shaped
  unfold Literal.isShaped at shaped
  split at shaped
  · rename_i content
    refine ⟨_, _, rfl, reads_text content, ?_⟩
    simp [Expr.same, Literal.same, Value.same, Value.same?, Value.isIdentical, Value.equal?,
      Value.equalLeaf?, Value.number?]
  · exact printed_integer (by simpa using shaped)
  · rw [Bool.and_eq_true, Bool.or_eq_true, Bool.not_eq_true', decide_eq_true_eq] at shaped
    refine printed_decimal (by simpa [isPlain] using plain) shaped.1 fun negative => ?_
    rcases shaped.2 with positive | working
    · rw [negative] at positive
      cases positive
    · exact working
  · rename_i b
    cases b with
    | false => exact ⟨"false", .literal (.bool Bool.false), rfl,
        reads_constant (by decide) (by decide : _ = some Keyword.false) rfl, by decide⟩
    | true => exact ⟨"true", .literal (.bool Bool.true), rfl,
        reads_constant (by decide) (by decide : _ = some Keyword.true) rfl, by decide⟩
  · exact ⟨"NULL", .literal .null, rfl,
      reads_constant (by decide) (by decide : _ = some Keyword.null) rfl, by decide⟩
  · cases shaped

end Literals

/-! ## Trees -/

mutual

/-- A tree whose nodes are read back is read back. -/
theorem printed_of_restores (e : Expr) (restores : e.Everywhere (Restores entity)) :
    Printed entity e := by
  cases e with
  | any es =>
      obtain ⟨here, each⟩ := everywhere_any.mp restores
      exact printed_any (by simpa [isShaped] using here.shaped)
        (printedItems_of_restores 1 (by decide) es each)
  | all es =>
      obtain ⟨here, each⟩ := everywhere_all.mp restores
      exact printed_all (by simpa [isShaped] using here.shaped)
        (printedItems_of_restores 2 (by decide) es each)
  | not operand =>
      exact printed_not (printed_of_restores operand (everywhere_not.mp restores).2)
  | condition operator left right =>
      obtain ⟨here, leftRestores, rightRestores⟩ := everywhere_condition.mp restores
      have leftPrinted := printed_of_restores left leftRestores
      cases operator with
      | compare comparator =>
          refine printed_compare ?_ leftPrinted (printed_of_restores right rightRestores)
          rintro symbol rfl
          cases here.shaped
      | member negated =>
          cases right with
          | array items =>
              refine printed_member_array negated ?_ leftPrinted
                (printedItems_of_restores 0 (by decide) items (everywhere_array.mp rightRestores).2)
              rintro rfl
              cases here.plain
          | subquery target body =>
              exact printed_member_subquery negated leftPrinted
                (rightRestores _ List.mem_cons_self).captured
          | _ =>
              exact printed_member_other negated nofun nofun leftPrinted
                (printed_of_restores _ rightRestores)
      | null negated =>
          obtain rfl := right_of_isShaped_null here.shaped
          exact printed_null negated leftPrinted
  | choice subject branches otherwise =>
      obtain ⟨here, subjectRestores, branchesRestore, otherwiseRestores⟩ :=
        everywhere_choice.mp restores
      exact printed_choice (by simpa [isShaped] using here.shaped)
        (printedOption_of_restores subject subjectRestores)
        (printedBranches_of_restores branches branchesRestore)
        (printedOption_of_restores otherwise otherwiseRestores)
  | existence target body => exact printed_existence (restores _ List.mem_cons_self).captured
  | subquery target body => exact printed_subquery (restores _ List.mem_cons_self).captured
  | call name arguments =>
      obtain ⟨here, each⟩ := everywhere_call.mp restores
      exact printed_call here.shaped here.plain
        (printedItems_of_restores 0 (by decide) arguments each)
  | column name qualifier =>
      have here := restores _ List.mem_cons_self
      exact printed_column here.shaped here.plain
  | setting key => exact printed_setting key
  | literal value =>
      have here := restores _ List.mem_cons_self
      exact printed_literal here.shaped here.plain
  | array items =>
      exact printed_array
        (printedItems_of_restores 0 (by decide) items (everywhere_array.mp restores).2)
  | foreign node => cases (restores _ List.mem_cons_self).shaped
termination_by structural e

theorem printedItems_of_restores (parent : Nat) (within : parent ≤ 4) (es : List Expr)
    (restores : ∀ e ∈ es, e.Everywhere (Restores entity)) : PrintedItems entity parent es := by
  cases es with
  | nil => exact printedItems_nil
  | cons e es =>
      rw [List.forall_mem_cons] at restores
      exact printedItems_cons within (printed_of_restores e restores.1)
        (printedItems_of_restores parent within es restores.2)
termination_by structural es

theorem printedBranches_of_restores (branches : List (Expr × Expr))
    (restores : ∀ branch ∈ branches, branch.1.Everywhere (Restores entity) ∧
      branch.2.Everywhere (Restores entity)) : PrintedBranches entity branches := by
  cases branches with
  | nil => exact printedBranches_nil
  | cons branch branches =>
      obtain ⟨key, outcome⟩ := branch
      rw [List.forall_mem_cons] at restores
      exact printedBranches_cons (printed_of_restores key restores.1.1)
        (printed_of_restores outcome restores.1.2)
        (printedBranches_of_restores branches restores.2)
termination_by structural branches

theorem printedOption_of_restores (e : Option Expr)
    (restores : ∀ inner ∈ e, inner.Everywhere (Restores entity)) : PrintedOption entity e := by
  cases e with
  | none => nofun
  | some inner =>
      rintro _ ⟨⟩
      exact printed_of_restores inner (restores inner rfl)
termination_by structural e

end

theorem Printed.parse (printed : Printed entity e) :
    ∃ text e', print e = .ok text ∧ parse text entity = .ok e' ∧ e'.same e := by
  obtain ⟨text, e', written, reads, same⟩ := printed.exists_text
  exact ⟨text, e', written, reads.parse, same⟩

/-- Whether a node is well formed in a text about an entity and holds no subquery. -/
def isFormed (entity : String) (node : Expr) : Bool :=
  node.isShaped entity && node.isPlain && !node.isCapture

/-- The canonical text of a well-formed expression is read to that expression. -/
theorem parse_print (formed : ∀ node ∈ e.walk, node.isFormed entity) :
    ∃ text e', print e = .ok text ∧ parse text entity = .ok e' ∧ e'.same e := by
  refine (printed_of_restores e fun node member => ?_).parse
  have here := formed node member
  rw [isFormed, Bool.and_eq_true, Bool.and_eq_true, Bool.not_eq_true'] at here
  refine ⟨here.1.1, here.1.2, ?_⟩
  cases node with
  | existence target body => cases here.2
  | subquery target body => cases here.2
  | _ => trivial

/-- A negated choice, a membership in a list and a decimal with an exponent. -/
def overdue : Expr :=
  .all [
    .not (.any [
      .condition (.member Bool.true) (.column "kind" (some "owner"))
        (.array [.literal ⟨.text, .text "it's"⟩, .literal ⟨.integer, .int (-2)⟩]),
      .choice none [(.condition (.null Bool.false) (.column "due" none) (.literal .null),
        .literal (.bool Bool.true))] none]),
    .condition (.compare .ge) (.call "pg_catalog.abs" [.column "amount" none])
      (.literal ⟨.decimal, .decimal ⟨Bool.true, 15, 3⟩⟩)]

theorem parse_print_overdue :
    print overdue = .ok ("NOT (owner.kind NOT IN ('it''s', -2) OR " ++
      "CASE WHEN due IS NULL THEN true END) AND pg_catalog.abs(amount) >= -1.5E+4") ∧
      (∀ node ∈ overdue.walk, node.isFormed "Post") ∧
      ∃ text e', print overdue = .ok text ∧ parse text "Post" = .ok e' ∧ e'.same overdue := by
  have formed : ∀ node ∈ overdue.walk, node.isFormed "Post" := by decide
  exact ⟨by decide, formed, parse_print formed⟩

/-- An integer of more digits than are read is refused. -/
theorem parse_tooLong {n : Nat} (many : Text.maxDigits < (Nat.toDigits 10 n).length) :
    parse (toString n) entity = .error (.tooLong (Nat.toDigits 10 n).length) := by
  have text : (toString n).toList = Nat.toDigits 10 n := Nat.toList_repr
  have digits := Text.allDigits_toDigits n
  have read := Token.number_of_digits n
  rw [Token.integer_tooLong many] at read
  generalize (Nat.toDigits 10 n).length = count at read many ⊢
  obtain ⟨c, rest, whole⟩ :=
    List.exists_cons_of_ne_nil (Nat.toDigits_ne_nil : Nat.toDigits 10 n ≠ [])
  rw [whole] at digits read text
  have digit := Text.isDigit_of_ascii (digits c List.mem_cons_self)
  have filled : ¬ (Text.trim (toString n).toList).isEmpty = Bool.true := by
    rw [trim_isEmpty_iff, text]
    intro blank
    have other := Token.not_isBlank_of_isDigit digit
    rw [blank c List.mem_cons_self] at other
    cases other
  rw [parse, if_neg filled, Token.scan, text, Token.scanFrom, Token.step_of_isDigit digit, read]
  rfl

theorem print_natural (n : Nat) : print (.literal ⟨.integer, .int n⟩) = .ok (toString n) := by
  change Except.ok (Value.intText n) = _
  rw [Value.intText, if_neg (by omega), Int.natAbs_natCast]

theorem not_exists_parse_of_many {n : Nat} (many : Text.maxDigits < (Nat.toDigits 10 n).length) :
    ¬ ∃ text e', print (.literal ⟨.integer, .int n⟩) = .ok text ∧ parse text entity = .ok e' := by
  rintro ⟨text, e', printed, parsed⟩
  rw [print_natural] at printed
  cases printed
  rw [parse_tooLong many] at parsed
  cases parsed

/-- A call of the function that reads a setting, by its name in upper case. -/
def upperSetting : Expr :=
  .call "CURRENT_SETTING" [.literal ⟨.text, .text "app.user"⟩]

/-- An integer of one digit more than are read. -/
def hugeInteger : Expr :=
  .literal ⟨.integer, .int (10 ^ Text.maxDigits : Nat)⟩

/-- A number under the kind of texts. -/
def misplacedNumber : Expr :=
  .literal ⟨.text, .int 5⟩

/-- A setting read by its function's name in upper case, an integer of too many digits and a literal
of another kind than its value are not read back. -/
theorem parse_print_upperSetting :
    ("CURRENT_SETTING" ∉ ["current_setting", "pg_catalog.current_setting"] ∧
        upperSetting.isPlain ∧ print upperSetting = .ok "CURRENT_SETTING('app.user')" ∧
        parse "CURRENT_SETTING('app.user')" "Post" = .ok (.setting "app.user") ∧
        (Expr.setting "app.user").same upperSetting = Bool.false) ∧
      (¬ ∃ text e', print hugeInteger = .ok text ∧ parse text "Post" = .ok e') ∧
      print misplacedNumber = .ok "'5'" ∧
      parse "'5'" "Post" = .ok (.literal ⟨.text, .text "5"⟩) ∧
      (Expr.literal ⟨.text, .text "5"⟩).same misplacedNumber = Bool.false := by
  refine ⟨⟨by decide, by decide, rfl, by with_unfolding_all rfl, rfl⟩,
    not_exists_parse_of_many ?_, rfl, by with_unfolding_all rfl, rfl⟩
  have length := Nat.length_toDigits_le_iff (b := 10) (n := 10 ^ Text.maxDigits)
    (k := Text.maxDigits) (by decide) (by decide)
  rw [← Nat.not_le, length]
  exact Nat.lt_irrefl _

end Expr

end RowGuard
