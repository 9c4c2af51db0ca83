import RowGuard.Proofs.Folding
import RowGuard.Proofs.Predicate.Truth
import RowGuard.Proofs.Value.Order

/-! Laws of the truth of compiled predicates. What a predicate does not read has
no bearing on its truth, a comparison may be turned around, the folding
constructors build conjunctions, disjunctions and negations without changing it,
and a choice by value is one by the conditions that its keys stand for. -/

set_option autoImplicit false

namespace RowGuard

/-! ## Comparisons turned around -/

theorem Value.ordered?_swap {wanted turned : Ordering → Bool}
    (swaps : ∀ order, turned order.swap = wanted order) (left right : Value) :
    right.ordered? turned left = left.ordered? wanted right := by
  simp only [ordered?, order_swap left right]
  cases left.order right with
  | ordered order => exact congrArg some (swaps order)
  | unordered | incomparable | invalid => rfl

theorem Comparator.isKnown_flipped {comparator flipped : Comparator}
    (flips : comparator.flipped? = some flipped) : flipped.isKnown := by
  cases comparator <;> cases flips <;> rfl

/-- A comparison turned around ends as it did before, the invalid operations included. -/
theorem Comparator.truth_flipped {comparator flipped : Comparator}
    (flips : comparator.flipped? = some flipped) (left right : Value) :
    flipped.truth right left = comparator.truth left right := by
  cases comparator with
  | eq | ne =>
      cases flips
      simp only [truth, Bool.or_comm right.isNull, Value.equal?_comm right left]
  | lt | le | gt | ge =>
      cases flips
      simp only [truth, Bool.or_comm right.isNull]
      refine congrArg (ite _ _) (congrArg decide (Value.ordered?_swap ?_ left right))
      intro order
      cases order <;> rfl
  | like _ _ | unknown _ => cases flips

theorem Comparator.compare_flipped {comparator flipped : Comparator}
    (flips : comparator.flipped? = some flipped) (left right : Value) :
    flipped.compare right left = comparator.compare left right := by
  rw [compare, truth_flipped flips, compare]

/-! ## Dependencies -/

theorem Operand.read_congr_record {operand : Operand} (unread : operand.readsRecord = false)
    (actor record other : Value) : operand.read actor record = operand.read actor other := by
  cases operand with
  | record _ => cases unread
  | actor _ _ | value _ | values _ | foreign _ => rfl

theorem Operand.read_congr_actor {operand : Operand} (unread : operand.readsActor = false)
    (actor other record : Value) : operand.read actor record = operand.read other record := by
  cases operand with
  | actor _ _ => cases unread
  | record _ | value _ | values _ | foreign _ => rfl

namespace Predicate

theorem anyReadsRecord_eq_false_iff {ps : List Predicate} :
    anyReadsRecord ps = Bool.false ↔ ∀ p ∈ ps, p.readsRecord = Bool.false := by
  induction ps with
  | nil => simp [anyReadsRecord]
  | cons p ps ih => simp [anyReadsRecord, ih]

theorem selectReadsRecord_eq_false_iff {branches : List (Operand × Predicate)} :
    selectReadsRecord branches = Bool.false ↔
      ∀ branch ∈ branches,
        branch.1.readsRecord = Bool.false ∧ branch.2.readsRecord = Bool.false := by
  induction branches with
  | nil => simp [selectReadsRecord]
  | cons branch rest ih => simp [selectReadsRecord, ih]

theorem firstReadsRecord_eq_false_iff {branches : List (Predicate × Predicate)} :
    firstReadsRecord branches = Bool.false ↔
      ∀ branch ∈ branches,
        branch.1.readsRecord = Bool.false ∧ branch.2.readsRecord = Bool.false := by
  induction branches with
  | nil => simp [firstReadsRecord]
  | cons branch rest ih => simp [firstReadsRecord, ih]

theorem anyReadsActor_eq_false_iff {ps : List Predicate} :
    anyReadsActor ps = Bool.false ↔ ∀ p ∈ ps, p.readsActor = Bool.false := by
  induction ps with
  | nil => simp [anyReadsActor]
  | cons p ps ih => simp [anyReadsActor, ih]

theorem selectReadsActor_eq_false_iff {branches : List (Operand × Predicate)} :
    selectReadsActor branches = Bool.false ↔
      ∀ branch ∈ branches, branch.1.readsActor = Bool.false ∧ branch.2.readsActor = Bool.false := by
  induction branches with
  | nil => simp [selectReadsActor]
  | cons branch rest ih => simp [selectReadsActor, ih]

theorem firstReadsActor_eq_false_iff {branches : List (Predicate × Predicate)} :
    firstReadsActor branches = Bool.false ↔
      ∀ branch ∈ branches, branch.1.readsActor = Bool.false ∧ branch.2.readsActor = Bool.false := by
  induction branches with
  | nil => simp [firstReadsActor]
  | cons branch rest ih => simp [firstReadsActor, ih]

/-- Branches that read alike and lead to the same truths choose the same truth. -/
theorem truthSelect_congr {actor other subject record unseen : Value}
    {branches : List (Operand × Predicate)}
    (keys : ∀ branch ∈ branches, branch.1.read actor record = branch.1.read other unseen)
    (outcomes : ∀ branch ∈ branches,
      branch.2.truth actor record = branch.2.truth other unseen) :
    truthSelect actor subject branches record = truthSelect other subject branches unseen := by
  induction branches with
  | nil => rfl
  | cons branch rest ih =>
      rw [List.forall_mem_cons] at keys outcomes
      simp only [truthSelect, keys.1, outcomes.1, ih keys.2 outcomes.2]

@[inherit_doc truthSelect_congr]
theorem truthFirst_congr {actor other record unseen : Value}
    {branches : List (Predicate × Predicate)}
    (keys : ∀ branch ∈ branches, branch.1.truth actor record = branch.1.truth other unseen)
    (outcomes : ∀ branch ∈ branches,
      branch.2.truth actor record = branch.2.truth other unseen) :
    truthFirst actor branches record = truthFirst other branches unseen := by
  induction branches with
  | nil => rfl
  | cons branch rest ih =>
      rw [List.forall_mem_cons] at keys outcomes
      simp only [truthFirst, keys.1, outcomes.1, ih keys.2 outcomes.2]

variable {admitted : Unresolved → Prop} {p : Predicate}

theorem Compiled.truth_congr_record (compiled : p.Compiled admitted)
    (unread : p.readsRecord = Bool.false) (actor record other : Value) :
    p.truth actor record = p.truth actor other := by
  induction compiled with
  | const => rfl
  | all _ ih =>
      rw [readsRecord, anyReadsRecord_eq_false_iff] at unread
      rw [truth_all, truth_all, List.map_congr_left fun p member => ih p member (unread p member)]
  | any _ ih =>
      rw [readsRecord, anyReadsRecord_eq_false_iff] at unread
      rw [truth_any, truth_any, List.map_congr_left fun p member => ih p member (unread p member)]
  | not _ ih => rw [truth, truth, ih unread]
  | compare _ _ _ _ =>
      simp only [readsRecord, Bool.or_eq_false_iff] at unread
      rw [truth, truth, Operand.read_congr_record unread.1 actor record other,
        Operand.read_congr_record unread.2 actor record other]
  | member _ _ =>
      simp only [readsRecord, Bool.or_eq_false_iff] at unread
      rw [truth, truth, Operand.read_congr_record unread.1 actor record other,
        Operand.read_congr_record unread.2 actor record other]
  | isNull _ => rw [truth, truth, Operand.read_congr_record unread actor record other]
  | anyRelated _ _ _ => cases unread
  | select _ _ _ _ outcomeIH otherwiseIH =>
      simp only [readsRecord, Bool.or_eq_false_iff, selectReadsRecord_eq_false_iff] at unread
      obtain ⟨⟨subject, branches⟩, otherwise⟩ := unread
      rw [truth, truth, Operand.read_congr_record subject actor record other,
        otherwiseIH otherwise, truthSelect_congr
          (fun branch member => Operand.read_congr_record (branches branch member).1 _ _ _)
          (fun branch member => outcomeIH branch member (branches branch member).2)]
  | firstOf _ _ _ keyIH outcomeIH otherwiseIH =>
      simp only [readsRecord, Bool.or_eq_false_iff, firstReadsRecord_eq_false_iff] at unread
      obtain ⟨branches, otherwise⟩ := unread
      rw [truth, truth, otherwiseIH otherwise, truthFirst_congr
        (fun branch member => keyIH branch member (branches branch member).1)
        (fun branch member => outcomeIH branch member (branches branch member).2)]
  | role _ ih => exact ih unread
  | unresolved _ _ => cases unread

theorem Compiled.truth_congr_actor (compiled : p.Compiled admitted)
    (unread : p.readsActor = Bool.false) (actor other record : Value) :
    p.truth actor record = p.truth other record := by
  induction compiled generalizing record with
  | const | unresolved _ _ => rfl
  | all _ ih =>
      rw [readsActor, anyReadsActor_eq_false_iff] at unread
      rw [truth_all, truth_all,
        List.map_congr_left fun p member => ih p member (unread p member) record]
  | any _ ih =>
      rw [readsActor, anyReadsActor_eq_false_iff] at unread
      rw [truth_any, truth_any,
        List.map_congr_left fun p member => ih p member (unread p member) record]
  | not _ ih => rw [truth, truth, ih unread]
  | compare _ _ _ _ =>
      simp only [readsActor, Bool.or_eq_false_iff] at unread
      rw [truth, truth, Operand.read_congr_actor unread.1 actor other record,
        Operand.read_congr_actor unread.2 actor other record]
  | member _ _ =>
      simp only [readsActor, Bool.or_eq_false_iff] at unread
      rw [truth, truth, Operand.read_congr_actor unread.1 actor other record,
        Operand.read_congr_actor unread.2 actor other record]
  | isNull _ => rw [truth, truth, Operand.read_congr_actor unread actor other record]
  | anyRelated _ _ ih => simp only [truth, ih unread]
  | select _ _ _ _ outcomeIH otherwiseIH =>
      simp only [readsActor, Bool.or_eq_false_iff, selectReadsActor_eq_false_iff] at unread
      obtain ⟨⟨subject, branches⟩, otherwise⟩ := unread
      rw [truth, truth, Operand.read_congr_actor subject actor other record,
        otherwiseIH otherwise, truthSelect_congr
          (fun branch member => Operand.read_congr_actor (branches branch member).1 _ _ _)
          (fun branch member => outcomeIH branch member (branches branch member).2 record)]
  | firstOf _ _ _ keyIH outcomeIH otherwiseIH =>
      simp only [readsActor, Bool.or_eq_false_iff, firstReadsActor_eq_false_iff] at unread
      obtain ⟨branches, otherwise⟩ := unread
      rw [truth, truth, otherwiseIH otherwise, truthFirst_congr
        (fun branch member => keyIH branch member (branches branch member).1 record)
        (fun branch member => outcomeIH branch member (branches branch member).2 record)]
  | role _ ih => exact ih unread record

/-! ## Orientation -/

/-- Turning a comparison around either changes nothing, or puts a field of the record on the
left. -/
theorem oriented_cases (comparator : Comparator) (left right : Operand) :
    oriented comparator left right = .compare comparator left right ∨
      ∃ flipped, oriented comparator left right = .compare flipped right left ∧ right.isRecord := by
  rw [oriented]
  split
  · exact .inl rfl
  · next turned =>
      cases comparator.flipped? with
      | none => exact .inl rfl
      | some flipped =>
          simp only [Bool.or_eq_true, Bool.not_eq_true', not_or, Bool.not_eq_false] at turned
          exact .inr ⟨flipped, rfl, turned.2⟩

theorem oriented_of_isRecord {left : Operand} (own : left.isRecord) (comparator : Comparator)
    (right : Operand) : oriented comparator left right = .compare comparator left right := by
  rw [oriented, own]
  rfl

theorem isTest_oriented (comparator : Comparator) (left right : Operand) :
    (oriented comparator left right).isTest := by
  obtain same | ⟨flipped, turned, _⟩ := oriented_cases comparator left right
  · rw [same]
    rfl
  · rw [turned]
    rfl

theorem stripRole_oriented (comparator : Comparator) (left right : Operand) :
    (oriented comparator left right).stripRole = oriented comparator left right := by
  obtain same | ⟨flipped, turned, _⟩ := oriented_cases comparator left right
  · rw [same]
    rfl
  · rw [turned]
    rfl

theorem isKnown_of_oriented {comparator flipped : Comparator} {left right other another : Operand}
    (known : comparator.isKnown)
    (turned : oriented comparator left right = .compare flipped other another) :
    flipped.isKnown := by
  rw [oriented] at turned
  split at turned
  · cases turned
    exact known
  · cases flips : comparator.flipped? with
    | none =>
        rw [flips] at turned
        cases turned
        exact known
    | some flipped =>
        rw [flips] at turned
        cases turned
        exact Comparator.isKnown_flipped flips

theorem truth_oriented (comparator : Comparator) (left right : Operand) (actor record : Value) :
    (oriented comparator left right).truth actor record =
      comparator.compare (left.read actor record) (right.read actor record) := by
  rw [oriented]
  split
  · rfl
  · cases flips : comparator.flipped? with
    | none => rfl
    | some flipped => exact Comparator.compare_flipped flips _ _

theorem compiled_oriented {comparator : Comparator} {left right : Operand}
    (known : comparator.isKnown) (soundLeft : left.isSound) (soundRight : right.isSound) :
    (oriented comparator left right).Compiled admitted := by
  obtain same | ⟨flipped, turned, isField⟩ := oriented_cases comparator left right
  · rw [same]
    exact .compare known soundLeft soundRight same
  · rw [turned]
    refine .compare ?_ soundRight soundLeft (oriented_of_isRecord isField flipped left)
    exact isKnown_of_oriented known turned

/-! ## Folding -/

/-- What a predicate adds to a conjunction. -/
def opensAll : Predicate → Option (List Predicate)
  | .const value =>
    if value.same (.bool Bool.false) then none
    else if value.same (.bool Bool.true) then some []
    else some [.const value]
  | .all operands => some operands
  | item => some [item]

/-- What a predicate adds to a disjunction. -/
def opensAny : Predicate → Option (List Predicate)
  | .const value =>
    if value.same (.bool Bool.true) then none
    else if value.same (.bool Bool.false) then some []
    else some [.const value]
  | .any operands => some operands
  | item => some [item]

theorem conjuncts_eq_parts (items : List Predicate) :
    conjuncts items = Folding.parts opensAll items := by
  induction items with
  | nil => rfl
  | cons item items ih =>
      cases item with
      | const value =>
          simp only [conjuncts, Folding.parts, opensAll, ih]
          by_cases isFalse : value.same (.bool Bool.false) = Bool.true
          · simp [isFalse]
          · by_cases isTrue : value.same (.bool Bool.true) = Bool.true <;>
              cases Folding.parts opensAll items <;> simp [isFalse, isTrue]
      | all _ | any _ | not _ | compare _ _ _ | member _ _ _ | isNull _ _ | anyRelated _ _ _
      | select _ _ _ | firstOf _ _ | role _ | unresolved _ | foreign _ =>
          simp only [conjuncts, Folding.parts, opensAll, ih]
          cases Folding.parts opensAll items <;> rfl

theorem alternatives_eq_parts (items : List Predicate) :
    alternatives items = Folding.parts opensAny items := by
  induction items with
  | nil => rfl
  | cons item items ih =>
      cases item with
      | const value =>
          simp only [alternatives, Folding.parts, opensAny, ih]
          by_cases isTrue : value.same (.bool Bool.true) = Bool.true
          · simp [isTrue]
          · by_cases isFalse : value.same (.bool Bool.false) = Bool.true <;>
              cases Folding.parts opensAny items <;> simp [isFalse, isTrue]
      | all _ | any _ | not _ | compare _ _ _ | member _ _ _ | isNull _ _ | anyRelated _ _ _
      | select _ _ _ | firstOf _ _ | role _ | unresolved _ | foreign _ =>
          simp only [alternatives, Folding.parts, opensAny, ih]
          cases Folding.parts opensAny items <;> rfl

theorem allOf_eq_joined (items : List Predicate) :
    allOf items =
      Folding.joined Predicate.false Predicate.true .all (Folding.parts opensAll items) := by
  rw [allOf, conjuncts_eq_parts]
  match Folding.parts opensAll items with
  | none | some [] | some [_] | some (_ :: _ :: _) => rfl

theorem anyOf_eq_joined (items : List Predicate) :
    anyOf items =
      Folding.joined Predicate.true Predicate.false .any (Folding.parts opensAny items) := by
  rw [anyOf, alternatives_eq_parts]
  match Folding.parts opensAny items with
  | none | some [] | some [_] | some (_ :: _ :: _) => rfl

theorem mem_opensAll {item part : Predicate} {inner : List Predicate}
    (opens : opensAll item = some inner) (inside : part ∈ inner) :
    part = item ∨ ∃ operands, item = .all operands ∧ part ∈ operands := by
  cases item with
  | const value =>
      simp only [opensAll] at opens
      split at opens
      · cases opens
      · split at opens <;> cases opens
        · cases inside
        · exact .inl (List.mem_singleton.mp inside)
  | all operands =>
      cases opens
      exact .inr ⟨_, rfl, inside⟩
  | any _ | not _ | compare _ _ _ | member _ _ _ | isNull _ _ | anyRelated _ _ _
  | select _ _ _ | firstOf _ _ | role _ | unresolved _ | foreign _ =>
      cases opens
      exact .inl (List.mem_singleton.mp inside)

theorem mem_opensAny {item part : Predicate} {inner : List Predicate}
    (opens : opensAny item = some inner) (inside : part ∈ inner) :
    part = item ∨ ∃ operands, item = .any operands ∧ part ∈ operands := by
  cases item with
  | const value =>
      simp only [opensAny] at opens
      split at opens
      · cases opens
      · split at opens <;> cases opens
        · cases inside
        · exact .inl (List.mem_singleton.mp inside)
  | any operands =>
      cases opens
      exact .inr ⟨_, rfl, inside⟩
  | all _ | not _ | compare _ _ _ | member _ _ _ | isNull _ _ | anyRelated _ _ _
  | select _ _ _ | firstOf _ _ | role _ | unresolved _ | foreign _ =>
      cases opens
      exact .inl (List.mem_singleton.mp inside)

/-- A class of predicates that holds the constants, and a conjunction if and only if it holds the
operands, holds the folded conjunctions of its members. -/
theorem allOf_induction {motive : Predicate → Prop} {items : List Predicate}
    (onConst : ∀ b, motive (.const (.bool b)))
    (onAll : ∀ ps, motive (.all ps) ↔ ∀ p ∈ ps, motive p)
    (onItems : ∀ item ∈ items, motive item) : motive (allOf items) := by
  rw [allOf_eq_joined]
  refine Folding.joined_induction (onConst _) (onConst _) (fun ps => (onAll ps).mpr) ?_ onItems
  intro item inner holds opens part inside
  obtain rfl | ⟨operands, rfl, among⟩ := mem_opensAll opens inside
  · exact holds
  · exact (onAll _).mp holds part among

@[inherit_doc allOf_induction]
theorem anyOf_induction {motive : Predicate → Prop} {items : List Predicate}
    (onConst : ∀ b, motive (.const (.bool b)))
    (onAny : ∀ ps, motive (.any ps) ↔ ∀ p ∈ ps, motive p)
    (onItems : ∀ item ∈ items, motive item) : motive (anyOf items) := by
  rw [anyOf_eq_joined]
  refine Folding.joined_induction (onConst _) (onConst _) (fun ps => (onAny ps).mpr) ?_ onItems
  intro item inner holds opens part inside
  obtain rfl | ⟨operands, rfl, among⟩ := mem_opensAny opens inside
  · exact holds
  · exact (onAny _).mp holds part among

theorem compiled_all_iff {ps : List Predicate} :
    (Predicate.all ps).Compiled admitted ↔ ∀ p ∈ ps, p.Compiled admitted :=
  ⟨fun | .all compiled => compiled, .all⟩

theorem compiled_any_iff {ps : List Predicate} :
    (Predicate.any ps).Compiled admitted ↔ ∀ p ∈ ps, p.Compiled admitted :=
  ⟨fun | .any compiled => compiled, .any⟩

theorem compiled_allOf {items : List Predicate} (compiled : ∀ p ∈ items, p.Compiled admitted) :
    (allOf items).Compiled admitted :=
  allOf_induction (fun _ => .const) (fun _ => compiled_all_iff) compiled

theorem compiled_anyOf {items : List Predicate} (compiled : ∀ p ∈ items, p.Compiled admitted) :
    (anyOf items).Compiled admitted :=
  anyOf_induction (fun _ => .const) (fun _ => compiled_any_iff) compiled

theorem compiled_negate (negates : ∀ construct, admitted construct → admitted construct.negate)
    (compiled : p.Compiled admitted) : p.negate.Compiled admitted := by
  cases compiled with
  | const => exact .const
  | not operand => exact operand
  | unresolved default admits => exact .unresolved default (negates _ admits)
  | all operands => exact .not (.all operands)
  | any operands => exact .not (.any operands)
  | compare known left right turned => exact .not (.compare known left right turned)
  | member operand values => exact .not (.member operand values)
  | isNull operand => exact .not (.isNull operand)
  | anyRelated test condition => exact .not (.anyRelated test condition)
  | select subject keys outcomes otherwise => exact .not (.select subject keys outcomes otherwise)
  | firstOf keys outcomes otherwise => exact .not (.firstOf keys outcomes otherwise)
  | role condition => exact .not (.role condition)

theorem Compiled.opensAll (compiled : p.Compiled admitted) (actor record : Value) :
    Folding.Opens Folding.conjunction (truth actor · record) Predicate.opensAll p := by
  cases compiled with
  | @const b => cases b <;> rfl
  | @all operands _ =>
      have whole := truth_all actor operands record
      simp only [Folding.Opens, Predicate.opensAll, Folding.conjunction, whole]
      exact (Truth.all_singleton (Truth.isProper_all _)).symm
  | any _ | not _ | compare _ _ _ _ | member _ _ | isNull _ | anyRelated _ _ | select _ _ _ _
  | firstOf _ _ _ | role _ | unresolved _ _ => rfl

theorem Compiled.opensAny (compiled : p.Compiled admitted) (actor record : Value) :
    Folding.Opens Folding.disjunction (truth actor · record) Predicate.opensAny p := by
  cases compiled with
  | @const b => cases b <;> rfl
  | @any operands _ =>
      have whole := truth_any actor operands record
      simp only [Folding.Opens, Predicate.opensAny, Folding.disjunction, whole]
      exact (Truth.any_singleton (Truth.isProper_any _)).symm
  | all _ | not _ | compare _ _ _ _ | member _ _ | isNull _ | anyRelated _ _ | select _ _ _ _
  | firstOf _ _ _ | role _ | unresolved _ _ => rfl

theorem truth_allOf {items : List Predicate} (compiled : ∀ p ∈ items, p.Compiled admitted)
    (actor record : Value) :
    (allOf items).truth actor record = Truth.all (items.map (truth actor · record)) := by
  rw [allOf_eq_joined]
  refine Folding.value_joined Folding.conjunction (truth actor · record) rfl rfl
    (fun ps => truth_all actor ps record)
    (fun item member => (compiled item member).opensAll actor record) ?_
  intro item member inner opens part inside
  obtain rfl | ⟨operands, rfl, among⟩ := mem_opensAll opens inside
  · exact (compiled _ member).isProper_truth actor record
  · exact (compiled_all_iff.mp (compiled _ member) part among).isProper_truth actor record

theorem truth_anyOf {items : List Predicate} (compiled : ∀ p ∈ items, p.Compiled admitted)
    (actor record : Value) :
    (anyOf items).truth actor record = Truth.any (items.map (truth actor · record)) := by
  rw [anyOf_eq_joined]
  refine Folding.value_joined Folding.disjunction (truth actor · record) rfl rfl
    (fun ps => truth_any actor ps record)
    (fun item member => (compiled item member).opensAny actor record) ?_
  intro item member inner opens part inside
  obtain rfl | ⟨operands, rfl, among⟩ := mem_opensAny opens inside
  · exact (compiled _ member).isProper_truth actor record
  · exact (compiled_any_iff.mp (compiled _ member) part among).isProper_truth actor record

/-- Negation is exact on every predicate that is no construct without a meaning. -/
theorem truth_negate (compiled : p.Compiled fun _ => False) (actor record : Value) :
    p.negate.truth actor record = (p.truth actor record).not := by
  cases compiled with
  | @const b =>
      simp only [negate, Value.truthy, truth, Truth.ofValue, Truth.not_ofBool]
  | not operand => exact (Truth.not_not (operand.isProper_truth actor record)).symm
  | unresolved _ admits => exact admits.elim
  | all _ | any _ | compare _ _ _ _ | member _ _ | isNull _ | anyRelated _ _ | select _ _ _ _
  | firstOf _ _ _ | role _ => rfl

/-! ## Choices -/

/-- The conditions that the keys of a choice by value stand for, with the branches they lead to. -/
def keyed (subject : Operand) (branches : List (Operand × Predicate)) :
    List (Predicate × Predicate) :=
  branches.map fun branch => (oriented .eq subject branch.1, branch.2)

/-- A choice, its conditions with what they lead to, and what is left. -/
inductive Choice : Predicate → List (Predicate × Predicate) → Predicate → Prop where
  | select {subject : Operand} {branches : List (Operand × Predicate)} {otherwise : Predicate} :
      Choice (.select subject branches otherwise) (keyed subject branches) otherwise
  | firstOf {branches : List (Predicate × Predicate)} {otherwise : Predicate} :
      Choice (.firstOf branches otherwise) branches otherwise

theorem truthSelect_eq_keyed (actor : Value) (subject : Operand)
    (branches : List (Operand × Predicate)) (record : Value) :
    truthSelect actor (subject.read actor record) branches record =
      truthFirst actor (keyed subject branches) record := by
  induction branches with
  | nil => rfl
  | cons branch rest ih =>
      simp only [keyed, List.map_cons, truthSelect, truthFirst, truth_oriented]
      rw [ih]
      rfl

/-- A choice has the truth of its first branch whose condition holds. -/
theorem Choice.truth_eq {branches : List (Predicate × Predicate)} {otherwise : Predicate}
    (choice : p.Choice branches otherwise) (actor record : Value) :
    p.truth actor record =
      (truthFirst actor branches record).getD (otherwise.truth actor record) := by
  cases choice with
  | select => rw [truth, truthSelect_eq_keyed]
  | firstOf => rw [truth]

theorem Choice.compiled {branches : List (Predicate × Predicate)} {otherwise : Predicate}
    (choice : p.Choice branches otherwise) (compiled : p.Compiled admitted) :
    (∀ branch ∈ branches, branch.1.Compiled admitted ∧ branch.2.Compiled admitted) ∧
      otherwise.Compiled admitted := by
  cases choice with
  | select =>
      cases compiled with
      | select sound keys outcomes otherwise =>
          have known : Comparator.eq.isKnown := rfl
          refine ⟨List.forall_mem_map.mpr fun branch member => ?_, otherwise⟩
          exact ⟨compiled_oriented known sound (keys branch member), outcomes branch member⟩
  | firstOf =>
      cases compiled with
      | firstOf keys outcomes otherwise =>
          exact ⟨fun branch member => ⟨keys branch member, outcomes branch member⟩, otherwise⟩

end Predicate

end RowGuard
