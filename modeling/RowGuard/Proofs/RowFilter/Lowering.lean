import RowGuard.RowFilter.Lower
import RowGuard.Proofs.Compilation
import RowGuard.Proofs.Predicate.Laws

/-! Induction over lowering. A run of `lower` that ends in a filter is read apart
once, into one step for each form of predicate; whatever every step keeps holds
of every run. A choice by value takes the steps of the choice by the conditions
that its keys stand for. -/

set_option autoImplicit false

namespace RowGuard

namespace RowFilter

open Compilation (Event)
open Traced (Each)

/-- The negation of what an operand was lowered to. -/
def negateLowered : RowFilter → RowFilter
  | .roleOnly condition => .roleOnly condition.negate
  | f => f.negate

section Steps

variable (step : Predicate → RowFilter → List Event → Prop)

/-- A choice by conditions on the actor, as one conditional filter inside another. -/
inductive Chain (last : RowFilter) :
    List (Predicate × Predicate) → RowFilter → List Event → Prop where
  | nil : Chain last [] last []
  | cons {key outcome : Predicate} {rest : List (Predicate × Predicate)}
      {passed chained : RowFilter} {before after : List Event} :
      Chain last rest chained before → step outcome passed after →
      Chain last ((key, outcome) :: rest) (.given key.stripRole (asData passed) chained)
        (before ++ after)

/-- The branches of a choice as filters, what was excluded before them and after them. -/
inductive Arms : List RowFilter → List (Predicate × Predicate) → List RowFilter → List RowFilter →
    List Event → Prop where
  | nil {excluded : List RowFilter} : Arms excluded [] [] excluded []
  | cons {excluded : List RowFilter} {key outcome : Predicate}
      {rest : List (Predicate × Predicate)} {matched passed left : RowFilter}
      {arms others : List RowFilter} {first second third fourth : List Event} :
      step key matched first → step outcome passed second →
      unmatched key (asData matched) = ⟨.ok left, third⟩ →
      Arms (excluded ++ [left]) rest arms others fourth →
      Arms excluded ((key, outcome) :: rest)
        (allOf (excluded ++ [asData matched, asData passed]) :: arms) others
        (first ++ (second ++ (third ++ fourth)))

variable {step}

theorem Chain.imp {other : Predicate → RowFilter → List Event → Prop} {last chained : RowFilter}
    {branches : List (Predicate × Predicate)} {events : List Event}
    (chain : Chain step last branches chained events)
    (weaker : ∀ p f part, step p f part → other p f part) :
    Chain other last branches chained events := by
  induction chain with
  | nil => exact .nil
  | cons _ outcome ih => exact .cons ih (weaker _ _ _ outcome)

theorem Arms.imp {other : Predicate → RowFilter → List Event → Prop}
    {excluded arms others : List RowFilter} {branches : List (Predicate × Predicate)}
    {events : List Event} (run : Arms step excluded branches arms others events)
    (weaker : ∀ p f part, step p f part → other p f part) :
    Arms other excluded branches arms others events := by
  induction run with
  | nil => exact .nil
  | cons key outcome left _ ih => exact .cons (weaker _ _ _ key) (weaker _ _ _ outcome) left ih

end Steps

/-- What holds of every step of lowering: of a predicate that does not read the record, and of each
form of those that do, given that it holds of the parts. -/
structure Invariant (scope : Scope)
    (motive : Bool → Predicate → RowFilter → List Event → Prop) : Prop where
  role {top : Bool} {p : Predicate} : p.isRoleOnly → motive top p (.roleOnly p.stripRole) []
  constant {top : Bool} {p : Predicate} {granted : Bool} :
    p.readsRecord = false → p.readsActor = false →
    (p.grants scope.config.onUnloaded .null .null).result = .ok granted →
    motive top p (if granted then .pass else .block) []
  all {top : Bool} {operands : List Predicate} {parts : List RowFilter} {f : RowFilter}
    {before after : List Event} :
    (Predicate.all operands).readsRecord → Each (motive top) operands parts before →
    splitAll scope top parts = ⟨.ok f, after⟩ → motive top (.all operands) f (before ++ after)
  any {top : Bool} {operands : List Predicate} {parts : List RowFilter} {f : RowFilter}
    {before after : List Event} :
    (Predicate.any operands).readsRecord → Each (motive false) operands parts before →
    splitAny scope (.any operands) parts = ⟨.ok f, after⟩ →
    motive top (.any operands) f (before ++ after)
  not {top : Bool} {operand : Predicate} {f : RowFilter} {events : List Event} :
    operand.readsRecord → motive false operand f events →
    motive top (.not operand) (negateLowered f) events
  marked {top : Bool} {condition : Predicate} {f : RowFilter} {events : List Event} :
    condition.readsRecord → motive top condition f events → motive top (.role condition) f events
  unresolved {top : Bool} {construct : Unresolved} :
    motive top (.unresolved construct) (.unresolved construct) []
  compare {top : Bool} {comparator : Comparator} {left right : Operand} {f : RowFilter}
    {events : List Event} :
    (Predicate.compare comparator left right).readsRecord →
    ofCompare scope (Predicate.oriented comparator left right) = ⟨.ok f, events⟩ →
    motive top (.compare comparator left right) f events
  member {top : Bool} {operand values : Operand} {negated : Bool} {f : RowFilter}
    {events : List Event} :
    (Predicate.member operand values negated).readsRecord →
    ofMember scope operand values negated = ⟨.ok f, events⟩ →
    motive top (.member operand values negated) f events
  isNull {top : Bool} {operand : Operand} {negated : Bool} {f : RowFilter} {events : List Event} :
    (Predicate.isNull operand negated).readsRecord →
    ofNull scope operand negated = ⟨.ok f, events⟩ → motive top (.isNull operand negated) f events
  anyRelated {top : Bool} {relation : String} {condition : Predicate} {joinFields : List String}
    {f : RowFilter} {events : List Event} :
    motive false condition f events →
    motive top (.anyRelated relation condition joinFields)
      (.someRelated relation (asData f) joinFields) events
  chain {top : Bool} {p otherwise : Predicate} {branches : List (Predicate × Predicate)}
    {last chained : RowFilter} {first second third : List Event} :
    p.readsRecord → p.Choice branches otherwise → (∀ branch ∈ branches, branch.1.isRoleOnly) →
    motive false otherwise last first → Chain (motive false) (asData last) branches chained second →
    noteChoice scope p = ⟨.ok (), third⟩ → motive top p chained (first ++ (second ++ third))
  arms {top : Bool} {p otherwise : Predicate} {branches : List (Predicate × Predicate)}
    {arms excluded : List RowFilter} {last : RowFilter} {first second : List Event} :
    p.readsRecord → p.Choice branches otherwise → (∃ branch ∈ branches, ¬branch.1.isRoleOnly) →
    Arms (motive false) [] branches arms excluded first → motive false otherwise last second →
    motive top p (anyOf (arms ++ [allOf (excluded ++ [asData last])])) (first ++ second)

section Runs

variable {scope : Scope} {motive : Bool → Predicate → RowFilter → List Event → Prop}
  {top : Bool} {p : Predicate} {f : RowFilter} {events : List Event}

theorem settled?_of_readsRecord (reads : p.readsRecord) : settled? scope p = none := by
  simp [settled?, Predicate.isRoleOnly, reads]

theorem lower_of_unread (unread : p.readsRecord = false) :
    lower scope top p =
      if p.readsActor then return .roleOnly p.stripRole
      else do
        let granted ← Compilation.ofEvaluation (p.grants scope.config.onUnloaded .null .null)
        return if granted then .pass else .block := by
  unfold lower
  cases reads : p.readsActor with
  | true => simp [settled?, Predicate.isRoleOnly, reads, unread]
  | false => simp [settled?, Predicate.isRoleOnly, reads, unread]

theorem lowerCompare_eq_lower (comparator : Comparator) (left right : Operand) :
    lowerCompare scope comparator left right =
      lower scope top (.compare comparator left right) := by
  unfold lower
  cases settled : settled? scope (.compare comparator left right) with
  | some run => simp [lowerCompare, settled]
  | none => rfl

theorem chain_run {otherwise : Predicate} (run : RowFilter → Compilation RowFilter)
    (lowered : (do
      let last ← lower scope false otherwise
      let chained ← run (asData last)
      noteChoice scope p
      return chained) = ⟨.ok f, events⟩) :
    ∃ last first second third, lower scope false otherwise = ⟨.ok last, first⟩ ∧
      run (asData last) = ⟨.ok f, second⟩ ∧ noteChoice scope p = ⟨.ok (), third⟩ ∧
      events = first ++ (second ++ third) := by
  obtain ⟨last, _, _, otherwiseRun, chainRest, rfl⟩ := Traced.bind_eq_ok_iff.mp lowered
  obtain ⟨chained, _, _, chainRun, noteRest, rfl⟩ := Traced.bind_eq_ok_iff.mp chainRest
  obtain ⟨_, _, _, noted, ended, rfl⟩ := Traced.bind_eq_ok_iff.mp noteRest
  obtain ⟨rfl, rfl⟩ := Traced.pure_eq_ok_iff.mp ended
  exact ⟨last, _, _, _, otherwiseRun, chainRun, noted, by rw [List.append_nil]⟩

theorem arms_run {otherwise : Predicate} {run : Compilation (List RowFilter × List RowFilter)}
    (lowered : (do
      let (arms, excluded) ← run
      let last ← lower scope false otherwise
      return anyOf (arms ++ [allOf (excluded ++ [asData last])])) = ⟨.ok f, events⟩) :
    ∃ arms excluded last first second, run = ⟨.ok (arms, excluded), first⟩ ∧
      lower scope false otherwise = ⟨.ok last, second⟩ ∧
      f = anyOf (arms ++ [allOf (excluded ++ [asData last])]) ∧ events = first ++ second := by
  obtain ⟨⟨arms, excluded⟩, _, _, armsRun, lastRest, rfl⟩ := Traced.bind_eq_ok_iff.mp lowered
  obtain ⟨last, _, _, otherwiseRun, ended, rfl⟩ := Traced.bind_eq_ok_iff.mp lastRest
  obtain ⟨rfl, rfl⟩ := Traced.pure_eq_ok_iff.mp ended
  exact ⟨arms, excluded, last, _, _, armsRun, otherwiseRun, rfl, by rw [List.append_nil]⟩

theorem arm_run {key outcome : Predicate} {run : Compilation RowFilter}
    {excluded arms others : List RowFilter}
    (later : List RowFilter → Compilation (List RowFilter × List RowFilter))
    (lowered : (do
      let matched ← run
      let passed ← lower scope false outcome
      let left ← unmatched key (asData matched)
      let (arms, excludedAll) ← later (excluded ++ [left])
      return (allOf (excluded ++ [asData matched, asData passed]) :: arms, excludedAll)) =
        ⟨.ok (arms, others), events⟩) :
    ∃ matched passed left rest first second third fourth, run = ⟨.ok matched, first⟩ ∧
      lower scope false outcome = ⟨.ok passed, second⟩ ∧
      unmatched key (asData matched) = ⟨.ok left, third⟩ ∧
      later (excluded ++ [left]) = ⟨.ok (rest, others), fourth⟩ ∧
      arms = allOf (excluded ++ [asData matched, asData passed]) :: rest ∧
      events = first ++ (second ++ (third ++ fourth)) := by
  obtain ⟨matched, _, _, keyRun, outcomeRest, rfl⟩ := Traced.bind_eq_ok_iff.mp lowered
  obtain ⟨passed, _, _, outcomeRun, leftRest, rfl⟩ := Traced.bind_eq_ok_iff.mp outcomeRest
  obtain ⟨left, _, _, leftRun, armsRest, rfl⟩ := Traced.bind_eq_ok_iff.mp leftRest
  obtain ⟨⟨arms, others⟩, _, _, armsRun, ended, rfl⟩ := Traced.bind_eq_ok_iff.mp armsRest
  obtain ⟨same, rfl⟩ := Traced.pure_eq_ok_iff.mp ended
  cases same
  exact ⟨matched, passed, left, arms, _, _, _, _, keyRun, outcomeRun, leftRun, armsRun, rfl,
    by rw [List.append_nil]⟩

namespace Invariant

theorem ofUnread (invariant : Invariant scope motive) (unread : p.readsRecord = false)
    (lowered : RowFilter.lower scope top p = ⟨.ok f, events⟩) : motive top p f events := by
  rw [lower_of_unread unread] at lowered
  cases reads : p.readsActor with
  | true =>
      rw [reads, if_pos rfl, Traced.pure_eq_ok_iff] at lowered
      obtain ⟨rfl, rfl⟩ := lowered
      exact invariant.role (by simp [Predicate.isRoleOnly, reads, unread])
  | false =>
      rw [reads, if_neg Bool.false_ne_true, Traced.bind_eq_ok_iff] at lowered
      obtain ⟨granted, _, _, evaluated, ended, rfl⟩ := lowered
      rw [Compilation.ofEvaluation_eq_ok_iff] at evaluated
      obtain ⟨evaluated, rfl⟩ := evaluated
      obtain ⟨rfl, rfl⟩ := Traced.pure_eq_ok_iff.mp ended
      exact invariant.constant unread reads evaluated

theorem ofLowerCompare (invariant : Invariant scope motive) {comparator : Comparator}
    {left right : Operand}
    (lowered : lowerCompare scope comparator left right = ⟨.ok f, events⟩) :
    motive top (.compare comparator left right) f events := by
  cases reads : (Predicate.compare comparator left right).readsRecord with
  | false => exact invariant.ofUnread reads ((lowerCompare_eq_lower _ _ _).symm.trans lowered)
  | true =>
      rw [lowerCompare, settled?_of_readsRecord reads] at lowered
      exact invariant.compare reads lowered

theorem ofKey (invariant : Invariant scope motive) {subject key : Operand}
    (lowered : lowerCompare scope .eq subject key = ⟨.ok f, events⟩) :
    motive top (Predicate.oriented .eq subject key) f events := by
  obtain same | ⟨flipped, turned, own⟩ := Predicate.oriented_cases .eq subject key
  · rw [same]
    exact invariant.ofLowerCompare lowered
  · cases key with
    | record path =>
        have reads : (Predicate.compare flipped (.record path) subject).readsRecord := rfl
        rw [lowerCompare,
          settled?_of_readsRecord (by simp [Predicate.readsRecord, Operand.readsRecord]),
          Option.getD_none, turned] at lowered
        rw [turned]
        refine invariant.compare reads ?_
        rwa [Predicate.oriented_of_isRecord rfl]
    | actor _ _ | value _ | values _ | foreign _ => cases own

mutual

theorem ofLower (invariant : Invariant scope motive) (top : Bool) (p : Predicate) {f : RowFilter}
    {events : List Event} (lowered : RowFilter.lower scope top p = ⟨.ok f, events⟩) :
    motive top p f events := by
  cases reads : p.readsRecord with
  | false => exact invariant.ofUnread reads lowered
  | true =>
      unfold RowFilter.lower at lowered
      rw [settled?_of_readsRecord reads] at lowered
      cases p with
      | const _ => cases reads
      | all operands =>
          obtain ⟨parts, before, after, each, split, rfl⟩ := Traced.bind_eq_ok_iff.mp lowered
          exact invariant.all reads (ofLowerAll invariant top operands each) split
      | any operands =>
          obtain ⟨parts, before, after, each, split, rfl⟩ := Traced.bind_eq_ok_iff.mp lowered
          exact invariant.any reads (ofLowerAll invariant false operands each) split
      | not operand =>
          obtain ⟨inner, before, after, first, ended, rfl⟩ := Traced.bind_eq_ok_iff.mp lowered
          have negated : f = negateLowered inner ∧ after = [] := by
            cases inner <;> exact (Traced.pure_eq_ok_iff.mp ended).imp_left Eq.symm
          obtain ⟨rfl, rfl⟩ := negated
          rw [List.append_nil]
          exact invariant.not reads (ofLower invariant false operand first)
      | compare comparator left right => exact invariant.ofLowerCompare lowered
      | member operand values negated => exact invariant.member reads lowered
      | isNull operand negated => exact invariant.isNull reads lowered
      | anyRelated relation condition joinFields =>
          obtain ⟨inner, before, after, first, ended, rfl⟩ := Traced.bind_eq_ok_iff.mp lowered
          obtain ⟨rfl, rfl⟩ := Traced.pure_eq_ok_iff.mp ended
          rw [List.append_nil]
          exact invariant.anyRelated (ofLower invariant false condition first)
      | select subject branches otherwise =>
          simp only at lowered
          split at lowered
          · next roles =>
              obtain ⟨last, _, _, _, otherwiseRun, chainRun, noted, rfl⟩ :=
                chain_run (chainSelect scope subject · branches) lowered
              refine invariant.chain reads .select ?_
                (ofLower invariant false otherwise otherwiseRun)
                (ofChainSelect invariant subject _ branches chainRun) noted
              rw [keyConditions, List.all_map, List.all_eq_true] at roles
              exact List.forall_mem_map.mpr roles
          · next mixed =>
              obtain ⟨arms, excluded, last, _, _, armsRun, otherwiseRun, rfl, rfl⟩ :=
                arms_run lowered
              refine invariant.arms reads .select ?_
                (ofArmsOfSelect invariant subject [] branches armsRun)
                (ofLower invariant false otherwise otherwiseRun)
              rw [keyConditions, List.all_map, List.all_eq_true] at mixed
              obtain ⟨branch, isData⟩ := Classical.not_forall.mp mixed
              obtain ⟨member, isData⟩ := Classical.not_imp.mp isData
              exact ⟨_, List.mem_map_of_mem member, isData⟩
      | firstOf branches otherwise =>
          simp only at lowered
          split at lowered
          · next roles =>
              obtain ⟨last, _, _, _, otherwiseRun, chainRun, noted, rfl⟩ :=
                chain_run (chainFirst scope · branches) lowered
              refine invariant.chain reads .firstOf ?_
                (ofLower invariant false otherwise otherwiseRun)
                (ofChainFirst invariant _ branches chainRun) noted
              simpa using roles
          · next mixed =>
              obtain ⟨arms, excluded, last, _, _, armsRun, otherwiseRun, rfl, rfl⟩ :=
                arms_run lowered
              refine invariant.arms reads .firstOf ?_
                (ofArmsOfFirst invariant [] branches armsRun)
                (ofLower invariant false otherwise otherwiseRun)
              simpa using mixed
      | role condition => exact invariant.marked reads (ofLower invariant top condition lowered)
      | unresolved construct =>
          obtain ⟨rfl, rfl⟩ := Traced.pure_eq_ok_iff.mp lowered
          exact invariant.unresolved
      | foreign node => exact absurd lowered (by simp [Compilation.refuse])
termination_by structural p

theorem ofLowerAll (invariant : Invariant scope motive) (top : Bool) (ps : List Predicate)
    {parts : List RowFilter} {events : List Event}
    (lowered : lowerAll scope top ps = ⟨.ok parts, events⟩) :
    Each (motive top) ps parts events := by
  cases ps with
  | nil =>
      obtain ⟨rfl, rfl⟩ := Traced.pure_eq_ok_iff.mp lowered
      exact .nil
  | cons p ps =>
      obtain ⟨first, _, _, firstRun, rest, rfl⟩ := Traced.bind_eq_ok_iff.mp lowered
      obtain ⟨others, _, _, othersRun, ended, rfl⟩ := Traced.bind_eq_ok_iff.mp rest
      obtain ⟨rfl, rfl⟩ := Traced.pure_eq_ok_iff.mp ended
      rw [List.append_nil]
      exact .cons (ofLower invariant top p firstRun) (ofLowerAll invariant top ps othersRun)
termination_by structural ps

theorem ofChainSelect (invariant : Invariant scope motive) (subject : Operand) (last : RowFilter)
    (branches : List (Operand × Predicate)) {chained : RowFilter} {events : List Event}
    (lowered : chainSelect scope subject last branches = ⟨.ok chained, events⟩) :
    Chain (motive false) last (Predicate.keyed subject branches) chained events := by
  cases branches with
  | nil =>
      obtain ⟨rfl, rfl⟩ := Traced.pure_eq_ok_iff.mp lowered
      exact .nil
  | cons branch rest =>
      obtain ⟨key, outcome⟩ := branch
      obtain ⟨chained, _, _, chainRun, outcomeRest, rfl⟩ := Traced.bind_eq_ok_iff.mp lowered
      obtain ⟨passed, _, _, outcomeRun, ended, rfl⟩ := Traced.bind_eq_ok_iff.mp outcomeRest
      obtain ⟨rfl, rfl⟩ := Traced.pure_eq_ok_iff.mp ended
      rw [List.append_nil, ← Predicate.stripRole_oriented]
      exact .cons (ofChainSelect invariant subject last rest chainRun)
        (ofLower invariant false outcome outcomeRun)
termination_by structural branches

theorem ofChainFirst (invariant : Invariant scope motive) (last : RowFilter)
    (branches : List (Predicate × Predicate)) {chained : RowFilter} {events : List Event}
    (lowered : chainFirst scope last branches = ⟨.ok chained, events⟩) :
    Chain (motive false) last branches chained events := by
  cases branches with
  | nil =>
      obtain ⟨rfl, rfl⟩ := Traced.pure_eq_ok_iff.mp lowered
      exact .nil
  | cons branch rest =>
      obtain ⟨key, outcome⟩ := branch
      obtain ⟨chained, _, _, chainRun, outcomeRest, rfl⟩ := Traced.bind_eq_ok_iff.mp lowered
      obtain ⟨passed, _, _, outcomeRun, ended, rfl⟩ := Traced.bind_eq_ok_iff.mp outcomeRest
      obtain ⟨rfl, rfl⟩ := Traced.pure_eq_ok_iff.mp ended
      rw [List.append_nil]
      exact .cons (ofChainFirst invariant last rest chainRun)
        (ofLower invariant false outcome outcomeRun)
termination_by structural branches

theorem ofArmsOfSelect (invariant : Invariant scope motive) (subject : Operand)
    (excluded : List RowFilter) (branches : List (Operand × Predicate))
    {arms others : List RowFilter} {events : List Event}
    (lowered : armsOfSelect scope subject excluded branches = ⟨.ok (arms, others), events⟩) :
    Arms (motive false) excluded (Predicate.keyed subject branches) arms others events := by
  cases branches with
  | nil =>
      obtain ⟨same, rfl⟩ := Traced.pure_eq_ok_iff.mp lowered
      cases same
      exact .nil
  | cons branch rest =>
      obtain ⟨key, outcome⟩ := branch
      obtain ⟨matched, passed, left, arms, _, _, _, _, keyRun, outcomeRun, leftRun, armsRun, same,
        rfl⟩ := arm_run (armsOfSelect scope subject · rest) lowered
      cases same
      exact .cons (invariant.ofKey keyRun) (ofLower invariant false outcome outcomeRun) leftRun
        (ofArmsOfSelect invariant subject _ rest armsRun)
termination_by structural branches

theorem ofArmsOfFirst (invariant : Invariant scope motive) (excluded : List RowFilter)
    (branches : List (Predicate × Predicate)) {arms others : List RowFilter} {events : List Event}
    (lowered : armsOfFirst scope excluded branches = ⟨.ok (arms, others), events⟩) :
    Arms (motive false) excluded branches arms others events := by
  cases branches with
  | nil =>
      obtain ⟨same, rfl⟩ := Traced.pure_eq_ok_iff.mp lowered
      cases same
      exact .nil
  | cons branch rest =>
      obtain ⟨key, outcome⟩ := branch
      obtain ⟨matched, passed, left, arms, _, _, _, _, keyRun, outcomeRun, leftRun, armsRun, same,
        rfl⟩ := arm_run (armsOfFirst scope · rest) lowered
      cases same
      exact .cons (ofLower invariant false key keyRun) (ofLower invariant false outcome outcomeRun)
        leftRun (ofArmsOfFirst invariant _ rest armsRun)
termination_by structural branches

end

end Invariant

end Runs

/-! ## Tests -/

section FieldTests

/-- The runs that lower a test by itself: along the path to its column, or by a report that it has no
form. -/
inductive FieldTest (scope : Scope) : Predicate → Compilation RowFilter → Prop where
  | compare {comparator : Comparator} {path : List String} {right : Operand} :
      isScalarSide right →
      FieldTest scope (.compare comparator (.record path) right)
        (atPath (onField comparator right) path)
  | member {path : List String} {values : Operand} {negated : Bool} : isSetSide values →
      FieldTest scope (.member (.record path) values negated)
        (atPath (fun field => notIf negated (.member field values)) path)
  | isNull {path : List String} {negated : Bool} :
      FieldTest scope (.isNull (.record path) negated) do
        let f ← nullAt path
        return if negated then negate f else f
  | inexpressible {p : Predicate} : FieldTest scope p (inexpressible scope p)

variable (scope : Scope)

theorem fieldTest_ofCompare (p : Predicate) : FieldTest scope p (ofCompare scope p) := by
  unfold ofCompare
  split
  · split
    · next scalar => exact .compare scalar
    · exact .inexpressible
  · exact .inexpressible

theorem fieldTest_ofMember (operand values : Operand) (negated : Bool) :
    FieldTest scope (.member operand values negated) (ofMember scope operand values negated) := by
  unfold ofMember
  split
  · split
    · next isSet => exact .member isSet
    · exact .inexpressible
  · exact .inexpressible

theorem fieldTest_ofNull (operand : Operand) (negated : Bool) :
    FieldTest scope (.isNull operand negated) (ofNull scope operand negated) := by
  unfold ofNull
  split
  · exact .isNull
  · exact .inexpressible

end FieldTests

/-! ## Connectives and branches -/

section Splits

variable {scope : Scope} {p : Predicate} {parts : List RowFilter} {f : RowFilter}
  {events : List Event}

theorem noteSplit_eq_ok {message : String} {done : Unit}
    (noted : noteSplit scope p message = ⟨.ok done, events⟩) :
    ∃ diagnostic, events = [.finding diagnostic] ∧ diagnostic.category = .roleSplit := by
  obtain ⟨text, _, _, printed, rest, rfl⟩ := Traced.bind_eq_ok_iff.mp noted
  obtain ⟨_, rfl⟩ := Compilation.ofExcept_eq_ok_iff.mp printed
  exact ⟨_, Scope.note_eq_ok_iff.mp rest, rfl⟩

/-- How the parts of a disjunction are joined: rows and roles by themselves, or roles in front of
rows, with a finding about the split. -/
inductive AnySplit (parts : List RowFilter) : RowFilter → List Event → Prop where
  | rows : roles parts = [] → AnySplit parts (anyOf (data parts)) []
  | roles : roles parts ≠ [] → data parts = [] →
      AnySplit parts (.roleOnly (Predicate.anyOf (roles parts))) []
  | split {diagnostic : Diagnostic} : roles parts ≠ [] → data parts ≠ [] →
      diagnostic.category = .roleSplit →
      AnySplit parts (.given (Predicate.anyOf (roles parts)) .pass (anyOf (data parts)))
        [.finding diagnostic]

theorem anySplit_of_run (lowered : splitAny scope p parts = ⟨.ok f, events⟩) :
    AnySplit parts f events := by
  unfold splitAny at lowered
  split at lowered
  · next none =>
      obtain ⟨rfl, rfl⟩ := Traced.pure_eq_ok_iff.mp lowered
      exact .rows none
  · next empty roled =>
      obtain ⟨rfl, rfl⟩ := Traced.pure_eq_ok_iff.mp lowered
      exact .roles roled empty
  · next roled some =>
      obtain ⟨_, _, _, noted, ended, rfl⟩ := Traced.bind_eq_ok_iff.mp lowered
      obtain ⟨rfl, rfl⟩ := Traced.pure_eq_ok_iff.mp ended
      obtain ⟨diagnostic, rfl, about⟩ := noteSplit_eq_ok noted
      exact .split roled some about

/-- How the parts of a conjunction are joined. At the top roles beside rows become role checks, and
below it they stand in front of the rows. -/
inductive AllSplit (top : Bool) (parts : List RowFilter) : RowFilter → List Event → Prop where
  | roles : data parts = [] → AllSplit top parts (.roleOnly (Predicate.allOf (roles parts))) []
  | rows : roles parts = [] → AllSplit top parts (allOf (data parts)) []
  | checked {diagnostic : Diagnostic} : top = true → roles parts ≠ [] → data parts ≠ [] →
      diagnostic.category = .roleSplit →
      AllSplit top parts (allOf (data parts))
        ((roles parts).map .roleCheck ++ [.finding diagnostic])
  | split {diagnostic : Diagnostic} : top = false → roles parts ≠ [] → data parts ≠ [] →
      diagnostic.category = .roleSplit →
      AllSplit top parts (.given (Predicate.allOf (roles parts)) (allOf (data parts)) .block)
        [.finding diagnostic]

theorem allSplit_of_run {top : Bool} (lowered : splitAll scope top parts = ⟨.ok f, events⟩) :
    AllSplit top parts f events := by
  unfold splitAll at lowered
  split at lowered
  · next empty =>
      obtain ⟨rfl, rfl⟩ := Traced.pure_eq_ok_iff.mp lowered
      exact .roles empty
  · next none some =>
      obtain ⟨rfl, rfl⟩ := Traced.pure_eq_ok_iff.mp lowered
      exact .rows none
  · next some roled =>
      split at lowered
      · next isTop =>
          obtain ⟨_, _, _, checked, splitRest, rfl⟩ := Traced.bind_eq_ok_iff.mp lowered
          obtain rfl := Traced.noteAll_eq_ok_iff.mp checked
          obtain ⟨_, _, _, noted, ended, rfl⟩ := Traced.bind_eq_ok_iff.mp splitRest
          obtain ⟨rfl, rfl⟩ := Traced.pure_eq_ok_iff.mp ended
          obtain ⟨diagnostic, rfl, about⟩ := noteSplit_eq_ok noted
          exact .checked isTop roled some about
      · next below =>
          obtain ⟨_, _, _, noted, ended, rfl⟩ := Traced.bind_eq_ok_iff.mp lowered
          obtain ⟨rfl, rfl⟩ := Traced.pure_eq_ok_iff.mp ended
          obtain ⟨diagnostic, rfl, about⟩ := noteSplit_eq_ok noted
          exact .split (Bool.eq_false_iff.mpr below) roled some about

/-- The rows that a branch of a choice leaves over: those that do not match, and those where the
compared field is null. -/
inductive Unmatched (matched : RowFilter) : Predicate → RowFilter → List Event → Prop where
  | compared {comparator : Comparator} {path : List String} {value : Operand} {missing : RowFilter}
      {events : List Event} : nullAt path = ⟨.ok missing, events⟩ →
      Unmatched matched (.compare comparator (.record path) value)
        (anyOf [negate matched, missing]) events
  | negated {key : Predicate} :
      (∀ comparator path value, key ≠ .compare comparator (.record path) value) →
      Unmatched matched key (negate matched) []

theorem unmatched_of_run {key : Predicate} {matched left : RowFilter}
    (lowered : unmatched key matched = ⟨.ok left, events⟩) :
    Unmatched matched key left events := by
  unfold unmatched at lowered
  split at lowered
  · obtain ⟨missing, _, _, nullRun, ended, rfl⟩ := Traced.bind_eq_ok_iff.mp lowered
    obtain ⟨rfl, rfl⟩ := Traced.pure_eq_ok_iff.mp ended
    rw [List.append_nil]
    exact .compared nullRun
  · next notField =>
      obtain ⟨rfl, rfl⟩ := Traced.pure_eq_ok_iff.mp lowered
      exact .negated notField

end Splits

end RowFilter

end RowGuard
