import RowGuard.Proofs.ShortCircuit

/-! What a folded connective that holds says about its items. A failure of one
item may end the evaluation of all, so an answer tells more than the truth of
the items does: a disjunction that is evaluated to true has an item that is by
itself, and of a conjunction every item is. -/

set_option autoImplicit false

namespace RowGuard

namespace Folding

variable {α ε : Type} {value : α → Except ε Truth} {opened : α → Option (List α)}
  {items ps qs : List α} {settled empty : α} {node : List α → α}

/-! ## Disjunctions -/

theorem run_any_append (ended : run disjunction value (ps ++ qs) = .ok .yes) :
    run disjunction value ps = .ok .yes ∨ run disjunction value qs = .ok .yes := by
  induction ps with
  | nil => exact .inr ended
  | cons p ps ih =>
      rcases run_cons_cases ended with ⟨holds, _⟩ | ⟨t, rest, valued, later, same⟩
      · exact .inl (run_cons_of_settling holds)
      · rcases Truth.or_eq_yes_iff.mp same.symm with rfl | rfl
        · exact .inl (run_cons_of_settling valued)
        · refine (ih later).imp_left fun front => ?_
          rw [run_cons valued front]
          exact congrArg Except.ok (disjunction.op_settling t)

/-- What an item of a disjunction is opened up to holds only if the item does. -/
def ReturnsAny (value : α → Except ε Truth) (opened : α → Option (List α)) (item : α) : Prop :=
  match opened item with
  | none => value item = .ok .yes
  | some inner => run disjunction value inner = .ok .yes → value item = .ok .yes

theorem exists_of_parts (returns : ∀ item ∈ items, ReturnsAny value opened item) :
    match parts opened items with
    | none => ∃ item ∈ items, value item = .ok .yes
    | some found =>
        run disjunction value found = .ok .yes → ∃ item ∈ items, value item = .ok .yes := by
  induction items with
  | nil => nofun
  | cons item items ih =>
      rw [List.forall_mem_cons] at returns
      have front := returns.1
      have back := ih returns.2
      rw [ReturnsAny] at front
      rw [parts]
      cases opening : opened item with
      | none =>
          rw [opening] at front
          exact ⟨item, .head _, front⟩
      | some inner =>
          rw [opening] at front
          cases folding : parts opened items with
          | none =>
              rw [folding] at back
              obtain ⟨other, among, holds⟩ := back
              exact ⟨other, .tail _ among, holds⟩
          | some found =>
              rw [folding] at back
              intro ended
              rcases run_any_append ended with first | later
              · exact ⟨item, .head _, front first⟩
              · obtain ⟨other, among, holds⟩ := back later
                exact ⟨other, .tail _ among, holds⟩

theorem exists_of_joined (onEmpty : value empty = .ok .no)
    (onNode : ∀ ps, value (node ps) = run disjunction value ps)
    (returns : ∀ item ∈ items, ReturnsAny value opened item)
    (ended : value (joined settled empty node (parts opened items)) = .ok .yes) :
    ∃ item ∈ items, value item = .ok .yes := by
  have back := exists_of_parts returns
  cases folded : parts opened items with
  | none =>
      rw [folded] at back
      exact back
  | some found =>
      rw [folded] at back ended
      match found with
      | [] => cases onEmpty.symm.trans ended
      | [part] => exact back (run_cons_of_settling ended)
      | first :: second :: rest => exact back ((onNode _).symm.trans ended)

/-! ## Conjunctions -/

theorem forall_of_run_all (proper : ∀ p ∈ ps, ∀ t, value p = .ok t → t.isProper)
    (ended : run conjunction value ps = .ok .yes) : ∀ p ∈ ps, value p = .ok .yes := by
  induction ps with
  | nil => nofun
  | cons p ps ih =>
      rw [List.forall_mem_cons] at proper
      rcases run_cons_cases ended with ⟨_, fails⟩ | ⟨t, rest, valued, later, same⟩
      · cases fails
      · obtain ⟨rfl, holds⟩ :=
          (Truth.and_eq_yes_iff (proper.1 t valued) (isProper_of_run_all later)).mp same.symm
        exact List.forall_mem_cons.mpr ⟨valued, ih proper.2 (later.trans (congrArg _ holds))⟩

theorem run_all_of_forall (each : ∀ p ∈ ps, value p = .ok .yes) :
    run conjunction value ps = .ok .yes := by
  induction ps with
  | nil => rfl
  | cons p ps ih =>
      rw [List.forall_mem_cons] at each
      exact run_cons each.1 (ih each.2)

theorem subset_of_parts {found : List α} (folded : parts opened items = some found) {item : α}
    (member : item ∈ items) : ∃ inner, opened item = some inner ∧ inner ⊆ found := by
  induction items generalizing found with
  | nil => cases member
  | cons first items ih =>
      simp only [parts] at folded
      split at folded
      · next inner rest opens folds =>
          cases folded
          rcases List.mem_cons.mp member with rfl | later
          · exact ⟨inner, opens, List.subset_append_left inner rest⟩
          · obtain ⟨part, opens, inside⟩ := ih folds later
            exact ⟨part, opens, List.Subset.trans inside (List.subset_append_right inner rest)⟩
      · cases folded

theorem forall_of_joined (onSettled : value settled = .ok .no)
    (onNode : ∀ ps, value (node ps) = run conjunction value ps)
    (returns : ∀ item ∈ items, ∀ inner, opened item = some inner →
      (∀ part ∈ inner, value part = .ok .yes) → value item = .ok .yes)
    (proper : ∀ item ∈ items, ∀ inner, opened item = some inner → ∀ part ∈ inner,
      ∀ t, value part = .ok t → t.isProper)
    (ended : value (joined settled empty node (parts opened items)) = .ok .yes) :
    ∀ item ∈ items, value item = .ok .yes := by
  cases folded : parts opened items with
  | none =>
      rw [folded] at ended
      cases onSettled.symm.trans ended
  | some found =>
      have known : ∀ part ∈ found, ∀ t, value part = .ok t → t.isProper := by
        intro part member
        obtain ⟨item, among, inner, opens, inside⟩ := mem_parts folded member
        exact proper item among inner opens part inside
      have each : ∀ part ∈ found, value part = .ok .yes := by
        rw [folded] at ended
        match found with
        | [] => nofun
        | [part] => exact List.forall_mem_singleton.mpr ended
        | first :: second :: rest => exact forall_of_run_all known ((onNode _).symm.trans ended)
      intro item member
      obtain ⟨inner, opens, inside⟩ := subset_of_parts folded member
      exact returns item member inner opens fun part among => each part (inside among)

end Folding

/-! ## Predicates -/

namespace Predicate

variable {mode : UnloadedMode} {actor record : Value} {admitted : Unresolved → Prop}
  {p : Predicate} {items : List Predicate}

theorem Compiled.decided (compiled : p.Compiled admitted) : p.Everywhere Decided := by
  induction compiled with
  | @const b => exact .node ⟨b, rfl⟩ nofun
  | unresolved default _ => exact .node ⟨_, default⟩ nofun
  | all _ ih | any _ ih => exact .node trivial ih
  | not _ ih | anyRelated _ _ ih | role _ ih =>
      exact .node trivial (List.forall_mem_singleton.mpr ih)
  | compare _ _ _ _ | member _ _ | isNull _ => exact .node trivial nofun
  | select _ _ _ _ outcomeIH otherwiseIH =>
      refine .node trivial (List.forall_mem_append.mpr ⟨List.forall_mem_map.mpr outcomeIH, ?_⟩)
      exact List.forall_mem_singleton.mpr otherwiseIH
  | firstOf _ _ _ keyIH outcomeIH otherwiseIH =>
      refine .node trivial (List.forall_mem_append.mpr ⟨List.forall_mem_map.mpr keyIH, ?_⟩)
      refine List.forall_mem_append.mpr ⟨List.forall_mem_map.mpr outcomeIH, ?_⟩
      exact List.forall_mem_singleton.mpr otherwiseIH

theorem result_grants_eq_true_iff :
    (p.grants mode record actor).result = .ok Bool.true ↔
      p.outcome mode actor record = .ok .yes := by
  rw [grants, Traced.result_bind_eq_ok_iff, outcome]
  constructor
  · rintro ⟨t, ended, same⟩
    rwa [Truth.holds_iff.mp (Except.ok.inj same)] at ended
  · exact fun ended => ⟨.yes, ended, rfl⟩

theorem exists_grants_of_anyOf (compiled : ∀ p ∈ items, p.Compiled admitted)
    (granted : ((anyOf items).grants mode record actor).result = .ok Bool.true) :
    ∃ p ∈ items, (p.grants mode record actor).result = .ok Bool.true := by
  simp only [result_grants_eq_true_iff, anyOf_eq_joined] at granted ⊢
  refine Folding.exists_of_joined rfl outcome_any (fun item member => ?_) granted
  have decided := (compiled item member).decided.here
  cases item with
  | const value =>
      obtain ⟨b, rfl⟩ := decided
      cases b with
      | false => exact nofun
      | true => rfl
  | any operands => exact (outcome_any operands).trans
  | all _ | not _ | compare _ _ _ | member _ _ _ | isNull _ _ | anyRelated _ _ _ | select _ _ _
  | firstOf _ _ | role _ | unresolved _ | foreign _ =>
      intro ended
      rcases Folding.run_cons_cases ended with ⟨holds, _⟩ | ⟨t, rest, valued, nothing, same⟩
      · exact holds
      · cases nothing
        rcases Truth.or_eq_yes_iff.mp same.symm with rfl | fails
        · exact valued
        · cases fails

theorem forall_grants_of_allOf (compiled : ∀ p ∈ items, p.Compiled admitted)
    (granted : ((allOf items).grants mode record actor).result = .ok Bool.true) :
    ∀ p ∈ items, (p.grants mode record actor).result = .ok Bool.true := by
  simp only [result_grants_eq_true_iff, allOf_eq_joined] at granted ⊢
  refine Folding.forall_of_joined rfl outcome_all ?_ ?_ granted
  · intro item member inner opens each
    have decided := (compiled item member).decided.here
    cases item with
    | const value =>
        obtain ⟨b, rfl⟩ := decided
        cases b with
        | false => cases opens
        | true => rfl
    | all operands =>
        cases opens
        exact (outcome_all _).trans (Folding.run_all_of_forall each)
    | any _ | not _ | compare _ _ _ | member _ _ _ | isNull _ _ | anyRelated _ _ _ | select _ _ _
    | firstOf _ _ | role _ | unresolved _ | foreign _ =>
        cases opens
        exact each _ (.head _)
  · intro item member inner opens part inside
    have decided := (compiled item member).decided
    obtain rfl | ⟨operands, rfl, among⟩ := mem_opensAll opens inside
    · exact isProper_eval decided record
    · exact isProper_eval (decided.children part among) record

end Predicate

end RowGuard
