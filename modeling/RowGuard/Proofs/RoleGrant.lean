import RowGuard.Proofs.Agreement
import RowGuard.Proofs.RowFilter.Stability

/-! Grants by role. A branch of a policy that depends on the actor alone and holds
for the actor decides both forms of the policy: the record check grants access to
every record, and the filter for that actor passes every row, with no role check
in front of it. The record check still compares what stands in the branches before
it, and an undefined number there ends it. -/

set_option autoImplicit false

namespace RowGuard

/-! ## Branches -/

namespace Predicate

variable {admitted : Unresolved → Prop} {p branch : Predicate} {actor : Value}

theorem mem_disjuncts (among : branch ∈ p.disjuncts) :
    p = branch ∨ ∃ operands, p = .any operands ∧ branch ∈ operands := by
  unfold disjuncts at among
  split at among
  · next operands => exact .inr ⟨operands, rfl, among⟩
  · exact .inl (List.mem_singleton.mp among).symm

theorem readsActor_of_disjunct (among : branch ∈ p.disjuncts) (reads : branch.readsActor) :
    p.readsActor := by
  rcases mem_disjuncts among with rfl | ⟨operands, rfl, member⟩
  · exact reads
  · rw [readsActor, anyReadsActor_iff]
    exact ⟨branch, member, reads⟩

theorem Compiled.disjunct (compiled : p.Compiled admitted) (among : branch ∈ p.disjuncts) :
    branch.Compiled admitted := by
  rcases mem_disjuncts among with rfl | ⟨operands, rfl, member⟩
  · exact compiled
  · exact compiled_any_iff.mp compiled branch member

/-- A branch that does not read the record and holds without one settles the predicate on every
record. -/
theorem Compiled.truth_of_disjunct (compiled : p.Compiled admitted) (among : branch ∈ p.disjuncts)
    (unread : branch.readsRecord = Bool.false) (holds : branch.truth actor .null = .yes)
    (record : Value) : p.truth actor record = .yes := by
  have settled : branch.truth actor record = .yes := by
    rw [(compiled.disjunct among).truth_congr_record unread actor record .null]
    exact holds
  rcases mem_disjuncts among with rfl | ⟨operands, rfl, member⟩
  · exact settled
  · rw [truth_any, Truth.any_eq_yes_iff, List.mem_map]
    exact ⟨branch, member, settled⟩

end Predicate

/-! ## Filters -/

namespace RowFilter

open Compilation (Event)

variable {scope : Scope} {p branch : Predicate} {actor : Value} {f : RowFilter}
  {events : List Event}

theorem lower_of_isRoleOnly {top : Bool} (isRole : p.isRoleOnly) :
    lower scope top p = ⟨.ok (.roleOnly p.stripRole), []⟩ := by
  rw [Predicate.isRoleOnly, Bool.and_eq_true, Bool.not_eq_true'] at isRole
  rw [lower_of_unread isRole.2, if_pos isRole.1]
  rfl

theorem mem_roles_of_lowerAll {top : Bool} {ps : List Predicate} {parts : List RowFilter}
    (lowered : lowerAll scope top ps = ⟨.ok parts, events⟩) (member : branch ∈ ps)
    (isRole : branch.isRoleOnly) : branch.stripRole ∈ roles parts := by
  induction ps generalizing parts events with
  | nil => cases member
  | cons p ps ih =>
      obtain ⟨first, _, _, firstRun, rest, rfl⟩ := Traced.bind_eq_ok_iff.mp lowered
      obtain ⟨others, _, _, othersRun, ended, rfl⟩ := Traced.bind_eq_ok_iff.mp rest
      obtain ⟨rfl, rfl⟩ := Traced.pure_eq_ok_iff.mp ended
      rcases List.mem_cons.mp member with rfl | later
      · rw [lower_of_isRoleOnly isRole] at firstRun
        cases firstRun
        exact List.mem_cons_self
      · have among := ih othersRun later
        cases first with
        | roleOnly condition => exact List.mem_cons_of_mem _ among
        | pass | block | all _ | any _ | not _ | equals _ _ | compare _ _ _ | member _ _ | isNull _
        | like _ _ _ | someRelated _ _ _ | related _ _ | given _ _ _ | unresolved _ | foreign _ =>
            exact among

/-- A disjunction with a role condition that holds for the actor passes every row. -/
theorem bound_of_role {operands : List Predicate} (reads : (Predicate.any operands).readsRecord)
    (compiled : (Predicate.any operands).Compiled fun _ => True) (member : branch ∈ operands)
    (isRole : branch.isRoleOnly) (holds : branch.truth actor .null = .yes)
    (lowered : lower scope true (.any operands) = ⟨.ok f, events⟩) :
    f.bound actor = .pass ∧ Compilation.roleChecks events = [] := by
  unfold lower at lowered
  rw [settled?_of_readsRecord reads] at lowered
  obtain ⟨parts, before, after, lowers, split, rfl⟩ := Traced.bind_eq_ok_iff.mp lowered
  have each := each_kept ((invariant_keeps scope _).ofLowerAll false operands lowers)
    (Predicate.compiled_any_iff.mp compiled) ⟨fun _ => id, fun _ _ _ => trivial⟩
  obtain ⟨parted, _, unchecked⟩ := kept_of_each each
  have among := mem_roles_of_lowerAll lowers member isRole
  have granted : ((Predicate.anyOf (roles parts)).truth actor .null).holds := by
    rw [Predicate.truth_anyOf parted.roles, Truth.holds_iff, Truth.any_eq_yes_iff, List.mem_map]
    exact ⟨_, among, (Predicate.truth_stripRole branch actor .null).trans holds⟩
  obtain ⟨noChecks, cases⟩ := splitAny_eq_ok (data_ne_nil parted reads) split
  rcases cases with ⟨none, _⟩ | ⟨_, rfl⟩
  · rw [none] at among
    cases among
  · constructor
    · simp only [bound, granted, if_true]
    · rw [Compilation.roleChecks_append, unchecked rfl, noChecks, List.append_nil]

/-- A predicate with a branch on the actor alone that holds for the actor is lowered without role
checks, and for that actor to the filter that passes every row. -/
theorem bound_of_disjunct (compiled : p.Compiled fun _ => True) (among : branch ∈ p.disjuncts)
    (isRole : branch.isRoleOnly) (holds : branch.truth actor .null = .yes)
    (lowered : lower scope true p = ⟨.ok f, events⟩) :
    f.bound actor = .pass ∧ Compilation.roleChecks events = [] := by
  have ⟨readsActor, unread⟩ := Predicate.isRoleOnly_iff.mp isRole
  cases reads : p.readsRecord with
  | false =>
      -- The other branches are about the actor too, so the policy as a whole is a role condition.
      have whole : p.isRoleOnly :=
        Predicate.isRoleOnly_iff.mpr ⟨Predicate.readsActor_of_disjunct among readsActor, reads⟩
      rw [lower_of_isRoleOnly whole] at lowered
      cases lowered
      have settled := compiled.truth_of_disjunct among unread holds .null
      refine ⟨?_, rfl⟩
      rw [bound, Predicate.truth_stripRole, settled]
      rfl
  | true =>
      rcases Predicate.mem_disjuncts among with rfl | ⟨operands, rfl, member⟩
      · rw [unread] at reads
        cases reads
      · exact bound_of_role reads compiled member isRole holds lowered

end RowFilter

/-! ## Policies -/

/-- A branch that depends on the actor alone and holds for the actor is a grant: the row filter has
no role checks and passes every row for that actor, and the record check grants access to every
record. Only a comparison with an undefined number ends either of them before. -/
theorem unconditional_of_role {scope : Scope} {text entity : String} {e : Expr}
    {access : RowAccess} {check : RecordCheck} (parsed : Expr.parse text entity = .ok e)
    (checked : (scope.recordCheck e).result = .ok check)
    (built : (scope.rowAccess e).result = .ok access) {branch : Predicate}
    (among : branch ∈ check.condition.disjuncts) (isRole : branch.isRoleOnly)
    {mode : UnloadedMode} (loaded : mode ≠ .fail) {actor : Value}
    (granted : (branch.grants mode .null actor).result = .ok true) :
    check.grantsByRole ∧ access.roleChecks = [] ∧
      (access.forActor mode actor).Yields actor.isDefined .pass ∧
      ∀ record, (check.condition.grants mode record actor).Yields
        (actor.isDefined ∧ record.isDefined) true := by
  obtain ⟨p, events, builds⟩ := Scope.builds_of_rowAccess (Expr.grammar_known.ofParse parsed) built
  obtain ⟨before, compile⟩ := builds.compile
  have same := Scope.compile_of_recordCheck checked
  rw [compile] at same
  cases same
  have compiled := builds.compiled
  have holds : branch.truth actor .null = .yes := by
    have yields := (compiled.disjunct among).yields_grants loaded actor .null
    exact Truth.holds_iff.mp (yields.eq_of_ok granted).symm
  obtain ⟨bound, unchecked⟩ :=
    RowFilter.bound_of_disjunct compiled among isRole holds builds.lower
  have noChecks : access.roleChecks = [] := builds.checks.trans unchecked
  refine ⟨List.any_eq_true.mpr ⟨branch, among, isRole⟩, noChecks, ?_, ?_⟩
  · have yields := builds.yields_forActor loaded actor
    have passed : access.filter.boundChecked actor access.roleChecks = .pass := by
      rw [noChecks]
      exact bound
    rwa [passed] at yields
  · intro record
    have unread := (Predicate.isRoleOnly_iff.mp isRole).2
    have yields := compiled.yields_grants loaded actor record
    rwa [compiled.truth_of_disjunct among unread holds record] at yields

/-- The policy that all but guests see every post, and guests those of other owners than one. -/
def Expr.membersOrOthers : Expr :=
  .any
    [.choice (some (.call "current_role" []))
      [(.literal ⟨.text, .text "guest"⟩, .literal ⟨.boolean, .bool Bool.false⟩)]
      (some (.literal ⟨.boolean, .bool Bool.true⟩)),
     .not (.condition (.compare .eq) (.column "name" (some "owner"))
       (.literal ⟨.text, .text "bob"⟩))]

theorem unconditional_of_role_membersOrOthers :
    Expr.parse
        "CASE current_role() WHEN 'guest' THEN false ELSE true END OR NOT (owner.name = 'bob')"
        "Post" = .ok .membersOrOthers ∧
      ∃ check access branch, (Scope.blog.recordCheck .membersOrOthers).result = .ok check ∧
        (Scope.blog.rowAccess .membersOrOthers).result = .ok access ∧
        branch ∈ check.condition.disjuncts ∧ branch.isRoleOnly ∧
        (branch.grants .deny .null (.mapping [("role", .text "editor")])).result = .ok true ∧
        (access.forActor .deny (.mapping [("role", .text "editor")])).result = .ok .pass ∧
        ∀ record, record.isDefined → (check.condition.grants .deny record
          (.mapping [("role", .text "editor")])).result = .ok true := by
  have parsed : Expr.parse
      "CASE current_role() WHEN 'guest' THEN false ELSE true END OR NOT (owner.name = 'bob')"
      "Post" = .ok .membersOrOthers := by
    with_unfolding_all rfl
  obtain ⟨check, branch, checked, among, isRole, granted⟩ : ∃ check branch,
      (Scope.blog.recordCheck .membersOrOthers).result = .ok check ∧
        branch ∈ check.condition.disjuncts ∧ branch.isRoleOnly ∧
        (branch.grants .deny .null (.mapping [("role", .text "editor")])).result = .ok true :=
    ⟨_, _, by with_unfolding_all rfl, List.mem_cons_self, by with_unfolding_all rfl,
      by with_unfolding_all rfl⟩
  obtain ⟨access, built⟩ : ∃ access,
      (Scope.blog.rowAccess .membersOrOthers).result = .ok access :=
    ⟨_, by with_unfolding_all rfl⟩
  obtain ⟨_, _, passes, grants⟩ :=
    unconditional_of_role parsed checked built among isRole (by decide) granted
  exact ⟨parsed, check, access, branch, checked, built, among, isRole, granted,
    passes.result_eq rfl, fun record defined => (grants record).result_eq ⟨rfl, defined⟩⟩

/-- The policy that everyone reads what is cheap, and admins everything. -/
def Expr.cheapOrAdmins : Expr :=
  .any
    [.condition (.compare .lt) (.column "amount" none) (.literal ⟨.integer, .int 5⟩),
     .condition (.compare .eq) (.call "current_role" []) (.literal ⟨.text, .text "admin"⟩)]

/-- Admins get the filter that passes every row. The record check compares the amount first, and if
that is an undefined number it gives no answer, although the branch about admins holds. -/
theorem cheapOrAdmins_unanswered :
    Expr.parse "amount < 5 OR current_role() = 'admin'" "Item" = .ok .cheapOrAdmins ∧
      ∃ check access branch, (Scope.priced.recordCheck .cheapOrAdmins).result = .ok check ∧
        (Scope.priced.rowAccess .cheapOrAdmins).result = .ok access ∧
        branch ∈ check.condition.disjuncts ∧ branch.isRoleOnly ∧
        (branch.grants .deny .null (.mapping [("role", .text "admin")])).result = .ok true ∧
        (access.forActor .deny (.mapping [("role", .text "admin")])).result = .ok .pass ∧
        (check.condition.grants .deny .unpriced (.mapping [("role", .text "admin")])).result =
          .error .invalidOperation :=
  ⟨by with_unfolding_all rfl, _, _, _, by with_unfolding_all rfl, by with_unfolding_all rfl,
    .tail _ (.head _), by with_unfolding_all rfl, by with_unfolding_all rfl,
    by with_unfolding_all rfl, by with_unfolding_all rfl⟩

end RowGuard
