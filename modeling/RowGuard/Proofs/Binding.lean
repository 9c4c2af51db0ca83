import RowGuard.Proofs.Agreement

/-! What binding a filter to an actor keeps. The truth of a filter without
stand-ins is kept exactly, except that binding may drop a comparison with an
undefined number, which ends the evaluation of the filter. A compiled filter with
stand-ins keeps its decision unless binding leaves a stand-in alone under a
negation; then the bound filter answers by the default of the stand-in, and the
filter by its opposite. -/

set_option autoImplicit false

namespace RowGuard

/-! ## Filters without stand-ins -/

/-- Binding to an actor yields a filter that has, whoever evaluates it, the truth that the filter has
for the actor. Only an undefined number, read from the filter, the actor or the record, ends one of
the three without a result. -/
theorem eval_bind_eq_eval {f : RowFilter} (known : f.Everywhere RowFilter.Known)
    (meaningful : f.Everywhere RowFilter.Meaningful) {mode : UnloadedMode} (loaded : mode ≠ .fail)
    (actor other record : Value) :
    ∃ bound truth, (f.bind mode actor).Yields (f.Everywhere (RowFilter.RoleDefined actor)) bound ∧
      (f.eval mode actor record).Yields
        (f.Everywhere (RowFilter.Defined actor) ∧ record.isDefined) truth ∧
      (bound.eval mode other record).Yields
        (f.Everywhere (RowFilter.Defined actor) ∧ record.isDefined) truth ∧ truth.isProper := by
  have defaulted : f.Everywhere RowFilter.Defaulted :=
    meaningful.imp fun _ => RowFilter.Meaningful.defaulted
  have bindable := known.imp fun _ => RowFilter.Known.bindable
  have knownBound := (RowFilter.binds_known actor).everywhere_bound known
  refine ⟨f.bound actor, f.truth actor record, bindable.yields_bind loaded actor,
    known.yields_eval loaded record And.left And.right, ?_,
    RowFilter.isProper_truth defaulted actor record⟩
  rw [← RowFilter.truth_bound defaulted (meaningful.not_surfaces actor) other record]
  exact knownBound.yields_eval loaded record
    (fun sound => (RowFilter.binds_defined actor other).everywhere_bound sound.1) And.right

/-- Members see what is outside their teams, and others see nothing. -/
def RowFilter.outsideTeams : RowFilter :=
  .given (.compare .eq (.actor ["role"] "current_role") (.value (.text "member")))
    (.not (.any [.member "team" (.actor ["teams"] "current_teams"),
      .related "owner" (.equals "name" (.actor ["name"] "current_name"))]))
    .block

/-- A member of no team: that a post is of the member's teams is unknown, and so is its negation,
before and after binding. -/
theorem eval_bind_eq_eval_outsideTeams :
    RowFilter.outsideTeams.Everywhere RowFilter.Known ∧
      RowFilter.outsideTeams.Everywhere RowFilter.Meaningful ∧
      ∃ bound truth,
        (RowFilter.outsideTeams.bind .warn (.mapping [("role", .text "member")])).result =
          .ok bound ∧
        (RowFilter.outsideTeams.eval .warn (.mapping [("role", .text "member")])
          (.mapping [("team", .text "red")])).result = .ok truth ∧
        (bound.eval .warn .null (.mapping [("team", .text "red")])).result = .ok truth ∧
        truth = .unknown := by
  have role : Predicate.Everywhere (fun node => node.isKnown)
      (.compare .eq (.actor ["role"] "current_role") (.value (.text "member"))) :=
    .node rfl nofun
  have roleDefined : Predicate.Everywhere
      (fun node => node.isDefined (.mapping [("role", .text "member")]))
      (.compare .eq (.actor ["role"] "current_role") (.value (.text "member"))) :=
    .node rfl nofun
  have nodes : RowFilter.outsideTeams.Everywhere fun node => (node.Known ∧ node.Meaningful) ∧
      node.Defined (.mapping [("role", .text "member")]) := by
    refine .node ⟨⟨role, nofun⟩, roleDefined⟩
      (List.forall_mem_cons.mpr ⟨.node ⟨⟨trivial, nofun⟩, trivial⟩ ?_, ?_⟩)
    · refine List.forall_mem_singleton.mpr (.node ⟨⟨trivial, nofun⟩, trivial⟩ ?_)
      refine List.forall_mem_cons.mpr ⟨.node ⟨⟨rfl, nofun⟩, rfl⟩ nofun, ?_⟩
      refine List.forall_mem_singleton.mpr (.node ⟨⟨trivial, nofun⟩, trivial⟩ ?_)
      exact List.forall_mem_singleton.mpr (.node ⟨⟨rfl, nofun⟩, rfl⟩ nofun)
    · exact List.forall_mem_singleton.mpr (.node ⟨⟨trivial, nofun⟩, trivial⟩ nofun)
  have known := nodes.imp fun _ here => here.1.1
  have meaningful := nodes.imp fun _ here => here.1.2
  have defined := nodes.imp fun _ => And.right
  obtain ⟨bound, truth, binds, before, after, _⟩ :=
    eval_bind_eq_eval known meaningful (by decide : UnloadedMode.warn ≠ .fail)
      (.mapping [("role", .text "member")]) .null (.mapping [("team", .text "red")])
  have binds := binds.result_eq (defined.imp fun _ => RowFilter.Defined.roleDefined)
  have before := before.result_eq ⟨defined, rfl⟩
  have after := after.result_eq ⟨defined, rfl⟩
  have unknown : (RowFilter.outsideTeams.eval .warn (.mapping [("role", .text "member")])
      (.mapping [("team", .text "red")])).result = .ok .unknown := by
    with_unfolding_all rfl
  rw [unknown] at before
  cases before
  exact ⟨known, meaningful, bound, .unknown, binds, unknown, after, rfl⟩

/-- Admins see what is cheap, and others see nothing. -/
def RowFilter.cheapForAdmins : RowFilter :=
  .all
    [.compare "amount" .lt (.value (.int 5)),
     .given (.compare .eq (.actor ["role"] "current_role") (.value (.text "admin"))) .pass .block]

/-- For whoever is no admin binding leaves nothing but the block. The filter itself compares the
amount first, and if that is an undefined number it has no truth. -/
theorem cheapForAdmins_ends_unbound :
    (RowFilter.cheapForAdmins.bind .deny (.mapping [("role", .text "guest")])).result = .ok .block ∧
      (RowFilter.cheapForAdmins.eval .deny (.mapping [("role", .text "guest")]) .unpriced).result =
        .error .invalidOperation ∧
      (RowFilter.block.eval .deny .null .unpriced).result = .ok .no := by
  refine ⟨by with_unfolding_all rfl, by with_unfolding_all rfl, rfl⟩

/-! ## Filters with stand-ins -/

theorem Scope.compiled_filter {scope : Scope} {e : Expr} {access : RowAccess}
    (known : e.Everywhere fun node => node.isKnown)
    (built : (scope.rowAccess e).result = .ok access) :
    access.filter.Compiled (fun construct => construct.default = .bool scope.config.failOpen)
      fun _ => True := by
  obtain ⟨p, f, before, after, first, second, rfl⟩ := rowAccess_eq_ok built
  have admits (events : List Compilation.Event) : scope.Admits events
      fun construct => construct.default = .bool scope.config.failOpen :=
    ⟨fun _ => id, fun _ default _ => default⟩
  have compiled := (Predicate.invariant_shaped scope _).ofCompile e first known (admits before)
  have kept := (RowFilter.invariant_keeps scope _).ofLower true p second compiled (admits after)
  exact kept.lowered.compiled

theorem RowFilter.bound_of_surfaced {operand : RowFilter} {actor : Value} {construct : Unresolved}
    (left : operand.bound actor = .unresolved construct) :
    (RowFilter.not operand).bound actor = .unresolved construct.negate := by
  rw [bound, left]
  rfl

/-- Binding a compiled filter keeps its decision on every record, unless the actor meets a negation
whose operand binds to a stand-in alone. Where that negation is the whole filter, the decision
changes if and only if it does so, and becomes the default of the stand-in. What an undefined number
ends has no decision. -/
theorem passes_bind_eq_passes {scope : Scope} {e : Expr} {access : RowAccess}
    (known : e.Everywhere fun node => node.isKnown)
    (built : (scope.rowAccess e).result = .ok access) {mode : UnloadedMode} (loaded : mode ≠ .fail)
    (actor record : Value) :
    ∃ bound before after, (access.filter.bind mode actor).Yields actor.isDefined bound ∧
      (access.filter.passes mode record actor).Yields (actor.isDefined ∧ record.isDefined) before ∧
      (bound.passes mode record .null).Yields (actor.isDefined ∧ record.isDefined) after ∧
      (¬access.filter.Surfaces actor → after = before) ∧
      ∀ operand, access.filter = .not operand → ¬operand.Surfaces actor →
        (after ≠ before ↔ ∃ construct, operand.bound actor = .unresolved construct) ∧
        (after ≠ before → after = scope.config.failOpen) := by
  have compiled := Scope.compiled_filter known built
  have knownBound := (RowFilter.binds_known actor).everywhere_bound compiled.known
  have kept (calm : ¬access.filter.Surfaces actor) :
      ((access.filter.bound actor).truth .null record).holds =
        (access.filter.truth actor record).holds := by
    rw [RowFilter.truth_bound compiled.defaulted calm]
  have passes := knownBound.yields_passes loaded
    (fun sound : actor.isDefined ∧ record.isDefined =>
      (RowFilter.binds_defined actor .null).everywhere_bound (compiled.defined sound.1)) And.right
  refine ⟨_, _, _, compiled.yields_bind loaded actor, compiled.yields_passes loaded actor record,
    passes, kept, ?_⟩
  intro operand negation calm
  rw [negation] at compiled kept ⊢
  cases compiled with
  | not compiled =>
      have leaves := (RowFilter.binds_leaves actor fun _ => id).everywhere_bound compiled.leaves
      have same := RowFilter.truth_bound compiled.defaulted calm .null record
      by_cases surfaces : ∃ construct, operand.bound actor = .unresolved construct
      · obtain ⟨construct, left⟩ := surfaces
        have default := leaves.here construct left
        rw [left, RowFilter.truth, default] at same
        rw [RowFilter.bound_of_surfaced left, RowFilter.truth, RowFilter.truth, ← same,
          Unresolved.negate, default]
        have changed : (Truth.ofBool scope.config.failOpen).holds ≠
            (Truth.ofBool scope.config.failOpen).not.holds := by
          cases scope.config.failOpen <;> decide
        exact ⟨⟨fun _ => ⟨construct, left⟩, fun _ => changed⟩, fun _ => Truth.holds_ofBool _⟩
      · have unchanged := kept fun inside => by
          cases inside with
          | here left => exact surfaces ⟨_, left⟩
          | not inside => exact calm inside
        exact ⟨⟨fun changed => absurd unchanged changed, fun inside => absurd inside surfaces⟩,
          fun changed => absurd unchanged changed⟩

/-- The policy that admins do not see the open posts, where the test for open ones has no meaning of
its own. -/
def Expr.notOpenToAdmins : Expr :=
  .not (.all
    [.condition (.compare .eq) (.call "current_role" []) (.literal ⟨.text, .text "admin"⟩),
     .condition (.compare .eq) (.call "lower" [.column "status" none])
      (.literal ⟨.text, .text "open"⟩)])

/-- What the policy is filtered by: admins get the stand-in. -/
def RowFilter.notOpenToAdmins : RowFilter :=
  .not (.given (.compare .eq (.actor ["role"] "current_role") (.value (.text "admin")))
    (.unresolved ⟨"comparison", "lower(status) = 'open'", .bool true, none⟩) .block)

theorem parse_notOpenToAdmins :
    Expr.parse "NOT (current_role() = 'admin' AND lower(status) = 'open')" "Post" =
      .ok .notOpenToAdmins := by
  with_unfolding_all rfl

theorem passes_bind_eq_passes_notOpenToAdmins :
    (Expr.notOpenToAdmins.Everywhere fun node => node.isKnown) ∧
      ∃ access, (Scope.blog.rowAccess .notOpenToAdmins).result = .ok access ∧
        access.filter = .notOpenToAdmins ∧ ¬access.filter.Surfaces .null ∧
        ∃ bound before after, (access.filter.bind .warn .null).result = .ok bound ∧
          (access.filter.passes .warn (.mapping [("status", .text "open")]) .null).result =
            .ok before ∧
          (bound.passes .warn (.mapping [("status", .text "open")]) .null).result = .ok after ∧
          after = before := by
  have known := Expr.grammar_known.ofParse parse_notOpenToAdmins
  obtain ⟨access, built, filtered⟩ : ∃ access,
      (Scope.blog.rowAccess .notOpenToAdmins).result = .ok access ∧
        access.filter = .notOpenToAdmins :=
    ⟨_, by with_unfolding_all rfl, by with_unfolding_all rfl⟩
  -- Whoever is no admin gets the filter that blocks every row, which is no stand-in.
  have calm : ¬access.filter.Surfaces .null := by
    rw [filtered]
    intro surfaces
    cases surfaces with
    | here left => cases left
    | not inside =>
        cases inside with
        | passed holds _ => exact absurd holds (by decide +kernel)
        | failed _ inside => cases inside
  obtain ⟨bound, before, after, binds, first, second, same, _⟩ :=
    passes_bind_eq_passes known built (by decide : UnloadedMode.warn ≠ .fail) .null
      (.mapping [("status", .text "open")])
  exact ⟨known, access, built, filtered, calm, bound, before, after, binds.result_eq rfl,
    first.result_eq ⟨rfl, rfl⟩, second.result_eq ⟨rfl, rfl⟩, same calm⟩

/-- For an admin the filter denies every post and the bound one lets it pass, for binding leaves the
stand-in alone under the negation. -/
theorem notOpenToAdmins_passes_once_bound :
    Expr.parse "NOT (current_role() = 'admin' AND lower(status) = 'open')" "Post" =
        .ok .notOpenToAdmins ∧
      Scope.blog.config.onUnresolved = .allow ∧ Scope.blog.config.onUnloaded = .deny ∧
      ∃ access bound, (Scope.blog.rowAccess .notOpenToAdmins).result = .ok access ∧
        access.roleChecks = [] ∧ access.filter = .notOpenToAdmins ∧
        (access.filter.bind .deny (.mapping [("role", .text "admin")])).result = .ok bound ∧
        (access.filter.passes .deny (.mapping [("status", .text "open")])
          (.mapping [("role", .text "admin")])).result = .ok false ∧
        (bound.passes .deny (.mapping [("status", .text "open")]) .null).result = .ok true := by
  refine ⟨parse_notOpenToAdmins, rfl, rfl, _, _, by with_unfolding_all rfl,
    by with_unfolding_all rfl, by with_unfolding_all rfl, by with_unfolding_all rfl,
    by with_unfolding_all rfl, by with_unfolding_all rfl⟩

end RowGuard
