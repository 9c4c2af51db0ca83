import RowGuard.Proofs.Predicate.Fragment
import RowGuard.Proofs.Predicate.Negation
import RowGuard.Proofs.RowFilter.Access
import RowGuard.Proofs.RowFilter.Expressible

/-! How far the row filter of a policy and its record check agree. On the
null-safe fragment a row passes if and only if access is granted, unless an
undefined number ends one of them where it does not end the other. On every
policy a row passes by its row truth, and where access is not granted the
reason is a negation with a hidden operand. -/

set_option autoImplicit false

namespace RowGuard

/-! ## Posts and their owners -/

/-- Posts with a status and an owner, who has a name. -/
def Graph.blog : Graph where
  entities :=
    [{ name := "Post", fields := [{ name := "status" }],
       relations := [{ name := "owner", target := "User" }] },
     { name := "User", fields := [{ name := "name" }] }]
  closed := by decide +kernel

/-- Policies on reading posts, with one provider for the role of the actor. -/
def Scope.blog : Scope where
  mapping := ⟨{}, ⟨[("current_role", ⟨["role"], .builtin, "current_role", by decide⟩)]⟩⟩
  graph := .blog
  entity := { name := "Post", fields := [{ name := "status" }],
              relations := [{ name := "owner", target := "User" }] }
  operation := .select
  config := {}
  principal := none

/-- Items with an amount. -/
def Graph.priced : Graph where
  entities := [{ name := "Item", fields := [{ name := "amount" }] }]
  closed := by decide +kernel

/-- Policies on reading items, with one provider for the role of the actor. -/
def Scope.priced : Scope where
  mapping := ⟨{}, ⟨[("current_role", ⟨["role"], .builtin, "current_role", by decide⟩)]⟩⟩
  graph := .priced
  entity := { name := "Item", fields := [{ name := "amount" }] }
  operation := .select
  config := {}
  principal := none

/-- An item whose amount is an undefined number. -/
def Value.unpriced : Value :=
  .mapping [("amount", .undefined ⟨0, .quiet false 0⟩)]

/-! ## Agreement -/

/-- On the null-safe fragment a row passes the filter if and only if the record check grants access.
Both say so on every record without undefined numbers, for every actor without them; on others
either of them may end before that, by an invalid operation. -/
theorem passes_eq_grants {scope : Scope} {text entity : String} {e : Expr} {access : RowAccess}
    (parsed : Expr.parse text entity = .ok e) (fragment : e.NullSafe scope)
    (built : (scope.rowAccess e).result = .ok access)
    (silent : ∀ d ∈ access.diagnostics, d.category ≠ .unresolvedConstruct)
    (compiling : scope.config.onUnloaded ≠ .fail) {mode : UnloadedMode} (loaded : mode ≠ .fail)
    (actor record : Value) :
    ∃ check granted, scope.Settles e access mode actor record check granted granted := by
  obtain ⟨check, compiles⟩ := Scope.compiles_of_quiet parsed built silent compiling
  obtain ⟨before, run, early⟩ := compiles.compile
  obtain ⟨f, after, lowered, late⟩ := compiles.lower
  have safe := ((Predicate.invariant_guarded scope).ofCompile e run fragment early).1
  have expressible := (RowFilter.invariant_expresses scope).ofLower true check.condition lowered
    compiles.compiled late
  have settles := compiles.settles loaded actor record
  rw [safe.holds_rowTruth compiles.compiled expressible] at settles
  exact ⟨check, _, settles⟩

/-- A policy with a negated column, a column beyond a relation and a role. -/
def Expr.openPosts : Expr :=
  .all
    [.not (.condition (.compare .eq) (.column "status" none) (.literal ⟨.text, .text "draft"⟩)),
     .any
      [.condition (.compare .eq) (.column "name" (some "owner")) (.literal ⟨.text, .text "ann"⟩),
       .condition (.compare .eq) (.call "current_role" []) (.literal ⟨.text, .text "admin"⟩)]]

theorem Expr.nullSafe_openPosts : openPosts.NullSafe .blog := by
  have status : Scope.blog.Direct (.column "status" none) :=
    ⟨"status", none, "status", rfl, by decide +kernel⟩
  have exact : Expr.Exact .blog
      (.condition (.compare .eq) (.column "status" none) (.literal ⟨.text, .text "draft"⟩)) :=
    .compare (.inl status)
  intro node member
  simp only [openPosts, walk, walkItems, List.append_nil, List.cons_append, List.nil_append,
    List.mem_cons, List.not_mem_nil, or_false] at member
  rcases member with rfl | rfl | member
  · trivial
  · exact .inr exact
  · rcases member with rfl | rfl | rfl | rfl | rfl | rfl | rfl | rfl | rfl | rfl <;> trivial

theorem passes_eq_grants_openPosts :
    Expr.parse "NOT (status = 'draft') AND (owner.name = 'ann' OR current_role() = 'admin')"
        "Post" = .ok .openPosts ∧
      Expr.openPosts.NullSafe .blog ∧
      ∃ access, (Scope.blog.rowAccess .openPosts).result = .ok access ∧
        (∀ d ∈ access.diagnostics, d.category ≠ .unresolvedConstruct) ∧
        ∃ check granted, Scope.blog.Answers .openPosts access .warn .null
          (.mapping [("status", .text "open")]) check granted granted := by
  have parsed : Expr.parse
      "NOT (status = 'draft') AND (owner.name = 'ann' OR current_role() = 'admin')" "Post" =
        .ok .openPosts := by
    with_unfolding_all rfl
  obtain ⟨access, built, silent⟩ : ∃ access, (Scope.blog.rowAccess .openPosts).result = .ok access ∧
      ∀ d ∈ access.diagnostics, d.category ≠ .unresolvedConstruct :=
    ⟨_, by with_unfolding_all rfl, by decide +kernel⟩
  obtain ⟨check, granted, settles⟩ :=
    passes_eq_grants parsed Expr.nullSafe_openPosts built silent (by decide)
      (by decide : UnloadedMode.warn ≠ .fail) .null (.mapping [("status", .text "open")])
  exact ⟨parsed, Expr.nullSafe_openPosts, access, built, silent, check, granted,
    settles.answers rfl rfl⟩

/-- The policy that admins read what is cheap. -/
def Expr.cheapForAdmins : Expr :=
  .all
    [.condition (.compare .lt) (.column "amount" none) (.literal ⟨.integer, .int 5⟩),
     .condition (.compare .eq) (.call "current_role" []) (.literal ⟨.text, .text "admin"⟩)]

/-- Whoever is no admin gets the filter that blocks every row, without a look at the amount. The
record check compares the amount first, and if that is an undefined number it gives no answer. -/
theorem cheapForAdmins_blocked_unchecked :
    Expr.parse "amount < 5 AND current_role() = 'admin'" "Item" = .ok .cheapForAdmins ∧
      Expr.cheapForAdmins.NullSafe .priced ∧
      ∃ access check, (Scope.priced.rowAccess .cheapForAdmins).result = .ok access ∧
        (∀ d ∈ access.diagnostics, d.category ≠ .unresolvedConstruct) ∧
        Scope.priced.config.onUnloaded = .deny ∧
        (Scope.priced.recordCheck .cheapForAdmins).result = .ok check ∧
        (check.condition.grants .deny .unpriced (.mapping [("role", .text "guest")])).result =
          .error .invalidOperation ∧
        (access.forActor .deny (.mapping [("role", .text "guest")])).result = .ok .block ∧
        (RowFilter.block.passes .deny .unpriced .null).result = .ok false := by
  have safe : Expr.cheapForAdmins.NullSafe .priced := by
    intro node member
    simp only [Expr.cheapForAdmins, Expr.walk, Expr.walkItems, List.append_nil, List.cons_append,
      List.nil_append, List.mem_cons, List.not_mem_nil, or_false] at member
    rcases member with rfl | rfl | rfl | rfl | rfl | rfl | rfl <;> trivial
  exact ⟨by with_unfolding_all rfl, safe, _, _, by with_unfolding_all rfl, by decide +kernel, rfl,
    by with_unfolding_all rfl, by with_unfolding_all rfl, by with_unfolding_all rfl, rfl⟩

/-! ## Negation -/

/-- Every policy is filtered by its row truth and checked by its truth, unless an undefined number
ends one of them before. Where no negation has a hidden operand, a row passes only if access is
granted; and the negation of an operand lets a row pass that is denied if and only if the operand is
hidden. -/
theorem grants_of_passes_of_sighted {scope : Scope} {text entity : String} {e : Expr}
    {access : RowAccess} (parsed : Expr.parse text entity = .ok e)
    (built : (scope.rowAccess e).result = .ok access)
    (silent : ∀ d ∈ access.diagnostics, d.category ≠ .unresolvedConstruct)
    (compiling : scope.config.onUnloaded ≠ .fail) {mode : UnloadedMode} (loaded : mode ≠ .fail)
    (actor record : Value) :
    ∃ check granted passed, scope.Settles e access mode actor record check granted passed ∧
      granted = (check.condition.truth actor record).holds ∧
      passed = (check.condition.rowTruth actor record).holds ∧
      (check.condition.Sighted actor record → passed = true → granted = true) ∧
      ∀ q, check.condition = .not q → q.readsRecord → q.Sighted actor record →
        (passed = true ∧ granted = false ↔ q.Hidden actor record) := by
  obtain ⟨check, compiles⟩ := Scope.compiles_of_quiet parsed built silent compiling
  refine ⟨check, _, _, compiles.settles loaded actor record, rfl, rfl, ?_, ?_⟩
  · intro sighted passed
    rw [Truth.holds_iff] at passed ⊢
    exact (compiles.compiled.bounds sighted).yes passed
  · intro q negation reads sighted
    have compiled := compiles.compiled
    rw [negation] at compiled ⊢
    cases compiled with
    | not compiled => exact compiled.hidden_iff reads sighted

/-- The policy that a post is not owned by someone of a name. -/
def Expr.notByAnn : Expr :=
  .not (.condition (.compare .eq) (.column "name" (some "owner")) (.literal ⟨.text, .text "ann"⟩))

theorem grants_of_passes_of_sighted_notByAnn :
    Expr.parse "NOT (owner.name = 'ann')" "Post" = .ok .notByAnn ∧
      ∃ access, (Scope.blog.rowAccess .notByAnn).result = .ok access ∧
        (∀ d ∈ access.diagnostics, d.category ≠ .unresolvedConstruct) ∧
        ∃ check granted passed, Scope.blog.Answers .notByAnn access .warn .null
            (.mapping [("owner", .mapping [("name", .text "bob")])]) check granted passed ∧
          (check.condition.Sighted .null (.mapping [("owner", .mapping [("name", .text "bob")])]) →
            passed = true → granted = true) := by
  have parsed : Expr.parse "NOT (owner.name = 'ann')" "Post" = .ok .notByAnn := by
    with_unfolding_all rfl
  obtain ⟨access, built, silent⟩ : ∃ access, (Scope.blog.rowAccess .notByAnn).result = .ok access ∧
      ∀ d ∈ access.diagnostics, d.category ≠ .unresolvedConstruct :=
    ⟨_, by with_unfolding_all rfl, by decide +kernel⟩
  obtain ⟨check, granted, passed, settles, _, _, sound, _⟩ :=
    grants_of_passes_of_sighted parsed built silent (by decide)
      (by decide : UnloadedMode.warn ≠ .fail) .null
      (.mapping [("owner", .mapping [("name", .text "bob")])])
  exact ⟨parsed, access, built, silent, check, granted, passed, settles.answers rfl rfl, sound⟩

/-- A post without an owner is denied by the record check and passes the row filter: that its owner
has the name is unknown, and false for rows. -/
theorem notByAnn_passes_denied :
    Expr.parse "NOT (owner.name = 'ann')" "Post" = .ok .notByAnn ∧
      ∃ access check, (Scope.blog.rowAccess .notByAnn).result = .ok access ∧
        access.diagnostics = [] ∧ Scope.blog.config.onUnloaded = .deny ∧
        Scope.blog.Answers .notByAnn access .deny .null (.mapping [("owner", .null)]) check
          false true := by
  refine ⟨by with_unfolding_all rfl, _, _, by with_unfolding_all rfl, by with_unfolding_all rfl,
    rfl,
    ⟨by with_unfolding_all rfl, by with_unfolding_all rfl, _, by with_unfolding_all rfl,
      by with_unfolding_all rfl⟩⟩

end RowGuard
