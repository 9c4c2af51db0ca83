import RowGuard.Proofs.Expr.Faults
import RowGuard.Proofs.Policy.Isolation

/-! Texts that end more than themselves. A malformed text is a failure of its
policy alone. A number that cannot be converted is not: it ends the build, and
with it the policies of all other entities. No text ends a build in another
way. -/

set_option autoImplicit false

namespace RowGuard

/-- What makes a number unconvertible: a fault of the number by itself, or a size that no negated
number has. -/
theorem Expr.Unconvertible.cause {text : String} {error : ReadError}
    (unconvertible : Expr.Unconvertible text error) :
    Token.NumberFault text.toList error ∨
      error = .tooLarge ∧ ∃ tokens token d, Token.scan text = .ok tokens ∧ token ∈ tokens ∧
        token.lexeme = .decimal d ∧ Decimal.maxWorking ≤ d.leadingExponent := by
  rcases unconvertible with stops | ⟨same, tokens, scanned, overflows⟩
  · exact .inl stops.fault
  · obtain ⟨before, minus, number, after, d, rfl, _, isNumber, large⟩ := overflows
    exact .inr ⟨same, _, number, d, scanned, by simp, isNumber,
      Decimal.maxWorking_le_of_negated large⟩

namespace Build

variable {registry : Registry} {mapping : ProviderMap} {graph : Graph} {config : Config}
  {operation : Operation} {entity : String}

/-! ## What ends a build -/

/-- Whether an error is not about a text. -/
def Readable (error : BuildError) : Prop :=
  ∀ fault, error ≠ .unreadable fault

/-- Whether an error about a text is about a number in the text of one of some policies. -/
def Blames (operation : Operation) (sources : List Policy) (error : BuildError) : Prop :=
  ∀ fault, error = .unreadable fault →
    ∃ source ∈ sources, Expr.Unconvertible (source.textFor operation) fault

theorem Readable.blames {error : BuildError} (readable : Readable error) (sources : List Policy) :
    Blames operation sources error :=
  fun fault same => absurd same (readable fault)

theorem failsAs_recordFailure (failure : FailedPolicy) :
    (recordFailure config failure).FailsAs Readable := by
  unfold recordFailure
  split
  · exact Traced.failsAs_fail nofun
  · exact .bind (Traced.failsAs_note _) fun _ => Traced.failsAs_pure _

theorem failsAs_attempt {α : Type} (compilation : Compilation α) :
    (attempt compilation).FailsAs Readable := by
  intro error failed
  unfold attempt at failed
  dsimp only at failed
  split at failed
  · cases failed
  · cases failed
  · cases failed
    nofun

theorem failsAs_both (scope : Except CompileError Scope) (e : Expr) :
    (both scope e).FailsAs Readable := by
  apply (failsAs_attempt _).bind
  intro condition
  split
  · exact Traced.failsAs_pure _
  · apply (failsAs_attempt _).bind
    intro rows
    split
    · exact Traced.failsAs_pure _
    · exact Traced.failsAs_pure _

theorem failsAs_culprit (scope : Except CompileError Scope) (all : List Policy)
    (parsed : List Parsed) : (culprit scope all parsed).FailsAs Readable := by
  induction parsed with
  | nil => exact Traced.failsAs_pure _
  | cons entry rest ih =>
      apply (failsAs_attempt _).bind
      intro condition
      split
      · exact Traced.failsAs_pure _
      · exact ih

theorem failsAs_lifted {α : Type} (outcome : Except Unsupported α) :
    (Traced.lift (outcome.mapError fun what => .compilation (.unsupported what)) :
      Build α).FailsAs Readable := by
  cases outcome with
  | ok value => exact Traced.failsAs_pure value
  | error what => exact Traced.failsAs_fail nofun

theorem failsAs_compileParsed (parsed : List Parsed) :
    (compileParsed mapping graph config entity operation parsed).FailsAs Readable := by
  apply (failsAs_both _ _).bind
  intro forms
  split
  · apply (failsAs_culprit _ _ _).bind
    intro policy
    exact failsAs_recordFailure _
  · dsimp only
    split
    · apply (failsAs_lifted _).bind
      intro entries
      exact .bind (Traced.failsAs_noteAll _) fun _ =>
        .bind (Traced.failsAs_noteAll _) fun _ => Traced.failsAs_pure _
    · exact .bind (Traced.failsAs_noteAll _) fun _ => Traced.failsAs_pure _

theorem failsAs_readAll (sources : List Policy) :
    (readAll entity operation sources).FailsAs (Blames operation sources) := by
  induction sources with
  | nil => exact Traced.failsAs_pure _
  | cons source sources ih =>
      unfold readAll
      split
      · apply Traced.FailsAs.bind
        · refine ih.mono ?_
          intro error blames fault same
          obtain ⟨culprit, member, unconvertible⟩ := blames fault same
          exact ⟨culprit, .tail _ member, unconvertible⟩
        · intro others
          exact Traced.failsAs_pure _
      · exact Traced.failsAs_pure _
      · next error other failed =>
        apply Traced.failsAs_fail
        rintro fault ⟨⟩
        refine ⟨source, .head _, ?_⟩
        rcases Expr.failsWith_parse _ _ _ failed with ⟨failure, same⟩ | unconvertible
        · exact absurd same (other failure)
        · exact unconvertible

theorem failsAs_compileOne (registered : String) :
    (compileOne registry mapping graph config registered operation).FailsAs
      (Blames operation (registry.lookup registered operation)) := by
  unfold compileOne
  split
  · exact (failsAs_recordFailure _).mono fun _ readable => readable.blames _
  · split
    · split
      · exact Traced.failsAs_fail nofun
      · exact .bind (Traced.failsAs_note _) fun _ => Traced.failsAs_pure _
    · apply (failsAs_readAll _).bind
      intro read
      split
      · exact (failsAs_recordFailure _).mono fun _ readable => readable.blames _
      · exact (failsAs_compileParsed _).mono fun _ readable => readable.blames _

theorem failsAs_outcomes {run : String → Operation → Build Outcome}
    {tasks : List (String × Operation)} {allowed : BuildError → Prop}
    (each : ∀ task ∈ tasks, (run task.1 task.2).FailsAs allowed) :
    (outcomes run tasks).FailsAs allowed := by
  induction tasks with
  | nil => exact Traced.failsAs_pure _
  | cons task tasks ih =>
      rw [List.forall_mem_cons] at each
      apply each.1.bind
      intro first
      exact (ih each.2).bind fun _ => Traced.failsAs_pure _

variable (registry mapping graph config) in
/-- A build ends at a text only if the text of some policy has a number that cannot be converted. -/
theorem failsAs_run :
    (Build.run registry mapping graph config).FailsAs fun error =>
      ∀ fault, error = .unreadable fault → ∃ task ∈ tasks registry,
        ∃ source ∈ registry.lookup task.1 task.2,
          Expr.Unconvertible (source.textFor task.2) fault := by
  apply Traced.FailsAs.bind
  · apply failsAs_outcomes
    intro task member
    refine (failsAs_compileOne task.1).mono ?_
    intro error blames fault same
    exact ⟨task, member, blames fault same⟩
  · intro settled
    exact .bind (Traced.failsAs_note _) fun _ => Traced.failsAs_pure _

/-! ## Builds that a number ends -/

theorem readAll_of_unreadable {before after : List Policy} {source : Policy} {error : ReadError}
    (read : ∀ earlier ∈ before, ∃ e, Expr.parse (earlier.textFor operation) entity = .ok e)
    (failed : Expr.parse (source.textFor operation) entity = .error error)
    (other : ¬error.IsMalformed) :
    (readAll entity operation (before ++ source :: after)).result =
      .error (.unreadable error) := by
  induction before with
  | nil =>
      rw [List.nil_append, readAll, failed]
      split
      · next same => cases same
      · next failure same =>
        cases same
        exact absurd ⟨failure, rfl⟩ other
      · next same =>
        cases same
        rfl
  | cons earlier before ih =>
      rw [List.forall_mem_cons] at read
      obtain ⟨⟨e, parsed⟩, others⟩ := read
      rw [List.cons_append, readAll, parsed]
      dsimp only
      rw [Traced.result_bind, ih others]
      rfl

/-- A number that cannot be converted ends the build of every policy, unless an earlier policy of
the same operation is not read. -/
theorem run_of_stops {task : String × Operation} {owner : Entity} {before after : List Policy}
    {source : Policy} {error : ReadError} (member : task ∈ tasks registry)
    (resolved : graph.entity task.1 = .ok owner)
    (listed : registry.lookup task.1 task.2 = before ++ source :: after)
    (read : ∀ earlier ∈ before, ∃ e, Expr.parse (earlier.textFor task.2) owner.name = .ok e)
    (stops : Token.Stops (source.textFor task.2) error) :
    ∃ failure, (Build.run registry mapping graph config).result = .error failure := by
  have aborted : (readAll owner.name task.2 (before ++ source :: after)).result =
      .error (.unreadable error) :=
    readAll_of_unreadable read (Expr.parse_of_stops stops owner.name) stops.fault.not_isMalformed
  have failed : (compileOne registry mapping graph config task.1 task.2).result =
      .error (.unreadable error) := by
    unfold compileOne
    rw [resolved]
    dsimp only
    rw [listed]
    split
    · next empty => simp at empty
    · rw [Traced.result_bind, aborted]
      rfl
  cases built : (Build.run registry mapping graph config).result with
  | error failure => exact ⟨failure, rfl⟩
  | ok rules =>
      obtain ⟨outcome, settled⟩ := exists_outcome built member
      rw [failed] at settled
      cases settled

end Build

/-- A text is not read because it is malformed or because a number in it cannot be converted. A
number that scanning comes to and cannot convert always ends the reading, and not as a malformed
text; it has too many digits, a digit without a value or a size out of range. Such numbers, and no
other texts, end the build of all policies. -/
theorem reading_ends_at_numbers (registry : Registry) (mapping : ProviderMap) (graph : Graph)
    (config : Config) :
    (∀ text entity error, Expr.parse text entity = .error error →
      error.IsMalformed ∨ Expr.Unconvertible text error) ∧
    (∀ text entity error, Token.Stops text error →
      Expr.parse text entity = .error error ∧ ¬error.IsMalformed) ∧
    (∀ text error, Expr.Unconvertible text error → ¬error.IsMalformed ∧
      (Token.NumberFault text.toList error ∨
        error = .tooLarge ∧ ∃ tokens token d, Token.scan text = .ok tokens ∧ token ∈ tokens ∧
          token.lexeme = .decimal d ∧ Decimal.maxWorking ≤ d.leadingExponent)) ∧
    (∀ error, (Build.run registry mapping graph config).result = .error (.unreadable error) →
      ∃ task ∈ Build.tasks registry, ∃ source ∈ registry.lookup task.1 task.2,
        Expr.Unconvertible (source.textFor task.2) error) ∧
    ∀ task ∈ Build.tasks registry, ∀ owner, graph.entity task.1 = .ok owner →
      ∀ before source after error, registry.lookup task.1 task.2 = before ++ source :: after →
        (∀ earlier ∈ before, ∃ e, Expr.parse (earlier.textFor task.2) owner.name = .ok e) →
        Token.Stops (source.textFor task.2) error →
        ∃ failure, (Build.run registry mapping graph config).result = .error failure := by
  refine ⟨Expr.failsWith_parse, ?_, ?_, ?_, ?_⟩
  · intro text entity error stops
    exact ⟨Expr.parse_of_stops stops entity, stops.fault.not_isMalformed⟩
  · intro text error unconvertible
    exact ⟨unconvertible.not_isMalformed, unconvertible.cause⟩
  · intro error failed
    exact Build.failsAs_run registry mapping graph config _ failed error rfl
  · intro task member owner resolved before source after error listed read stops
    exact Build.run_of_stops member resolved listed read stops

/-! ## A digit without a value -/

/-- A policy that compares with a superscript. -/
def Policy.squared : Policy :=
  { name := "squared", entity := "Post", command := .select, condition := some "status = ²" }

def Policy.named : Policy :=
  { name := "named", entity := "User", command := .select, condition := some "name = 'ann'" }

def Registry.squared : Registry :=
  ⟨⟨[("Post", [.squared]), ("User", [.named])]⟩⟩

theorem Registry.entities_squared : Registry.squared.entities = ["Post", "User"] :=
  List.mergeSort_of_pairwise (by decide +kernel)

theorem Token.stops_squared : Token.Stops "status = ²" (.notInteger "²") := by
  have failed : Token.scan "status = ²" = .error (.notInteger "²") := by with_unfolding_all rfl
  rcases Token.failsWith_scan _ _ failed with ⟨failure, same, _⟩ | stops
  · cases same
  · exact stops

theorem reading_ends_at_numbers_squared :
    Token.Stops (Policy.squared.textFor .select) (.notInteger "²") ∧
      Expr.parse (Policy.squared.textFor .select) "Post" = .error (.notInteger "²") ∧
      ∃ failure, (Build.run .squared Scope.blog.mapping .blog {}).result = .error failure := by
  obtain ⟨_, stopped, _, _, aborted⟩ :=
    reading_ends_at_numbers .squared Scope.blog.mapping .blog {}
  have member : ("Post", Operation.select) ∈ Build.tasks .squared := by
    rw [Build.tasks, Registry.entities_squared]
    decide
  refine ⟨Token.stops_squared, (stopped _ "Post" _ Token.stops_squared).1, ?_⟩
  exact aborted _ member Scope.blog.entity (by with_unfolding_all rfl) [] .squared [] _
    (by with_unfolding_all rfl) (List.forall_mem_nil _) Token.stops_squared

/-- Four texts with numbers that cannot be converted, none of them malformed; a number ends a build
as well. -/
theorem numbers_end_reading :
    Expr.parse "²" "Post" = .error (.notInteger "²") ∧
      Expr.parse "1.²" "Post" = .error (.decimal .notDecimal) ∧
      Expr.parse "1E9999999999999999999" "Post" = .error (.decimal .outOfRange) ∧
      Expr.parse "-1E1000000" "Post" = .error .tooLarge ∧
      (Build.run .squared Scope.blog.mapping .blog {}).result =
        .error (.unreadable (.notInteger "²")) := by
  refine ⟨?_, ?_, ?_, ?_, ?_⟩
  · with_unfolding_all rfl
  · with_unfolding_all rfl
  · with_unfolding_all rfl
  · with_unfolding_all rfl
  · rw [Build.run, Build.tasks, Registry.entities_squared]
    with_unfolding_all rfl

end RowGuard
