import RowGuard.Proofs.Predicate.Compilation

/-! Predicates under other defaults. Compiling with another default for what has
no meaning of its own gives the same predicate with that default in the stand-ins,
or the same failure. A stand-in under an even number of negations makes a
predicate truer where its default is true, and one under an odd number falser. -/

set_option autoImplicit false

namespace RowGuard

/-! ## The order of truths -/

/-- Whether a truth is at most as true as another one: false comes before unknown, and unknown
before true. -/
structure Truth.Below (s t : Truth) : Prop where
  yes : s = .yes → t = .yes
  no : t = .no → s = .no

namespace Truth

variable {s t : Truth}

theorem Below.refl (t : Truth) : Below t t :=
  ⟨id, id⟩

theorem Below.not (below : Below s t) (first : s.isProper) (second : t.isProper) :
    Below t.not s.not := by
  constructor
  · intro yes
    exact (not_eq_yes_iff first).mpr (below.no ((not_eq_yes_iff second).mp yes))
  · intro no
    exact (not_eq_no_iff second).mpr (below.yes ((not_eq_no_iff first).mp no))

theorem below_ofBool {a b : Bool} (implies : a = true → b = true) :
    Below (ofBool a) (ofBool b) := by
  constructor
  · simpa using implies
  · cases a with
    | false => exact fun _ => rfl
    | true => simp [implies rfl]

section Lists

variable {α : Type} {items : List α} {f g : α → Truth}

theorem below_all (each : ∀ item ∈ items, Below (f item) (g item))
    (proper : ∀ item ∈ items, (f item).isProper ∧ (g item).isProper) :
    Below (all (items.map f)) (all (items.map g)) := by
  have first : ∀ t ∈ items.map f, t.isProper :=
    List.forall_mem_map.mpr fun item member => (proper item member).1
  have second : ∀ t ∈ items.map g, t.isProper :=
    List.forall_mem_map.mpr fun item member => (proper item member).2
  constructor
  · rw [all_eq_yes_iff first, all_eq_yes_iff second, List.forall_mem_map, List.forall_mem_map]
    exact fun yes item member => (each item member).yes (yes item member)
  · rw [all_eq_no_iff, all_eq_no_iff, List.mem_map, List.mem_map]
    rintro ⟨item, member, no⟩
    exact ⟨item, member, (each item member).no no⟩

theorem below_any (each : ∀ item ∈ items, Below (f item) (g item))
    (proper : ∀ item ∈ items, (f item).isProper ∧ (g item).isProper) :
    Below (any (items.map f)) (any (items.map g)) := by
  have first : ∀ t ∈ items.map f, t.isProper :=
    List.forall_mem_map.mpr fun item member => (proper item member).1
  have second : ∀ t ∈ items.map g, t.isProper :=
    List.forall_mem_map.mpr fun item member => (proper item member).2
  constructor
  · rw [any_eq_yes_iff, any_eq_yes_iff, List.mem_map, List.mem_map]
    rintro ⟨item, member, yes⟩
    exact ⟨item, member, (each item member).yes yes⟩
  · rw [any_eq_no_iff first, any_eq_no_iff second, List.forall_mem_map, List.forall_mem_map]
    exact fun no item member => (each item member).no (no item member)

end Lists

end Truth

namespace Predicate

/-! ## Other defaults -/

mutual

/-- The predicate with another default in every stand-in. -/
def defaulting (allowed : Bool) : Predicate → Predicate
  | .all operands => .all (defaultingAll allowed operands)
  | .any operands => .any (defaultingAll allowed operands)
  | .not operand => .not (defaulting allowed operand)
  | .anyRelated relation condition joinFields =>
    .anyRelated relation (defaulting allowed condition) joinFields
  | .select subject branches otherwise =>
    .select subject (defaultingSelect allowed branches) (defaulting allowed otherwise)
  | .firstOf branches otherwise =>
    .firstOf (defaultingFirst allowed branches) (defaulting allowed otherwise)
  | .role condition => .role (defaulting allowed condition)
  | .unresolved construct => .unresolved { construct with default := .bool allowed }
  | .const value => .const value
  | .compare comparator left right => .compare comparator left right
  | .member operand values negated => .member operand values negated
  | .isNull operand negated => .isNull operand negated
  | .foreign node => .foreign node
termination_by structural p => p

def defaultingAll (allowed : Bool) : List Predicate → List Predicate
  | [] => []
  | p :: ps => defaulting allowed p :: defaultingAll allowed ps
termination_by structural ps => ps

def defaultingSelect (allowed : Bool) : List (Operand × Predicate) → List (Operand × Predicate)
  | [] => []
  | (key, outcome) :: rest => (key, defaulting allowed outcome) :: defaultingSelect allowed rest
termination_by structural branches => branches

def defaultingFirst (allowed : Bool) : List (Predicate × Predicate) → List (Predicate × Predicate)
  | [] => []
  | (key, outcome) :: rest =>
    (defaulting allowed key, defaulting allowed outcome) :: defaultingFirst allowed rest
termination_by structural branches => branches

end

section Forms

variable {allowed : Bool}

theorem defaultingAll_eq_map (ps : List Predicate) :
    defaultingAll allowed ps = ps.map (defaulting allowed) := by
  induction ps with
  | nil => rfl
  | cons p ps ih => rw [defaultingAll, ih, List.map_cons]

theorem defaultingSelect_eq_map (branches : List (Operand × Predicate)) :
    defaultingSelect allowed branches =
      branches.map fun branch => (branch.1, branch.2.defaulting allowed) := by
  induction branches with
  | nil => rfl
  | cons branch rest ih => rw [defaultingSelect, ih, List.map_cons]

theorem defaultingSelect_zip (keys : List Operand) (outcomes : List Predicate) :
    defaultingSelect allowed (keys.zip outcomes) =
      keys.zip (outcomes.map (defaulting allowed)) := by
  rw [defaultingSelect_eq_map, List.zip_map_right]
  rfl

theorem defaultingFirst_eq_map (branches : List (Predicate × Predicate)) :
    defaultingFirst allowed branches =
      branches.map fun branch => (branch.1.defaulting allowed, branch.2.defaulting allowed) := by
  induction branches with
  | nil => rfl
  | cons branch rest ih => rw [defaultingFirst, ih, List.map_cons]

/-! ## Constructors -/

theorem opensAll_defaulting (p : Predicate) :
    opensAll (p.defaulting allowed) = (opensAll p).map (List.map (defaulting allowed)) := by
  cases p with
  | const value =>
      simp only [defaulting, opensAll]
      split
      · rfl
      · split <;> rfl
  | all operands => simp only [defaulting, opensAll, defaultingAll_eq_map, Option.map_some]
  | any _ | not _ | compare _ _ _ | member _ _ _ | isNull _ _ | anyRelated _ _ _ | select _ _ _
  | firstOf _ _ | role _ | unresolved _ | foreign _ => rfl

theorem opensAny_defaulting (p : Predicate) :
    opensAny (p.defaulting allowed) = (opensAny p).map (List.map (defaulting allowed)) := by
  cases p with
  | const value =>
      simp only [defaulting, opensAny]
      split
      · rfl
      · split <;> rfl
  | any operands => simp only [defaulting, opensAny, defaultingAll_eq_map, Option.map_some]
  | all _ | not _ | compare _ _ _ | member _ _ _ | isNull _ _ | anyRelated _ _ _ | select _ _ _
  | firstOf _ _ | role _ | unresolved _ | foreign _ => rfl

theorem allOf_defaulting (ps : List Predicate) :
    allOf (ps.map (defaulting allowed)) = (allOf ps).defaulting allowed := by
  rw [allOf_eq_joined, allOf_eq_joined]
  refine Folding.joined_map rfl rfl (fun ps => ?_) fun p _ => opensAll_defaulting p
  rw [defaulting, defaultingAll_eq_map]

theorem anyOf_defaulting (ps : List Predicate) :
    anyOf (ps.map (defaulting allowed)) = (anyOf ps).defaulting allowed := by
  rw [anyOf_eq_joined, anyOf_eq_joined]
  refine Folding.joined_map rfl rfl (fun ps => ?_) fun p _ => opensAny_defaulting p
  rw [defaulting, defaultingAll_eq_map]

theorem negate_defaulting (p : Predicate) :
    (p.defaulting allowed).negate = p.negate.defaulting allowed := by
  cases p <;> rfl

theorem defaulting_oriented (comparator : Comparator) (left right : Operand) :
    (oriented comparator left right).defaulting allowed = oriented comparator left right := by
  rcases oriented_cases comparator left right with same | ⟨flipped, same, _⟩
  · rw [same]
    rfl
  · rw [same]
    rfl

theorem defaulting_through (side : Side) {p : Predicate} (same : p.defaulting allowed = p) :
    (side.through p).defaulting allowed = side.through p := by
  unfold Side.through
  split
  · exact same
  · rw [defaulting, same]

/-! ## Dependencies -/

mutual

theorem reads_defaulting (p : Predicate) :
    (p.defaulting allowed).readsRecord = p.readsRecord ∧
      (p.defaulting allowed).readsActor = p.readsActor := by
  cases p with
  | const _ | compare _ _ _ | member _ _ _ | isNull _ _ | unresolved _ | foreign _ =>
      exact ⟨rfl, rfl⟩
  | all operands | any operands => exact anyReads_defaulting operands
  | not operand => exact reads_defaulting operand
  | anyRelated _ condition _ => exact ⟨rfl, (reads_defaulting condition).2⟩
  | select subject branches otherwise =>
      have outcomes := selectReads_defaulting branches
      have last := reads_defaulting otherwise
      simp only [defaulting, readsRecord, readsActor, outcomes, last, and_self]
  | firstOf branches otherwise =>
      have outcomes := firstReads_defaulting branches
      have last := reads_defaulting otherwise
      simp only [defaulting, readsRecord, readsActor, outcomes, last, and_self]
  | role condition => exact reads_defaulting condition
termination_by structural p

theorem anyReads_defaulting (ps : List Predicate) :
    anyReadsRecord (defaultingAll allowed ps) = anyReadsRecord ps ∧
      anyReadsActor (defaultingAll allowed ps) = anyReadsActor ps := by
  cases ps with
  | nil => exact ⟨rfl, rfl⟩
  | cons p ps =>
      have first := reads_defaulting p
      have others := anyReads_defaulting ps
      simp only [defaultingAll, anyReadsRecord, anyReadsActor, first, others, and_self]
termination_by structural ps

theorem selectReads_defaulting (branches : List (Operand × Predicate)) :
    selectReadsRecord (defaultingSelect allowed branches) = selectReadsRecord branches ∧
      selectReadsActor (defaultingSelect allowed branches) = selectReadsActor branches := by
  cases branches with
  | nil => exact ⟨rfl, rfl⟩
  | cons branch rest =>
      obtain ⟨key, outcome⟩ := branch
      have first := reads_defaulting outcome
      have others := selectReads_defaulting rest
      simp only [defaultingSelect, selectReadsRecord, selectReadsActor, first, others, and_self]
termination_by structural branches

theorem firstReads_defaulting (branches : List (Predicate × Predicate)) :
    firstReadsRecord (defaultingFirst allowed branches) = firstReadsRecord branches ∧
      firstReadsActor (defaultingFirst allowed branches) = firstReadsActor branches := by
  cases branches with
  | nil => exact ⟨rfl, rfl⟩
  | cons branch rest =>
      obtain ⟨key, outcome⟩ := branch
      have condition := reads_defaulting key
      have first := reads_defaulting outcome
      have others := firstReads_defaulting rest
      simp only [defaultingFirst, firstReadsRecord, firstReadsActor, condition, first, others,
        and_self]
termination_by structural branches

end

theorem markRole_defaulting (p : Predicate) :
    markRole (p.defaulting allowed) = (markRole p).defaulting allowed := by
  have reads : (p.defaulting allowed).isRoleOnly = p.isRoleOnly := by
    simp only [isRoleOnly, reads_defaulting p]
  unfold markRole
  rw [reads]
  cases p.isRoleOnly <;> rfl

end Forms

end Predicate

/-! ## Compilation -/

/-- The scope with another answer to what has no meaning of its own. -/
def Scope.defaulting (scope : Scope) (mode : UnresolvedMode) : Scope :=
  { scope with config := { scope.config with onUnresolved := mode } }

namespace Predicate

section Runs

variable (scope : Scope) (mode : UnresolvedMode)

/-- Whether a compilation with another default ends in the same predicate with that default. -/
abbrev Redefaults (run other : Compilation Predicate) : Prop :=
  run.Follows (defaulting (mode == .allow)) other

theorem subject_defaulting (actorFirst : Bool) (e : Expr) :
    subject? (scope.defaulting mode) actorFirst e = subject? scope actorFirst e :=
  rfl

theorem keys_defaulting (branches : List (Expr × Expr)) :
    keys? (scope.defaulting mode) branches = keys? scope branches := by
  induction branches with
  | nil => rfl
  | cons branch rest ih => rw [keys?, keys?, ih, subject_defaulting]

theorem redefaults_standIn (e : Expr) (kind : String) (related : Option String) :
    Redefaults mode (standIn scope e kind related)
      (standIn (scope.defaulting mode) e kind related) := by
  refine .bind (f := fun construct => { construct with default := .bool (mode == .allow) }) ?_ ?_
  · refine Traced.follows_bind_self fun text => ?_
    rfl
  · intro construct
    rfl

variable {scope mode}

theorem Redefaults.markRole {run other : Compilation Predicate} (runs : Redefaults mode run other) :
    Redefaults mode (do return markRole (← run)) (do return markRole (← other)) := by
  refine runs.bind fun p => ?_
  rw [markRole_defaulting]
  exact Traced.follows_pure _ _

theorem defaulting_joined {allowed : Bool} {left right : Side} {test p : Predicate}
    (same : test.defaulting allowed = test) (joined : Joined left right test p) :
    p.defaulting allowed = p := by
  obtain ⟨side, _, rfl, _⟩ := joined.exists_through
  exact defaulting_through side same

theorem redefaults_joinSides {join : Side → Side → Option Predicate}
    (kept : ∀ l r p, join l r = some p → p.defaulting (mode == .allow) = p)
    (left right e : Expr) :
    Redefaults mode (joinSides scope join left right e)
      (joinSides (scope.defaulting mode) join left right e) := by
  have standsIn := redefaults_standIn scope mode e "comparison" none
  refine Traced.follows_bind_self fun l => Traced.follows_bind_self fun r => ?_
  cases l with
  | none => exact standsIn
  | some l =>
      cases r with
      | none => exact standsIn
      | some r =>
          dsimp only
          cases joined : join l r with
          | none => exact standsIn
          | some p => exact congrArg Except.ok (kept l r p joined).symm

theorem redefaults_ofComparison (comparator : Comparator) (left right : Expr) :
    Redefaults mode (ofComparison scope comparator left right)
      (ofComparison (scope.defaulting mode) comparator left right) := by
  rw [ofComparison_eq, ofComparison_eq]
  exact redefaults_joinSides (fun _ _ _ joined =>
    defaulting_joined (defaulting_oriented _ _ _) (joined_ofSides joined)) _ _ _

theorem redefaults_ofMembership (negated : Bool) (left right : Expr) :
    Redefaults mode (ofMembership scope negated left right)
      (ofMembership (scope.defaulting mode) negated left right) := by
  rw [ofMembership_eq, ofMembership_eq]
  exact redefaults_joinSides (fun _ _ _ joined =>
    defaulting_joined rfl (joined_memberOfSides joined)) _ _ _

theorem redefaults_ofEqualities (left : Expr) (items : List Expr) :
    (ofEqualities scope left items).Follows (List.map (defaulting (mode == .allow)))
      (ofEqualities (scope.defaulting mode) left items) := by
  induction items with
  | nil => exact Traced.follows_pure _ _
  | cons item items ih =>
      refine (redefaults_ofComparison .eq left item).bind fun p => ih.bind fun ps => ?_
      rw [markRole_defaulting]
      exact Traced.follows_pure _ _

theorem redefaults_ofCondition (operator : Operator) (left right : Expr) :
    Redefaults mode (ofCondition scope operator left right)
      (ofCondition (scope.defaulting mode) operator left right) := by
  cases operator with
  | compare comparator => exact redefaults_ofComparison comparator left right
  | null negated =>
      refine Traced.follows_bind_self fun side => ?_
      cases side with
      | none => exact redefaults_standIn _ _ _ _ _
      | some side => exact congrArg Except.ok (defaulting_through _ rfl).symm
  | member negated =>
      cases right with
      | subquery source body => exact redefaults_standIn _ _ _ _ _
      | array items =>
          simp only [ofCondition]
          split
          · exact redefaults_ofMembership _ _ _
          · refine (redefaults_ofEqualities left items).bind fun ps => ?_
            rw [anyOf_defaulting]
            cases negated with
            | false => exact Traced.follows_pure _ _
            | true => exact congrArg Except.ok (negate_defaulting _)
      | any _ | all _ | not _ | condition _ _ _ | choice _ _ _ | existence _ _ | call _ _
      | column _ _ | setting _ | literal _ | foreign _ => exact redefaults_ofMembership _ _ _

theorem redefaults_ofValue (e : Expr) :
    Redefaults mode (ofValue scope e) (ofValue (scope.defaulting mode) e) := by
  refine Traced.follows_bind_self fun side => ?_
  cases side with
  | none => exact redefaults_standIn _ _ _ _ _
  | some side => exact congrArg Except.ok (defaulting_through _ rfl).symm

theorem redefaults_ofLiteral (item : Literal) :
    Redefaults mode (ofLiteral scope item) (ofLiteral (scope.defaulting mode) item) := by
  unfold ofLiteral
  split
  · exact Traced.follows_pure _ _
  · exact Traced.follows_pure _ _
  · exact redefaults_standIn _ _ _ _ _

mutual

/-- Another default changes nothing in a compilation but the default of the stand-ins. -/
theorem redefaults_compile (e : Expr) :
    Redefaults mode (compile scope e) (compile (scope.defaulting mode) e) := by
  cases e with
  | any es =>
      refine (redefaults_compileAll es).bind fun ps => ?_
      rw [anyOf_defaulting]
      exact Traced.follows_pure _ _
  | all es =>
      refine (redefaults_compileAll es).bind fun ps => ?_
      rw [allOf_defaulting]
      exact Traced.follows_pure _ _
  | not e =>
      have negated : Redefaults mode (do return negate (← compile scope e))
          (do return negate (← compile (scope.defaulting mode) e)) := by
        refine (redefaults_compile e).bind fun p => ?_
        rw [negate_defaulting]
        exact Traced.follows_pure _ _
      cases e with
      | existence _ _ | subquery _ _ => exact redefaults_standIn _ _ _ _ _
      | any _ | all _ | not _ | condition _ _ _ | choice _ _ _ | call _ _ | column _ _ | setting _
      | literal _ | array _ | foreign _ => exact negated
  | literal item => exact redefaults_ofLiteral item
  | condition operator left right => exact (redefaults_ofCondition operator left right).markRole
  | choice subject branches otherwise =>
      cases subject with
      | none =>
          refine (redefaults_compileBranches branches).bind fun bs => ?_
          refine (redefaults_compileOtherwise otherwise).bind fun last => ?_
          exact congrArg Except.ok (markRole_defaulting (.firstOf bs last))
      | some subject =>
          refine Traced.follows_bind_self fun operand => ?_
          cases operand with
          | none => exact redefaults_standIn _ _ _ _ _
          | some operand =>
              simp only [keys_defaulting]
              refine Traced.follows_bind_self fun keys => ?_
              cases keys with
              | none => exact redefaults_standIn _ _ _ _ _
              | some keys =>
                  refine (redefaults_compileOutcomes branches).bind fun outcomes => ?_
                  refine (redefaults_compileOtherwise otherwise).bind fun last => ?_
                  rw [← defaultingSelect_zip]
                  exact congrArg Except.ok
                    (markRole_defaulting (.select operand (keys.zip outcomes) last))
  | existence _ _ | subquery _ _ | array _ | foreign _ => exact redefaults_standIn _ _ _ _ _
  | call name arguments =>
      cases arguments with
      | nil => exact (redefaults_ofValue _).markRole
      | cons _ _ => exact redefaults_standIn _ _ _ _ _
  | column _ _ | setting _ => exact (redefaults_ofValue _).markRole
termination_by structural e

theorem redefaults_compileAll (es : List Expr) :
    (compileAll scope es).Follows (List.map (defaulting (mode == .allow)))
      (compileAll (scope.defaulting mode) es) := by
  cases es with
  | nil => exact Traced.follows_pure _ _
  | cons e es =>
      refine (redefaults_compile e).bind fun p => (redefaults_compileAll es).bind fun ps => ?_
      exact Traced.follows_pure _ _
termination_by structural es

theorem redefaults_compileBranches (branches : List (Expr × Expr)) :
    (compileBranches scope branches).Follows (defaultingFirst (mode == .allow))
      (compileBranches (scope.defaulting mode) branches) := by
  cases branches with
  | nil => exact Traced.follows_pure _ _
  | cons branch branches =>
      obtain ⟨key, outcome⟩ := branch
      refine (redefaults_compile key).bind fun k => (redefaults_compile outcome).bind fun o => ?_
      refine (redefaults_compileBranches branches).bind fun others => ?_
      exact Traced.follows_pure _ ((k, o) :: others)
termination_by structural branches

theorem redefaults_compileOutcomes (branches : List (Expr × Expr)) :
    (compileOutcomes scope branches).Follows (List.map (defaulting (mode == .allow)))
      (compileOutcomes (scope.defaulting mode) branches) := by
  cases branches with
  | nil => exact Traced.follows_pure _ _
  | cons branch branches =>
      obtain ⟨key, outcome⟩ := branch
      refine (redefaults_compile outcome).bind fun o => ?_
      refine (redefaults_compileOutcomes branches).bind fun others => ?_
      exact Traced.follows_pure _ _
termination_by structural branches

theorem redefaults_compileOtherwise (otherwise : Option Expr) :
    Redefaults mode (compileOtherwise scope otherwise)
      (compileOtherwise (scope.defaulting mode) otherwise) := by
  cases otherwise with
  | none => exact Traced.follows_pure _ _
  | some e => exact redefaults_compile e
termination_by structural otherwise

end

end Runs

/-! ## Signs -/

section Signs

variable {admitted : Unresolved → Prop} {allowed sign : Bool} {p : Predicate}

theorem isTest_defaulting (test : p.isTest) : p.defaulting allowed = p := by
  cases p with
  | compare _ _ _ | member _ _ _ | isNull _ _ => rfl
  | const _ | all _ | any _ | not _ | anyRelated _ _ _ | select _ _ _ | firstOf _ _ | role _
  | unresolved _ | foreign _ => cases test

theorem Compiled.defaulting (compiled : p.Compiled admitted) (allowed : Bool) :
    (p.defaulting allowed).Compiled fun _ => True := by
  induction compiled with
  | const => exact .const
  | all _ ih =>
      rw [Predicate.defaulting, defaultingAll_eq_map]
      exact .all (List.forall_mem_map.mpr ih)
  | any _ ih =>
      rw [Predicate.defaulting, defaultingAll_eq_map]
      exact .any (List.forall_mem_map.mpr ih)
  | not _ ih => exact .not ih
  | compare known left right turned => exact .compare known left right turned
  | member operand values => exact .member operand values
  | isNull operand => exact .isNull operand
  | anyRelated test _ ih =>
      rw [isTest_defaulting test] at ih
      rw [Predicate.defaulting, isTest_defaulting test]
      exact .anyRelated test ih
  | select subject keys _ _ outcomeIH otherwiseIH =>
      rw [Predicate.defaulting, defaultingSelect_eq_map]
      exact .select subject (List.forall_mem_map.mpr keys) (List.forall_mem_map.mpr outcomeIH)
        otherwiseIH
  | firstOf _ _ _ keyIH outcomeIH otherwiseIH =>
      rw [Predicate.defaulting, defaultingFirst_eq_map]
      exact .firstOf (List.forall_mem_map.mpr keyIH) (List.forall_mem_map.mpr outcomeIH) otherwiseIH
  | role _ ih => exact .role ih
  | unresolved _ _ => exact .unresolved rfl trivial

/-- The predicates whose stand-ins stand under an even number of negations, if the sign is true, or
under an odd one, and not in the condition of a branch. A stand-in that is negated itself is a
stand-in again and counts as such. -/
inductive Signed : Bool → Predicate → Prop where
  | const {sign : Bool} {value : Value} : Signed sign (.const value)
  | all {sign : Bool} {operands : List Predicate} :
      (∀ p ∈ operands, Signed sign p) → Signed sign (.all operands)
  | any {sign : Bool} {operands : List Predicate} :
      (∀ p ∈ operands, Signed sign p) → Signed sign (.any operands)
  | not {sign : Bool} {operand : Predicate} : Signed (!sign) operand → Signed sign (.not operand)
  | compare {sign : Bool} {comparator : Comparator} {left right : Operand} :
      Signed sign (.compare comparator left right)
  | member {sign negated : Bool} {operand values : Operand} :
      Signed sign (.member operand values negated)
  | isNull {sign negated : Bool} {operand : Operand} : Signed sign (.isNull operand negated)
  | anyRelated {sign : Bool} {relation : String} {condition : Predicate}
      {joinFields : List String} :
      Signed sign condition → Signed sign (.anyRelated relation condition joinFields)
  | select {sign : Bool} {subject : Operand} {branches : List (Operand × Predicate)}
      {otherwise : Predicate} : (∀ branch ∈ branches, Signed sign branch.2) →
      Signed sign otherwise → Signed sign (.select subject branches otherwise)
  | firstOf {sign : Bool} {branches : List (Predicate × Predicate)} {otherwise : Predicate} :
      (∀ branch ∈ branches, ∀ either, Signed either branch.1) →
      (∀ branch ∈ branches, Signed sign branch.2) → Signed sign otherwise →
      Signed sign (.firstOf branches otherwise)
  | role {sign : Bool} {condition : Predicate} :
      Signed sign condition → Signed sign (.role condition)
  | unresolved {construct : Unresolved} : Signed Bool.true (.unresolved construct)

theorem below_select {actor subject record : Value} {branches : List (Operand × Predicate)}
    {last other : Truth} (outcomes : ∀ branch ∈ branches,
      Truth.Below ((branch.2.defaulting !sign).truth actor record)
        ((branch.2.defaulting sign).truth actor record)) (otherwise : Truth.Below last other) :
    Truth.Below ((truthSelect actor subject (defaultingSelect (!sign) branches) record).getD last)
      ((truthSelect actor subject (defaultingSelect sign branches) record).getD other) := by
  induction branches with
  | nil => exact otherwise
  | cons branch rest ih =>
      rw [List.forall_mem_cons] at outcomes
      simp only [defaultingSelect, truthSelect]
      split
      · exact outcomes.1
      · exact ih outcomes.2

theorem below_first {actor record : Value} {branches : List (Predicate × Predicate)}
    {last other : Truth} (keys : ∀ branch ∈ branches, ∀ either,
      Truth.Below ((branch.1.defaulting !either).truth actor record)
        ((branch.1.defaulting either).truth actor record))
    (outcomes : ∀ branch ∈ branches,
      Truth.Below ((branch.2.defaulting !sign).truth actor record)
        ((branch.2.defaulting sign).truth actor record)) (otherwise : Truth.Below last other) :
    Truth.Below ((truthFirst actor (defaultingFirst (!sign) branches) record).getD last)
      ((truthFirst actor (defaultingFirst sign branches) record).getD other) := by
  induction branches with
  | nil => exact otherwise
  | cons branch rest ih =>
      rw [List.forall_mem_cons] at keys outcomes
      -- Whatever the sign, the condition of the branch holds under both defaults or under neither.
      have same : ((branch.1.defaulting !sign).truth actor record).holds =
          ((branch.1.defaulting sign).truth actor record).holds := by
        have forth := (keys.1 sign).yes
        have back := (keys.1 !sign).yes
        rw [Bool.not_not] at back
        rw [Bool.eq_iff_iff, Truth.holds_iff, Truth.holds_iff]
        exact ⟨forth, back⟩
      simp only [defaultingFirst, truthFirst, same]
      split
      · exact outcomes.1
      · exact ih keys.2 outcomes.2

/-- The default that the sign names makes a predicate at least as true as the other default does. -/
theorem below_of_signed (signed : p.Signed sign) (compiled : p.Compiled admitted)
    (actor record : Value) :
    Truth.Below ((p.defaulting !sign).truth actor record)
      ((p.defaulting sign).truth actor record) := by
  induction signed generalizing record with
  | const | compare | member | isNull => exact .refl _
  | all _ ih =>
      rw [compiled_all_iff] at compiled
      simp only [defaulting, defaultingAll_eq_map, truth_all, List.map_map]
      refine Truth.below_all (fun q member => ih q member (compiled q member) record) ?_
      intro q member
      exact ⟨((compiled q member).defaulting _).isProper_truth actor record,
        ((compiled q member).defaulting _).isProper_truth actor record⟩
  | any _ ih =>
      rw [compiled_any_iff] at compiled
      simp only [defaulting, defaultingAll_eq_map, truth_any, List.map_map]
      refine Truth.below_any (fun q member => ih q member (compiled q member) record) ?_
      intro q member
      exact ⟨((compiled q member).defaulting _).isProper_truth actor record,
        ((compiled q member).defaulting _).isProper_truth actor record⟩
  | not _ ih =>
      -- The operand is ordered the other way round, and negation turns the order back.
      cases compiled with
      | not compiled =>
          have inside := ih compiled record
          rw [Bool.not_not] at inside
          exact inside.not ((compiled.defaulting _).isProper_truth actor record)
            ((compiled.defaulting _).isProper_truth actor record)
  | anyRelated _ ih =>
      cases compiled with
      | anyRelated _ compiled =>
          refine Truth.below_ofBool fun some => ?_
          obtain ⟨row, member, holds⟩ := List.any_eq_true.mp some
          rw [Truth.holds_iff] at holds
          have later := (ih compiled row).yes holds
          exact List.any_eq_true.mpr ⟨row, member, Truth.holds_iff.mpr later⟩
  | select _ _ outcomeIH otherwiseIH =>
      cases compiled with
      | select _ _ outcomes otherwise =>
          refine below_select ?_ (otherwiseIH otherwise record)
          intro branch member
          exact outcomeIH branch member (outcomes branch member) record
  | firstOf _ _ _ keyIH outcomeIH otherwiseIH =>
      cases compiled with
      | firstOf keys outcomes otherwise =>
          refine below_first ?_ ?_ (otherwiseIH otherwise record)
          · intro branch member either
            exact keyIH branch member either (keys branch member) record
          · intro branch member
            exact outcomeIH branch member (outcomes branch member) record
  | role _ ih =>
      cases compiled with
      | role compiled => exact ih compiled record
  | unresolved => exact ⟨nofun, nofun⟩

end Signs

end Predicate

end RowGuard
