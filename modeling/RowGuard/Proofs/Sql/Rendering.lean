import RowGuard.Proofs.Normalisation
import RowGuard.Proofs.RowFilter.Layout
import RowGuard.Proofs.Schema.Models
import RowGuard.Sql.Render

/-! Filters in SQL. A filter that fits the models and is settled has a
condition in SQL: every column and relationship it names is there, and every
operand is a value. What SQL can still refuse is a value that a comparison does
not take, or that has no literal. -/

set_option autoImplicit false

namespace RowGuard

namespace Sql

/-! ## Refusals -/

/-- Whether an outcome fails by allowed errors only. -/
def Refuses {α : Type} (allowed : Error → Prop) (outcome : Except Error α) : Prop :=
  ∀ error, outcome = .error error → allowed error

section Refuses

variable {α β : Type} {allowed : Error → Prop}

theorem refuses_ok (value : α) : Refuses allowed (.ok value) := by
  intro error failed
  cases failed

theorem refuses_error {error : Error} (allows : allowed error) :
    Refuses allowed (.error error : Except Error α) := by
  intro other failed
  cases failed
  exact allows

theorem Refuses.bind {first : Except Error α} {next : α → Except Error β}
    (before : Refuses allowed first)
    (after : ∀ value, first = .ok value → Refuses allowed (next value)) :
    Refuses allowed (first >>= next) := by
  cases first with
  | error error => exact refuses_error (before error rfl)
  | ok value => exact after value rfl

end Refuses

/-! ## Tests -/

section Tests

variable {models : Models} {model : Model} {field : String}

theorem columnOf_eq_ok (column : models.layout.column model field) :
    ∃ found, columnOf model field = .ok found := by
  obtain ⟨found, same⟩ := Option.isSome_iff_exists.mp column
  rw [columnOf, same]
  exact ⟨_, rfl⟩

theorem boundValue_eq_ok {operand : Operand} (scalar : RowFilter.isScalarSide operand)
    (settled : (!operand.isActor) = true) : ∃ value, boundValue operand = .ok value := by
  cases operand with
  | value value => exact ⟨value, rfl⟩
  | actor _ _ => cases settled
  | record _ | values _ | foreign _ => cases scalar

theorem refuses_compareField (column : models.layout.column model field) {comparator : Comparator}
    (known : isKnown comparator) {operand : Operand} (scalar : RowFilter.isScalarSide operand)
    (settled : (!operand.isActor) = true) :
    Refuses (· = .badOperand) (compareField model field comparator operand) := by
  obtain ⟨value, valued⟩ := boundValue_eq_ok scalar settled
  obtain ⟨found, columned⟩ := columnOf_eq_ok column
  simp only [compareField, valued, columned, known, bind, Except.bind, Bool.not_true,
    Bool.false_eq_true, if_false]
  split
  · exact refuses_ok _
  · split
    · exact refuses_error rfl
    · exact refuses_ok _

theorem refuses_likeField (column : models.layout.column model field) {operand : Operand}
    (scalar : RowFilter.isScalarSide operand) (settled : (!operand.isActor) = true)
    (ignoreCase : Bool) :
    Refuses (· = .badOperand) (likeField model field operand ignoreCase) := by
  obtain ⟨value, valued⟩ := boundValue_eq_ok scalar settled
  obtain ⟨found, columned⟩ := columnOf_eq_ok column
  simp only [likeField, valued, columned, bind, Except.bind]
  split
  · exact refuses_ok _
  · split
    · exact refuses_error rfl
    · exact refuses_ok _

theorem refuses_memberField (column : models.layout.column model field) {operand : Operand}
    (isSet : RowFilter.isSetSide operand) (settled : (!operand.isActor) = true) :
    Refuses (· = .badOperand) (memberField model field operand) := by
  obtain ⟨found, columned⟩ := columnOf_eq_ok column
  cases operand with
  | values values =>
      simp only [memberField, boundValue, columned, bind, Except.bind, pure, Except.pure]
      split
      · exact refuses_error rfl
      · exact refuses_ok _
  | actor _ _ => cases settled
  | record _ | value _ | foreign _ => cases isSet

end Tests

/-! ## Filters -/

section Filters

variable {models : Models}

theorem pathOf_eq_ok {model next : Model} {relation : String}
    (leads : models.layout.step model relation next) :
    ∃ path, pathOf models model relation = .ok path ∧ path.target = next := by
  obtain ⟨relationship, found, target⟩ := leads
  simp [pathOf, found, target]

theorem refuses_renderAll {model : Model} {inner : Bool} {fs : List RowFilter}
    (each : ∀ f ∈ fs, Refuses (· = .badOperand) (render models model inner f)) :
    Refuses (· = .badOperand) (renderAll models model inner fs) := by
  induction fs with
  | nil => exact refuses_ok _
  | cons f fs ih =>
      rw [List.forall_mem_cons] at each
      refine each.1.bind fun first _ => ?_
      exact (ih each.2).bind fun rest _ => refuses_ok _

theorem isKnown_of_isOrdering {comparator : Comparator} (orders : comparator.isOrdering) :
    isKnown comparator := by
  cases comparator with
  | eq | like _ _ | unknown _ => cases orders
  | ne | lt | le | gt | ge => rfl

/-- A normal filter that is settled and fits a model is rendered against it, unless a comparison
does not take a value. -/
theorem refuses_render {model : Model} {f : RowFilter} (fits : f.Fits models.layout model)
    (normal : f.Everywhere fun node => node.isNormal ∧ node.isSettled) (inner : Bool) :
    Refuses (· = .badOperand) (render models model inner f) := by
  induction fits generalizing inner with
  | pass | block | unresolved => exact refuses_ok _
  | all _ ih =>
      refine (refuses_renderAll fun f member => ?_).bind fun clauses _ => refuses_ok _
      exact ih f member (normal.children f member) inner
  | any _ ih =>
      refine (refuses_renderAll fun f member => ?_).bind fun clauses _ => refuses_ok _
      exact ih f member (normal.children f member) inner
  | not _ ih =>
      exact (ih (normal.children _ (.head _)) inner).bind fun clause _ => refuses_ok _
  | equals column =>
      exact refuses_compareField column rfl normal.here.1 normal.here.2
  | compare column =>
      obtain ⟨orders, scalar⟩ := Bool.and_eq_true_iff.mp normal.here.1
      exact refuses_compareField column (isKnown_of_isOrdering orders) scalar normal.here.2
  | member column => exact refuses_memberField column normal.here.1 normal.here.2
  | like column => exact refuses_likeField column normal.here.1 normal.here.2 _
  | isNull column =>
      obtain ⟨found, columned⟩ := columnOf_eq_ok column
      rw [render, columned]
      exact refuses_ok _
  | someRelated leads _ ih | related leads _ ih =>
      obtain ⟨path, found, rfl⟩ := pathOf_eq_ok leads
      rw [render, found]
      exact (ih (normal.children _ (.head _)) true).bind fun clause _ => refuses_ok _
  | given _ _ =>
      have settled := normal.here.2
      cases settled

end Filters

/-! ## Texts -/

namespace Clause

theorem refuses_literal (column : QualifiedColumn) (value : Value) :
    Refuses (· = .noLiteral) (literal column value) := by
  unfold literal
  split
  · exact refuses_ok _
  · exact refuses_error rfl

theorem refuses_mapM {α β : Type} {allowed : Error → Prop} {write : α → Except Error β}
    (each : ∀ item, Refuses allowed (write item)) (items : List α) :
    Refuses allowed (items.mapM write) := by
  induction items with
  | nil => exact refuses_ok _
  | cons item items ih =>
      rw [List.mapM_cons]
      exact (each item).bind fun first _ => ih.bind fun rest _ => refuses_ok _

theorem refuses_literals (column : QualifiedColumn) (values : List Value) :
    Refuses (· = .noLiteral) (literals column values) := by
  apply refuses_mapM
  intro value
  split
  · exact refuses_ok _
  · exact refuses_error rfl

mutual

/-- A condition is written unless a value has no literal. -/
theorem refuses_text (clause : Clause) : Refuses (· = .noLiteral) clause.text := by
  cases clause with
  | constant _ _ | unknown _ | isNull _ _ => exact refuses_ok _
  | compare column _ value => exact (refuses_literal column value).bind fun _ _ => refuses_ok _
  | member column values _ => exact (refuses_literals column values).bind fun _ _ => refuses_ok _
  | like column pattern _ _ => exact (refuses_literal column pattern).bind fun _ _ => refuses_ok _
  | someRow _ _ condition => exact (refuses_text condition).bind fun _ _ => refuses_ok _
  | all operands => exact (refuses_textsInAll operands).bind fun _ _ => refuses_ok _
  | any operands => exact (refuses_textsInAny operands).bind fun _ _ => refuses_ok _
  | not operand => exact (refuses_text operand).bind fun _ _ => refuses_ok _
termination_by structural clause

theorem refuses_textsInAll (clauses : List Clause) :
    Refuses (· = .noLiteral) (textsInAll clauses) := by
  cases clauses with
  | nil => exact refuses_ok _
  | cons clause rest =>
      refine (refuses_text clause).bind fun _ _ => ?_
      exact (refuses_textsInAll rest).bind fun _ _ => refuses_ok _
termination_by structural clauses

theorem refuses_textsInAny (clauses : List Clause) :
    Refuses (· = .noLiteral) (textsInAny clauses) := by
  cases clauses with
  | nil => exact refuses_ok _
  | cons clause rest =>
      refine (refuses_text clause).bind fun _ _ => ?_
      exact (refuses_textsInAny rest).bind fun _ _ => refuses_ok _
termination_by structural clauses

end

end Clause

end Sql

/-! ## Policies -/

/-- The filter of a policy for an actor keeps to the models that the policy was compiled against. -/
theorem Scope.Builds.fits_boundChecked {scope : Scope} {e : Expr} {access : RowAccess}
    {p : Predicate} {events : List Compilation.Event} {α : Type} {layout : Layout α} {place : α}
    (builds : scope.Builds e access p events) (laid : scope.LaidOut layout place) (actor : Value) :
    (access.filter.boundChecked actor access.roleChecks).Fits layout place := by
  obtain ⟨before, compile⟩ := builds.compile
  have fits := (Predicate.invariant_fits laid).ofCompile e compile
  have lowers := ((RowFilter.stable_fits layout).invariant scope).ofLower true p builds.lower place
    builds.compiled fits
  exact lowers.lands.fits_boundChecked actor access.roleChecks

/-- A policy that is compiled against the schema of models has filters in SQL on these models,
whoever asks for them: no column and no relationship is missing, and nothing in them is refused but
values. Only a comparison with an undefined number that the actor holds leaves them without one. -/
theorem refuses_of_rowAccess {models : Models} {graph : Graph} {model : Model}
    {mapping : ProviderMap} {operation : Operation} {config : Config} {scope : Scope} {text : String}
    {e : Expr} {access : RowAccess} {mode : UnloadedMode} (declared : models.Declarative)
    (made : models.graph = .ok graph) (member : model ∈ models.models)
    (within : Scope.make mapping graph model.name operation config = .ok scope)
    (parsed : Expr.parse text model.name = .ok e) (built : (scope.rowAccess e).result = .ok access)
    (loaded : mode ≠ .fail) (actor reader : Value) :
    ∃ rows bound, (access.forActor mode actor).Yields actor.isDefined rows ∧
      (rows.bind mode reader).result = .ok bound ∧
      Sql.Refuses (· = .badOperand) (Sql.render models model false bound) ∧
      (Sql.whereText models model mode reader rows).FailsAs fun error =>
        error = .badOperand ∨ error = .noLiteral := by
  obtain ⟨p, events, builds⟩ := Scope.builds_of_rowAccess (Expr.grammar_known.ofParse parsed) built
  have forActor := builds.yields_forActor loaded actor
  have known := builds.known_boundChecked actor
  have normal := RowFilter.everywhere_normal_boundChecked builds.lowers_normal.lands.normal.1 actor
    access.roleChecks
  have fits := builds.fits_boundChecked (declared.laidOut made member within) actor
  generalize access.filter.boundChecked actor access.roleChecks = rows at *
  have apart : rows.Everywhere (RowFilter.RoleDefined reader) :=
    normal.imp fun _ here => RowFilter.roleDefined_of_isSettled here.2 reader
  have bindable := known.imp fun _ => RowFilter.Known.bindable
  have bind := (bindable.yields_bind loaded reader).result_eq apart
  have settled := RowFilter.everywhere_normal_bound (normal.imp fun _ => And.left) reader
  have rendered := Sql.refuses_render (fits.bound reader) settled false
  refine ⟨rows, _, forActor, bind, rendered, ?_⟩
  have written : Sql.Refuses (fun error => error = .badOperand ∨ error = .noLiteral) (do
      let clause ← Sql.render models model false (rows.bound reader)
      clause.text) := by
    refine Sql.Refuses.bind (fun error failed => .inl (rendered error failed)) fun clause _ => ?_
    exact fun error failed => .inr (clause.refuses_text error failed)
  have converted : ((rows.bind mode reader).mapError Sql.Error.evaluation).result =
      .ok (rows.bound reader) := by
    rw [Traced.mapError, bind]
    rfl
  intro error failed
  rw [Sql.whereText, Traced.result_bind_of_ok converted] at failed
  exact written error failed

/-- Posts with an owner and with tags, which a table between them holds. -/
def Models.taggedPosts : Models where
  tables :=
    [{ name := "post_tags",
       columns :=
        [{ property := "post_id", name := "post_id", primaryKey := true,
           foreignKey := some ⟨"posts", "id"⟩ },
         { property := "tag_id", name := "tag_id", primaryKey := true,
           foreignKey := some ⟨"tags", "id"⟩ }] }]
  models :=
    [{ name := "Post", table := "posts",
       columns :=
        [{ property := "id", name := "id", primaryKey := true },
         { property := "owner_id", name := "owner_id", foreignKey := some ⟨"users", "id"⟩ }],
       relationships :=
        [{ name := "owner", target := "User" },
         { name := "tags", target := "Tag", secondary := some "post_tags" }] },
     { name := "Tag", table := "tags",
       columns := [{ property := "id", name := "id", primaryKey := true }] },
     { name := "User", table := "users",
       columns :=
        [{ property := "id", name := "id", primaryKey := true },
         { property := "name", name := "name", type := .text }] }]

theorem Models.declarative_taggedPosts : taggedPosts.Declarative where
  distinct := by decide
  columns := by decide
  relationships := by decide
  closed := by decide
  keyed := by decide

def Graph.taggedPosts : Graph where
  entities := Models.taggedPosts.models.map Models.taggedPosts.entity
  closed := by decide +kernel

theorem Models.graph_taggedPosts : taggedPosts.graph = .ok .taggedPosts := by
  have sorted : (taggedPosts.models.mergeSort fun a b => decide (a.name ≤ b.name)) =
      taggedPosts.models := by
    apply List.mergeSort_of_pairwise
    decide
  rw [graph, sorted]
  with_unfolding_all rfl

/-- The policy that a post has one of two tags, or an owner named like the role of the reader. -/
def Expr.taggedOrOwn : Expr :=
  .any
    [.condition (.member Bool.false) (.column "tag_id" none)
      (.array [.literal ⟨.integer, .int 1⟩, .literal ⟨.integer, .int 2⟩]),
     .condition (.compare .eq) (.column "name" (some "owner")) (.call "current_role" [])]

theorem refuses_of_rowAccess_taggedPosts :
    Models.taggedPosts.Declarative ∧ Models.taggedPosts.graph = .ok .taggedPosts ∧
      Expr.parse "tag_id IN (1, 2) OR owner.name = current_role()" "Post" = .ok .taggedOrOwn ∧
      ∃ model ∈ Models.taggedPosts.models, ∃ scope access, model.name = "Post" ∧
        Scope.make Scope.blog.mapping .taggedPosts model.name .select {} = .ok scope ∧
        (scope.rowAccess .taggedOrOwn).result = .ok access ∧
        ∃ rows bound,
          (access.forActor .deny (.mapping [("role", .text "ann")])).result = .ok rows ∧
          (rows.bind .deny .null).result = .ok bound ∧
          Sql.Refuses (· = .badOperand) (Sql.render .taggedPosts model false bound) ∧
          (Sql.whereText .taggedPosts model .deny .null rows).FailsAs fun error =>
            error = .badOperand ∨ error = .noLiteral := by
  have parsed : Expr.parse "tag_id IN (1, 2) OR owner.name = current_role()" "Post" =
      .ok .taggedOrOwn := by
    with_unfolding_all rfl
  obtain ⟨model, member, scope, access, name, within, built⟩ :
      ∃ model ∈ Models.taggedPosts.models, ∃ scope access, model.name = "Post" ∧
        Scope.make Scope.blog.mapping .taggedPosts model.name .select {} = .ok scope ∧
        (scope.rowAccess .taggedOrOwn).result = .ok access :=
    ⟨_, .head _, _, _, rfl, by with_unfolding_all rfl, by with_unfolding_all rfl⟩
  refine ⟨Models.declarative_taggedPosts, Models.graph_taggedPosts, parsed, model, member, scope,
    access, name, within, built, ?_⟩
  obtain ⟨rows, bound, forActor, rest⟩ := refuses_of_rowAccess Models.declarative_taggedPosts
    Models.graph_taggedPosts member within (name ▸ parsed) built
    (by decide : UnloadedMode.deny ≠ .fail) (.mapping [("role", .text "ann")]) .null
  exact ⟨rows, bound, forActor.result_eq rfl, rest⟩

end RowGuard
