import RowGuard.Proofs.Schema.Location

/-! Which columns the members of a junction's key denote. A member that is no
column of the related rows stands for the key of their entity, whichever side
of the junction it belongs to, so two members are read as one column if and
only if each of them stands for the key. -/

set_option autoImplicit false

namespace RowGuard

/-- The policy that a field has a value. -/
def Expr.fieldIs (field : String) (item : Literal) : Expr :=
  .condition (.compare .eq) (.column field none) (.literal item)

/-- A member of the key that a relation declares, which no column of the protected entity and no
earlier relation takes. -/
structure Scope.KeyMember (scope : Scope) (relation : Relation) (target : Entity)
    (member : String) : Prop where
  isMany : relation.cardinality = .many
  leads : scope.graph.target? relation = some target
  declared : member ∈ relation.joinFields
  missing : scope.entity.hasScalar member = false
  first : ∃ before after, scope.entity.relations = before ++ relation :: after ∧
    ∀ earlier ∈ before, ¬earlier.Offers scope.graph member

/-- The check that some row behind a relation has a value in a column. -/
def Scope.someRelated (scope : Scope) (relation : Relation) (target : Entity) (column : String)
    (item : Literal) : RecordCheck where
  condition := .anyRelated relation.name (.compare .eq (.record [column]) (.value item.value))
    (Location.ownKeyFirst relation.joinFields scope.entity target)

/-- Whether a member of a junction's key is read as the key of the related rows: it has the name of
the key, or it is no column and the key has a name. -/
def Entity.ReadsAsKey (target : Entity) (key member : String) : Prop :=
  member = key ∨ target.hasScalar member = false ∧ key ≠ ""

/-! ## The column of a member -/

section Member

variable {target : Entity} {key member : String}

/-- The column of the related rows that a member of a junction's key is read as. -/
def Entity.columnOf (target : Entity) (member : String) : String :=
  if Location.memberField target member == "" then member else Location.memberField target member

theorem Entity.columnOf_of_readsAsKey (single : target.primaryKey = [key])
    (reads : target.ReadsAsKey key member) : target.columnOf member = key := by
  rcases reads with rfl | ⟨missing, named⟩
  · have same : Location.memberField target member = member := by
      cases scalar : target.hasScalar member with
      | true => exact Location.memberField_of_hasScalar scalar
      | false => exact Location.memberField_of_missing scalar single
    simp [columnOf, same]
  · have same := Location.memberField_of_missing missing single
    simp [columnOf, same, named]

theorem Entity.columnOf_of_not_readsAsKey (single : target.primaryKey = [key])
    (reads : ¬target.ReadsAsKey key member) : target.columnOf member = member := by
  cases scalar : target.hasScalar member with
  | true =>
      have same := Location.memberField_of_hasScalar scalar
      simp [columnOf, same]
  | false =>
      have unnamed : key = "" := by
        by_contra named
        exact reads (.inr ⟨scalar, named⟩)
      have same := Location.memberField_of_missing scalar single
      simp [columnOf, same, unnamed]

theorem Entity.columnOf_eq_key_iff (single : target.primaryKey = [key]) :
    target.columnOf member = key ↔ target.ReadsAsKey key member := by
  constructor
  · intro same
    by_contra reads
    rw [columnOf_of_not_readsAsKey single reads] at same
    exact reads (.inl same)
  · exact columnOf_of_readsAsKey single

theorem Entity.columnOf_eq_columnOf_iff (single : target.primaryKey = [key]) {other : String}
    (distinct : member ≠ other) :
    target.columnOf member = target.columnOf other ↔
      target.ReadsAsKey key member ∧ target.ReadsAsKey key other := by
  constructor
  · intro same
    by_cases reads : target.ReadsAsKey key member
    · refine ⟨reads, ?_⟩
      rw [columnOf_of_readsAsKey single reads] at same
      exact (columnOf_eq_key_iff single).mp same.symm
    · have own := columnOf_of_not_readsAsKey single reads
      -- The other member then has a column of its own too, or the first one is the key by name.
      by_cases others : target.ReadsAsKey key other
      · rw [columnOf_of_readsAsKey single others] at same
        exact absurd ((columnOf_eq_key_iff single).mp same) reads
      · rw [own, columnOf_of_not_readsAsKey single others] at same
        exact absurd same distinct
  · rintro ⟨reads, others⟩
    rw [columnOf_of_readsAsKey single reads, columnOf_of_readsAsKey single others]

end Member

/-! ## Policies on members -/

section Policies

variable {scope : Scope} {relation : Relation} {target : Entity} {member : String}

theorem Scope.KeyMember.ofField_eq (found : scope.KeyMember relation target member) :
    Location.ofField scope.graph scope.entity member = .junction
      ⟨relation.name, Location.ownKeyFirst relation.joinFields scope.entity target, member,
        target.name, Location.memberField target member⟩ := by
  obtain ⟨before, after, order, earlier⟩ := found.first
  have declares : relation.joinFields ≠ [] := List.ne_nil_of_mem found.declared
  apply Eq.symm
  apply Location.located_iff.mp
  exact .junction found.missing order earlier found.isMany found.leads (.declared declares)
    found.declared

theorem Scope.locate_of_junction {place : JunctionMember}
    (found : Location.ofField scope.graph scope.entity member = .junction place) :
    scope.locate false member none = pure (.field (.junction place)) := by
  unfold Scope.locate
  simp only [Location.ofName, found]
  rfl

/-- A policy on a member of a junction's key is a check on the related rows. -/
theorem Scope.KeyMember.recordCheck_eq (found : scope.KeyMember relation target member)
    (item : Literal) :
    (scope.recordCheck (.fieldIs member item)).result =
      .ok (scope.someRelated relation target (target.columnOf member) item) := by
  have left : Predicate.side? scope false (.column member none) =
      pure (some ⟨.record [target.columnOf member], some relation.name,
        Location.ownKeyFirst relation.joinFields scope.entity target⟩) := by
    rw [Predicate.side?, Scope.locate_of_junction found.ofField_eq]
    rfl
  have compiled : Predicate.compile scope (.fieldIs member item) =
      pure (scope.someRelated relation target (target.columnOf member) item).condition := by
    rw [Expr.fieldIs, Predicate.compile, Predicate.ofCondition, Predicate.ofComparison, left]
    rfl
  rw [Scope.recordCheck, compiled]
  rfl

end Policies

/-- Policies on two members of one junction's key compile, and they check the same column of the
related rows if and only if each member is read as the key of their entity. -/
theorem members_share_column_iff {scope : Scope} {relation : Relation} {target : Entity}
    {key member other : String} (single : target.primaryKey = [key])
    (found : scope.KeyMember relation target member) (also : scope.KeyMember relation target other)
    (distinct : member ≠ other) (item : Literal) :
    ∃ column otherColumn,
      (scope.recordCheck (.fieldIs member item)).result =
        .ok (scope.someRelated relation target column item) ∧
      (scope.recordCheck (.fieldIs other item)).result =
        .ok (scope.someRelated relation target otherColumn item) ∧
      (column = key ↔ target.ReadsAsKey key member) ∧
      (column = otherColumn ↔ target.ReadsAsKey key member ∧ target.ReadsAsKey key other) :=
  ⟨target.columnOf member, target.columnOf other, found.recordCheck_eq item,
    also.recordCheck_eq item, Entity.columnOf_eq_key_iff single,
    Entity.columnOf_eq_columnOf_iff single distinct⟩

/-! ## Posts and their tags -/

def Relation.tags : Relation where
  name := "tags"
  target := "Tag"
  cardinality := .many
  joinFields := ["post_id", "tag_id"]

def Entity.tag : Entity where
  name := "Tag"
  fields := [{ name := "id" }]

def Literal.five : Literal := ⟨.integer, .int 5⟩

/-- Policies on reading posts with tags. -/
def Scope.tagged : Scope where
  mapping := ⟨{}, {}⟩
  graph := .taggedBy "id"
  entity := { name := "Post", fields := [{ name := "id" }], relations := [.tags] }
  operation := .select
  config := {}
  principal := none

theorem Scope.keyMember_tagged {member : String} (declared : member ∈ ["post_id", "tag_id"]) :
    Scope.tagged.KeyMember .tags .tag member where
  isMany := rfl
  leads := rfl
  declared := declared
  missing := by
    rcases List.mem_pair.mp declared with rfl | rfl
    · decide
    · decide
  first := ⟨[], [], rfl, by simp⟩

theorem members_share_column_iff_tagged :
    Entity.tag.ReadsAsKey "id" "post_id" ∧ Entity.tag.ReadsAsKey "id" "tag_id" ∧
      ∃ column, (Scope.tagged.recordCheck (.fieldIs "post_id" .five)).result =
          .ok (Scope.tagged.someRelated .tags .tag column .five) ∧
        (Scope.tagged.recordCheck (.fieldIs "tag_id" .five)).result =
          .ok (Scope.tagged.someRelated .tags .tag column .five) := by
  have posts : Entity.tag.ReadsAsKey "id" "post_id" := .inr (by decide)
  have tags : Entity.tag.ReadsAsKey "id" "tag_id" := .inr (by decide)
  obtain ⟨column, otherColumn, onPosts, onTags, _, same⟩ :=
    members_share_column_iff rfl (Scope.keyMember_tagged (.head _))
      (Scope.keyMember_tagged (.tail _ (.head _))) (by decide) .five
  rw [← same.mpr ⟨posts, tags⟩] at onTags
  exact ⟨posts, tags, column, onPosts, onTags⟩

/-- The member that belongs to the posts is read from the key of the tags. -/
theorem ownMember_reads_tags :
    Location.ownKeyFirst Relation.tags.joinFields Scope.tagged.entity .tag = ["post_id", "tag_id"] ∧
      Expr.parse "post_id = 5" "Post" = .ok (.fieldIs "post_id" .five) ∧
      Expr.parse "tag_id = 5" "Post" = .ok (.fieldIs "tag_id" .five) ∧
      (Scope.tagged.recordCheck (.fieldIs "post_id" .five)).result =
        .ok (Scope.tagged.someRelated .tags .tag "id" .five) ∧
      (Scope.tagged.recordCheck (.fieldIs "tag_id" .five)).result =
        .ok (Scope.tagged.someRelated .tags .tag "id" .five) := by
  refine ⟨?_, ?_, ?_, ?_, ?_⟩ <;> with_unfolding_all rfl

end RowGuard
