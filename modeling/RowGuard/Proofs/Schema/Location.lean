import RowGuard.Proofs.Schema.Models

/-! Where an unqualified field is found. The rule is stated on the order of the
relations: a column of the entity comes first, then the first to-many relation
with the field in the key of its junction, then the first relation to an entity
with such a column. Looking for a field follows the rule, and where keys are
columns it ends at a column. -/

set_option autoImplicit false

namespace RowGuard

/-! ## The rule -/

/-- The key of the junction that a relation leads to or through: the one it declares, or else the
primary key of a junction. -/
inductive Relation.Key (relation : Relation) (target : Entity) : List String → Prop where
  | declared : relation.joinFields ≠ [] → Key relation target relation.joinFields
  | derived : relation.joinFields = [] → target.isJunction → Key relation target target.primaryKey

/-- Whether a relation is to-many and has the field in the key of its junction. -/
def Relation.Offers (graph : Graph) (field : String) (relation : Relation) : Prop :=
  relation.cardinality = .many ∧ ∃ target key, graph.target? relation = some target ∧
    relation.Key target key ∧ field ∈ key

/-- Whether a relation leads to an entity with the column. -/
def Relation.Reaches (graph : Graph) (field : String) (relation : Relation) : Prop :=
  ∃ target, graph.target? relation = some target ∧ target.hasScalar field

/-- The place of an unqualified field, seen from an entity. -/
inductive Location.Located (graph : Graph) (source : Entity) (field : String) :
    Location → Prop where
  | direct : source.hasScalar field → Located graph source field (.direct field)
  | junction {before after : List Relation} {relation : Relation} {target : Entity}
      {key : List String} :
      source.hasScalar field = false → source.relations = before ++ relation :: after →
      (∀ earlier ∈ before, ¬earlier.Offers graph field) → relation.cardinality = .many →
      graph.target? relation = some target → relation.Key target key → field ∈ key →
      Located graph source field (.junction ⟨relation.name, ownKeyFirst key source target, field,
        target.name, memberField target field⟩)
  | related {before after : List Relation} {relation : Relation} {target : Entity} :
      source.hasScalar field = false →
      (∀ relation ∈ source.relations, ¬relation.Offers graph field) →
      source.relations = before ++ relation :: after →
      (∀ earlier ∈ before, ¬earlier.Reaches graph field) → graph.target? relation = some target →
      target.hasScalar field →
      Located graph source field (.related relation.name relation.cardinality field target.name)
  | notFound :
      source.hasScalar field = false →
      (∀ relation ∈ source.relations, ¬relation.Offers graph field) →
      (∀ relation ∈ source.relations, ¬relation.Reaches graph field) →
      Located graph source field (.notFound source.name field)

/-! ## Looking along relations -/

namespace Location

variable {graph : Graph} {source target : Entity} {relation : Relation} {field : String}
  {location : Location}

theorem junctionKey?_eq_some_iff {key : List String} :
    junctionKey? relation target = some key ↔
      relation.cardinality = .many ∧ relation.Key target key := by
  unfold junctionKey?
  constructor
  · intro found
    split at found
    · cases found
    · next many =>
        have isMany : relation.cardinality = .many := by simpa using many
        split at found
        · next declared =>
            cases found
            exact ⟨isMany, .declared (by simpa using declared)⟩
        · next undeclared =>
            split at found
            · next junction =>
                cases found
                exact ⟨isMany, .derived (by simpa using undeclared) junction⟩
            · cases found
  · rintro ⟨isMany, declared | ⟨undeclared, junction⟩⟩
    · simp [isMany, declared]
    · simp [isMany, undeclared, junction]

theorem viaJunction?_eq_some_iff :
    viaJunction? source relation target field = some location ↔
      relation.cardinality = .many ∧ ∃ key, relation.Key target key ∧ field ∈ key ∧
        location = .junction ⟨relation.name, ownKeyFirst key source target, field, target.name,
          memberField target field⟩ := by
  unfold viaJunction?
  constructor
  · intro found
    obtain ⟨key, keyed, located⟩ := Option.bind_eq_some_iff.mp found
    obtain ⟨isMany, isKey⟩ := junctionKey?_eq_some_iff.mp keyed
    split at located
    · next contains =>
        cases located
        exact ⟨isMany, key, isKey, by simpa using contains, rfl⟩
    · cases located
  · rintro ⟨isMany, key, isKey, inKey, rfl⟩
    apply Option.bind_eq_some_iff.mpr
    refine ⟨key, junctionKey?_eq_some_iff.mpr ⟨isMany, isKey⟩, ?_⟩
    rw [if_pos (List.contains_iff_mem.mpr inKey)]
    rfl

theorem viaRelation?_eq_some_iff :
    viaRelation? relation target field = some location ↔
      target.hasScalar field ∧
        location = .related relation.name relation.cardinality field target.name := by
  unfold viaRelation?
  split
  · next scalar => simp [scalar, eq_comm]
  · next missing => simp [missing]

theorem bind_viaJunction?_eq_none_iff :
    ((graph.target? relation).bind fun target => viaJunction? source relation target field) = none ↔
      ¬relation.Offers graph field := by
  rw [Option.eq_none_iff_forall_ne_some, Relation.Offers]
  constructor
  · rintro none ⟨isMany, target, key, leads, isKey, inKey⟩
    have located : viaJunction? source relation target field = some _ :=
      viaJunction?_eq_some_iff.mpr ⟨isMany, key, isKey, inKey, rfl⟩
    exact none _ (Option.bind_eq_some_iff.mpr ⟨target, leads, located⟩)
  · intro unoffered location found
    obtain ⟨target, leads, located⟩ := Option.bind_eq_some_iff.mp found
    obtain ⟨isMany, key, isKey, inKey, _⟩ := viaJunction?_eq_some_iff.mp located
    exact unoffered ⟨isMany, target, key, leads, isKey, inKey⟩

theorem bind_viaRelation?_eq_none_iff :
    ((graph.target? relation).bind fun target => viaRelation? relation target field) = none ↔
      ¬relation.Reaches graph field := by
  rw [Option.eq_none_iff_forall_ne_some, Relation.Reaches]
  constructor
  · rintro none ⟨target, leads, scalar⟩
    have located : viaRelation? relation target field = some _ :=
      viaRelation?_eq_some_iff.mpr ⟨scalar, rfl⟩
    exact none _ (Option.bind_eq_some_iff.mpr ⟨target, leads, located⟩)
  · intro unreached location found
    obtain ⟨target, leads, located⟩ := Option.bind_eq_some_iff.mp found
    exact unreached ⟨target, leads, (viaRelation?_eq_some_iff.mp located).1⟩

/-- What is found along the relations of an entity is found at the first that has it. -/
theorem alongRelations_eq_some_iff {look : Relation → Entity → Option Location} :
    alongRelations graph source look = some location ↔
      ∃ before relation after target, source.relations = before ++ relation :: after ∧
        (∀ earlier ∈ before, (graph.target? earlier).bind (look earlier) = none) ∧
        graph.target? relation = some target ∧ look relation target = some location := by
  rw [alongRelations, List.findSome?_eq_some_iff]
  constructor
  · rintro ⟨before, relation, after, order, found, earlier⟩
    obtain ⟨target, leads, located⟩ := Option.bind_eq_some_iff.mp found
    exact ⟨before, relation, after, target, order, earlier, leads, located⟩
  · rintro ⟨before, relation, after, target, order, earlier, leads, located⟩
    exact ⟨before, relation, after, order, Option.bind_eq_some_iff.mpr ⟨target, leads, located⟩,
      earlier⟩

theorem alongRelations_viaJunction?_eq_none_iff :
    alongRelations graph source
        (fun relation target => viaJunction? source relation target field) = none ↔
      ∀ relation ∈ source.relations, ¬relation.Offers graph field := by
  simp only [alongRelations, List.findSome?_eq_none_iff, bind_viaJunction?_eq_none_iff]

theorem alongRelations_viaRelation?_eq_none_iff :
    alongRelations graph source
        (fun relation target => viaRelation? relation target field) = none ↔
      ∀ relation ∈ source.relations, ¬relation.Reaches graph field := by
  simp only [alongRelations, List.findSome?_eq_none_iff, bind_viaRelation?_eq_none_iff]

/-! ## Looking follows the rule -/

theorem located_ofField (graph : Graph) (source : Entity) (field : String) :
    Located graph source field (ofField graph source field) := by
  unfold ofField
  split
  · next scalar => exact .direct scalar
  · next notScalar =>
      have missing : source.hasScalar field = false := by simpa using notScalar
      rw [Option.orElse_eq_orElse, Option.orElse_eq_or]
      cases byKey : alongRelations graph source
          fun relation target => viaJunction? source relation target field with
      | some location =>
          obtain ⟨before, relation, after, target, order, earlier, leads, located⟩ :=
            alongRelations_eq_some_iff.mp byKey
          obtain ⟨isMany, key, isKey, inKey, rfl⟩ := viaJunction?_eq_some_iff.mp located
          simp only [bind_viaJunction?_eq_none_iff] at earlier
          exact .junction missing order earlier isMany leads isKey inKey
      | none =>
          have unoffered := alongRelations_viaJunction?_eq_none_iff.mp byKey
          cases byColumn : alongRelations graph source
              fun relation target => viaRelation? relation target field with
          | some location =>
              obtain ⟨before, relation, after, target, order, earlier, leads, located⟩ :=
                alongRelations_eq_some_iff.mp byColumn
              obtain ⟨scalar, rfl⟩ := viaRelation?_eq_some_iff.mp located
              simp only [bind_viaRelation?_eq_none_iff] at earlier
              exact .related missing unoffered order earlier leads scalar
          | none =>
              exact .notFound missing unoffered
                (alongRelations_viaRelation?_eq_none_iff.mp byColumn)

theorem Located.eq_ofField (located : Located graph source field location) :
    location = ofField graph source field := by
  cases located with
  | direct scalar => simp [ofField, scalar]
  | @junction before after relation target key missing order earlier isMany leads isKey inKey =>
      have found : alongRelations graph source
          (fun relation target => viaJunction? source relation target field) = some _ :=
        alongRelations_eq_some_iff.mpr ⟨before, relation, after, target, order,
          fun other among => bind_viaJunction?_eq_none_iff.mpr (earlier other among), leads,
          viaJunction?_eq_some_iff.mpr ⟨isMany, key, isKey, inKey, rfl⟩⟩
      simp [ofField, missing, found]
  | @related before after relation target missing unoffered order earlier leads scalar =>
      have found : alongRelations graph source
          (fun relation target => viaRelation? relation target field) = some _ :=
        alongRelations_eq_some_iff.mpr ⟨before, relation, after, target, order,
          fun other among => bind_viaRelation?_eq_none_iff.mpr (earlier other among), leads,
          viaRelation?_eq_some_iff.mpr ⟨scalar, rfl⟩⟩
      simp [ofField, missing, alongRelations_viaJunction?_eq_none_iff.mpr unoffered, found]
  | notFound missing unoffered unreached =>
      simp [ofField, missing, alongRelations_viaJunction?_eq_none_iff.mpr unoffered,
        alongRelations_viaRelation?_eq_none_iff.mpr unreached]

theorem located_iff :
    Located graph source field location ↔ location = ofField graph source field := by
  constructor
  · exact Located.eq_ofField
  · rintro rfl
    exact located_ofField graph source field

end Location

/-! ## Columns -/

/-- The columns of a graph, and where its relations lead. -/
def Graph.layout (graph : Graph) : Layout Entity where
  column entity field := entity.hasScalar field
  step entity name next := ∃ relation ∈ entity.relations, relation.name = name ∧
    graph.target? relation = some next ∧ next ∈ graph.entities

/-- A graph where the key of an entity is made of its columns, and where a relation that declares
the key of a junction leads to an entity with a key of one column. -/
structure Graph.Keyed (graph : Graph) : Prop where
  columns : ∀ entity ∈ graph.entities, ∀ key ∈ entity.primaryKey, entity.hasScalar key
  single : ∀ entity ∈ graph.entities, ∀ relation ∈ entity.relations, relation.joinFields ≠ [] →
    ∀ target, graph.target? relation = some target → ∃ key, target.primaryKey = [key]

namespace Location

variable {graph : Graph} {source target : Entity} {relation : Relation} {field : String}

theorem memberField_of_hasScalar (scalar : target.hasScalar field) :
    memberField target field = field := by
  rw [memberField, if_pos scalar]

theorem memberField_of_missing {key : String} (missing : target.hasScalar field = false)
    (single : target.primaryKey = [key]) : memberField target field = key := by
  simp [memberField, missing, single]

/-- The field that is read for a member of a key is a column of the related rows. -/
theorem hasScalar_relatedField (keyed : graph.Keyed) (known : source ∈ graph.entities)
    (own : relation ∈ source.relations) (leads : graph.target? relation = some target)
    (named : relation.joinFields ≠ [] → target.primaryKey ≠ [""]) {key : List String}
    (isKey : relation.Key target key) (inKey : field ∈ key) {joinFields : List String} :
    target.hasScalar (JunctionMember.relatedField ⟨relation.name, joinFields, field, target.name,
      memberField target field⟩) := by
  have among := Graph.mem_of_get? leads
  cases scalar : target.hasScalar field with
  | true => simpa [JunctionMember.relatedField, memberField_of_hasScalar scalar] using scalar
  | false =>
      cases isKey with
      | derived _ _ =>
          rw [keyed.columns target among field inKey] at scalar
          cases scalar
      | declared declares =>
          obtain ⟨key, single⟩ := keyed.single source known relation own declares target leads
          have filled : key ≠ "" := by
            rintro rfl
            exact named declares single
          have column : target.hasScalar key := keyed.columns target among key (by simp [single])
          simpa [JunctionMember.relatedField, memberField_of_missing scalar single, filled] using
            column

theorem Located.along {location : Location} (located : Located graph source field location)
    (keyed : graph.Keyed) (known : source ∈ graph.entities)
    (named : ∀ relation ∈ source.relations, relation.joinFields ≠ [] →
      ∀ target, graph.target? relation = some target → target.primaryKey ≠ [""]) :
    location.Along graph.layout source := by
  cases located with
  | direct scalar => exact scalar
  | @junction _ _ relation target _ _ order _ _ leads isKey inKey =>
      have own : relation ∈ source.relations := by simp [order]
      refine ⟨target, ⟨relation, own, rfl, leads, Graph.mem_of_get? leads⟩, ?_⟩
      exact hasScalar_relatedField keyed known own leads
        (fun declares => named relation own declares target leads) isKey inKey
  | @related _ _ relation target _ _ order _ leads scalar =>
      have own : relation ∈ source.relations := by simp [order]
      exact ⟨target, ⟨relation, own, rfl, leads, Graph.mem_of_get? leads⟩, scalar⟩
  | notFound _ _ _ => trivial

end Location

/-- Looking for an unqualified field ends at the one place that the rule gives, which is on the
entity itself if and only if the entity has the column. Where the keys that declared junctions refer
to have a name, what is found is a column of the entity or of one that a relation of it leads to. -/
theorem locate_eq_located {graph : Graph} (keyed : graph.Keyed) {name : String} {source : Entity}
    (resolved : graph.entity name = .ok source)
    (named : ∀ relation ∈ source.relations, relation.joinFields ≠ [] →
      ∀ target, graph.target? relation = some target → target.primaryKey ≠ [""])
    (field : String) :
    ∃ location, graph.locate name field none = .ok location ∧
      (∀ other, Location.Located graph source field other ↔ other = location) ∧
      (location = .direct field ↔ source.hasScalar field) ∧
      location.Along graph.layout source := by
  have known : source ∈ graph.entities := by
    unfold Graph.entity at resolved
    split at resolved
    · next found =>
        cases resolved
        exact Graph.mem_of_get? found
    · cases resolved
  have located := Location.located_ofField graph source field
  refine ⟨Location.ofField graph source field, ?_, fun _ => Location.located_iff, ?_, ?_⟩
  · rw [Graph.locate, resolved]
    rfl
  · constructor
    · intro direct
      rw [direct] at located
      cases located with
      | direct scalar => exact scalar
    · intro scalar
      exact (Location.located_iff.mp (.direct scalar)).symm
  · exact located.along keyed known named

/-! ## A key with and without a name -/

/-- Posts with tags, by a junction that is no entity. The tags have the one column `key`. -/
def Graph.taggedBy (key : String) : Graph where
  entities := [
    { name := "Post", fields := [{ name := "id" }],
      relations := [{ name := "tags", target := "Tag", cardinality := .many,
                      joinFields := ["post_id", "tag_id"] }] },
    { name := "Tag", fields := [{ name := key }], primaryKey := [key] }]
  closed := by
    intro entity known relation own
    rcases List.mem_pair.mp known with rfl | rfl
    · rcases List.mem_singleton.mp own with rfl
      rfl
    · cases own

theorem Graph.keyed_taggedBy (key : String) : (Graph.taggedBy key).Keyed where
  columns := by
    intro entity known column inKey
    rcases List.mem_pair.mp known with rfl | rfl
    · rcases List.mem_singleton.mp inKey with rfl
      rfl
    · rcases List.mem_singleton.mp inKey with rfl
      simp [Entity.hasScalar, Entity.field?]
  single := by
    intro entity known relation own _ target leads
    rcases List.mem_pair.mp known with rfl | rfl
    · rcases List.mem_singleton.mp own with rfl
      cases leads
      exact ⟨key, rfl⟩
    · cases own

/-- The member of a key that belongs to the tags is read from the key of the tags. -/
theorem locate_eq_located_taggedBy :
    ∃ source location, (Graph.taggedBy "id").entity "Post" = .ok source ∧
      (Graph.taggedBy "id").locate "Post" "tag_id" none = .ok location ∧
      location = .junction ⟨"tags", ["post_id", "tag_id"], "tag_id", "Tag", "id"⟩ ∧
      location.Along (Graph.taggedBy "id").layout source := by
  have resolved : (Graph.taggedBy "id").entity "Post" = .ok _ := rfl
  obtain ⟨location, found, _, _, along⟩ := locate_eq_located (Graph.keyed_taggedBy "id") resolved
    (by
      intro relation own _ target leads
      rcases List.mem_singleton.mp own with rfl
      cases leads
      decide)
    "tag_id"
  refine ⟨_, location, resolved, found, ?_, along⟩
  have expected : (Graph.taggedBy "id").locate "Post" "tag_id" none =
      .ok (.junction ⟨"tags", ["post_id", "tag_id"], "tag_id", "Tag", "id"⟩) := by
    with_unfolding_all rfl
  exact Except.ok.inj (found.symm.trans expected)

/-- A key without a name is not read: the member of the junction's key is looked for on the tags,
where there is no such column. -/
theorem not_along_of_unnamed_key :
    ∃ source member, (Graph.taggedBy "").Keyed ∧ (Graph.taggedBy "").entity "Post" = .ok source ∧
      (Graph.taggedBy "").locate "Post" "tag_id" none = .ok (.junction member) ∧
      member.relatedField = "tag_id" ∧
      ¬(Location.junction member).Along (Graph.taggedBy "").layout source := by
  refine ⟨_, ⟨"tags", ["post_id", "tag_id"], "tag_id", "Tag", ""⟩, Graph.keyed_taggedBy "", rfl,
    by with_unfolding_all rfl, rfl, ?_⟩
  rintro ⟨next, ⟨relation, own, _, leads, _⟩, column⟩
  rcases List.mem_singleton.mp own with rfl
  cases leads
  have scalar : Entity.hasScalar { name := "Tag", fields := [{ name := "" }], primaryKey := [""] }
      "tag_id" := column
  revert scalar
  decide

end RowGuard
