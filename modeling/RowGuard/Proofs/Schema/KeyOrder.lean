import Mathlib.Data.List.Basic
import RowGuard.Schema.Location

/-! The order in which the key of a junction is joined. The member that belongs
to the entity comes first, found by its reference or else by its name, and the
others follow as they were declared. Where no member belongs to the entity the
key stays as it is, and so does a key that is in order already. -/

set_option autoImplicit false

namespace RowGuard

/-! ## References -/

/-- Whether a member of a junction's key refers to an entity: the junction has a field of that name,
and what the field references is the name of the entity, ignoring case. An empty reference is
none. -/
def Entity.RefersTo (junction : Entity) (member entity : String) : Prop :=
  ∃ field reference, junction.field? member = some field ∧ field.references = some reference ∧
    reference ≠ "" ∧ Text.lower reference = Text.lower entity

/-- Whether a member of a junction's key refers to an entity, as a test of the member. -/
def Entity.refersTo (junction : Entity) (entity member : String) : Bool :=
  ((junction.field? member).map (·.pointsAt entity)).getD false

theorem Entity.refersTo_iff {junction : Entity} {entity member : String} :
    junction.refersTo entity member ↔ junction.RefersTo member entity := by
  unfold RefersTo refersTo
  cases junction.field? member with
  | none => simp
  | some field => cases references : field.references <;> simp [Field.pointsAt, references]

namespace Location

variable {fields : List String} {entity junction : Entity} {own : String}

theorem find?_refersTo_eq_some_iff {name : String} :
    fields.find? (junction.refersTo name) = some own ↔
      ∃ before after, fields = before ++ own :: after ∧
        (∀ member ∈ before, ¬junction.RefersTo member name) ∧ junction.RefersTo own name := by
  simp only [List.find?_eq_some_iff_append, Entity.refersTo_iff, Bool.not_eq_true',
    Bool.eq_false_iff, ne_eq]
  constructor
  · rintro ⟨refers, before, after, order, earlier⟩
    exact ⟨before, after, order, earlier, refers⟩
  · rintro ⟨before, after, order, earlier, refers⟩
    exact ⟨refers, before, after, order, earlier⟩

theorem find?_refersTo_eq_none_iff {name : String} :
    fields.find? (junction.refersTo name) = none ↔
      ∀ member ∈ fields, ¬junction.RefersTo member name := by
  simp only [List.find?_eq_none, Entity.refersTo_iff]

/-! ## The member in front -/

/-- The member of a key that belongs to an entity: the first that refers to it, or else the one that
is named after it. -/
inductive Own (fields : List String) (entity junction : Entity) : String → Prop where
  | referring {before after : List String} {own : String} :
      fields = before ++ own :: after →
      (∀ member ∈ before, ¬junction.RefersTo member entity.name) →
      junction.RefersTo own entity.name → Own fields entity junction own
  | named :
      (∀ member ∈ fields, ¬junction.RefersTo member entity.name) →
      Entity.foreignKeyName entity.name ∈ fields →
      Own fields entity junction (Entity.foreignKeyName entity.name)

theorem Own.mem (belongs : Own fields entity junction own) : own ∈ fields := by
  cases belongs with
  | referring order _ _ => simp [order]
  | named _ member => exact member

theorem own_cases (fields : List String) (entity junction : Entity) :
    (∃ own, Own fields entity junction own) ∨
      (∀ member ∈ fields, ¬junction.RefersTo member entity.name) ∧
        Entity.foreignKeyName entity.name ∉ fields := by
  cases found : fields.find? (junction.refersTo entity.name) with
  | some own =>
      obtain ⟨before, after, order, earlier, refers⟩ := find?_refersTo_eq_some_iff.mp found
      exact .inl ⟨own, .referring order earlier refers⟩
  | none =>
      have unreferred := find?_refersTo_eq_none_iff.mp found
      by_cases named : Entity.foreignKeyName entity.name ∈ fields
      · exact .inl ⟨_, .named unreferred named⟩
      · exact .inr ⟨unreferred, named⟩

theorem ownKeyFirst_eq (fields : List String) (entity junction : Entity) :
    ownKeyFirst fields entity junction =
      match fields.find? (junction.refersTo entity.name) with
      | some own => own :: fields.filter (· != own)
      | none =>
        if fields.contains (Entity.foreignKeyName entity.name) then
          Entity.foreignKeyName entity.name ::
            fields.filter (· != Entity.foreignKeyName entity.name)
        else fields :=
  rfl

theorem ownKeyFirst_of_own (belongs : Own fields entity junction own) :
    ownKeyFirst fields entity junction = own :: fields.filter (· != own) := by
  rw [ownKeyFirst_eq]
  cases belongs with
  | referring order earlier refers =>
      rw [find?_refersTo_eq_some_iff.mpr ⟨_, _, order, earlier, refers⟩]
  | named unreferred member =>
      rw [find?_refersTo_eq_none_iff.mpr unreferred]
      exact if_pos (List.contains_iff_mem.mpr member)

theorem ownKeyFirst_of_unowned
    (unreferred : ∀ member ∈ fields, ¬junction.RefersTo member entity.name)
    (unnamed : Entity.foreignKeyName entity.name ∉ fields) :
    ownKeyFirst fields entity junction = fields := by
  rw [ownKeyFirst_eq, find?_refersTo_eq_none_iff.mpr unreferred]
  exact if_neg (mt List.contains_iff_mem.mp unnamed)

/-- The member that belongs to an entity still does so once it is in front. -/
theorem Own.front (belongs : Own fields entity junction own) :
    Own (own :: fields.filter (· != own)) entity junction own := by
  cases belongs with
  | referring _ _ refers =>
      have order : own :: fields.filter (· != own) = [] ++ own :: fields.filter (· != own) := rfl
      exact .referring order nofun refers
  | named unreferred member =>
      refine .named (fun other among => ?_) List.mem_cons_self
      cases among with
      | head => exact unreferred _ member
      | tail _ behind => exact unreferred other (List.mem_filter.mp behind).1

theorem ownKeyFirst_ownKeyFirst (fields : List String) (entity junction : Entity) :
    ownKeyFirst (ownKeyFirst fields entity junction) entity junction =
      ownKeyFirst fields entity junction := by
  rcases own_cases fields entity junction with ⟨own, belongs⟩ | ⟨unreferred, unnamed⟩
  · rw [ownKeyFirst_of_own belongs, ownKeyFirst_of_own belongs.front]
    simp
  · rw [ownKeyFirst_of_unowned unreferred unnamed, ownKeyFirst_of_unowned unreferred unnamed]

/-! ## The members behind it -/

theorem filter_ne_of_nodup {before after : List String}
    (distinct : (before ++ own :: after).Nodup) :
    (before ++ own :: after).filter (· != own) = before ++ after := by
  have absent : own ∉ before := fun among =>
    (List.nodup_append.mp distinct).2.2 own among own List.mem_cons_self rfl
  rw [← distinct.erase_eq_filter, List.erase_append_right _ absent, List.erase_cons_head]

theorem ownKeyFirst_of_own_append {before after : List String}
    (distinct : (before ++ own :: after).Nodup)
    (belongs : Own (before ++ own :: after) entity junction own) :
    ownKeyFirst (before ++ own :: after) entity junction = own :: (before ++ after) := by
  rw [ownKeyFirst_of_own belongs, filter_ne_of_nodup distinct]

/-- What putting the member of a key in front that belongs to an entity comes to. -/
structure OwnFirst (fields ordered : List String) (entity junction : Entity) : Prop where
  perm : ordered.Perm fields
  referring : ∀ before own after, fields = before ++ own :: after →
    (∀ member ∈ before, ¬junction.RefersTo member entity.name) →
    junction.RefersTo own entity.name → ordered = own :: (before ++ after)
  named : (∀ member ∈ fields, ¬junction.RefersTo member entity.name) → ∀ before after,
    fields = before ++ Entity.foreignKeyName entity.name :: after →
    ordered = Entity.foreignKeyName entity.name :: (before ++ after)
  unchanged : (∀ member ∈ fields, ¬junction.RefersTo member entity.name) →
    Entity.foreignKeyName entity.name ∉ fields → ordered = fields
  /-- The members behind the first one stand in the order of the key. -/
  others : ordered.tail.Sublist fields

theorem perm_ownKeyFirst (distinct : fields.Nodup) (entity junction : Entity) :
    (ownKeyFirst fields entity junction).Perm fields := by
  rcases own_cases fields entity junction with ⟨own, belongs⟩ | ⟨unreferred, unnamed⟩
  · obtain ⟨before, after, rfl⟩ := List.append_of_mem belongs.mem
    rw [ownKeyFirst_of_own_append distinct belongs]
    exact List.perm_middle.symm
  · rw [ownKeyFirst_of_unowned unreferred unnamed]

theorem tail_ownKeyFirst_sublist (fields : List String) (entity junction : Entity) :
    (ownKeyFirst fields entity junction).tail.Sublist fields := by
  rcases own_cases fields entity junction with ⟨own, belongs⟩ | ⟨unreferred, unnamed⟩
  · rw [ownKeyFirst_of_own belongs]
    exact List.filter_sublist
  · rw [ownKeyFirst_of_unowned unreferred unnamed]
    exact fields.tail_sublist

theorem ownFirst_ownKeyFirst (distinct : fields.Nodup) (entity junction : Entity) :
    OwnFirst fields (ownKeyFirst fields entity junction) entity junction where
  perm := perm_ownKeyFirst distinct entity junction
  referring := by
    rintro before own after rfl earlier refers
    exact ownKeyFirst_of_own_append distinct (.referring rfl earlier refers)
  named := by
    rintro unreferred before after rfl
    exact ownKeyFirst_of_own_append distinct (.named unreferred List.mem_append_cons_self)
  unchanged := ownKeyFirst_of_unowned
  others := tail_ownKeyFirst_sublist fields entity junction

end Location

/-- The key of a junction, seen from an entity, is the declared key with one member moved to the
front at most: the first that refers to the entity, or else the one that is named after it. Nothing
is lost or doubled, the other members keep their order, and doing it again changes nothing. -/
theorem ownKeyFirst_rotates {fields : List String} (distinct : fields.Nodup)
    (entity junction : Entity) :
    let ordered := Location.ownKeyFirst fields entity junction
    Location.OwnFirst fields ordered entity junction ∧
      Location.ownKeyFirst ordered entity junction = ordered := by
  constructor
  · exact Location.ownFirst_ownKeyFirst distinct entity junction
  · exact Location.ownKeyFirst_ownKeyFirst fields entity junction

/-! ## A key with references -/

/-- The lessons that teachers give in courses, by the term. -/
def Entity.lesson : Entity where
  name := "Lesson"
  fields := [{ name := "course_id", references := some "Course" }, { name := "term" },
    { name := "given_by", references := some "TEACHER" }, { name := "teacher_id" }]
  primaryKey := ["course_id", "term", "given_by", "teacher_id"]

theorem Entity.refersTo_lesson : Entity.lesson.RefersTo "given_by" "Teacher" := by
  refine Entity.refersTo_iff.mp ?_
  with_unfolding_all rfl

/-- The reference decides, and the column that is named after the entity stays where it is. -/
theorem ownKeyFirst_rotates_lesson :
    let key := ["course_id", "term", "given_by", "teacher_id"]
    key.Nodup ∧ Entity.lesson.RefersTo "given_by" "Teacher" ∧
      Location.ownKeyFirst key { name := "Teacher" } .lesson =
        ["given_by", "course_id", "term", "teacher_id"] := by
  have distinct : ["course_id", "term", "given_by", "teacher_id"].Nodup := by decide
  obtain ⟨first, _⟩ := ownKeyFirst_rotates distinct { name := "Teacher" } .lesson
  refine ⟨distinct, Entity.refersTo_lesson, ?_⟩
  refine first.referring ["course_id", "term"] "given_by" ["teacher_id"] rfl ?_
    Entity.refersTo_lesson
  intro member among
  rw [← Entity.refersTo_iff]
  rcases List.mem_pair.mp among with rfl | rfl
  · with_unfolding_all decide
  · with_unfolding_all decide

end RowGuard
