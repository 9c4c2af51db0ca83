import RowGuard.Proofs.RowFilter.Stability

/-! Where the columns of a filter stand. A filter fits a place of a layout if it
tests columns of that place only, the conditions on related rows being read at
the places where their relations lead. Lowering and binding keep to the layout. -/

set_option autoImplicit false

namespace RowGuard

namespace RowFilter

section Fits

variable {α : Type} (layout : Layout α)

/-- A filter of rows whose columns are read at a place. -/
inductive Fits : α → RowFilter → Prop where
  | pass {place : α} : Fits place .pass
  | block {place : α} : Fits place .block
  | all {place : α} {operands : List RowFilter} :
      (∀ f ∈ operands, Fits place f) → Fits place (.all operands)
  | any {place : α} {operands : List RowFilter} :
      (∀ f ∈ operands, Fits place f) → Fits place (.any operands)
  | not {place : α} {operand : RowFilter} : Fits place operand → Fits place (.not operand)
  | equals {place : α} {field : String} {value : Operand} :
      layout.column place field → Fits place (.equals field value)
  | compare {place : α} {field : String} {comparator : Comparator} {value : Operand} :
      layout.column place field → Fits place (.compare field comparator value)
  | member {place : α} {field : String} {values : Operand} :
      layout.column place field → Fits place (.member field values)
  | isNull {place : α} {field : String} : layout.column place field → Fits place (.isNull field)
  | like {place : α} {field : String} {pattern : Operand} {ignoreCase : Bool} :
      layout.column place field → Fits place (.like field pattern ignoreCase)
  | someRelated {place next : α} {relation : String} {condition : RowFilter}
      {joinFields : List String} :
      layout.step place relation next → Fits next condition →
      Fits place (.someRelated relation condition joinFields)
  | related {place next : α} {relation : String} {condition : RowFilter} :
      layout.step place relation next → Fits next condition →
      Fits place (.related relation condition)
  | given {place : α} {role : Predicate} {passed failed : RowFilter} :
      Fits place passed → Fits place failed → Fits place (.given role passed failed)
  | unresolved {place : α} {construct : Unresolved} : Fits place (.unresolved construct)

variable {layout} {place : α} {f : RowFilter} {items : List RowFilter}

theorem fits_all_iff :
    (RowFilter.all items).Fits layout place ↔ ∀ f ∈ items, f.Fits layout place := by
  constructor
  · intro fits
    cases fits with
    | all each => exact each
  · exact .all

theorem fits_any_iff :
    (RowFilter.any items).Fits layout place ↔ ∀ f ∈ items, f.Fits layout place := by
  constructor
  · intro fits
    cases fits with
    | any each => exact each
  · exact .any

theorem fits_allOf (each : ∀ f ∈ items, f.Fits layout place) : (allOf items).Fits layout place :=
  allOf_induction .pass .block (fun _ => fits_all_iff) each

theorem fits_anyOf (each : ∀ f ∈ items, f.Fits layout place) : (anyOf items).Fits layout place :=
  anyOf_induction .pass .block (fun _ => fits_any_iff) each

theorem fits_negate (fits : f.Fits layout place) : f.negate.Fits layout place := by
  have negated := Fits.not fits
  cases fits with
  | pass => exact .block
  | block => exact .pass
  | unresolved => exact .unresolved
  | not operand => exact operand
  | all _ | any _ | equals _ | compare _ | member _ | isNull _ | like _ | someRelated _ _
  | related _ _ | given _ _ => exact negated

theorem fits_onField {comparator : Comparator} {value : Operand} {field : String}
    (column : layout.column place field) : (onField comparator value field).Fits layout place := by
  cases comparator with
  | eq => exact .equals column
  | ne | lt | le | gt | ge | unknown _ => exact .compare column
  | like ignoreCase negated =>
      cases negated with
      | false => exact .like column
      | true => exact .not (.like column)

theorem stable_fits (layout : Layout α) : Stable layout fun place f => f.Fits layout place where
  pass := .pass
  block := .block
  unresolved := .unresolved
  allOf := fits_allOf
  anyOf := fits_anyOf
  negate := fits_negate
  given _ := .given
  onField column _ _ := fits_onField column
  member column _ := .member column
  isNull := .isNull
  related := .related
  someRelated := .someRelated
  rowwise fits := by cases fits

/-! ## Binding -/

theorem Fits.bound (fits : f.Fits layout place) (actor : Value) :
    (f.bound actor).Fits layout place := by
  induction fits with
  | pass => exact .pass
  | block => exact .block
  | unresolved => exact .unresolved
  | all _ ih =>
      rw [RowFilter.bound, boundAll_eq_map]
      exact fits_allOf (List.forall_mem_map.mpr ih)
  | any _ ih =>
      rw [RowFilter.bound, boundAll_eq_map]
      exact fits_anyOf (List.forall_mem_map.mpr ih)
  | not _ ih => exact fits_negate ih
  | equals column => exact .equals column
  | compare column => exact .compare column
  | member column => exact .member column
  | isNull column => exact .isNull column
  | like column => exact .like column
  | someRelated leads _ ih => exact .someRelated leads ih
  | related leads _ ih => exact .related leads ih
  | given _ _ passedIH failedIH =>
      rw [RowFilter.bound]
      split
      · exact passedIH
      · exact failedIH

/-- The filter for an actor keeps to the layout; a role condition leaves no columns. -/
theorem Lands.fits_boundChecked {p : Predicate} (lands : Lands (Fits layout place) p f)
    (actor : Value) (checks : List Predicate) :
    (f.boundChecked actor checks).Fits layout place := by
  rw [boundChecked]
  split
  · cases lands with
    | role _ _ =>
        rw [RowFilter.bound]
        split
        · exact .pass
        · exact .block
    | rows fits => exact fits.bound actor
  · exact .block

end Fits

end RowFilter

end RowGuard
