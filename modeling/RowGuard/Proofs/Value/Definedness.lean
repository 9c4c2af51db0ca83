import RowGuard.Comparison
import RowGuard.Value.Attribute

/-! Values without undefined numbers. A value avoids the undefined numbers of
some sort if it holds none of them, however deep inside. Equality of two values
is decided if both avoid the signaling ones, and their order if both avoid all.
What is read of a value, and its items, avoid what the value avoids. -/

set_option autoImplicit false

namespace RowGuard

namespace Value

variable {refused : Undefined → Bool}

/-! ## Undefined numbers inside values -/

mutual

/-- Whether a value holds no undefined number that is refused, at any depth. -/
def avoids (refused : Undefined → Bool) : Value → Bool
  | .undefined number => !refused number
  | .list items => itemsAvoid refused items
  | .tuple items => itemsAvoid refused items
  | .mapping entries => entriesAvoid refused entries
  | .object _ _ attributes _ => entriesAvoid refused attributes
  | .builtin _ _ owner => avoids refused owner
  | _ => true
termination_by structural value => value

def itemsAvoid (refused : Undefined → Bool) : List Value → Bool
  | [] => true
  | item :: items => avoids refused item && itemsAvoid refused items
termination_by structural items => items

def entriesAvoid (refused : Undefined → Bool) : List (String × Value) → Bool
  | [] => true
  | (_, value) :: entries => avoids refused value && entriesAvoid refused entries
termination_by structural entries => entries

end

/-- Whether a value holds no undefined number. -/
def isDefined (value : Value) : Bool :=
  value.avoids fun _ => true

/-- Whether a value holds no signaling number. -/
def isQuiet (value : Value) : Bool :=
  value.avoids Undefined.isSignaling

theorem itemsAvoid_iff {items : List Value} :
    itemsAvoid refused items ↔ ∀ item ∈ items, item.avoids refused := by
  induction items with
  | nil => simp [itemsAvoid]
  | cons item items ih => simp [itemsAvoid, ih]

theorem entriesAvoid_iff {entries : List (String × Value)} :
    entriesAvoid refused entries ↔ ∀ entry ∈ entries, entry.2.avoids refused := by
  induction entries with
  | nil => simp [entriesAvoid]
  | cons entry entries ih => simp [entriesAvoid, ih]

mutual

theorem avoids_of_isDefined (value : Value) (defined : value.isDefined) :
    value.avoids refused := by
  cases value with
  | undefined _ => cases defined
  | list items => exact itemsAvoid_of_isDefined items (itemsAvoid_iff.mp defined)
  | tuple items => exact itemsAvoid_of_isDefined items (itemsAvoid_iff.mp defined)
  | mapping entries => exact entriesAvoid_of_isDefined entries (entriesAvoid_iff.mp defined)
  | object _ _ attributes _ =>
      exact entriesAvoid_of_isDefined attributes (entriesAvoid_iff.mp defined)
  | builtin _ _ owner => exact avoids_of_isDefined owner defined
  | null | bool _ | int _ | decimal _ | infinite _ | float _ | text _ => rfl
termination_by structural value

theorem itemsAvoid_of_isDefined (items : List Value) (defined : ∀ item ∈ items, item.isDefined) :
    itemsAvoid refused items := by
  cases items with
  | nil => rfl
  | cons item items =>
      rw [List.forall_mem_cons] at defined
      exact Bool.and_eq_true_iff.mpr
        ⟨avoids_of_isDefined item defined.1, itemsAvoid_of_isDefined items defined.2⟩
termination_by structural items

theorem entriesAvoid_of_isDefined (entries : List (String × Value))
    (defined : ∀ entry ∈ entries, entry.2.isDefined) : entriesAvoid refused entries := by
  cases entries with
  | nil => rfl
  | cons entry entries =>
      obtain ⟨name, value⟩ := entry
      rw [List.forall_mem_cons] at defined
      exact Bool.and_eq_true_iff.mpr
        ⟨avoids_of_isDefined value defined.1, entriesAvoid_of_isDefined entries defined.2⟩
termination_by structural entries

end

/-! ## Parts of values -/

theorem avoids_lookup {entries : List (String × Value)} (avoiding : entriesAvoid refused entries)
    (name : String) : (lookup name entries).avoids refused := by
  rw [lookup]
  cases found : entries.find? fun entry => entry.1 == name with
  | none => rfl
  | some entry => exact entriesAvoid_iff.mp avoiding entry (List.mem_of_find?_eq_some found)

theorem avoids_integerPart {n : Int} {name : String} {part : Value}
    (found : integerPart? n name = some part) : part.avoids refused := by
  unfold integerPart? at found
  split at found <;> cases found <;> rfl

theorem avoids_complexPart {real imaginary part : Value} {name : String}
    (first : real.avoids refused) (second : imaginary.avoids refused)
    (found : complexPart? real imaginary name = some part) : part.avoids refused := by
  unfold complexPart? at found
  split at found
  · cases found
    exact first
  · cases found
    exact second
  · cases found

theorem avoids_part {value part : Value} {name : String} (avoiding : value.avoids refused)
    (found : value.part? name = some part) : part.avoids refused := by
  cases value with
  | bool _ | int _ => exact avoids_integerPart found
  | decimal _ | infinite _ | float _ => exact avoids_complexPart avoiding rfl found
  | undefined number =>
      refine avoids_complexPart avoiding ?_ found
      cases number.isDecimal <;> rfl
  | list _ =>
      simp only [part?] at found
      split at found <;> cases found
      rfl
  | builtin _ _ owner =>
      simp only [part?] at found
      split at found <;> cases found
      · rfl
      · rfl
      · exact avoiding
  | null | text _ | tuple _ | mapping _ | object _ _ _ _ => cases found

theorem avoids_attributeOf {value : Value} (avoiding : value.avoids refused) (name : String) :
    (value.attributeOf name).avoids refused := by
  rw [attributeOf]
  cases found : value.part? name with
  | some part => exact avoids_part avoiding found
  | none =>
      simp only []
      split
      · simp only [avoids]
        split
        · rfl
        · exact avoiding
      · rfl

theorem avoids_items {value : Value} (avoiding : value.avoids refused) {items : List Value}
    (found : value.items? = some items) : ∀ item ∈ items, item.avoids refused := by
  cases value with
  | null => cases found
  | list _ | tuple _ =>
      cases found
      exact itemsAvoid_iff.mp avoiding
  | mapping _ =>
      cases found
      exact List.forall_mem_map.mpr fun _ _ => rfl
  | bool _ | int _ | decimal _ | infinite _ | float _ | undefined _ | text _ | object _ _ _ _
  | builtin _ _ _ =>
      cases found
      exact List.forall_mem_singleton.mpr avoiding

/-! ## Decided comparisons -/

theorem isSignaling_of_isQuiet {value : Value} (quiet : value.isQuiet) :
    value.isSignaling = false := by
  cases value with
  | undefined number => exact Bool.not_eq_true' _ |>.mp quiet
  | _ => rfl

theorem equalLeaf?_isSome {a b : Value} (left : a.isQuiet) (right : b.isQuiet) :
    (a.equalLeaf? b).isSome := by
  unfold equalLeaf?
  split
  · simp [isSignaling_of_isQuiet left, isSignaling_of_isQuiet right]
  · split <;> rfl
  · rfl

mutual

/-- The equality of values without signaling numbers is decided. -/
theorem equal?_isSome (a b : Value) (left : a.isQuiet) (right : b.isQuiet) :
    (a.equal? b).isSome := by
  cases a with
  | list as =>
      cases b with
      | list bs =>
          simp only [equal?]
          split
          · exact sameItems?_isSome as bs (itemsAvoid_iff.mp left) (itemsAvoid_iff.mp right)
          · rfl
      | _ => simp only [equal?]; exact equalLeaf?_isSome left right
  | tuple as =>
      cases b with
      | tuple bs => exact sameItems?_isSome as bs (itemsAvoid_iff.mp left) (itemsAvoid_iff.mp right)
      | _ => simp only [equal?]; exact equalLeaf?_isSome left right
  | mapping as =>
      cases b with
      | mapping bs =>
          simp only [equal?]
          split
          · exact sameEntries?_isSome as bs (entriesAvoid_iff.mp left) (entriesAvoid_iff.mp right)
          · rfl
      | _ => simp only [equal?]; exact equalLeaf?_isSome left right
  | builtin _ _ _ =>
      cases b with
      | builtin _ _ _ => rfl
      | _ => simp only [equal?]; exact equalLeaf?_isSome left right
  | _ => cases b <;> (simp only [equal?]; exact equalLeaf?_isSome left right)
termination_by structural a

theorem sameItems?_isSome (as bs : List Value) (left : ∀ a ∈ as, a.isQuiet)
    (right : ∀ b ∈ bs, b.isQuiet) : (sameItems? as bs).isSome := by
  cases as with
  | nil => cases bs <;> rfl
  | cons a as =>
      cases bs with
      | nil => rfl
      | cons b bs =>
          rw [List.forall_mem_cons] at left right
          have rest := sameItems?_isSome as bs left.2 right.2
          have first := equal?_isSome a b left.1 right.1
          simp only [sameItems?]
          split
          · exact rest
          · split
            · exact rest
            · exact first
termination_by structural as

theorem sameEntries?_isSome (as bs : List (String × Value)) (left : ∀ a ∈ as, a.2.isQuiet)
    (right : ∀ b ∈ bs, b.2.isQuiet) : (sameEntries? as bs).isSome := by
  cases as with
  | nil => cases bs <;> rfl
  | cons a as =>
      cases bs with
      | nil => rfl
      | cons b bs =>
          obtain ⟨k, a⟩ := a
          obtain ⟨l, b⟩ := b
          rw [List.forall_mem_cons] at left right
          have rest := sameEntries?_isSome as bs left.2 right.2
          have first := equal?_isSome a b left.1 right.1
          simp only [sameEntries?]
          split
          · rfl
          · split
            · exact rest
            · split
              · exact rest
              · exact first
termination_by structural as

end

theorem same?_isSome {a b : Value} (left : a.isQuiet) (right : b.isQuiet) :
    (a.same? b).isSome := by
  rw [same?]
  split
  · rfl
  · exact equal?_isSome a b left right

theorem same?_null {value : Value} (present : value.isNull = false) :
    value.same? .null = some false := by
  cases value with
  | null => cases present
  | float f => cases f <;> rfl
  | bool _ | int _ | decimal _ | infinite _ | undefined _ | text _ | list _ | tuple _ | mapping _
  | object _ _ _ _ | builtin _ _ _ => rfl

/-- What holds no undefined number is found only where it is equal. -/
theorem same?_of_isDefined {item : Value} (value : Value) (defined : item.isDefined) :
    value.same? item = value.equal? item := by
  have differs : value.isIdentical item = false := by
    cases value with
    | undefined _ =>
        cases item with
        | undefined _ => cases defined
        | _ => rfl
    | _ => rfl
  rw [same?, differs]
  rfl

theorem foundIn?_isSome {value : Value} (quiet : value.isQuiet) {items : List Value}
    (each : ∀ item ∈ items, item.isQuiet) : (value.foundIn? items).isSome := by
  induction items with
  | nil => rfl
  | cons item items ih =>
      rw [List.forall_mem_cons] at each
      rw [foundIn?]
      split
      · exact ih each.2
      · exact same?_isSome quiet each.1

theorem isQuiet_of_isDefined {value : Value} (defined : value.isDefined) : value.isQuiet :=
  avoids_of_isDefined value defined

theorem Number.order?_isSome {m n : Number} (left : m ≠ .undefined) (right : n ≠ .undefined) :
    (m.order? n).isSome := by
  cases m with
  | undefined => exact absurd rfl left
  | lowest | highest | finite _ =>
      cases n with
      | undefined => exact absurd rfl right
      | lowest | highest | finite _ => rfl

theorem number?_ne_undefined {value : Value} (defined : value.isDefined) :
    value.number? ≠ some .undefined := by
  cases value with
  | undefined _ => cases defined
  | infinite negative => cases negative <;> nofun
  | float f =>
      cases f with
      | finite _ _ _ => nofun
      | infinite negative => cases negative <;> nofun
  | _ => nofun

theorem orderLeaf_ne_invalid {a b : Value} (left : a.isDefined) (right : b.isDefined) :
    a.orderLeaf b ≠ .invalid := by
  unfold orderLeaf
  split
  · next m n first second =>
      have known : (m.order? n).isSome := Number.order?_isSome
        (fun absent => number?_ne_undefined left (absent ▸ first))
        fun absent => number?_ne_undefined right (absent ▸ second)
      obtain ⟨order, ordered⟩ := Option.isSome_iff_exists.mp known
      simp [ordered]
  · split <;> nofun
  · nofun

mutual

/-- To order values without undefined numbers is no invalid operation. -/
theorem order_ne_invalid (a b : Value) (left : a.isDefined) (right : b.isDefined) :
    a.order b ≠ .invalid := by
  cases a with
  | list as =>
      cases b with
      | list bs =>
          exact orderItems_ne_invalid as bs (itemsAvoid_iff.mp left) (itemsAvoid_iff.mp right)
      | _ => simp only [order]; exact orderLeaf_ne_invalid left right
  | tuple as =>
      cases b with
      | tuple bs =>
          exact orderItems_ne_invalid as bs (itemsAvoid_iff.mp left) (itemsAvoid_iff.mp right)
      | _ => simp only [order]; exact orderLeaf_ne_invalid left right
  | _ => cases b <;> (simp only [order]; exact orderLeaf_ne_invalid left right)
termination_by structural a

theorem orderItems_ne_invalid (as bs : List Value) (left : ∀ a ∈ as, a.isDefined)
    (right : ∀ b ∈ bs, b.isDefined) : orderItems as bs ≠ .invalid := by
  cases as with
  | nil => cases bs <;> nofun
  | cons a as =>
      cases bs with
      | nil => nofun
      | cons b bs =>
          rw [List.forall_mem_cons] at left right
          have decided : (a.same? b).isSome :=
            same?_isSome (isQuiet_of_isDefined left.1) (isQuiet_of_isDefined right.1)
          simp only [orderItems]
          split
          · exact orderItems_ne_invalid as bs left.2 right.2
          · exact order_ne_invalid a b left.1 right.1
          · next undecided =>
              rw [undecided] at decided
              cases decided
termination_by structural as

end

theorem ordered?_isSome {a b : Value} (left : a.isDefined) (right : b.isDefined)
    (wanted : Ordering → Bool) : (a.ordered? wanted b).isSome := by
  have valid := order_ne_invalid a b left right
  rw [ordered?]
  split
  · rfl
  · rfl
  · rfl
  · next invalid => exact absurd invalid valid

end Value

end RowGuard
