/-!
# Entries under names

A table keeps its entries in the order in which their names were first put. Putting a name again
changes its entry and leaves its place.
-/

set_option autoImplicit false

namespace RowGuard

/-- Entries under names, in the order of the first use of a name. -/
structure Named (α : Type) where
  entries : List (String × α) := []
deriving Repr, Inhabited

namespace Named

variable {α β : Type}

def putIn (name : String) (value : α) : List (String × α) → List (String × α)
  | [] => [(name, value)]
  | entry :: rest =>
    if entry.1 = name then (name, value) :: rest else entry :: putIn name value rest

def put (table : Named α) (name : String) (value : α) : Named α :=
  ⟨putIn name value table.entries⟩

def putAll (table : Named α) (entries : List (String × α)) : Named α :=
  entries.foldl (fun table entry => table.put entry.1 entry.2) table

/-- The table of some entries; the last one of a name counts. -/
def ofList (entries : List (String × α)) : Named α :=
  putAll {} entries

def getIn (name : String) : List (String × α) → Option α
  | [] => none
  | entry :: rest => if entry.1 = name then some entry.2 else getIn name rest

def get? (table : Named α) (name : String) : Option α :=
  getIn name table.entries

def names (table : Named α) : List String :=
  table.entries.map (·.1)

def values (table : Named α) : List α :=
  table.entries.map (·.2)

def size (table : Named α) : Nat :=
  table.entries.length

def map (f : α → β) (table : Named α) : Named β :=
  ⟨table.entries.map fun entry => (entry.1, f entry.2)⟩

/-! ## Reading what was put -/

@[simp]
theorem getIn_putIn (name other : String) (value : α) (entries : List (String × α)) :
    getIn other (putIn name value entries) =
      if name = other then some value else getIn other entries := by
  induction entries with
  | nil => rfl
  | cons entry rest ih =>
    by_cases here : entry.1 = name
    · simp only [putIn, here, getIn, if_true]
      by_cases same : name = other <;> simp [same]
    · by_cases same : name = other
      · subst same
        simp [putIn, here, getIn, ih]
      · simp [putIn, here, getIn, ih, same]

/-- The entry put last under a name is the one that is read. -/
@[simp]
theorem get?_put (table : Named α) (name other : String) (value : α) :
    (table.put name value).get? other = if name = other then some value else table.get? other :=
  getIn_putIn name other value table.entries

end Named

end RowGuard
