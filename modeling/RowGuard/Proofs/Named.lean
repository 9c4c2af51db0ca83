import Mathlib.Data.List.Nodup
import RowGuard.Named

/-! Tables. Names that are put stand in a table once, and the last entry that was
put under a name is the one that is found. -/

set_option autoImplicit false

namespace RowGuard.Named

variable {α β : Type} {entries : List (String × α)} {name : String} {value : α}

/-! ## Entries and what is found -/

theorem mem_of_getIn (found : getIn name entries = some value) : (name, value) ∈ entries := by
  induction entries with
  | nil => cases found
  | cons entry rest ih =>
      unfold getIn at found
      split at found
      · rename_i same
        cases found
        cases same
        exact .head _
      · exact .tail _ (ih found)

theorem getIn_of_mem (distinct : (entries.map (·.1)).Nodup) (member : (name, value) ∈ entries) :
    getIn name entries = some value := by
  induction entries with
  | nil => cases member
  | cons entry rest ih =>
      rw [List.map_cons, List.nodup_cons] at distinct
      unfold getIn
      cases member with
      | head => exact if_pos rfl
      | tail _ later =>
          have other : entry.1 ≠ name := by
            rintro rfl
            exact distinct.1 (List.mem_map_of_mem (f := (·.1)) later)
          rw [if_neg other]
          exact ih distinct.2 later

theorem getIn_eq_some_iff (distinct : (entries.map (·.1)).Nodup) :
    getIn name entries = some value ↔ (name, value) ∈ entries :=
  ⟨mem_of_getIn, getIn_of_mem distinct⟩

theorem getIn_perm {others : List (String × α)} (distinct : (entries.map (·.1)).Nodup)
    (perm : entries.Perm others) : getIn name entries = getIn name others := by
  have distinctOthers : (others.map (·.1)).Nodup := (perm.map _).nodup_iff.mp distinct
  ext value
  rw [getIn_eq_some_iff distinct, getIn_eq_some_iff distinctOthers, perm.mem_iff]

theorem getIn_append (front back : List (String × α)) :
    getIn name (front ++ back) = (getIn name front).or (getIn name back) := by
  induction front with
  | nil => rfl
  | cons entry rest ih =>
      rw [List.cons_append, getIn, getIn]
      split
      · rfl
      · exact ih

theorem getIn_map (f : String → α → β) :
    getIn name (entries.map fun entry => (entry.1, f entry.1 entry.2)) =
      (getIn name entries).map (f name) := by
  induction entries with
  | nil => rfl
  | cons entry rest ih =>
      rw [List.map_cons, getIn, getIn]
      split
      · rename_i same
        cases same
        rfl
      · exact ih

theorem isSome_getIn : (getIn name entries).isSome ↔ name ∈ entries.map (·.1) := by
  induction entries with
  | nil => simp [getIn]
  | cons entry rest ih =>
      rw [getIn, List.map_cons, List.mem_cons]
      split
      · rename_i same
        simp [same]
      · rename_i other
        rw [ih, or_iff_right (Ne.symm other)]

@[simp]
theorem get?_map (f : α → β) (table : Named α) :
    (table.map f).get? name = (table.get? name).map f :=
  getIn_map fun _ => f

/-! ## Entries that are put -/

theorem mem_of_mem_putIn {entry : String × α} (member : entry ∈ putIn name value entries) :
    entry = (name, value) ∨ entry ∈ entries := by
  induction entries with
  | nil => exact .inl (List.mem_singleton.mp member)
  | cons first rest ih =>
      unfold putIn at member
      split at member
      · exact (List.mem_cons.mp member).imp_right (.tail _)
      · obtain rfl | later := List.mem_cons.mp member
        · exact .inr (.head _)
        · exact (ih later).imp_right (.tail _)

theorem nodup_putIn (distinct : (entries.map (·.1)).Nodup) :
    ((putIn name value entries).map (·.1)).Nodup := by
  induction entries with
  | nil => exact List.nodup_singleton _
  | cons first rest ih =>
      rw [List.map_cons, List.nodup_cons] at distinct
      unfold putIn
      split
      · rename_i same
        rw [List.map_cons, List.nodup_cons, ← same]
        exact distinct
      · rename_i other
        rw [List.map_cons, List.nodup_cons]
        refine ⟨fun member => ?_, ih distinct.2⟩
        obtain ⟨entry, among, same⟩ := List.mem_map.mp member
        obtain rfl | before := mem_of_mem_putIn among
        · exact other same.symm
        · exact distinct.1 (same ▸ List.mem_map_of_mem before)

theorem putIn_of_not_mem (fresh : name ∉ entries.map (·.1)) :
    putIn name value entries = entries ++ [(name, value)] := by
  induction entries with
  | nil => rfl
  | cons entry rest ih =>
      rw [List.map_cons, List.mem_cons, not_or] at fresh
      rw [putIn, if_neg (Ne.symm fresh.1), ih fresh.2]
      rfl

/-! ## Entries that are put one after the other -/

variable {table : Named α}

theorem entries_putAll_of_nodup (distinct : ((table.entries ++ entries).map (·.1)).Nodup) :
    (table.putAll entries).entries = table.entries ++ entries := by
  induction entries generalizing table with
  | nil => exact (List.append_nil _).symm
  | cons entry rest ih =>
      have fresh : entry.1 ∉ table.entries.map (·.1) := by
        rw [List.map_append, List.map_cons] at distinct
        exact fun member => (List.nodup_append.mp distinct).2.2 _ member _ (.head _) rfl
      have next : (table.put entry.1 entry.2).entries = table.entries ++ [entry] :=
        putIn_of_not_mem fresh
      have rest : ((table.put entry.1 entry.2).putAll rest).entries =
          (table.put entry.1 entry.2).entries ++ rest := by
        apply ih
        rwa [next, List.append_assoc, List.singleton_append]
      rw [next, List.append_assoc, List.singleton_append] at rest
      exact rest

theorem entries_ofList_of_nodup (distinct : (entries.map (·.1)).Nodup) :
    (ofList entries).entries = entries :=
  entries_putAll_of_nodup (by rwa [List.nil_append])

theorem mem_of_mem_putAll {entry : String × α}
    (member : entry ∈ (table.putAll entries).entries) :
    entry ∈ table.entries ∨ entry ∈ entries := by
  induction entries generalizing table with
  | nil => exact .inl member
  | cons first rest ih =>
      rcases ih member with before | later
      · rcases mem_of_mem_putIn before with rfl | before
        · exact .inr (.head _)
        · exact .inl before
      · exact .inr (.tail _ later)

theorem nodup_putAll (distinct : (table.entries.map (·.1)).Nodup) :
    ((table.putAll entries).entries.map (·.1)).Nodup := by
  induction entries generalizing table with
  | nil => exact distinct
  | cons entry rest ih => exact ih (nodup_putIn distinct)

/-- What is found was put last under its name, or it stood in the table and nothing was put under
its name. -/
theorem get?_putAll :
    (table.putAll entries).get? name = (getIn name entries.reverse).or (table.get? name) := by
  induction entries generalizing table with
  | nil => rfl
  | cons entry rest ih =>
      change ((table.put entry.1 entry.2).putAll rest).get? name = _
      rw [ih, get?_put, List.reverse_cons, getIn_append, Option.or_assoc, getIn, getIn]
      split <;> rfl

theorem get?_ofList : (ofList entries).get? name = getIn name entries.reverse := by
  rw [ofList, get?_putAll]
  exact Option.or_none

end RowGuard.Named
