import RowGuard.Proofs.Context.Layering

/-! The editable table of a mapping. A mapping over the conventions is read again
from its table: its discovered fields stand under the same names, and every name
leads to the same field with the same confidence. -/

set_option autoImplicit false

namespace RowGuard.ProviderMap

variable {mapping : ProviderMap} {wellKnown : List (String × String)} {key : String}

/-- The well-known fields of a mapping are those that are read for it, however many layers lie over
them. -/
theorem Built.exists_builtins (built : Built wellKnown mapping) :
    ∃ table, tableOf readWellKnown wellKnown = .ok table ∧
      ∀ key, seen? mapping.builtins key = seen? table key := by
  induction built with
  | made made => exact ⟨_, (make_eq_ok_iff.mp made).2, fun _ => rfl⟩
  | layered below layered ih =>
      obtain ⟨table, read, same⟩ := ih
      exact ⟨table, read, fun key =>
        ((below.sound.overlays layered).builtins key).trans (same key)⟩

/-! ## Rows -/

def ordered (mapping : ProviderMap) : List (String × ActorPath) :=
  mapping.discovered.entries.mergeSort fun a b => decide (a.1 ≤ b.1)

theorem ordered_perm (mapping : ProviderMap) :
    mapping.ordered.Perm mapping.discovered.entries :=
  List.mergeSort_perm _ _

def reread (name : String) (path : ActorPath) : Entry :=
  .path { path with source := name }

def edited (mapping : ProviderMap) : Named Entry :=
  ⟨mapping.ordered.map fun entry => (entry.1, reread entry.1 entry.2)⟩

theorem entry_rated {path : ActorPath} (undotted : path.Undotted) (name : String) :
    Row.entry name (.rated (some path.text) path.confidence.name) = .ok (reread name path) := by
  rw [Row.entry, ActorPath.ofNames_text undotted]
  rfl

theorem mapM_toTable (undotted : ∀ entry ∈ mapping.discovered.entries, entry.2.Undotted) :
    (mapping.toTable.mapM fun row => do return (row.1, ← row.2.entry row.1)) =
      .ok mapping.edited.entries := by
  apply mapM_of_map_eq
  rw [toTable, edited, List.map_map, List.map_map]
  refine List.map_congr_left fun entry member => ?_
  have read := entry_rated (undotted entry ((ordered_perm mapping).mem_iff.mp member)) entry.1
  simp only [Function.comp_apply, read]
  rfl

theorem keyed_edited (keyed : Keyed mapping.discovered) : Keyed mapping.edited := by
  have perm := ordered_perm mapping
  constructor
  · rw [edited, List.map_map]
    exact (perm.map (·.1)).nodup_iff.mpr keyed.distinct
  · intro entry member
    obtain ⟨source, among, rfl⟩ := List.mem_map.mp member
    exact keyed.normal source (perm.mem_iff.mp among)

theorem get?_edited (keyed : Keyed mapping.discovered) (key : String) :
    mapping.edited.get? key = (mapping.discovered.get? key).map (reread key) := by
  have perm := ordered_perm mapping
  have distinct := (perm.map (·.1)).nodup_iff.mpr keyed.distinct
  rw [edited, Named.get?, Named.getIn_map reread, Named.getIn_perm distinct perm]
  rfl

/-! ## Tables that are read again -/

theorem mem_names_iff {table : Named ActorPath} : key ∈ table.names ↔ (seen? table key).isSome := by
  rw [seen?, Option.isSome_map, Named.get?, Named.isSome_getIn]
  rfl

theorem exists_tableOf_edited (mapping : ProviderMap) :
    ∃ table, tableOf Entry.read mapping.edited.entries = .ok table := by
  refine exists_tableOf fun entry member => ?_
  obtain ⟨source, _, rfl⟩ := List.mem_map.mp member
  exact ⟨_, rfl⟩

theorem seen?_edited (keyed : Keyed mapping.discovered) {table : Named ActorPath}
    (made : tableOf Entry.read mapping.edited.entries = .ok table) (key : String) :
    seen? table key = seen? mapping.discovered key := by
  have read := get?_tableOf_of_keyed (keyed_edited keyed) made key
  rw [get?_edited keyed, Option.map_map] at read
  exact seen?_eq_of_reread read fun path _ => ⟨_, rfl, rfl⟩

/-- A mapping over the conventions whose discovered fields have no dots in their segments is read
again from its editable table: the same names are discovered, and every name leads to the same
field with the same confidence. -/
theorem ofTable_toTable (built : Built conventions mapping)
    (undotted : ∀ entry ∈ mapping.discovered.entries, entry.2.Undotted) :
    ∃ back, ofTable mapping.toTable = .ok back ∧
      (∀ key, key ∈ back.discovered.names ↔ key ∈ mapping.discovered.names) ∧
      ∀ name, mapping.SameFor back name := by
  obtain ⟨builtins, conventional, sameBuiltins⟩ := built.exists_builtins
  obtain ⟨discovered, made⟩ := exists_tableOf_edited mapping
  have sameDiscovered := seen?_edited built.sound.discovered made
  have again : make mapping.edited.entries conventions = .ok ⟨discovered, builtins⟩ :=
    make_eq_ok_iff.mpr ⟨made, conventional⟩
  refine ⟨⟨discovered, builtins⟩, ?_, fun key => ?_, fun name => ?_⟩
  · rw [ofTable, mapM_toTable undotted]
    change (make mapping.edited.entries conventions).mapError TableError.fault = _
    rw [again]
    rfl
  · rw [mem_names_iff, mem_names_iff, sameDiscovered]
  · exact sameFor_of_seen? (fun key _ => (sameDiscovered key).symm) fun key _ => sameBuiltins key

/-- The conventions with two discovered fields, one of them under a name of theirs. -/
def tuned : ProviderMap :=
  { standard with
    discovered := ⟨[("get_team", ⟨["team", "id"], .introspected, "Get_Team", by decide⟩),
      ("auth.uid", ⟨["account"], .fallback, "auth.uid", by decide⟩)]⟩ }

theorem ofTable_toTable_tuned : Built conventions tuned ∧
    (∀ entry ∈ tuned.discovered.entries, entry.2.Undotted) ∧
    ∃ back, ofTable tuned.toTable = .ok back ∧
      (∀ key, key ∈ back.discovered.names ↔ key ∈ tuned.discovered.names) ∧
      ∀ name, tuned.SameFor back name := by
  have made : make [("Get_Team", .dotted "team.id"),
      ("auth.uid", .path ⟨["account"], .fallback, "auth.uid", by decide⟩)] conventions =
        .ok tuned :=
    make_eq_ok_iff.mpr
      ⟨by with_unfolding_all rfl, (make_eq_ok_iff.mp make_conventions).2⟩
  have undotted : ∀ entry ∈ tuned.discovered.entries, entry.2.Undotted := by
    decide +kernel
  exact ⟨.made made, undotted, ofTable_toTable (.made made) undotted⟩

end RowGuard.ProviderMap
