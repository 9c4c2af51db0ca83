import RowGuard.Proofs.Context.Resolution
import RowGuard.Proofs.Named
import RowGuard.Proofs.Text.Dotted
import RowGuard.Proofs.Text.LetterCase

/-! The tables of a mapping. Names are compared in one form, a table holds each of
them once in this form, and a well-known field has no dots in its segments, so
that it is read again from its text. -/

set_option autoImplicit false

namespace RowGuard

/-! ## Paths and their texts -/

namespace ActorPath

variable {path : ActorPath} {parts : List String} {confidence : Confidence} {source : String}

/-- What is seen of a path: its segments and its confidence. -/
def seen (path : ActorPath) : List String × Confidence :=
  (path.parts, path.confidence)

/-- Whether no segment of a path has a dot. -/
def Undotted (path : ActorPath) : Prop :=
  ∀ part ∈ path.parts, '.' ∉ part.toList

instance (path : ActorPath) : Decidable path.Undotted :=
  inferInstanceAs (Decidable (∀ part ∈ path.parts, '.' ∉ part.toList))

theorem seen_of_ofParts (made : ofParts parts confidence source = .ok path) :
    path.seen = (parts, confidence) := by
  unfold ofParts at made
  split at made
  · cases made
    rfl
  · cases made

theorem undotted_of_ofDotted {text : String} (made : ofDotted text confidence source = .ok path) :
    path.Undotted := by
  have same : path.parts = Text.dottedParts text := congrArg Prod.fst (seen_of_ofParts made)
  rw [Undotted, same]
  exact fun _ member => Text.not_mem_of_mem_dottedParts member

theorem dottedParts_text (undotted : path.Undotted) : Text.dottedParts path.text = path.parts :=
  Text.dottedParts_joinWith path.filled.1 undotted

theorem ofParts_parts (path : ActorPath) (confidence : Confidence) (source : String) :
    ofParts path.parts confidence source = .ok { path with confidence, source } :=
  dif_pos path.filled

theorem ofDotted_text (undotted : path.Undotted) :
    ofDotted path.text confidence source = .ok { path with confidence, source } := by
  rw [ofDotted, dottedParts_text undotted, ofParts_parts]

theorem ofNames_text (undotted : path.Undotted) :
    ofNames (Text.dottedParts path.text) confidence.name source =
      .ok { path with confidence, source } := by
  rw [ofNames, Confidence.ofName?_name, dottedParts_text undotted]
  exact ofParts_parts path confidence source

end ActorPath

/-! ## Outcomes of a list -/

theorem map_eq_of_mapM {ε α β : Type} {f : α → Except ε β} {items : List α} {results : List β}
    (made : items.mapM f = .ok results) : items.map f = results.map .ok := by
  induction items generalizing results with
  | nil =>
      cases made
      rfl
  | cons item items ih =>
      rw [List.mapM_cons] at made
      cases first : f item with
      | error _ =>
          rw [first] at made
          cases made
      | ok result =>
          cases later : items.mapM f with
          | error _ =>
              rw [first, later] at made
              cases made
          | ok rest =>
              rw [first, later] at made
              cases made
              rw [List.map_cons, List.map_cons, first, ih later]

theorem mapM_of_map_eq {ε α β : Type} {f : α → Except ε β} {items : List α} {results : List β}
    (each : items.map f = results.map .ok) : items.mapM f = .ok results := by
  induction items generalizing results with
  | nil =>
      rw [List.map_nil, eq_comm, List.map_eq_nil_iff] at each
      rw [each]
      rfl
  | cons item items ih =>
      cases results with
      | nil => cases each
      | cons result results =>
          rw [List.map_cons, List.map_cons, List.cons.injEq] at each
          rw [List.mapM_cons, each.1, ih each.2]
          rfl

theorem exists_mapM {ε α β : Type} {f : α → Except ε β} {items : List α}
    (each : ∀ item ∈ items, ∃ result, f item = .ok result) :
    ∃ results, items.mapM f = .ok results := by
  induction items with
  | nil => exact ⟨[], rfl⟩
  | cons item items ih =>
      rw [List.forall_mem_cons] at each
      obtain ⟨result, first⟩ := each.1
      obtain ⟨results, later⟩ := ih each.2
      exact ⟨result :: results, by rw [List.mapM_cons, first, later]; rfl⟩

namespace ProviderMap

/-! ## Names -/

theorem toList_normalise (name : String) :
    (normalise name).toList = Text.lowerChars (Text.trim name.toList) := by
  rw [normalise, Text.lower, Text.trimString, String.toList_ofList, String.toList_ofList]

@[simp]
theorem normalise_normalise (name : String) : normalise (normalise name) = normalise name := by
  have trimmed : Text.Trimmed (Text.lowerChars (Text.trim name.toList)) :=
    (Text.trimmed_trim name.toList).lowerChars
  rw [← String.toList_inj, toList_normalise, toList_normalise, Text.trim_of_trimmed trimmed,
    Text.lowerChars_lowerChars]

theorem normalise_of_isLow {name : String}
    (low : ∀ c ∈ name.toList, Text.IsLow c ∧ Text.isBlank c = false) : normalise name = name := by
  have trimmed : Text.Trimmed name.toList :=
    ⟨fun c first => (low c (List.mem_of_head? first)).2,
      fun c last => (low c (List.mem_of_getLast? last)).2⟩
  rw [← String.toList_inj, toList_normalise, Text.trim_of_trimmed trimmed]
  exact Text.lowerAfter_of_isLow fun c member => (low c member).1

/-- Whether a table holds every name once, in the form in which names are compared. -/
structure Keyed {α : Type} (table : Named α) : Prop where
  distinct : (table.entries.map (·.1)).Nodup
  normal : ∀ entry ∈ table.entries, normalise entry.1 = entry.1

namespace Keyed

variable {α β : Type} {table : Named α} {entries : List (String × α)}

theorem map (keyed : Keyed table) (f : α → β) : Keyed (table.map f) := by
  constructor
  · rw [Named.map, List.map_map]
    exact keyed.distinct
  · intro entry member
    obtain ⟨source, among, rfl⟩ := List.mem_map.mp member
    exact keyed.normal source among

theorem putAll (keyed : Keyed table) (normal : ∀ entry ∈ entries, normalise entry.1 = entry.1) :
    Keyed (table.putAll entries) := by
  refine ⟨Named.nodup_putAll keyed.distinct, fun entry member => ?_⟩
  rcases Named.mem_of_mem_putAll member with before | put
  · exact keyed.normal entry before
  · exact normal entry put

theorem ofList (normal : ∀ entry ∈ entries, normalise entry.1 = entry.1) :
    Keyed (Named.ofList entries) :=
  putAll ⟨List.nodup_nil, fun _ member => nomatch member⟩ normal

end Keyed

/-! ## Tables that are read -/

section Reading

variable {α : Type} {read : String → α → Except ActorPath.Fault ActorPath}
  {entries : List (String × α)} {table : Named ActorPath} {key : String}

/-- Entries under the form of their names; the last one of a form counts. -/
def filed {α : Type} (entries : List (String × α)) : Named (String × α) :=
  .ofList (entries.map fun entry => (normalise entry.1, entry))

theorem getIn_of_read {results : List (String × ActorPath)}
    (each : (entries.map fun entry => do return (normalise entry.1, ← read entry.1 entry.2)) =
      results.map .ok) :
    (Named.getIn key results).map Except.ok =
      (Named.getIn key (entries.map fun entry => (normalise entry.1, entry))).map
        fun entry => read entry.1 entry.2 := by
  induction entries generalizing results with
  | nil =>
      rw [List.map_nil, eq_comm, List.map_eq_nil_iff] at each
      rw [each]
      rfl
  | cons entry entries ih =>
      cases results with
      | nil => cases each
      | cons result results =>
          rw [List.map_cons, List.map_cons, List.cons.injEq] at each
          cases made : read entry.1 entry.2 with
          | error _ =>
              rw [made] at each
              cases each.1
          | ok path =>
              have same : result = (normalise entry.1, path) := by
                rw [made] at each
                exact (Except.ok.inj each.1).symm
              rw [List.map_cons, same, Named.getIn, Named.getIn]
              split
              · exact congrArg some made.symm
              · exact ih each.2

theorem exists_results_of_tableOf (made : tableOf read entries = .ok table) :
    ∃ results, table = .ofList results ∧
      (entries.map fun entry => do return (normalise entry.1, ← read entry.1 entry.2)) =
        results.map .ok := by
  unfold tableOf at made
  cases mapped : entries.mapM fun entry => do return (normalise entry.1, ← read entry.1 entry.2) with
  | error _ =>
      rw [mapped] at made
      cases made
  | ok results =>
      rw [mapped] at made
      cases made
      exact ⟨results, rfl, map_eq_of_mapM mapped⟩

theorem get?_tableOf (made : tableOf read entries = .ok table) (key : String) :
    (table.get? key).map Except.ok =
      ((filed entries).get? key).map fun entry => read entry.1 entry.2 := by
  obtain ⟨results, rfl, each⟩ := exists_results_of_tableOf made
  rw [filed, Named.get?_ofList, Named.get?_ofList, ← List.map_reverse]
  apply getIn_of_read
  rw [List.map_reverse, each, List.map_reverse]

theorem exists_tableOf (each : ∀ entry ∈ entries, ∃ path, read entry.1 entry.2 = .ok path) :
    ∃ table, tableOf read entries = .ok table := by
  have results : ∃ results,
      (entries.mapM fun entry => do return (normalise entry.1, ← read entry.1 entry.2)) =
        .ok results := by
    apply exists_mapM
    intro entry member
    obtain ⟨path, made⟩ := each entry member
    exact ⟨(normalise entry.1, path), by rw [made]; rfl⟩
  obtain ⟨results, mapped⟩ := results
  exact ⟨.ofList results, by rw [tableOf, mapped]; rfl⟩

theorem keyed_tableOf (made : tableOf read entries = .ok table) : Keyed table := by
  obtain ⟨results, rfl, each⟩ := exists_results_of_tableOf made
  refine .ofList fun entry member => ?_
  have among : (.ok entry : Except ActorPath.Fault (String × ActorPath)) ∈ results.map .ok :=
    List.mem_map_of_mem member
  rw [← each] at among
  obtain ⟨source, _, made⟩ := List.mem_map.mp among
  cases outcome : read source.1 source.2 with
  | error _ =>
      rw [outcome] at made
      cases made
  | ok path =>
      rw [outcome] at made
      have same : (normalise source.1, path) = entry := Except.ok.inj made
      rw [← same]
      exact normalise_normalise source.1

theorem tableOf_of_normal
    (each : ∀ entry ∈ entries, normalise entry.1 = entry.1 ∧
      (read entry.1 entry.2).toOption.isSome) :
    tableOf read entries = .ok (.ofList (entries.filterMap fun entry =>
      (read entry.1 entry.2).toOption.map fun path => (entry.1, path))) := by
  have results : (entries.map fun entry => do
      return (normalise entry.1, ← read entry.1 entry.2)) =
      (entries.filterMap fun entry =>
        (read entry.1 entry.2).toOption.map fun path => (entry.1, path)).map Except.ok := by
    induction entries with
    | nil => rfl
    | cons entry entries ih =>
        rw [List.forall_mem_cons] at each
        obtain ⟨⟨normal, readable⟩, later⟩ := each
        rw [List.map_cons, ih later]
        cases made : read entry.1 entry.2 with
        | error _ =>
            rw [made] at readable
            cases readable
        | ok path =>
            rw [List.filterMap_cons_some (b := (entry.1, path)) (by rw [made]; rfl), normal]
            rfl
  rw [tableOf, mapM_of_map_eq results]
  rfl

theorem get?_tableOf_of_keyed {entries : Named α} (keyed : Keyed entries)
    (made : tableOf read entries.entries = .ok table) (key : String) :
    (table.get? key).map Except.ok = (entries.get? key).map (read key) := by
  have kept : (entries.entries.map fun entry => (normalise entry.1, entry)) =
      entries.entries.map fun entry => (entry.1, entry) :=
    List.map_congr_left fun entry member => by rw [keyed.normal entry member]
  have distinct : ((entries.entries.map fun entry => (entry.1, entry)).map (·.1)).Nodup := by
    rw [List.map_map]
    exact keyed.distinct
  rw [get?_tableOf made, filed, kept, Named.get?, Named.entries_ofList_of_nodup distinct,
    Named.getIn_map Prod.mk, Option.map_map]
  rfl

end Reading

/-! ## Mappings that are built -/

section Building

variable {discovered : List (String × Entry)} {wellKnown : List (String × String)}
  {mapping : ProviderMap} {key : String} {path : ActorPath}

def readWellKnown (name text : String) : Except ActorPath.Fault ActorPath :=
  ActorPath.ofDotted text .builtin name

theorem make_eq_ok_iff : make discovered wellKnown = .ok mapping ↔
    tableOf Entry.read discovered = .ok mapping.discovered ∧
      tableOf readWellKnown wellKnown = .ok mapping.builtins := by
  unfold make
  change (do
    let discovered ← tableOf Entry.read discovered
    let builtins ← tableOf readWellKnown wellKnown
    return (⟨discovered, builtins⟩ : ProviderMap)) = _ ↔ _
  obtain ⟨known, builtins⟩ := mapping
  cases tableOf Entry.read discovered with
  | error _ => exact ⟨nofun, fun both => nomatch both.1⟩
  | ok first =>
      cases tableOf readWellKnown wellKnown with
      | error _ => exact ⟨nofun, fun both => nomatch both.2⟩
      | ok second =>
          refine ⟨fun made => ?_, fun both => ?_⟩
          · cases Except.ok.inj made
            exact ⟨rfl, rfl⟩
          · obtain ⟨one, two⟩ := both
            cases Except.ok.inj one
            cases Except.ok.inj two
            rfl

/-- What building a mapping sees to. Its names are in the form in which they are compared, and its
well-known fields are read again from their texts. -/
structure Sound (mapping : ProviderMap) : Prop where
  discovered : Keyed mapping.discovered
  builtins : Keyed mapping.builtins
  wellKnown : ∀ key path, mapping.builtins.get? key = some path →
    path.confidence = .builtin ∧ path.Undotted

theorem sound_make (made : make discovered wellKnown = .ok mapping) : mapping.Sound := by
  obtain ⟨first, second⟩ := make_eq_ok_iff.mp made
  refine ⟨keyed_tableOf first, keyed_tableOf second, fun key path found => ?_⟩
  have read := get?_tableOf second key
  rw [found, Option.map_some, eq_comm, Option.map_eq_some_iff] at read
  obtain ⟨entry, _, read⟩ := read
  exact ⟨congrArg Prod.snd (ActorPath.seen_of_ofParts read), ActorPath.undotted_of_ofDotted read⟩

theorem make_conventions : make [] conventions = .ok standard := by
  have low : ∀ entry ∈ conventions, entry.1.toList.Forall fun c =>
      Text.IsLow c ∧ Text.isBlank c = false := by
    decide +kernel
  have readable : ∀ entry ∈ conventions, (readWellKnown entry.1 entry.2).toOption.isSome := by
    decide +kernel
  refine make_eq_ok_iff.mpr ⟨rfl, tableOf_of_normal fun entry member => ?_⟩
  exact ⟨normalise_of_isLow (List.forall_iff_forall_mem.mp (low entry member)),
    readable entry member⟩

end Building

/-! ## Mappings with the same tables -/

theorem findSome?_congr {α β : Type} {f g : α → Option β} {items : List α}
    (same : ∀ item ∈ items, f item = g item) : items.findSome? f = items.findSome? g := by
  induction items with
  | nil => rfl
  | cons item items ih =>
      rw [List.forall_mem_cons] at same
      rw [List.findSome?_cons, List.findSome?_cons, same.1, ih same.2]

def seen? (table : Named ActorPath) (key : String) : Option (List String × Confidence) :=
  (table.get? key).map ActorPath.seen

/-- A table whose paths are those of another one, read again, shows the same if reading keeps what is
seen of them. -/
theorem seen?_eq_of_reread {table source : Named ActorPath} {key : String}
    {again : ActorPath → Except ActorPath.Fault ActorPath}
    (read : (table.get? key).map Except.ok = (source.get? key).map again)
    (same : ∀ path, source.get? key = some path →
      ∃ known, again path = .ok known ∧ known.seen = path.seen) :
    seen? table key = seen? source key := by
  cases found : source.get? key with
  | none =>
      rw [found, Option.map_none, Option.map_eq_none_iff] at read
      rw [seen?, seen?, found, read]
  | some path =>
      obtain ⟨known, made, kept⟩ := same path found
      rw [found, Option.map_some, made, Option.map_eq_some_iff] at read
      obtain ⟨other, listed, equal⟩ := read
      cases Except.ok.inj equal
      rw [seen?, seen?, found, listed, Option.map_some, Option.map_some, kept]

theorem sameFor_of_seen? {mapping other : ProviderMap} {name : String}
    (discovered : ∀ key ∈ candidates name,
      seen? mapping.discovered key = seen? other.discovered key)
    (builtins : ∀ key ∈ candidates name, seen? mapping.builtins key = seen? other.builtins key) :
    mapping.SameFor other name := by
  have tabled : (mapping.tabled? name).map ActorPath.seen =
      (other.tabled? name).map ActorPath.seen := by
    simp only [tabled?, Option.orElse_eq_orElse, Option.orElse_eq_or, Option.map_or,
      List.map_findSome?]
    exact congrArg₂ Option.or (findSome?_congr discovered) (findSome?_congr builtins)
  unfold SameFor resolve
  cases first : mapping.tabled? name with
  | none =>
      rw [first, Option.map_none, eq_comm, Option.map_eq_none_iff] at tabled
      rw [tabled]
  | some path =>
      rw [first, Option.map_some, eq_comm, Option.map_eq_some_iff] at tabled
      obtain ⟨known, second, same⟩ := tabled
      rw [second]
      exact congrArg Except.ok same.symm

end ProviderMap

end RowGuard
