import RowGuard.Proofs.Context.Table

/-! Overrides that are laid over a mapping. They change what is found under their
own names and nothing else, and overrides that are laid one after the other are
those of one table in which the last one of a name counts. -/

set_option autoImplicit false

namespace RowGuard.ProviderMap

variable {mapping next upper other : ProviderMap} {overrides first second : List (String × Entry)}
  {wellKnown : List (String × String)} {key name : String} {path : ActorPath}

/-! ## Overrides -/

def overriding (overrides : List (String × Entry)) : Named Entry :=
  .ofList (overrides.map fun entry => (normalise entry.1, entry.2))

theorem normal_of_mem_overrides : ∀ entry ∈ overrides.map fun entry => (normalise entry.1, entry.2),
    normalise entry.1 = entry.1 := by
  intro entry member
  obtain ⟨source, _, rfl⟩ := List.mem_map.mp member
  exact normalise_normalise source.1

theorem keyed_overriding (overrides : List (String × Entry)) : Keyed (overriding overrides) :=
  .ofList normal_of_mem_overrides

theorem get?_overriding_append :
    (overriding (first ++ second)).get? key =
      ((overriding second).get? key).or ((overriding first).get? key) := by
  simp only [overriding, Named.get?_ofList, List.map_append, List.reverse_append,
    Named.getIn_append]

theorem get?_overriding_entries :
    (overriding (overriding overrides).entries).get? key = (overriding overrides).get? key := by
  have keyed := keyed_overriding overrides
  have kept : ((overriding overrides).entries.map fun entry => (normalise entry.1, entry.2)) =
      (overriding overrides).entries := by
    refine (List.map_congr_left fun entry member => ?_).trans (List.map_id _)
    rw [keyed.normal entry member]
    rfl
  rw [overriding, kept, Named.get?, Named.entries_ofList_of_nodup keyed.distinct]
  rfl

/-! ## One layer -/

def merged (mapping : ProviderMap) (overrides : List (String × Entry)) : Named Entry :=
  (mapping.discovered.map Entry.path).putAll
    (overrides.map fun entry => (normalise entry.1, entry.2))

theorem keyed_merged (keyed : Keyed mapping.discovered) (overrides : List (String × Entry)) :
    Keyed (mapping.merged overrides) :=
  (keyed.map Entry.path).putAll normal_of_mem_overrides

theorem get?_merged : (mapping.merged overrides).get? key =
    ((overriding overrides).get? key).or ((mapping.discovered.get? key).map .path) := by
  rw [merged, Named.get?_putAll, Named.get?_map, overriding, Named.get?_ofList]

/-- A mapping with overrides over another one: under a name stands what the overrides or else the
other mapping holds there, and the well-known fields are the same. -/
structure Overlays (overrides : List (String × Entry)) (mapping upper : ProviderMap) : Prop where
  discovered : ∀ key, (upper.discovered.get? key).map Except.ok =
    (((overriding overrides).get? key).map (Entry.read key)).or
      ((mapping.discovered.get? key).map .ok)
  builtins : ∀ key, seen? upper.builtins key = seen? mapping.builtins key

theorem layer_eq_ok_iff : mapping.layer overrides = .ok upper ↔
    tableOf Entry.read (mapping.merged overrides).entries = .ok upper.discovered ∧
      tableOf readWellKnown (mapping.builtins.map ActorPath.text).entries = .ok upper.builtins :=
  make_eq_ok_iff

theorem sound_layer (layered : mapping.layer overrides = .ok upper) : upper.Sound :=
  sound_make layered

theorem Sound.overlays (sound : mapping.Sound) (layered : mapping.layer overrides = .ok upper) :
    Overlays overrides mapping upper := by
  obtain ⟨discovered, builtins⟩ := layer_eq_ok_iff.mp layered
  constructor
  · intro key
    rw [get?_tableOf_of_keyed (keyed_merged sound.discovered overrides) discovered, get?_merged,
      Option.map_or, Option.map_map]
    rfl
  -- The well-known table is written out and read again: a path keeps its segments, and its name
  -- becomes its provider.
  · intro key
    have read := get?_tableOf_of_keyed (sound.builtins.map ActorPath.text) builtins key
    rw [Named.get?_map, Option.map_map] at read
    refine seen?_eq_of_reread read fun path found => ?_
    obtain ⟨confidence, undotted⟩ := sound.wellKnown key path found
    refine ⟨_, ActorPath.ofDotted_text undotted, ?_⟩
    rw [ActorPath.seen, ActorPath.seen, confidence]

theorem Sound.exists_layer (sound : mapping.Sound)
    (readable : ∀ key entry, (overriding overrides).get? key = some entry →
      ∃ path, entry.read key = .ok path) : ∃ upper, mapping.layer overrides = .ok upper := by
  have keyed := keyed_merged sound.discovered overrides
  have discovered : ∃ table, tableOf Entry.read (mapping.merged overrides).entries = .ok table := by
    apply exists_tableOf
    rintro ⟨key, entry⟩ member
    have found : (mapping.merged overrides).get? key = some entry :=
      Named.getIn_of_mem keyed.distinct member
    rw [get?_merged, Option.or_eq_some_iff] at found
    rcases found with override | ⟨_, before⟩
    · exact readable key entry override
    · obtain ⟨path, _, rfl⟩ := Option.map_eq_some_iff.mp before
      exact ⟨path, rfl⟩
  have builtins : ∃ table,
      tableOf readWellKnown (mapping.builtins.map ActorPath.text).entries = .ok table := by
    apply exists_tableOf
    intro entry member
    obtain ⟨source, among, rfl⟩ := List.mem_map.mp member
    have found := Named.getIn_of_mem sound.builtins.distinct among
    exact ⟨_, ActorPath.ofDotted_text (sound.wellKnown source.1 source.2 found).2⟩
  obtain ⟨table, made⟩ := discovered
  obtain ⟨texts, read⟩ := builtins
  exact ⟨⟨table, texts⟩, layer_eq_ok_iff.mpr ⟨made, read⟩⟩

/-! ## Layers over layers -/

theorem map_ok_injective :
    Function.Injective (Option.map (Except.ok : ActorPath → Except ActorPath.Fault ActorPath)) :=
  Option.map_injective fun _ _ same => Except.ok.inj same

namespace Overlays

theorem nil (mapping : ProviderMap) : Overlays [] mapping mapping :=
  ⟨fun _ => rfl, fun _ => rfl⟩

theorem append (below : Overlays first mapping next) (above : Overlays second next upper) :
    Overlays (first ++ second) mapping upper := by
  constructor
  · intro key
    rw [above.discovered, below.discovered, get?_overriding_append, Option.map_or, Option.or_assoc]
  · intro key
    rw [above.builtins, below.builtins]

theorem exists_override (overlays : Overlays overrides mapping upper) {entry : Entry}
    (override : (overriding overrides).get? key = some entry) :
    ∃ path, entry.read key = .ok path ∧ upper.discovered.get? key = some path := by
  have read := overlays.discovered key
  rw [override, Option.map_some, Option.some_or, Option.map_eq_some_iff] at read
  obtain ⟨path, found, read⟩ := read
  exact ⟨path, read.symm, found⟩

theorem get?_discovered (overlays : Overlays overrides mapping upper)
    (untouched : (overriding overrides).get? key = none) :
    upper.discovered.get? key = mapping.discovered.get? key := by
  have read := overlays.discovered key
  rw [untouched, Option.map_none, Option.none_or] at read
  exact map_ok_injective read

theorem sameFor (overlays : Overlays overrides mapping upper)
    (others : Overlays second mapping other)
    (same : ∀ key, (overriding overrides).get? key = (overriding second).get? key)
    (name : String) : upper.SameFor other name := by
  refine sameFor_of_seen? (fun key _ => ?_) fun key _ => ?_
  · have found : upper.discovered.get? key = other.discovered.get? key := by
      apply map_ok_injective
      rw [overlays.discovered, others.discovered, same]
    rw [seen?, found, seen?]
  · rw [overlays.builtins, others.builtins]

end Overlays

/-- Layers that are laid one after the other lay their overrides one after the other. -/
theorem Sound.overlays_foldlM (sound : mapping.Sound) {tables : List (List (String × Entry))}
    (layered : tables.foldlM layer mapping = .ok upper) :
    Overlays tables.flatten mapping upper := by
  induction tables generalizing mapping with
  | nil =>
      cases layered
      exact .nil _
  | cons table tables ih =>
      rw [List.foldlM_cons] at layered
      cases step : mapping.layer table with
      | error _ =>
          rw [step] at layered
          cases layered
      | ok next =>
          rw [step] at layered
          exact (sound.overlays step).append (ih (sound_layer step) layered)

/-! ## What names lead to -/

theorem resolve_of_find?
    (first : (candidates name).find? (fun key => (mapping.discovered.get? key).isSome) = some key)
    (found : mapping.discovered.get? key = some path) : mapping.resolve name = .ok path := by
  obtain ⟨_, front, back, split, missed⟩ := List.find?_eq_some_iff_append.mp first
  have tabled : (candidates name).findSome? mapping.discovered.get? = some path := by
    refine List.findSome?_eq_some_iff.mpr ⟨front, key, back, split, found, fun other member => ?_⟩
    simpa using missed other member
  rw [resolve, tabled?, tabled]
  rfl

/-- The first candidate of a name that is overridden or discovered. -/
def known? (mapping : ProviderMap) (overrides : List (String × Entry)) (name : String) :
    Option String :=
  (candidates name).find? fun key =>
    ((overriding overrides).get? key).isSome || (mapping.discovered.get? key).isSome

theorem Overlays.known? (overlays : Overlays overrides mapping upper) (name : String) :
    mapping.known? overrides name =
      (candidates name).find? fun key => (upper.discovered.get? key).isSome := by
  have each (key : String) : (upper.discovered.get? key).isSome =
      (((overriding overrides).get? key).isSome || (mapping.discovered.get? key).isSome) := by
    have read := congrArg Option.isSome (overlays.discovered key)
    simpa only [Option.isSome_map, Option.isSome_or] using read
  simp only [ProviderMap.known?, each]

/-- What a name leads to under overrides. The first candidate that is overridden or discovered
decides, and a name without an overridden candidate finds the same as before. -/
structure Overridden (mapping : ProviderMap) (overrides : List (String × Entry))
    (upper : ProviderMap) (name : String) : Prop where
  untouched : (∀ key ∈ candidates name, (overriding overrides).get? key = none) →
    mapping.SameFor upper name
  override : ∀ key entry, mapping.known? overrides name = some key →
    (overriding overrides).get? key = some entry →
      ∃ path, entry.read key = .ok path ∧ upper.resolve name = .ok path
  discovered : ∀ key, mapping.known? overrides name = some key →
    (overriding overrides).get? key = none →
      ∃ path, mapping.discovered.get? key = some path ∧ upper.resolve name = .ok path

theorem Overlays.overridden (overlays : Overlays overrides mapping upper) (name : String) :
    mapping.Overridden overrides upper name where
  untouched none := by
    refine sameFor_of_seen? (fun key member => ?_) fun key _ => (overlays.builtins key).symm
    rw [seen?, seen?, overlays.get?_discovered (none key member)]
  override key entry first override := by
    obtain ⟨path, read, found⟩ := overlays.exists_override override
    rw [overlays.known?] at first
    exact ⟨path, read, resolve_of_find? first found⟩
  discovered key first untouched := by
    rw [overlays.known?] at first
    have listed : (upper.discovered.get? key).isSome = true := by simpa using List.find?_some first
    obtain ⟨path, found⟩ := Option.isSome_iff_exists.mp listed
    exact ⟨path, overlays.get?_discovered untouched ▸ found, resolve_of_find? first found⟩

/-- Mappings over a table of well-known fields: they are made from it, or lay overrides over one. -/
inductive Built (wellKnown : List (String × String)) : ProviderMap → Prop where
  | made {discovered : List (String × Entry)} {mapping : ProviderMap} :
      make discovered wellKnown = .ok mapping → Built wellKnown mapping
  | layered {overrides : List (String × Entry)} {mapping upper : ProviderMap} :
      Built wellKnown mapping → mapping.layer overrides = .ok upper → Built wellKnown upper

theorem Built.sound (built : Built wellKnown mapping) : mapping.Sound := by
  cases built with
  | made made => exact sound_make made
  | layered _ layered => exact sound_layer layered

/-- Overrides change what is found under their own names, the first candidate deciding, and leave
every other name as it was. Overrides that are laid one after the other do what one table of them
does in which the last one of a name counts. -/
theorem resolve_layer (built : Built wellKnown mapping) :
    (∀ overrides upper, mapping.layer overrides = .ok upper →
      ∀ name, mapping.Overridden overrides upper name) ∧
    ∀ (tables : List (List (String × Entry))) last, tables.foldlM layer mapping = .ok last →
      ∃ once, mapping.layer (overriding tables.flatten).entries = .ok once ∧
        ∀ name, once.SameFor last name := by
  have sound := built.sound
  refine ⟨fun _ _ layered => (sound.overlays layered).overridden, fun tables last layered => ?_⟩
  have all := sound.overlays_foldlM layered
  have readable (key : String) (entry : Entry)
      (override : (overriding (overriding tables.flatten).entries).get? key = some entry) :
      ∃ path, entry.read key = .ok path := by
    rw [get?_overriding_entries] at override
    obtain ⟨path, read, _⟩ := all.exists_override override
    exact ⟨path, read⟩
  obtain ⟨once, made⟩ := sound.exists_layer readable
  refine ⟨once, made, (sound.overlays made).sameFor all fun _ => ?_⟩
  exact get?_overriding_entries

/-- A mapping with a discovered field and a well-known one. -/
def staffed : ProviderMap :=
  { discovered := ⟨[("get_team", ⟨["team_id"], .introspected, " Get_Team ", by decide⟩)]⟩
    builtins := ⟨[("acme.uid", ⟨["account", "id"], .builtin, "Acme.Uid", by decide⟩)]⟩ }

def squads : List (String × Entry) :=
  [("GET_TEAM", .dotted "squad.id")]

def squadded : ProviderMap :=
  { discovered := ⟨[("get_team", ⟨["squad", "id"], .introspected, "get_team", by decide⟩)]⟩
    builtins := ⟨[("acme.uid", ⟨["account", "id"], .builtin, "acme.uid", by decide⟩)]⟩ }

/-- A later override of the same field, and one of another. -/
def crews : List (String × Entry) :=
  [("get_team ", .path ⟨["crew"], .inferred, "roster", by decide⟩), ("Shift", .dotted "shift")]

theorem resolve_layer_staffed : Built [("Acme.Uid", "account.id")] staffed ∧
    staffed.layer squads = .ok squadded ∧
    staffed.known? squads "public.Get_Team" = some "get_team" ∧
    (∃ path, squadded.resolve "public.Get_Team" = .ok path ∧ path.parts = ["squad", "id"]) ∧
    staffed.SameFor squadded "acme.UID" ∧
    ∃ last once, [squads, crews].foldlM layer staffed = .ok last ∧
      staffed.layer (overriding [squads, crews].flatten).entries = .ok once ∧
      ∀ name, once.SameFor last name := by
  have made : make [(" Get_Team ", .dotted "team_id")] [("Acme.Uid", "account.id")] =
      .ok staffed := by
    with_unfolding_all rfl
  have layered : staffed.layer squads = .ok squadded := by with_unfolding_all rfl
  obtain ⟨last, later⟩ : ∃ last, squadded.layer crews = .ok last := ⟨_, by with_unfolding_all rfl⟩
  have run : [squads, crews].foldlM layer staffed = .ok last := by
    rw [List.foldlM_cons, layered]
    change squadded.layer crews >>= _ = _
    rw [later]
    rfl
  obtain ⟨each, all⟩ := resolve_layer (.made made)
  obtain ⟨once, combined, same⟩ := all _ last run
  have known : staffed.known? squads "public.Get_Team" = some "get_team" := by decide +kernel
  obtain ⟨path, read, resolved⟩ := (each squads squadded layered "public.Get_Team").override
    "get_team" (.dotted "squad.id") known (by with_unfolding_all rfl)
  have dotted : ActorPath.ofParts ["squad", "id"] .introspected "get_team" = .ok path := read
  have missed : ∀ key ∈ candidates "acme.UID", ((overriding squads).get? key).isNone := by
    decide +kernel
  have untouched := (each squads squadded layered "acme.UID").untouched fun key member =>
    Option.isNone_iff_eq_none.mp (missed key member)
  exact ⟨.made made, layered, known,
    ⟨path, resolved, congrArg Prod.fst (ActorPath.seen_of_ofParts dotted)⟩, untouched,
    last, once, run, combined, same⟩

end RowGuard.ProviderMap
