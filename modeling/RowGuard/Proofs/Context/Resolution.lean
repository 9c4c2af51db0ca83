import RowGuard.Context.ProviderMap
import RowGuard.Proofs.Traced

/-! Which names of providers have a field. A name that no table knows and that
ends in a dot, or is empty, has none: no pattern matches it and the part that
would be guessed is empty. Every other name has one. -/

set_option autoImplicit false

namespace RowGuard

namespace ProviderMap

/-! ## Names without a last part -/

/-- Whether a dotted name has an empty last part: it is empty or ends in a dot. -/
def Trails (name : List Char) : Prop :=
  ∀ c ∈ name.getLast?, c = '.'

instance (name : List Char) : Decidable (Trails name) :=
  decidable_of_iff (name.getLast?.all (· == '.')) (by simp [Trails, Option.all_eq_true])

theorem trails_nil : Trails [] := by
  simp [Trails]

theorem lastDottedPart_eq_empty_iff {name : String} :
    Text.lastDottedPart name = "" ↔ Trails name.toList := by
  rw [Text.lastDottedPart, ← String.toList_inj, String.toList_ofList, Trails,
    ← List.head?_reverse]
  cases name.toList.reverse with
  | nil => simp
  | cons c rest => simp [List.takeWhile_cons]

theorem trails_append_iff {front back : List Char} (filled : back ≠ []) :
    Trails (front ++ back) ↔ Trails back := by
  obtain ⟨last, same⟩ := List.getLast?_isSome.mpr filled |> Option.isSome_iff_exists.mp
  simp [Trails, List.getLast?_append, same]

theorem trails_append_dotted_iff {front back : List Char} (dotted : front.getLast? = some '.') :
    Trails (front ++ back) ↔ Trails back := by
  cases back with
  | nil => simp [Trails, dotted]
  | cons c back => exact trails_append_iff (List.cons_ne_nil c back)

/-! ## Patterns -/

theorem eq_append_of_after? {beginning name rest : List Char}
    (found : after? beginning name = some rest) : name = beginning ++ rest := by
  unfold after? at found
  split at found
  · rename_i starts
    cases found
    obtain ⟨rest, rfl⟩ := List.isPrefixOf_iff_prefix.mp starts
    simp
  · cases found

theorem eq_append_of_before? {ending name rest : List Char}
    (found : before? ending name = some rest) : name = rest ++ ending := by
  unfold before? at found
  split at found
  · rename_i ends
    cases found
    obtain ⟨rest, rfl⟩ := List.isSuffixOf_iff_suffix.mp ends
    simp
  · cases found

theorem wordBetween?_eq_some {beginning ending word : String} {name : List Char}
    (found : wordBetween? beginning ending name = some word) :
    word.toList ≠ [] ∧ (∀ c ∈ word.toList, Text.isWordChar c) ∧
      name = beginning.toList ++ (word.toList ++ ending.toList) := by
  obtain ⟨rest, after, found⟩ := Option.bind_eq_some_iff.mp found
  obtain ⟨letters, before, found⟩ := Option.bind_eq_some_iff.mp found
  split at found
  · rename_i written
    cases found
    simp only [Bool.and_eq_true, Bool.not_eq_true', List.isEmpty_eq_false_iff,
      List.all_eq_true] at written
    rw [eq_append_of_after? after, eq_append_of_before? before, String.toList_ofList]
    exact ⟨written.1, written.2, rfl⟩
  · cases found

theorem wordBetween?_eq_none {beginning ending : String} {name : List Char}
    (closed : ending.toList.getLast? ≠ some '.') (trails : Trails name) :
    wordBetween? beginning ending name = none := by
  cases found : wordBetween? beginning ending name with
  | none => rfl
  | some word =>
      obtain ⟨filled, letters, rfl⟩ := wordBetween?_eq_some found
      rw [trails_append_iff (List.append_ne_nil_of_left_ne_nil filled _)] at trails
      cases ends : ending.toList.getLast? with
      | some c =>
          rw [ends] at closed
          have dot : c = '.' := trails c (by simp [List.getLast?_append, ends])
          exact absurd (congrArg some dot) closed
      | none =>
          rw [List.getLast?_eq_none_iff.mp ends, List.append_nil] at trails
          have last := List.getLast_mem filled
          have dot := trails _ (List.getLast?_eq_some_getLast filled)
          rw [dot] at last
          exact absurd (letters '.' last) (by decide)

theorem namespaced?_eq_some {name : List Char} {word : String}
    (found : namespaced? name = some word) :
    wordBetween? "current_" "" (name.reverse.takeWhile (· != '.')).reverse = some word := by
  obtain ⟨⟨front, last⟩, cut, found⟩ := Option.bind_eq_some_iff.mp found
  unfold atLastDot? at cut
  dsimp only at cut found
  split at cut
  · cases cut
    split at found
    · exact found
    · cases found
  · cases cut

theorem namespaced?_eq_none {name : List Char} (trails : Trails name) :
    namespaced? name = none := by
  have empty : (name.reverse.takeWhile (· != '.')).reverse = [] := by
    rw [Trails, ← List.head?_reverse] at trails
    cases same : name.reverse with
    | nil => rfl
    | cons c rest =>
        rw [same] at trails
        simp [trails c rfl]
  cases found : namespaced? name with
  | none => rfl
  | some word =>
      have between := namespaced?_eq_some found
      rw [empty, wordBetween?_eq_none (by decide) trails_nil] at between
      cases between

theorem inferred?_eq_none {name : List Char} (trails : Trails name) : inferred? name = none := by
  unfold inferred?
  rw [wordBetween?_eq_none (by decide) trails, wordBetween?_eq_none (by decide) trails,
    wordBetween?_eq_none (by decide) trails, wordBetween?_eq_none (by decide) trails,
    namespaced?_eq_none trails]
  rfl

theorem ne_empty_of_wordBetween? {beginning ending word : String} {name : List Char}
    (found : wordBetween? beginning ending name = some word) : word ≠ "" := by
  intro empty
  subst empty
  exact (wordBetween?_eq_some found).1 rfl

theorem ne_empty_of_inferred? {name : List Char} {field : String}
    (found : inferred? name = some field) : field ≠ "" := by
  simp only [inferred?, Option.orElse_eq_orElse, Option.orElse_eq_or, Option.or_eq_some_iff,
    Option.map_eq_some_iff] at found
  rcases found with ⟨word, _, rfl⟩ | ⟨_, ⟨word, _, rfl⟩ | ⟨_, found | ⟨_, found | ⟨_, found⟩⟩⟩⟩
  · simp
  · simp
  · exact ne_empty_of_wordBetween? found
  · exact ne_empty_of_wordBetween? found
  · exact ne_empty_of_wordBetween? (namespaced?_eq_some found)

/-! ## Candidates -/

theorem trails_of_mem_candidates {name key : String} (member : key ∈ candidates name) :
    Trails key.toList ↔ Trails (normalise name).toList := by
  rcases List.mem_cons.mp member with rfl | member
  · exact Iff.rfl
  · obtain ⟨schema, implied, found⟩ := List.mem_filterMap.mp member
    obtain ⟨rest, after, rfl⟩ := Option.map_eq_some_iff.mp found
    have dotted : ∀ schema ∈ impliedSchemas, schema.toList.getLast? = some '.' := by decide
    rw [eq_append_of_after? after, trails_append_dotted_iff (dotted schema implied),
      String.toList_ofList]

theorem guessed_eq_empty_iff {name : String} :
    guessed name = "" ↔ Trails (normalise name).toList := by
  have last : (candidates name).getLastD (normalise name) ∈ candidates name := by
    rw [candidates, List.getLastD_cons]
    exact List.getLastD_mem_cons
  rw [guessed, lastDottedPart_eq_empty_iff, trails_of_mem_candidates last]

/-! ## Resolution -/

/-- Whether a provider has no field: no table knows its name, and the name has no last part. -/
structure Unresolvable (mapping : ProviderMap) (name : String) : Prop where
  untabled : ∀ key ∈ candidates name,
    mapping.discovered.get? key = none ∧ mapping.builtins.get? key = none
  trails : Trails (normalise name).toList

instance (mapping : ProviderMap) (name : String) : Decidable (mapping.Unresolvable name) :=
  decidable_of_iff
    ((∀ key ∈ candidates name,
        (mapping.discovered.get? key).isNone ∧ (mapping.builtins.get? key).isNone) ∧
      Trails (normalise name).toList) (by
    simp only [Option.isNone_iff_eq_none]
    exact ⟨fun both => ⟨both.1, both.2⟩, fun none => ⟨none.untabled, none.trails⟩⟩)

variable {mapping : ProviderMap} {name : String}

theorem tabled?_eq_none_iff :
    mapping.tabled? name = none ↔ ∀ key ∈ candidates name,
      mapping.discovered.get? key = none ∧ mapping.builtins.get? key = none := by
  rw [tabled?, Option.orElse_eq_orElse, Option.orElse_eq_or, Option.or_eq_none_iff,
    List.findSome?_eq_none_iff, List.findSome?_eq_none_iff]
  exact ⟨fun both key member => ⟨both.1 key member, both.2 key member⟩,
    fun each => ⟨fun key member => (each key member).1, fun key member => (each key member).2⟩⟩

theorem exists_ofParts {field : String} (filled : field ≠ "") (confidence : Confidence)
    (source : String) : ∃ path, ActorPath.ofParts [field] confidence source = .ok path := by
  rw [ActorPath.ofParts, dif_pos ⟨List.cons_ne_nil _ _, by simpa using filled.symm⟩]
  exact ⟨_, rfl⟩

theorem result_resolve_of_unresolvable (unresolvable : mapping.Unresolvable name) :
    (mapping.resolve name).result = .error (.emptySegment [""]) := by
  have unmatched : ((candidates name).findSome? fun key => inferred? key.toList) = none := by
    rw [List.findSome?_eq_none_iff]
    intro key member
    exact inferred?_eq_none ((trails_of_mem_candidates member).mpr unresolvable.trails)
  rw [resolve, tabled?_eq_none_iff.mpr unresolvable.untabled]
  dsimp only
  rw [unmatched, guessed_eq_empty_iff.mpr unresolvable.trails]
  rfl

theorem exists_resolve (resolvable : ¬ mapping.Unresolvable name) :
    ∃ path, (mapping.resolve name).result = .ok path := by
  unfold resolve
  split
  · exact ⟨_, rfl⟩
  · rename_i untabled
    split
    · rename_i field matched
      obtain ⟨key, _, found⟩ := List.exists_of_findSome?_eq_some matched
      exact exists_ofParts (ne_empty_of_inferred? found) _ _
    · have filled : guessed name ≠ "" := by
        intro empty
        exact resolvable ⟨tabled?_eq_none_iff.mp untabled, guessed_eq_empty_iff.mp empty⟩
      obtain ⟨path, made⟩ := exists_ofParts filled .fallback name
      rw [Traced.result_bind, made]
      exact ⟨path, rfl⟩

theorem resolve_eq_error_iff {fault : ActorPath.Fault} :
    (mapping.resolve name).result = .error fault ↔
      mapping.Unresolvable name ∧ fault = .emptySegment [""] := by
  by_cases unresolvable : mapping.Unresolvable name
  · rw [result_resolve_of_unresolvable unresolvable]
    simp [unresolvable, eq_comm]
  · obtain ⟨path, resolved⟩ := exists_resolve unresolvable
    simp [resolved, unresolvable]

/-! ## Mappings that find the same -/

/-- Whether two mappings find the same field under a name, with the same confidence, or fail in the
same way. -/
def SameFor (mapping other : ProviderMap) (name : String) : Prop :=
  (mapping.resolve name).result.map (fun path => (path.parts, path.confidence)) =
    (other.resolve name).result.map fun path => (path.parts, path.confidence)

end ProviderMap

end RowGuard
