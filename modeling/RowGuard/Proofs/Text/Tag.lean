import RowGuard.Comparison
import RowGuard.Proofs.Text.Pattern
import RowGuard.Proofs.Truth

/-! How the tags of a pattern are expanded. A pattern is read by way of tags that
stand for its wildcards, and a tag that it spells itself is expanded like them,
also when a part of it is the NUL of a wildcard's tag. A pattern matches what it
stands for if and only if it spells no tag. -/

set_option autoImplicit false

namespace RowGuard.Text.Pattern

/-! ## Tags -/

def chars (cs : List Char) : List Item :=
  cs.map .char

@[simp]
theorem chars_nil : chars [] = [] :=
  rfl

@[simp]
theorem chars_cons (c : Char) (cs : List Char) : chars (c :: cs) = .char c :: chars cs :=
  rfl

@[simp]
theorem chars_append (first second : List Char) :
    chars (first ++ second) = chars first ++ chars second :=
  List.map_append

@[simp]
theorem length_chars (cs : List Char) : (chars cs).length = cs.length :=
  List.length_map _

@[simp]
theorem char_mem_chars {c : Char} {cs : List Char} : .char c ∈ chars cs ↔ c ∈ cs := by
  simp [chars]

/-- The tag with a word between its NULs. -/
def tagOf (word : List Char) : List Char :=
  '\x00' :: (word ++ ['\x00'])

section Tags

variable {tag : List Char} {item : Item}

theorem expandFrom_skip (skip : Nat) (items : List Item) :
    expandFrom tag item skip items = expandFrom tag item 0 (items.drop skip) := by
  induction skip generalizing items with
  | zero => rfl
  | succ skip ih =>
      cases items with
      | nil => rfl
      | cons head rest => exact ih rest

theorem expandFrom_tag_append (filled : tag ≠ []) (rest : List Item) :
    expandFrom tag item 0 (chars tag ++ rest) = item :: expandFrom tag item 0 rest := by
  cases tag with
  | nil => exact absurd rfl filled
  | cons c cs =>
      have opens : (chars (c :: cs)).isPrefixOf (.char c :: (chars cs ++ rest)) :=
        List.isPrefixOf_iff_prefix.mpr (List.prefix_append (chars (c :: cs)) rest)
      have dropped : (chars cs ++ rest).drop cs.length = rest := by
        rw [← length_chars cs, List.drop_left]
      rw [chars_cons, List.cons_append, expandFrom, ← chars, if_pos opens, expandFrom_skip,
        List.length_cons, Nat.add_sub_cancel, dropped]

theorem expandFrom_cons {head : Item} {rest : List Item} (closed : ¬chars tag <+: head :: rest) :
    expandFrom tag item 0 (head :: rest) = head :: expandFrom tag item 0 rest := by
  rw [expandFrom]
  exact if_neg (by rwa [List.isPrefixOf_iff_prefix])

theorem replace_expandFrom (filled : tag ≠ []) (items : List Item) (fresh : item ∉ items) :
    replace item (chars tag) (expandFrom tag item 0 items) = items := by
  by_cases opens : chars tag <+: items
  · obtain ⟨rest, rfl⟩ := opens
    have shorter : rest.length < (chars tag ++ rest).length := by
      simp [List.length_pos_iff.mpr filled]
    rw [expandFrom_tag_append filled, replace_cons_self,
      replace_expandFrom filled rest fun member => fresh (List.mem_append_right _ member)]
  · cases items with
    | nil => rfl
    | cons head rest =>
        rw [List.mem_cons, not_or] at fresh
        rw [expandFrom_cons opens, replace_cons_of_ne (Ne.symm fresh.1),
          replace_expandFrom filled rest fresh.2]
termination_by items.length

end Tags

/-- A character of a word, or its last one, is read off the items whether a wildcard is expanded or
not; only a wildcard whose tag begins like the rest of the word can stand for it. -/
theorem prefix_of_replace {wildcard last : Char} {word : List Char} {more items : List Item}
    (noNul : '\x00' ∉ word) (noWildcard : wildcard ∉ word)
    (opens : chars (word ++ [last]) <+: replace (.char wildcard) (.char '\x00' :: more) items) :
    ∃ closing, (closing = last ∨ closing = wildcard ∧ last = '\x00') ∧
      chars (word ++ [closing]) <+: items := by
  induction word generalizing items with
  | nil =>
      cases items with
      | nil => simp at opens
      | cons item items =>
          by_cases isWildcard : item = .char wildcard
          · subst isWildcard
            simp only [replace_cons_self, List.nil_append, List.cons_append, chars_cons,
              List.cons_prefix_cons, Item.char.injEq] at opens
            exact ⟨wildcard, .inr ⟨rfl, opens.1⟩, by simp⟩
          · rw [replace_cons_of_ne isWildcard] at opens
            simp only [List.nil_append, chars_cons, List.cons_prefix_cons] at opens
            exact ⟨last, .inl rfl, by simp [opens.1]⟩
  | cons c word ih =>
      rw [List.mem_cons, not_or] at noNul noWildcard
      cases items with
      | nil => simp at opens
      | cons item items =>
          by_cases isWildcard : item = .char wildcard
          · subst isWildcard
            simp only [replace_cons_self, List.cons_append, chars_cons, List.cons_prefix_cons,
              Item.char.injEq] at opens
            exact absurd opens.1.symm noNul.1
          · rw [replace_cons_of_ne isWildcard] at opens
            simp only [List.cons_append, chars_cons, List.cons_prefix_cons] at opens
            obtain ⟨closing, which, starts⟩ := ih noNul.2 noWildcard.2 opens.2
            refine ⟨closing, which, ?_⟩
            simp only [List.cons_append, chars_cons, List.cons_prefix_cons]
            exact ⟨opens.1, starts⟩

/-! ## What expanding tags does to a pattern -/

/-- Whether items begin with a tag that is not one of the wildcard's: NUL and the word, closed by
NUL or by the tag of the wildcard. -/
def Opens (wildcard : Char) (word : List Char) (items : List Item) : Prop :=
  ∃ closing, (closing = '\x00' ∨ closing = wildcard) ∧
    chars ('\x00' :: (word ++ [closing])) <+: items

/-- Whether such a tag is spelled anywhere. -/
def Spelled (wildcard : Char) (word : List Char) (items : List Item) : Prop :=
  ∃ closing, (closing = '\x00' ∨ closing = wildcard) ∧
    chars ('\x00' :: (word ++ [closing])) <:+: items

/-- What becomes of items when their wildcards are written as tags and tags are then replaced by an
item, leftmost first. A tag that is spelled goes for one of the wildcard's; if it is closed by the
tag of a wildcard, then what is left of that one stays behind. -/
inductive Expands (wildcard : Char) (word : List Char) (item : Item) :
    List Item → List Item → Prop where
  | nil : Expands wildcard word item [] []
  | wildcard {rest out : List Item} (later : Expands wildcard word item rest out) :
      Expands wildcard word item (.char wildcard :: rest) (item :: out)
  | other {head : Item} {rest out : List Item} (plain : head ≠ .char wildcard)
      (closed : ¬Opens wildcard word (head :: rest))
      (later : Expands wildcard word item rest out) :
      Expands wildcard word item (head :: rest) (head :: out)
  | closed {rest out : List Item} (later : Expands wildcard word item rest out) :
      Expands wildcard word item (chars (tagOf word) ++ rest) (item :: out)
  | cut {rest out : List Item}
      (later : Expands wildcard word item (chars (word ++ ['\x00']) ++ rest) out) :
      Expands wildcard word item (chars ('\x00' :: (word ++ [wildcard])) ++ rest) (item :: out)

section Expansion

variable {wildcard : Char} {word : List Char} {item : Item} {items out : List Item}

theorem spelled_cons_iff {head : Item} {rest : List Item} :
    Spelled wildcard word (head :: rest) ↔
      Opens wildcard word (head :: rest) ∨ Spelled wildcard word rest := by
  simp only [Spelled, Opens, List.infix_cons_iff, and_or_left, exists_or]

theorem not_spelled_nil : ¬Spelled wildcard word [] := by
  rintro ⟨closing, _, within⟩
  simp at within

theorem replace_chars {cs : List Char} {new : List Item} (missing : wildcard ∉ cs) :
    replace (.char wildcard) new (chars cs) = chars cs :=
  replace_of_not_mem (by rwa [char_mem_chars])

/-- What is compared behind an item that is no wildcard is compared with it. -/
theorem fixed_tail_eq {head : Item} {rest new : List Item} (plain : head ≠ .char wildcard)
    (same : fixed (head :: out) = fixed (replace (.char wildcard) new (head :: rest))) :
    fixed out = fixed (replace (.char wildcard) new rest) := by
  rw [replace_cons_of_ne plain] at same
  by_cases isRun : head = .run
  · subst isRun
    simpa using same
  · rw [fixed_cons_of_ne isRun, fixed_cons_of_ne isRun] at same
    exact (List.cons.inj same).2

variable (noWildcard : wildcard ∉ '\x00' :: word)
include noWildcard

theorem not_opens_wildcard {rest : List Item} :
    ¬Opens wildcard word (.char wildcard :: rest) := by
  rintro ⟨closing, _, opens⟩
  rw [chars_cons, List.cons_prefix_cons, Item.char.injEq] at opens
  exact noWildcard (opens.1 ▸ .head _)

theorem replace_closed (rest : List Item) :
    replace (.char wildcard) (chars (tagOf word)) (chars (tagOf word) ++ rest) =
      chars (tagOf word) ++ replace (.char wildcard) (chars (tagOf word)) rest := by
  rw [replace_append, replace_chars]
  simpa [tagOf, or_comm] using noWildcard

/-- Where a wildcard closes the tag that items spell, the rest of its own tag follows. -/
theorem replace_cut (rest : List Item) :
    replace (.char wildcard) (chars (tagOf word)) (chars ('\x00' :: (word ++ [wildcard])) ++ rest) =
      chars (tagOf word) ++
        replace (.char wildcard) (chars (tagOf word)) (chars (word ++ ['\x00']) ++ rest) := by
  have front : replace (.char wildcard) (chars (tagOf word)) (chars ('\x00' :: word)) =
      chars ('\x00' :: word) := replace_chars noWildcard
  have back : replace (.char wildcard) (chars (tagOf word)) (chars (word ++ ['\x00'])) =
      chars (word ++ ['\x00']) := replace_chars (by simpa [or_comm] using noWildcard)
  have middle : replace (.char wildcard) (chars (tagOf word)) (chars [wildcard] ++ rest) =
      chars (tagOf word) ++ replace (.char wildcard) (chars (tagOf word)) rest := by
    rw [chars_cons, chars_nil, List.singleton_append, replace_cons_self]
  rw [← List.cons_append, chars_append, List.append_assoc, replace_append, front, middle,
    replace_append, back]
  simp [tagOf]

theorem expands (noNul : '\x00' ∉ word) (items : List Item) :
    Expands wildcard word item items
      (expandFrom (tagOf word) item 0 (replace (.char wildcard) (chars (tagOf word)) items)) := by
  have filled : tagOf word ≠ [] := List.cons_ne_nil _ _
  by_cases opens : Opens wildcard word items
  · obtain ⟨closing, nul | own, rest, split⟩ := opens
    · rw [← split, nul, ← tagOf, replace_closed noWildcard, expandFrom_tag_append filled]
      exact .closed (expands noNul rest)
    · rw [← split, own, replace_cut noWildcard, expandFrom_tag_append filled]
      exact .cut (expands noNul (chars (word ++ ['\x00']) ++ rest))
  · cases items with
    | nil => exact .nil
    | cons head rest =>
        by_cases isWildcard : head = .char wildcard
        · subst isWildcard
          rw [replace_cons_self, expandFrom_tag_append filled]
          exact .wildcard (expands noNul rest)
        · rw [replace_cons_of_ne isWildcard, expandFrom_cons]
          · exact .other isWildcard opens (expands noNul rest)
          · intro starts
            rw [tagOf, chars_cons, List.cons_prefix_cons] at starts
            obtain ⟨closing, which, more⟩ :=
              prefix_of_replace noNul (fun member => noWildcard (.tail _ member)) starts.2
            refine opens ⟨closing, which.imp_right And.left, ?_⟩
            rw [chars_cons, List.cons_prefix_cons]
            exact ⟨starts.1, more⟩
termination_by items.length
decreasing_by
  · rw [← split]
    simp
    omega
  · rw [← split]
    simp
  all_goals simp

omit noWildcard in
/-- Where no tag is spelled, every wildcard becomes the item and nothing else changes. -/
theorem Expands.eq_of_clear (expands : Expands wildcard word item items out)
    (clear : ¬Spelled wildcard word items) : out = replace (.char wildcard) [item] items := by
  induction expands with
  | nil => rfl
  | wildcard _ ih =>
      rw [spelled_cons_iff, not_or] at clear
      rw [replace_cons_self, List.singleton_append, ih clear.2]
  | other plain _ _ ih =>
      rw [spelled_cons_iff, not_or] at clear
      rw [replace_cons_of_ne plain, ih clear.2]
  | closed _ _ => exact absurd ⟨'\x00', .inl rfl, (List.prefix_append _ _).isInfix⟩ clear
  | cut _ _ => exact absurd ⟨wildcard, .inr rfl, (List.prefix_append _ _).isInfix⟩ clear

/-- If tags become single characters, then one that is spelled shows as such. -/
theorem Expands.not_spelled_of_one (expands : Expands wildcard word .one items out)
    (same : fixed out = fixed (replace (.char wildcard) [.one] items)) :
    ¬Spelled wildcard word items := by
  have nul : Item.char '\x00' ≠ .char wildcard := by
    simpa using fun same : '\x00' = wildcard => noWildcard (same ▸ .head _)
  induction expands with
  | nil => exact not_spelled_nil
  | wildcard _ ih =>
      rw [spelled_cons_iff, not_or]
      refine ⟨not_opens_wildcard noWildcard, ih ?_⟩
      rw [replace_cons_self, List.singleton_append, fixed_cons_one, fixed_cons_one] at same
      exact (List.cons.inj same).2
  | @other head rest out plain closed _ ih =>
      rw [spelled_cons_iff, not_or]
      exact ⟨closed, ih (fixed_tail_eq plain same)⟩
  | closed _ _ =>
      rw [tagOf, chars_cons, List.cons_append, replace_cons_of_ne nul, fixed_cons_one,
        fixed_cons_char] at same
      cases (List.cons.inj same).1
  | cut _ _ =>
      rw [chars_cons, List.cons_append, replace_cons_of_ne nul, fixed_cons_one,
        fixed_cons_char] at same
      cases (List.cons.inj same).1

omit noWildcard in
theorem fixed_replace_chars {cs : List Char} (missing : wildcard ∉ cs) (rest : List Item) :
    fixed (replace (.char wildcard) [.run] (chars cs ++ rest)) =
      chars cs ++ fixed (replace (.char wildcard) [.run] rest) := by
  have noRun : Item.run ∉ chars cs := by simp [chars]
  rw [replace_append, replace_chars missing, fixed, fixed, replace_append,
    replace_of_not_mem noRun]

theorem fixed_replace_cut (rest : List Item) :
    fixed (replace (.char wildcard) [.run] (chars ('\x00' :: (word ++ [wildcard])) ++ rest)) =
      chars ('\x00' :: word) ++ fixed (replace (.char wildcard) [.run] rest) := by
  have last : fixed (replace (.char wildcard) [.run] (chars [wildcard] ++ rest)) =
      fixed (replace (.char wildcard) [.run] rest) := by
    rw [chars_cons, chars_nil, List.singleton_append, replace_cons_self, List.singleton_append,
      fixed_cons_run]
  rw [← List.cons_append, chars_append, List.append_assoc, fixed_replace_chars noWildcard, last]

/-- If tags become runs, then expansion leaves no more single characters than it should: a tag that
is spelled takes at least its word along, and what it leaves of a wildcard's tag is no longer. -/
theorem Expands.length_fixed_le (expands : Expands wildcard word .run items out) :
    (fixed out).length ≤ (fixed (replace (.char wildcard) [.run] items)).length := by
  have inWord : wildcard ∉ word ++ ['\x00'] := by simpa [or_comm] using noWildcard
  have inTag : wildcard ∉ tagOf word := by simpa [tagOf, or_comm] using noWildcard
  induction expands with
  | nil => exact Nat.le_refl _
  | wildcard _ ih => simpa using ih
  | @other head rest out plain _ _ ih =>
      rw [replace_cons_of_ne plain]
      by_cases isRun : head = .run
      · subst isRun
        simpa using ih
      · rw [fixed_cons_of_ne isRun, fixed_cons_of_ne isRun]
        exact Nat.succ_le_succ ih
  | closed _ ih =>
      rw [fixed_replace_chars inTag, fixed_cons_run, List.length_append]
      omega
  | cut _ ih =>
      rw [fixed_replace_chars inWord] at ih
      rw [fixed_replace_cut noWildcard, fixed_cons_run]
      simp only [List.length_append, length_chars, List.length_cons, List.length_nil] at ih ⊢
      omega

omit noWildcard in
theorem Expands.head {c : Char} {rest : List Item} (plain : c ≠ wildcard) (filled : c ≠ '\x00')
    (expands : Expands wildcard word item (.char c :: rest) out) :
    ∃ tail, out = .char c :: tail := by
  generalize split : Item.char c :: rest = whole at expands
  cases expands with
  | nil => cases split
  | wildcard _ => exact absurd (Item.char.inj (List.cons.inj split).1) plain
  | other _ _ _ =>
      cases split
      exact ⟨_, rfl⟩
  | closed _ | cut _ => exact absurd (Item.char.inj (List.cons.inj split).1) filled

/-- If tags become runs, then one that is spelled shows in the single characters: they become fewer,
or one of the word comes where NUL should be. -/
theorem Expands.not_spelled_of_run (noNul : '\x00' ∉ word) (filled : word ≠ [])
    (expands : Expands wildcard word .run items out)
    (same : fixed out = fixed (replace (.char wildcard) [.run] items)) :
    ¬Spelled wildcard word items := by
  induction expands with
  | nil => exact not_spelled_nil
  | wildcard _ ih =>
      rw [spelled_cons_iff, not_or]
      exact ⟨not_opens_wildcard noWildcard, ih (by simpa using same)⟩
  | @other head rest out plain closed _ ih =>
      rw [spelled_cons_iff, not_or]
      exact ⟨closed, ih (fixed_tail_eq plain same)⟩
  | closed later _ =>
      have inTag : wildcard ∉ tagOf word := by simpa [tagOf, or_comm] using noWildcard
      have lengths := congrArg List.length same
      have bound := later.length_fixed_le noWildcard
      rw [fixed_replace_chars inTag, fixed_cons_run, List.length_append, length_chars, tagOf,
        List.length_cons] at lengths
      omega
  | cut later _ =>
      rw [fixed_replace_cut noWildcard, fixed_cons_run] at same
      cases word with
      | nil => exact absurd rfl filled
      | cons c word =>
          rw [List.mem_cons, not_or] at noNul
          rw [List.mem_cons, List.mem_cons, not_or, not_or] at noWildcard
          obtain ⟨tail, rfl⟩ := Expands.head (Ne.symm noWildcard.2.1) (Ne.symm noNul.1) later
          rw [fixed_cons_char] at same
          exact absurd (Item.char.inj (List.cons.inj same).1) (Ne.symm noNul.1)

end Expansion

/-! ## Patterns that spell a tag -/

/-- Whether a pattern spells the tag of `%`: `PCT` between `_` or NUL and a wildcard or NUL. -/
def SpellsRun (pattern : List Char) : Prop :=
  ∃ opening ∈ ['_', '\x00'], ∃ closing ∈ ['%', '_', '\x00'],
    [opening, 'P', 'C', 'T', closing] <:+: pattern

/-- Whether a pattern spells the tag of `_`: `USC` between NUL and `_` or NUL. -/
def SpellsSingle (pattern : List Char) : Prop :=
  ∃ closing ∈ ['_', '\x00'], ['\x00', 'U', 'S', 'C', closing] <:+: pattern

/-- Whether a pattern spells a tag that is not one of its wildcards'. -/
def SpellsTag (pattern : List Char) : Prop :=
  SpellsRun pattern ∨ SpellsSingle pattern

/-- A pattern with the tags of its single characters. -/
def tagSingles (pattern : List Char) : List Item :=
  replace (.char '_') (chars oneTag) (chars pattern)

/-- A pattern with its runs. -/
def readRuns (pattern : List Char) : List Item :=
  replace (.char '%') [.run] (chars pattern)

theorem tagSingles_cons {c : Char} (pattern : List Char) (plain : c ≠ '_') :
    tagSingles (c :: pattern) = .char c :: tagSingles pattern :=
  replace_cons_of_ne (by simpa using plain)

theorem tagSingles_append (first second : List Char) :
    tagSingles (first ++ second) = tagSingles first ++ tagSingles second := by
  rw [tagSingles, chars_append, replace_append, ← tagSingles, ← tagSingles]

theorem readRuns_percent (pattern : List Char) :
    readRuns ('%' :: pattern) = .run :: readRuns pattern :=
  replace_cons_self

theorem readRuns_cons {c : Char} (pattern : List Char) (plain : c ≠ '%') :
    readRuns (c :: pattern) = .char c :: readRuns pattern :=
  replace_cons_of_ne (by simpa using plain)

theorem readRuns_append (first second : List Char) :
    readRuns (first ++ second) = readRuns first ++ readRuns second := by
  rw [readRuns, chars_append, replace_append, ← readRuns, ← readRuns]

theorem SpellsRun.cons {c : Char} {pattern : List Char} (spells : SpellsRun pattern) :
    SpellsRun (c :: pattern) := by
  obtain ⟨opening, first, closing, last, within⟩ := spells
  exact ⟨opening, first, closing, last, within.trans (List.suffix_cons c pattern).isInfix⟩

theorem SpellsSingle.cons {c : Char} {pattern : List Char} (spells : SpellsSingle pattern) :
    SpellsSingle (c :: pattern) := by
  obtain ⟨closing, which, within⟩ := spells
  exact ⟨closing, which, within.trans (List.suffix_cons c pattern).isInfix⟩

theorem chars_prefix_iff {cs ds : List Char} : chars cs <+: chars ds ↔ cs <+: ds :=
  List.prefix_map_iff_of_injective fun _ _ => Item.char.inj

/-- A tag of `%` is spelled behind `_` or NUL, the two ways in which a NUL is written. -/
theorem spellsRun_of_opens {opening : Char} (first : opening ∈ ['_', '\x00'])
    {pattern : List Char}
    (opens : Opens '%' ['P', 'C', 'T'] (.char '\x00' :: tagSingles pattern)) :
    SpellsRun (opening :: pattern) := by
  obtain ⟨closing, which, starts⟩ := opens
  rw [chars_cons, List.cons_prefix_cons] at starts
  obtain ⟨last, same, more⟩ := prefix_of_replace (by decide) (by decide) starts.2
  have listed : last ∈ ['%', '_', '\x00'] := by
    rcases same with rfl | ⟨rfl, _⟩
    · rcases which with rfl | rfl <;> decide
    · decide
  have whole : [opening, 'P', 'C', 'T', last] <+: opening :: pattern :=
    List.cons_prefix_cons.mpr ⟨rfl, chars_prefix_iff.mp more⟩
  exact ⟨opening, first, last, listed, whole.isInfix⟩

theorem spellsRun_of_spelled {pattern : List Char}
    (spelled : Spelled '%' ['P', 'C', 'T'] (tagSingles pattern)) : SpellsRun pattern := by
  induction pattern with
  | nil => exact absurd spelled not_spelled_nil
  | cons c pattern ih =>
      by_cases underscore : c = '_'
      · subst underscore
        have split : tagSingles ('_' :: pattern) = .char '\x00' :: .char 'U' :: .char 'S' ::
            .char 'C' :: .char '\x00' :: tagSingles pattern := replace_cons_self
        rw [split] at spelled
        simp only [spelled_cons_iff] at spelled
        -- Inside the tag of `_`, only its last NUL can open another one.
        rcases spelled with opens | opens | opens | opens | opens | inside
        · simp [Opens] at opens
        · simp [Opens] at opens
        · simp [Opens] at opens
        · simp [Opens] at opens
        · exact spellsRun_of_opens (by decide) opens
        · exact (ih inside).cons
      · rw [tagSingles_cons pattern underscore, spelled_cons_iff] at spelled
        rcases spelled with opens | inside
        · have nul : c = '\x00' := by
            obtain ⟨_, _, starts⟩ := opens
            rw [chars_cons, List.cons_prefix_cons, Item.char.injEq] at starts
            exact starts.1.symm
          subst nul
          exact spellsRun_of_opens (by decide) opens
        · exact (ih inside).cons

theorem spelled_of_spellsRun {pattern : List Char} (spells : SpellsRun pattern) :
    Spelled '%' ['P', 'C', 'T'] (tagSingles pattern) := by
  obtain ⟨opening, first, closing, last, front, back, rfl⟩ := spells
  have each : ['_', '\x00'].Forall fun opening => ['%', '_', '\x00'].Forall fun closing =>
      ['\x00', '%'].any fun last => decide (chars ('\x00' :: (['P', 'C', 'T'] ++ [last])) <:+:
        tagSingles [opening, 'P', 'C', 'T', closing]) := by
    decide
  have openings := List.forall_iff_forall_mem.mp each opening first
  have closings := List.forall_iff_forall_mem.mp openings closing last
  obtain ⟨last, which, within⟩ := List.any_eq_true.mp closings
  refine ⟨last, by simpa using which, (of_decide_eq_true within).trans ?_⟩
  rw [tagSingles_append, tagSingles_append]
  exact List.infix_append _ _ _

theorem prefix_of_readRuns {cs pattern : List Char} (starts : chars cs <+: readRuns pattern) :
    cs <+: pattern := by
  induction cs generalizing pattern with
  | nil => exact List.nil_prefix
  | cons d cs ih =>
      cases pattern with
      | nil => simp [readRuns] at starts
      | cons c pattern =>
          by_cases percent : c = '%'
          · subst percent
            simp [readRuns_percent] at starts
          · rw [readRuns_cons pattern percent, chars_cons, List.cons_prefix_cons,
              Item.char.injEq] at starts
            exact List.cons_prefix_cons.mpr ⟨starts.1, ih starts.2⟩

theorem spellsSingle_of_spelled {pattern : List Char}
    (spelled : Spelled '_' ['U', 'S', 'C'] (readRuns pattern)) : SpellsSingle pattern := by
  induction pattern with
  | nil => exact absurd spelled not_spelled_nil
  | cons c pattern ih =>
      have front : Opens '_' ['U', 'S', 'C'] (readRuns (c :: pattern)) ∨
          Spelled '_' ['U', 'S', 'C'] (readRuns pattern) := by
        by_cases percent : c = '%'
        · subst percent
          rw [readRuns_percent] at spelled ⊢
          exact spelled_cons_iff.mp spelled
        · rw [readRuns_cons pattern percent] at spelled ⊢
          exact spelled_cons_iff.mp spelled
      rcases front with ⟨closing, which, starts⟩ | inside
      · exact ⟨closing, by simpa [or_comm] using which, (prefix_of_readRuns starts).isInfix⟩
      · exact (ih inside).cons

theorem spelled_of_spellsSingle {pattern : List Char} (spells : SpellsSingle pattern) :
    Spelled '_' ['U', 'S', 'C'] (readRuns pattern) := by
  obtain ⟨closing, which, front, back, rfl⟩ := spells
  have each : ∀ closing ∈ ['_', '\x00'],
      chars ['\x00', 'U', 'S', 'C', closing] = readRuns ['\x00', 'U', 'S', 'C', closing] :=
    List.forall_iff_forall_mem.mp (by decide)
  refine ⟨closing, by simpa [or_comm] using which, ?_⟩
  rw [readRuns_append, readRuns_append, ← each closing which]
  exact List.infix_append _ _ _

/-- What a pattern spells shows in the two forms from which tags are expanded. -/
theorem spellsTag_iff {pattern : List Char} :
    SpellsTag pattern ↔ Spelled '%' ['P', 'C', 'T'] (tagSingles pattern) ∨
      Spelled '_' ['U', 'S', 'C'] (readRuns pattern) :=
  or_congr ⟨spelled_of_spellsRun, spellsRun_of_spelled⟩
    ⟨spelled_of_spellsSingle, spellsSingle_of_spelled⟩

/-! ## Reading a pattern -/

theorem chars_flatMap {wildcard : Char} {tag : List Char} (cs : List Char) :
    chars (cs.flatMap fun c => if c == wildcard then tag else [c]) =
      replace (.char wildcard) (chars tag) (chars cs) := by
  induction cs with
  | nil => rfl
  | cons c cs ih =>
      rw [List.flatMap_cons, chars_append, ih, chars_cons]
      by_cases isWildcard : c = wildcard
      · rw [if_pos (beq_iff_eq.mpr isWildcard), isWildcard, replace_cons_self]
      · rw [if_neg (by simpa using isWildcard), replace_cons_of_ne (by simpa using isWildcard)]
        rfl

theorem not_mem_expandFrom {tag : List Char} {item other : Item} (ne : other ≠ item) (skip : Nat)
    {items : List Item} (missing : other ∉ items) : other ∉ expandFrom tag item skip items := by
  induction items generalizing skip with
  | nil => simp [expandFrom]
  | cons head rest ih =>
      rw [List.mem_cons, not_or] at missing
      cases skip with
      | succ skip => exact ih skip missing.2
      | zero =>
          rw [expandFrom]
          split
          · exact List.not_mem_cons_of_ne_of_not_mem ne (ih _ missing.2)
          · exact List.not_mem_cons_of_ne_of_not_mem missing.1 (ih _ missing.2)

theorem map_itemOf (pattern : List Char) :
    pattern.map itemOf = replace (.char '_') [.one] (readRuns pattern) := by
  induction pattern with
  | nil => rfl
  | cons c pattern ih =>
      rw [List.map_cons, ih, itemOf]
      by_cases percent : c = '%'
      · rw [if_pos percent, percent, readRuns_percent, replace_cons_of_ne (by simp)]
      · rw [if_neg percent, readRuns_cons pattern percent]
        by_cases underscore : c = '_'
        · rw [if_pos underscore, underscore, replace_cons_self, List.singleton_append]
        · rw [if_neg underscore, replace_cons_of_ne (by simpa using underscore)]

theorem replace_tagSingles (pattern : List Char) :
    replace (.char '%') [.run] (tagSingles pattern) =
      replace (.char '_') (chars oneTag) (readRuns pattern) :=
  replace_comm (by decide) (by decide) (by decide)

/-- A pattern is read in two steps: the tags of its runs are expanded, and then those of its single
characters. The second step undone gives the outcome of the first; and if that one expands the runs
alone, then the second goes on from the pattern with its runs. -/
theorem exists_expands (pattern : String) :
    ∃ middle,
      Expands '%' ['P', 'C', 'T'] .run (tagSingles pattern.toList) middle ∧
      middle = replace .one (chars oneTag) (items pattern) ∧
      (middle = replace (.char '%') [.run] (tagSingles pattern.toList) →
        Expands '_' ['U', 'S', 'C'] .one (readRuns pattern.toList) (items pattern)) := by
  have written : chars (tagged pattern.toList) =
      replace (.char '%') (chars runTag) (tagSingles pattern.toList) := by
    rw [tagged, chars_flatMap, chars_flatMap, replace_comm (by decide) (by decide) (by decide),
      ← tagSingles]
  have read : items pattern = expandFrom oneTag .one 0 (expandFrom runTag .run 0
      (replace (.char '%') (chars runTag) (tagSingles pattern.toList))) := by
    rw [items, ← chars, written]
  have noOne : Item.one ∉ expandFrom runTag .run 0
      (replace (.char '%') (chars runTag) (tagSingles pattern.toList)) := by
    refine not_mem_expandFrom (by decide) 0 ?_
    rw [← written]
    simp [chars]
  have runs : Expands '%' ['P', 'C', 'T'] .run (tagSingles pattern.toList)
      (expandFrom runTag .run 0
        (replace (.char '%') (chars runTag) (tagSingles pattern.toList))) :=
    expands (by decide) (by decide) _
  have singles : Expands '_' ['U', 'S', 'C'] .one (readRuns pattern.toList)
      (expandFrom oneTag .one 0
        (replace (.char '_') (chars oneTag) (readRuns pattern.toList))) :=
    expands (by decide) (by decide) _
  refine ⟨_, runs, ?_, fun clean => ?_⟩
  · rw [read]
    exact (replace_expandFrom (by decide) _ noOne).symm
  · rw [read, clean, replace_tagSingles]
    exact singles

theorem items_eq_map_itemOf {pattern : String} (clear : ¬SpellsTag pattern.toList) :
    items pattern = pattern.toList.map itemOf := by
  rw [spellsTag_iff, not_or] at clear
  obtain ⟨middle, runs, _, singles⟩ := exists_expands pattern
  rw [(singles (runs.eq_of_clear clear.1)).eq_of_clear clear.2, map_itemOf]

/-- A pattern that is read as if character by character, runs apart, spells no tag. -/
theorem not_spellsTag_of_fixed {pattern : String}
    (same : fixed (items pattern) = fixed (pattern.toList.map itemOf)) :
    ¬SpellsTag pattern.toList := by
  rw [map_itemOf] at same
  obtain ⟨middle, runs, undone, singles⟩ := exists_expands pattern
  have noOne : Item.one ∉ readRuns pattern.toList := by
    simp only [readRuns, replace, chars, List.mem_flatMap, List.mem_map]
    rintro ⟨_, ⟨c, _, rfl⟩, member⟩
    split at member <;> simp at member
  have sameRuns : fixed middle = fixed (replace (.char '%') [.run] (tagSingles pattern.toList)) :=
    calc fixed middle
      _ = replace .one (chars oneTag) (fixed (items pattern)) := by
        rw [undone]
        exact replace_comm (by decide) (by decide) (by decide)
      _ = fixed (replace .one (chars oneTag)
            (replace (.char '_') [.one] (readRuns pattern.toList))) := by
        rw [same]
        exact replace_comm (by decide) (by decide) (by decide)
      _ = fixed (replace (.char '%') [.run] (tagSingles pattern.toList)) := by
        rw [replace_replace noOne, replace_tagSingles]
  have noRun := runs.not_spelled_of_run (by decide) (by decide) (by decide) sameRuns
  have noSingle := (singles (runs.eq_of_clear noRun)).not_spelled_of_one (by decide) same
  rw [spellsTag_iff, not_or]
  exact ⟨noRun, noSingle⟩

end RowGuard.Text.Pattern

namespace RowGuard

open Text.Pattern (Covers SpellsTag Fits)

theorem Text.matchesPattern_iff {text pattern : String} :
    matchesPattern false pattern text ↔ Fits (Pattern.items pattern) text.toList :=
  Iff.rfl

/-- A pattern matches the texts that it stands for, and no other texts, if and only if it spells no
tag. -/
theorem matches_iff_covers (pattern : String) :
    (∀ text : String,
      ((Value.text text).matches false (.text pattern) = .yes ↔
        Covers pattern.toList text.toList) ∧
      ((Value.text text).matches false (.text pattern) = .no ↔
        ¬Covers pattern.toList text.toList)) ↔
    ¬SpellsTag pattern.toList := by
  simp only [Value.matches, Truth.ofBool_eq_yes_iff, Truth.ofBool_eq_no_iff,
    ← Bool.not_eq_true, Text.matchesPattern_iff]
  constructor
  · intro exact
    refine Text.Pattern.not_spellsTag_of_fixed (Text.Pattern.fixed_eq_of_fits fun text => ?_)
    have matched := (exact (String.ofList text)).1
    rwa [String.toList_ofList, ← Text.Pattern.fits_map_itemOf_iff] at matched
  · intro clear text
    rw [Text.Pattern.items_eq_map_itemOf clear, Text.Pattern.fits_map_itemOf_iff]
    exact ⟨Iff.rfl, Iff.rfl⟩

/-- Codes of three letters between two characters of any kind: the pattern stands for this one and
does not match it. -/
theorem coded_covered_unmatched :
    Covers "_PCT_".toList "aPCTb".toList ∧
      (Value.text "aPCTb").matches false (.text "_PCT_") = .no := by
  refine ⟨?_, by decide +kernel⟩
  exact .one 'a' (.char (by decide) (.char (by decide) (.char (by decide) (.one 'b' .nil))))

end RowGuard
