import Mathlib.Data.List.Forall2
import Mathlib.Data.List.Infix
import RowGuard.Text.Pattern

/-! The texts that a wildcard pattern stands for, and the texts that its items
match. Read character by character, a pattern matches what it stands for. Items
that match the same texts are the same, runs apart: their shortest texts tell
which characters they ask for and where any will do. -/

set_option autoImplicit false

namespace RowGuard.Text.Pattern

/-! ## The texts of a pattern -/

/-- Whether a pattern stands for a text: `%` stands for any run of characters, `_` for any one
character, and every other character for itself. -/
inductive Covers : List Char → List Char → Prop where
  | nil : Covers [] []
  | run {pattern text : List Char} (passed : List Char) (rest : Covers pattern text) :
      Covers ('%' :: pattern) (passed ++ text)
  | one {pattern text : List Char} (c : Char) (rest : Covers pattern text) :
      Covers ('_' :: pattern) (c :: text)
  | char {pattern text : List Char} {c : Char} (plain : c ≠ '%' ∧ c ≠ '_')
      (rest : Covers pattern text) : Covers (c :: pattern) (c :: text)

/-- The item that a character of a pattern stands for. -/
def itemOf (c : Char) : Item :=
  if c = '%' then .run else if c = '_' then .one else .char c

abbrev Fits (items : List Item) (text : List Char) : Prop :=
  fits (fun wanted found => wanted == found) items text

variable {items : List Item} {text : List Char}

theorem mem_suffixes {rest : List Char} : rest ∈ suffixes text ↔ rest <:+ text := by
  induction text with
  | nil => simp [suffixes]
  | cons c text ih => rw [suffixes, List.mem_cons, ih, List.suffix_cons_iff]

theorem fits_nil_iff : Fits [] text ↔ text = [] := by
  simp [Fits, fits]

theorem fits_char_iff {c : Char} :
    Fits (.char c :: items) text ↔ ∃ rest, text = c :: rest ∧ Fits items rest := by
  cases text with
  | nil => simp [Fits, fits]
  | cons d rest =>
      simp only [Fits, fits, Bool.and_eq_true, beq_iff_eq, List.cons.injEq]
      constructor
      · rintro ⟨rfl, later⟩
        exact ⟨rest, ⟨rfl, rfl⟩, later⟩
      · rintro ⟨_, ⟨rfl, rfl⟩, later⟩
        exact ⟨rfl, later⟩

theorem fits_one_iff :
    Fits (.one :: items) text ↔ ∃ c rest, text = c :: rest ∧ Fits items rest := by
  cases text with
  | nil => simp [Fits, fits]
  | cons d rest => simp [Fits, fits, and_assoc]

theorem fits_run_iff :
    Fits (.run :: items) text ↔ ∃ passed rest, text = passed ++ rest ∧ Fits items rest := by
  simp only [Fits, fits, List.any_eq_true, mem_suffixes]
  constructor
  · rintro ⟨rest, ⟨passed, rfl⟩, matched⟩
    exact ⟨passed, rest, rfl, matched⟩
  · rintro ⟨passed, rest, rfl, matched⟩
    exact ⟨rest, ⟨passed, rfl⟩, matched⟩

/-- Read character by character, a pattern matches the texts it stands for. -/
theorem fits_map_itemOf_iff {pattern : List Char} :
    Fits (pattern.map itemOf) text ↔ Covers pattern text := by
  constructor
  · intro matched
    induction pattern generalizing text with
    | nil =>
        rw [fits_nil_iff.mp matched]
        exact .nil
    | cons c pattern ih =>
        rw [List.map_cons, itemOf] at matched
        split at matched
        · rename_i percent
          obtain ⟨passed, rest, rfl, later⟩ := fits_run_iff.mp matched
          exact percent ▸ .run passed (ih later)
        · rename_i other
          split at matched
          · rename_i underscore
            obtain ⟨d, rest, rfl, later⟩ := fits_one_iff.mp matched
            exact underscore ▸ .one d (ih later)
          · rename_i plain
            obtain ⟨rest, rfl, later⟩ := fits_char_iff.mp matched
            exact .char ⟨other, plain⟩ (ih later)
  · intro covers
    induction covers with
    | nil => exact fits_nil_iff.mpr rfl
    | run passed _ ih => exact fits_run_iff.mpr ⟨passed, _, rfl, ih⟩
    | one c _ ih => exact fits_one_iff.mpr ⟨c, _, rfl, ih⟩
    | char plain _ ih =>
        rw [List.map_cons, itemOf, if_neg plain.1, if_neg plain.2]
        exact fits_char_iff.mpr ⟨_, rfl, ih⟩

/-! ## Replacing one item by others -/

/-- Puts items in the place of every occurrence of an item. -/
def replace (old : Item) (new items : List Item) : List Item :=
  items.flatMap fun item => if item = old then new else [item]

section Replace

variable {old other : Item} {new others : List Item}

@[simp]
theorem replace_nil : replace old new [] = [] :=
  rfl

@[simp]
theorem replace_cons_self : replace old new (old :: items) = new ++ replace old new items := by
  simp [replace]

theorem replace_cons_of_ne {item : Item} (ne : item ≠ old) :
    replace old new (item :: items) = item :: replace old new items := by
  simp [replace, ne]

@[simp]
theorem replace_append (first second : List Item) :
    replace old new (first ++ second) = replace old new first ++ replace old new second :=
  List.flatMap_append

theorem replace_of_not_mem (missing : old ∉ items) : replace old new items = items := by
  induction items with
  | nil => rfl
  | cons item items ih =>
      rw [List.mem_cons, not_or] at missing
      rw [replace_cons_of_ne (Ne.symm missing.1), ih missing.2]

/-- Items that do not bring one another up are replaced in any order. -/
theorem replace_comm (ne : old ≠ other) (first : old ∉ others) (second : other ∉ new) :
    replace old new (replace other others items) = replace other others (replace old new items) := by
  induction items with
  | nil => rfl
  | cons item items ih =>
      by_cases isOld : item = old
      · subst isOld
        rw [replace_cons_of_ne ne, replace_cons_self, replace_cons_self, replace_append, ih,
          replace_of_not_mem second]
      · by_cases isOther : item = other
        · subst isOther
          rw [replace_cons_self, replace_append, ih, replace_of_not_mem first,
            replace_cons_of_ne isOld, replace_cons_self]
        · rw [replace_cons_of_ne isOther, replace_cons_of_ne isOld, replace_cons_of_ne isOld,
            replace_cons_of_ne isOther, ih]

theorem replace_replace (missing : other ∉ items) :
    replace other others (replace old [other] items) = replace old others items := by
  induction items with
  | nil => rfl
  | cons item items ih =>
      rw [List.mem_cons, not_or] at missing
      by_cases isOld : item = old
      · subst isOld
        rw [replace_cons_self, replace_cons_self, List.singleton_append, replace_cons_self,
          ih missing.2]
      · rw [replace_cons_of_ne isOld, replace_cons_of_ne isOld,
          replace_cons_of_ne (Ne.symm missing.1), ih missing.2]

end Replace

/-! ## What the texts say about the items -/

/-- The items that stand for one character each. -/
def fixed (items : List Item) : List Item :=
  replace .run [] items

@[simp]
theorem fixed_nil : fixed [] = [] :=
  rfl

@[simp]
theorem fixed_cons_run : fixed (.run :: items) = fixed items :=
  replace_cons_self

theorem fixed_cons_of_ne {item : Item} (ne : item ≠ .run) :
    fixed (item :: items) = item :: fixed items :=
  replace_cons_of_ne ne

@[simp]
theorem fixed_cons_one : fixed (.one :: items) = .one :: fixed items :=
  fixed_cons_of_ne (by simp)

@[simp]
theorem fixed_cons_char (c : Char) : fixed (.char c :: items) = .char c :: fixed items :=
  fixed_cons_of_ne (by simp)

/-- Whether an item stands for one character, and for this one among others. -/
def Item.Admits (item : Item) (c : Char) : Prop :=
  item = .one ∨ item = .char c

/-- A character that an item stands for, `c` if it may be any. -/
def Item.sample (c : Char) : Item → Char
  | .char d => d
  | .one => c
  | .run => c

/-- The shortest text of this form is one that the items match. -/
theorem fits_sample (c : Char) (items : List Item) :
    Fits items ((fixed items).map (Item.sample c)) := by
  induction items with
  | nil => exact fits_nil_iff.mpr rfl
  | cons item items ih =>
      cases item with
      | run =>
          rw [fixed_cons_run]
          exact fits_run_iff.mpr ⟨[], _, rfl, ih⟩
      | one =>
          rw [fixed_cons_one]
          exact fits_one_iff.mpr ⟨c, _, rfl, ih⟩
      | char d =>
          rw [fixed_cons_char]
          exact fits_char_iff.mpr ⟨_, rfl, ih⟩

/-- A text that the items match holds a character for each item that stands for one, in order. -/
theorem exists_admitted (matched : Fits items text) :
    ∃ kept, kept.Sublist text ∧ List.Forall₂ Item.Admits (fixed items) kept := by
  induction items generalizing text with
  | nil => exact ⟨[], List.nil_sublist _, .nil⟩
  | cons item items ih =>
      cases item with
      | run =>
          obtain ⟨passed, rest, rfl, later⟩ := fits_run_iff.mp matched
          obtain ⟨kept, within, admitted⟩ := ih later
          rw [fixed_cons_run]
          exact ⟨kept, within.trans (List.sublist_append_right _ _), admitted⟩
      | one =>
          obtain ⟨c, rest, rfl, later⟩ := fits_one_iff.mp matched
          obtain ⟨kept, within, admitted⟩ := ih later
          rw [fixed_cons_one]
          exact ⟨c :: kept, within.cons_cons c, .cons (.inl rfl) admitted⟩
      | char d =>
          obtain ⟨rest, rfl, later⟩ := fits_char_iff.mp matched
          obtain ⟨kept, within, admitted⟩ := ih later
          rw [fixed_cons_char]
          exact ⟨d :: kept, within.cons_cons d, .cons (.inr rfl) admitted⟩

theorem eq_of_admits {first second : List Item}
    (there : ∀ c, List.Forall₂ Item.Admits second (first.map (Item.sample c)))
    (back : ∀ c, List.Forall₂ Item.Admits first (second.map (Item.sample c))) :
    first = second := by
  induction first generalizing second with
  | nil =>
      have empty := (there 'a').length_eq
      rw [List.map_nil, List.length_nil, List.length_eq_zero_iff] at empty
      exact empty.symm
  | cons item first ih =>
      cases second with
      | nil => cases there 'a'
      | cons other second =>
          simp only [List.map_cons, List.forall₂_cons] at there back
          rw [ih (fun c => (there c).2) fun c => (back c).2]
          have same : item = other := by
            rcases (back 'a').1 with rfl | char
            · rcases (there 'a').1 with rfl | rfl
              · rfl
              · exact absurd (there 'b').1 (by simp [Item.Admits, Item.sample])
            · rcases (there 'a').1 with rfl | rfl
              · rw [char] at back
                exact absurd (back 'b').1 (by simp [Item.Admits, Item.sample])
              · rw [char]
                cases item with
                | char d => rfl
                | one | run => cases char
          rw [same]

/-- Items that match the same texts are the same, runs apart. -/
theorem fixed_eq_of_fits {others : List Item}
    (alike : ∀ text, Fits items text ↔ Fits others text) : fixed items = fixed others := by
  have shorter {first second : List Item} (within : ∀ text, Fits first text → Fits second text)
      (c : Char) :
      ∃ kept : List Char, kept.Sublist ((fixed first).map (Item.sample c)) ∧
        List.Forall₂ Item.Admits (fixed second) kept :=
    exists_admitted (within _ (fits_sample c first))
  have length_le {first second : List Item}
      (within : ∀ text, Fits first text → Fits second text) :
      (fixed second).length ≤ (fixed first).length := by
    obtain ⟨kept, part, admitted⟩ := shorter within 'a'
    have least := part.length_le
    rwa [List.length_map, ← admitted.length_eq] at least
  have length_eq : (fixed items).length = (fixed others).length :=
    Nat.le_antisymm (length_le fun text => (alike text).mpr) (length_le fun text => (alike text).mp)
  apply eq_of_admits
  · intro c
    obtain ⟨kept, part, admitted⟩ := shorter (fun text => (alike text).mp) c
    have whole : kept = _ := part.eq_of_length (by
      rw [List.length_map, ← admitted.length_eq, length_eq])
    exact whole ▸ admitted
  · intro c
    obtain ⟨kept, part, admitted⟩ := shorter (fun text => (alike text).mpr) c
    have whole : kept = _ := part.eq_of_length (by
      rw [List.length_map, ← admitted.length_eq, length_eq])
    exact whole ▸ admitted

end RowGuard.Text.Pattern
