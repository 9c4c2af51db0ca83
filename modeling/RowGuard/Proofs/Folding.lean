import RowGuard.Predicate.Basic
import RowGuard.RowFilter.Basic
import RowGuard.Proofs.Truth

/-! Folding connectives. Predicates and row filters have conjunctions and
disjunctions that open up inner ones of their own kind, drop what adds nothing
and collapse when one part settles the whole. The four of them are one
construction, and what it keeps is shown once: every property of parts that the
connective itself keeps, and the truth of the parts. -/

set_option autoImplicit false

namespace RowGuard.Folding

variable {α : Type} {opened : α → Option (List α)} {items : List α}

/-- The parts of items, each item opened up; `none` if an item settles the whole. -/
def parts (opened : α → Option (List α)) : List α → Option (List α)
  | [] => some []
  | item :: items =>
    match opened item, parts opened items with
    | some inner, some rest => some (inner ++ rest)
    | _, _ => none

/-- What parts are joined to: a single part stands for itself. -/
def joined (settled empty : α) (node : List α → α) : Option (List α) → α
  | none => settled
  | some [] => empty
  | some [part] => part
  | some parts => node parts

/-! ## What folding keeps -/

theorem mem_parts {found : List α} (folded : parts opened items = some found) {part : α}
    (member : part ∈ found) : ∃ item ∈ items, ∃ inner, opened item = some inner ∧ part ∈ inner := by
  induction items generalizing found with
  | nil =>
      cases folded
      cases member
  | cons item items ih =>
      simp only [parts] at folded
      split at folded
      · next inner rest opens folds =>
          cases folded
          rcases List.mem_append.mp member with first | later
          · exact ⟨item, .head _, inner, opens, first⟩
          · obtain ⟨other, among, rest⟩ := ih folds later
            exact ⟨other, .tail _ among, rest⟩
      · cases folded

/-- Folding ends in one part, or in a node with two parts or more. -/
theorem joined_parts_induction {motive single : α → Prop} {settled empty : α} {node : List α → α}
    (onSettled : motive settled) (onEmpty : motive empty) (onPart : ∀ p, single p → motive p)
    (onNode : ∀ ps, 2 ≤ ps.length → (∀ p ∈ ps, single p) → motive (node ps))
    (onOpened : ∀ item ∈ items, ∀ inner, opened item = some inner → ∀ p ∈ inner, single p) :
    motive (joined settled empty node (parts opened items)) := by
  cases folded : parts opened items with
  | none => exact onSettled
  | some found =>
      have each : ∀ part ∈ found, single part := by
        intro part member
        obtain ⟨item, among, inner, opens, inside⟩ := mem_parts folded member
        exact onOpened item among inner opens part inside
      match found with
      | [] => exact onEmpty
      | [part] => exact onPart part (each part (.head _))
      | first :: second :: rest => exact onNode _ (by simp) each

/-- Folding stays within every class of nodes that is closed under the connective and under opening
it up. -/
theorem joined_induction {motive : α → Prop} {settled empty : α} {node : List α → α}
    (onSettled : motive settled) (onEmpty : motive empty)
    (onNode : ∀ ps, (∀ p ∈ ps, motive p) → motive (node ps))
    (onOpened : ∀ item inner, motive item → opened item = some inner → ∀ p ∈ inner, motive p)
    (onItems : ∀ item ∈ items, motive item) :
    motive (joined settled empty node (parts opened items)) := by
  apply joined_parts_induction onSettled onEmpty (fun _ => id) (fun ps _ => onNode ps)
  intro item member inner opens
  exact onOpened item inner (onItems item member) opens

/-- What some part of every item has, and a node with such a part, is not lost by folding. -/
theorem joined_of_exists {motive : α → Prop} {settled empty : α} {node : List α → α}
    (nonempty : items ≠ []) (onNode : ∀ ps, (∃ p ∈ ps, motive p) → motive (node ps))
    (onItems : ∀ item ∈ items, ∃ inner, opened item = some inner ∧ ∃ p ∈ inner, motive p) :
    motive (joined settled empty node (parts opened items)) := by
  have folded : ∃ found, parts opened items = some found ∧ ∃ p ∈ found, motive p := by
    induction items with
    | nil => exact absurd rfl nonempty
    | cons item items ih =>
        rw [List.forall_mem_cons] at onItems
        obtain ⟨⟨inner, opens, part, inside, held⟩, later⟩ := onItems
        cases items with
        | nil => exact ⟨inner ++ [], by simp [parts, opens], part, by simp [inside], held⟩
        | cons next rest =>
            obtain ⟨found, folds, _⟩ := ih (by simp) later
            refine ⟨inner ++ found, ?_, part, List.mem_append_left _ inside, held⟩
            rw [parts, opens, folds]
  obtain ⟨found, folds, part, member, held⟩ := folded
  rw [folds]
  match found with
  | [] => cases member
  | [single] =>
      cases List.mem_singleton.mp member
      exact held
  | first :: second :: rest => exact onNode _ ⟨part, member, held⟩

theorem parts_of_single (single : ∀ item ∈ items, opened item = some [item]) :
    parts opened items = some items := by
  induction items with
  | nil => rfl
  | cons item items ih =>
      rw [List.forall_mem_cons] at single
      rw [parts, single.1, ih single.2]
      rfl

theorem joined_of_single {settled empty : α} {node : List α → α} (several : 2 ≤ items.length)
    (single : ∀ item ∈ items, opened item = some [item]) :
    joined settled empty node (parts opened items) = node items := by
  rw [parts_of_single single]
  match items with
  | first :: second :: rest => rfl

theorem parts_map {f : α → α}
    (opens : ∀ item ∈ items, opened (f item) = (opened item).map (List.map f)) :
    parts opened (items.map f) = (parts opened items).map (List.map f) := by
  induction items with
  | nil => rfl
  | cons item items ih =>
      rw [List.forall_mem_cons] at opens
      simp only [List.map_cons, parts, opens.1, ih opens.2]
      cases opened item with
      | none => rfl
      | some inner =>
          cases parts opened items with
          | none => rfl
          | some rest => simp

/-- A change of nodes that passes through the connective can be made before or after folding. -/
theorem joined_map {f : α → α} {settled empty : α} {node : List α → α}
    (onSettled : f settled = settled) (onEmpty : f empty = empty)
    (onNode : ∀ ps, f (node ps) = node (ps.map f))
    (opens : ∀ item ∈ items, opened (f item) = (opened item).map (List.map f)) :
    joined settled empty node (parts opened (items.map f)) =
      f (joined settled empty node (parts opened items)) := by
  rw [parts_map opens]
  match parts opened items with
  | none => exact onSettled.symm
  | some [] => exact onEmpty.symm
  | some [_] => rfl
  | some (first :: second :: rest) => exact (onNode (first :: second :: rest)).symm

/-! ## Truth -/

/-- A connective on truths and on lists of them, and the truth that settles it. -/
structure Connective where
  op : Truth → Truth → Truth
  combine : List Truth → Truth
  settling : Truth
  combine_cons : ∀ t ts, combine (t :: ts) = op t (combine ts)
  combine_append : ∀ ts us, combine (ts ++ us) = op (combine ts) (combine us)
  combine_singleton : ∀ t, t.isProper → combine [t] = t
  settling_op : ∀ t, op settling t = settling
  op_settling : ∀ t, op t settling = settling

def conjunction : Connective where
  op := Truth.and
  combine := Truth.all
  settling := .no
  combine_cons := Truth.all_cons
  combine_append := Truth.all_append
  combine_singleton _ := Truth.all_singleton
  settling_op := Truth.no_and
  op_settling := Truth.and_no

def disjunction : Connective where
  op := Truth.or
  combine := Truth.any
  settling := .yes
  combine_cons := Truth.any_cons
  combine_append := Truth.any_append
  combine_singleton _ := Truth.any_singleton
  settling_op := Truth.yes_or
  op_settling := Truth.or_yes

/-- What an item is opened up to has its truth: parts that combine to it, or the settling truth if
there are none. -/
def Opens (connective : Connective) (value : α → Truth) (opened : α → Option (List α))
    (item : α) : Prop :=
  match opened item with
  | none => value item = connective.settling
  | some inner => connective.combine (inner.map value) = connective.combine [value item]

theorem combine_parts {connective : Connective} {value : α → Truth}
    (opens : ∀ item ∈ items, Opens connective value opened item) :
    match parts opened items with
    | none => connective.combine (items.map value) = connective.settling
    | some found => connective.combine (found.map value) = connective.combine (items.map value) := by
  induction items with
  | nil => rfl
  | cons item items ih =>
      rw [List.forall_mem_cons] at opens
      have first := opens.1
      have rest := ih opens.2
      unfold Opens at first
      simp only [parts]
      cases opening : opened item with
      | none =>
          rw [opening] at first
          rw [List.map_cons, connective.combine_cons, first, connective.settling_op]
      | some inner =>
          rw [opening] at first
          cases folding : parts opened items with
          | none =>
              rw [folding] at rest
              simp only [List.map_cons]
              rw [connective.combine_cons, rest, connective.op_settling]
          | some found =>
              rw [folding] at rest
              simp only [List.map_append, List.map_cons]
              calc
                connective.combine (inner.map value ++ found.map value)
                    = connective.combine ([value item] ++ items.map value) := by
                      rw [connective.combine_append, first, rest, ← connective.combine_append]
                _ = connective.combine (value item :: items.map value) := rfl

theorem value_joined (connective : Connective) (value : α → Truth) {settled empty : α}
    {node : List α → α} (onSettled : value settled = connective.settling)
    (onEmpty : value empty = connective.combine [])
    (onNode : ∀ ps, value (node ps) = connective.combine (ps.map value))
    (opens : ∀ item ∈ items, Opens connective value opened item)
    (proper : ∀ item ∈ items, ∀ inner, opened item = some inner → ∀ part ∈ inner,
      (value part).isProper) :
    value (joined settled empty node (parts opened items)) =
      connective.combine (items.map value) := by
  have combined := combine_parts opens
  cases folded : parts opened items with
  | none =>
      rw [folded] at combined
      exact onSettled.trans combined.symm
  | some found =>
      rw [folded] at combined
      rw [← combined]
      match found with
      | [] => exact onEmpty
      | [part] =>
          obtain ⟨item, among, inner, opening, inside⟩ := mem_parts folded (.head _)
          exact (connective.combine_singleton _ (proper item among inner opening part inside)).symm
      | first :: second :: rest => exact onNode _

end RowGuard.Folding
