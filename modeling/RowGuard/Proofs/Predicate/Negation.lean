import RowGuard.Proofs.Predicate.NullSafety

/-! Negation and the filtering of rows. A negated operand that is unknown for a
record may be false for rows, and then its negation is true for them: it is
blind. Blind negations are the only way in which a row passes where the record
is denied. -/

set_option autoImplicit false

namespace RowGuard

/-! ## Bounds -/

/-- A row truth that is never more than the truth: what is true for rows is true, and what is false
for rows is not. -/
structure Truth.Bounds (row truth : Truth) : Prop where
  yes : row = .yes → truth = .yes
  no : row = .no → truth ≠ .yes

namespace Truth.Bounds

variable {r s t u : Truth}

theorem refl (t : Truth) : Bounds t t :=
  ⟨id, by rintro rfl; simp⟩

theorem decided (t : Truth) : Bounds t.decided t := by
  refine ⟨fun row => ?_, fun row same => ?_⟩
  · rw [Truth.decided, ofBool_eq_yes_iff] at row
    exact holds_iff.mp row
  · rw [same] at row
    cases row

theorem and (first : Bounds r t) (second : Bounds s u) (properR : r.isProper) (properS : s.isProper)
    (properT : t.isProper) (properU : u.isProper) : Bounds (r.and s) (t.and u) := by
  constructor
  · intro row
    obtain ⟨left, right⟩ := (and_eq_yes_iff properR properS).mp row
    exact (and_eq_yes_iff properT properU).mpr ⟨first.yes left, second.yes right⟩
  · intro row both
    obtain ⟨left, right⟩ := (and_eq_yes_iff properT properU).mp both
    obtain row | row := and_eq_no_iff.mp row
    · exact first.no row left
    · exact second.no row right

theorem or (first : Bounds r t) (second : Bounds s u) (properR : r.isProper)
    (properS : s.isProper) : Bounds (r.or s) (t.or u) := by
  constructor
  · intro row
    exact or_eq_yes_iff.mpr ((or_eq_yes_iff.mp row).imp first.yes second.yes)
  · intro row either
    obtain ⟨left, right⟩ := (or_eq_no_iff properR properS).mp row
    obtain yes | yes := or_eq_yes_iff.mp either
    · exact first.no left yes
    · exact second.no right yes

end Truth.Bounds

namespace Predicate

/-- The operands of the negations in a predicate, less those that do not read the record: they are
decided together with their negations. -/
inductive Negates : Predicate → Predicate → Prop where
  | here {q : Predicate} : q.readsRecord → Negates (.not q) q
  | not {p q : Predicate} : Negates p q → Negates (.not p) q
  | all {ps : List Predicate} {p q : Predicate} : p ∈ ps → Negates p q → Negates (.all ps) q
  | any {ps : List Predicate} {p q : Predicate} : p ∈ ps → Negates p q → Negates (.any ps) q
  | role {p q : Predicate} : Negates p q → Negates (.role p) q
  | key {p q otherwise : Predicate} {branches : List (Predicate × Predicate)}
      {branch : Predicate × Predicate} : p.Choice branches otherwise → branch ∈ branches →
      Negates branch.1 q → Negates p q
  | outcome {p q otherwise : Predicate} {branches : List (Predicate × Predicate)}
      {branch : Predicate × Predicate} : p.Choice branches otherwise → branch ∈ branches →
      Negates branch.2 q → Negates p q
  | otherwise {p q otherwise : Predicate} {branches : List (Predicate × Predicate)} :
      p.Choice branches otherwise → Negates otherwise q → Negates p q

/-- Whether an operand is false for rows where it is unknown for the record. -/
def Hidden (actor record : Value) (q : Predicate) : Prop :=
  q.rowTruth actor record = .no ∧ q.truth actor record = .unknown

/-- Whether no negation in a predicate has a hidden operand. -/
def Sighted (actor record : Value) (p : Predicate) : Prop :=
  ∀ q, p.Negates q → ¬q.Hidden actor record

variable {admitted : Unresolved → Prop} {p : Predicate} {actor record : Value}

/-! ## Connectives -/

theorem bounds_all {ps : List Predicate} (compiled : ∀ p ∈ ps, p.Compiled admitted)
    (each : ∀ p ∈ ps, Truth.Bounds (p.rowTruth actor record) (p.truth actor record)) :
    Truth.Bounds (Truth.all (ps.map (rowTruth actor · record)))
      (Truth.all (ps.map (truth actor · record))) := by
  induction ps with
  | nil => exact .refl _
  | cons p ps ih =>
      rw [List.forall_mem_cons] at compiled each
      exact each.1.and (ih compiled.2 each.2) (compiled.1.isProper_rowTruth actor record)
        (Truth.isProper_all _) (compiled.1.isProper_truth actor record) (Truth.isProper_all _)

theorem bounds_any {ps : List Predicate} (compiled : ∀ p ∈ ps, p.Compiled admitted)
    (each : ∀ p ∈ ps, Truth.Bounds (p.rowTruth actor record) (p.truth actor record)) :
    Truth.Bounds (Truth.any (ps.map (rowTruth actor · record)))
      (Truth.any (ps.map (truth actor · record))) := by
  induction ps with
  | nil => exact .refl _
  | cons p ps ih =>
      rw [List.forall_mem_cons] at compiled each
      exact each.1.or (ih compiled.2 each.2) (compiled.1.isProper_rowTruth actor record)
        (Truth.isProper_any _)

theorem bounds_not (compiled : p.Compiled admitted) (visible : ¬p.Hidden actor record)
    (bounds : Truth.Bounds (p.rowTruth actor record) (p.truth actor record)) :
    Truth.Bounds (p.rowTruth actor record).not (p.truth actor record).not := by
  have proper := compiled.isProper_truth actor record
  have rowProper := compiled.isProper_rowTruth actor record
  constructor
  · intro row
    have no := (Truth.not_eq_yes_iff rowProper).mp row
    have denied := bounds.no no
    have known : p.truth actor record ≠ .unknown := fun unknown => visible ⟨no, unknown⟩
    cases value : p.truth actor record with
    | no => rfl
    | unknown => exact absurd value known
    | yes => exact absurd value denied
    | other _ => rw [value] at proper; cases proper
  · intro row
    rw [bounds.yes ((Truth.not_eq_no_iff rowProper).mp row)]
    simp [Truth.not]

theorem bounds_of_isTest (test : p.isTest) :
    Truth.Bounds (p.rowTruth actor record) (p.truth actor record) := by
  obtain same | decided := rowTruth_of_isTest test actor record
  · rw [same]
    exact .refl _
  · rw [decided]
    exact .decided _

/-! ## Choices -/

theorem isProper_rowMissed (record : Value) (key : Predicate) (matched : Truth) :
    (rowMissed record key matched).isProper := by
  unfold rowMissed
  split
  · exact Truth.isProper_or _ _
  · exact Truth.isProper_not _

theorem truth_of_rowMissed_yes {key : Predicate} {matched : Truth} (actor : Value)
    (proper : matched.isProper) (missed : rowMissed record key matched = .yes) :
    matched = .no ∨ key.truth actor record = .unknown := by
  unfold rowMissed at missed
  split at missed
  · obtain no | missing := Truth.or_eq_yes_iff.mp missed
    · exact .inl ((Truth.not_eq_yes_iff proper).mp no)
    · exact .inr (Comparator.compare_of_null (.inl (Truth.ofBool_eq_yes_iff.mp missing)))
  · exact .inl ((Truth.not_eq_yes_iff proper).mp missed)

theorem eq_yes_of_rowMissed_no {key : Predicate} {matched : Truth} (proper : matched.isProper)
    (missed : rowMissed record key matched = .no) : matched = .yes := by
  unfold rowMissed at missed
  split at missed
  · obtain ⟨no, _⟩ := (Truth.or_eq_no_iff (Truth.isProper_not _) (Truth.isProper_ofBool _)).mp missed
    exact (Truth.not_eq_no_iff proper).mp no
  · exact (Truth.not_eq_no_iff proper).mp missed

theorem bounds_rowFirst {branches : List (Predicate × Predicate)} {last rowLast : Truth}
    (proper : rowLast.isProper) (lastBounds : Truth.Bounds rowLast last)
    (compiled : ∀ branch ∈ branches, branch.1.Compiled admitted ∧ branch.2.Compiled admitted)
    (keys : ∀ branch ∈ branches,
      Truth.Bounds (branch.1.rowTruth actor record) (branch.1.truth actor record))
    (outcomes : ∀ branch ∈ branches,
      Truth.Bounds (branch.2.rowTruth actor record) (branch.2.truth actor record)) :
    Truth.Bounds (rowFirst actor branches record rowLast)
      ((truthFirst actor branches record).getD last) := by
  induction branches with
  | nil => exact lastBounds
  | cons branch others ih =>
      obtain ⟨key, outcome⟩ := branch
      rw [List.forall_mem_cons] at compiled keys outcomes
      have rest := ih compiled.2 keys.2 outcomes.2
      have restProper := isProper_rowFirst proper actor others record
      have keyProper := compiled.1.1.isProper_rowTruth actor record
      have outcomeProper := compiled.1.2.isProper_rowTruth actor record
      have missedProper := isProper_rowMissed record key (key.rowTruth actor record)
      rw [rowFirst, truthFirst]
      constructor
      · intro row
        obtain taken | left := Truth.or_eq_yes_iff.mp row
        · obtain ⟨matched, passed⟩ := (Truth.and_eq_yes_iff keyProper outcomeProper).mp taken
          rw [keys.1.yes matched]
          exact outcomes.1.yes passed
        · obtain ⟨missed, passed⟩ := (Truth.and_eq_yes_iff missedProper restProper).mp left
          have unmatched : (key.truth actor record).holds = Bool.false := by
            rw [Truth.holds_eq_false_iff]
            obtain no | unknown := truth_of_rowMissed_yes actor keyProper missed
            · exact keys.1.no no
            · simp [unknown]
          rw [unmatched]
          exact rest.yes passed
      · intro row
        obtain ⟨taken, left⟩ :=
          (Truth.or_eq_no_iff (Truth.isProper_and _ _) (Truth.isProper_and _ _)).mp row
        cases matched : (key.truth actor record).holds with
        | true =>
            obtain no | denied := Truth.and_eq_no_iff.mp taken
            · exact absurd (Truth.holds_iff.mp matched) (keys.1.no no)
            · exact outcomes.1.no denied
        | false =>
            obtain no | denied := Truth.and_eq_no_iff.mp left
            · have yes := keys.1.yes (eq_yes_of_rowMissed_no keyProper no)
              rw [yes] at matched
              cases matched
            · exact rest.no denied

theorem Choice.bounds {branches : List (Predicate × Predicate)} {otherwise : Predicate}
    (choice : p.Choice branches otherwise) (compiled : p.Compiled admitted)
    (keys : ∀ branch ∈ branches,
      Truth.Bounds (branch.1.rowTruth actor record) (branch.1.truth actor record))
    (outcomes : ∀ branch ∈ branches,
      Truth.Bounds (branch.2.rowTruth actor record) (branch.2.truth actor record))
    (last : Truth.Bounds (otherwise.rowTruth actor record) (otherwise.truth actor record)) :
    Truth.Bounds (p.rowTruth actor record) (p.truth actor record) := by
  cases reads : p.readsRecord with
  | false => rw [rowTruth_of_unread reads]; exact .decided _
  | true =>
      obtain ⟨parts, lastPart⟩ := choice.compiled compiled
      rw [choice.rowTruth_eq reads, choice.truth_eq]
      exact bounds_rowFirst (lastPart.isProper_rowTruth actor record) last parts keys outcomes

/-! ## Predicates -/

/-- Where no negation has a hidden operand, what is true for rows is true for the record. -/
theorem Compiled.bounds (compiled : p.Compiled fun _ => False) (sighted : p.Sighted actor record) :
    Truth.Bounds (p.rowTruth actor record) (p.truth actor record) := by
  induction compiled with
  | const => rw [rowTruth_of_unread rfl]; exact .decided _
  | all operands ih =>
      rw [rowTruth_all operands, truth_all]
      exact bounds_all operands fun p member =>
        ih p member fun q inside => sighted q (.all member inside)
  | any operands ih =>
      rw [rowTruth_any, truth_any]
      exact bounds_any operands fun p member =>
        ih p member fun q inside => sighted q (.any member inside)
  | @not operand compiled ih =>
      cases reads : operand.readsRecord with
      | false => rw [rowTruth_of_unread (p := .not operand) reads]; exact .decided _
      | true =>
          rw [rowTruth_not reads, truth]
          exact bounds_not compiled (sighted operand (.here reads))
            (ih fun q inside => sighted q (.not inside))
  | compare _ _ _ _ => exact bounds_of_isTest rfl
  | member _ _ => exact bounds_of_isTest rfl
  | isNull _ => exact bounds_of_isTest rfl
  | anyRelated test _ _ => rw [rowTruth_anyRelated test]; exact .refl _
  | @select subject _ _ own keys outcomes otherwise outcomeIH otherwiseIH =>
      refine Choice.select.bounds (.select own keys outcomes otherwise) ?_ ?_ ?_
      · exact List.forall_mem_map.mpr fun branch _ =>
          bounds_of_isTest (isTest_oriented .eq subject branch.1)
      · refine List.forall_mem_map.mpr fun branch member => outcomeIH branch member ?_
        exact fun q inside => sighted q (.outcome .select (List.mem_map_of_mem member) inside)
      · exact otherwiseIH fun q inside => sighted q (.otherwise .select inside)
  | firstOf keys outcomes otherwise keyIH outcomeIH otherwiseIH =>
      refine Choice.firstOf.bounds (.firstOf keys outcomes otherwise) ?_ ?_ ?_
      · intro branch member
        exact keyIH branch member fun q inside => sighted q (.key .firstOf member inside)
      · intro branch member
        exact outcomeIH branch member fun q inside => sighted q (.outcome .firstOf member inside)
      · exact otherwiseIH fun q inside => sighted q (.otherwise .firstOf inside)
  | role _ ih =>
      rw [rowTruth_role, truth]
      exact ih fun q inside => sighted q (.role inside)
  | unresolved _ admits => exact admits.elim

/-- A negation is true for rows where it is not for the record if and only if its operand is
hidden. -/
theorem Compiled.hidden_iff (compiled : p.Compiled fun _ => False) (reads : p.readsRecord)
    (sighted : p.Sighted actor record) :
    (rowTruth actor (.not p) record).holds = Bool.true ∧
        (truth actor (.not p) record).holds = Bool.false ↔ p.Hidden actor record := by
  have proper := compiled.isProper_truth actor record
  have rowProper := compiled.isProper_rowTruth actor record
  rw [rowTruth_not reads, truth, Truth.holds_iff, Truth.holds_eq_false_iff,
    Truth.not_eq_yes_iff rowProper, Ne, Truth.not_eq_yes_iff proper]
  constructor
  · rintro ⟨row, notFalse⟩
    refine ⟨row, ?_⟩
    have notTrue := (compiled.bounds sighted).no row
    cases value : p.truth actor record with
    | no => exact absurd value notFalse
    | yes => exact absurd value notTrue
    | unknown => rfl
    | other _ => rw [value] at proper; cases proper
  · rintro ⟨row, unknown⟩
    exact ⟨row, by simp [unknown]⟩

end Predicate

end RowGuard
