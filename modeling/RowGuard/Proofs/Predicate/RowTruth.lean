import RowGuard.Proofs.Predicate.Laws

/-! The truth of a predicate as rows are filtered by it. Two things are settled
before a row is looked at: a part that does not read the record is decided, and
a test of a field beyond a to-one relation asks for the related row first. Both
turn the unknown into a no, which a negation around them then turns into a
yes. A choice filters the rows of each branch that the branches before it
leave. -/

set_option autoImplicit false

namespace RowGuard

/-- Whether an operand is read through a relation. -/
def Operand.isRemote : Operand → Bool
  | .record (_ :: _ :: _) => true
  | _ => false

namespace Predicate

/-- The truth of a comparison of rows. -/
def rowCompare (actor : Value) (comparator : Comparator) (left right : Operand)
    (record : Value) : Truth :=
  let truth := comparator.compare (left.read actor record) (right.read actor record)
  if (left.readsRecord || right.readsRecord) && !(left.isRemote || right.isRemote) then truth
  else truth.decided

/-- Whether a row is left over by a branch: its condition fails, or it compares a field that is
null. -/
def rowMissed (record : Value) (key : Predicate) (matched : Truth) : Truth :=
  match key with
  | .compare _ (.record path) _ => matched.not.or (.ofBool (record.read path).isNull)
  | _ => matched.not

mutual

/-- The truth of a predicate as rows are filtered by it. -/
def rowTruth (actor : Value) (p : Predicate) (record : Value) : Truth :=
  if p.readsRecord then
    match p with
    | .all operands => rowAll actor operands record
    | .any operands => rowAny actor operands record
    | .not operand => (rowTruth actor operand record).not
    | .compare comparator left right => rowCompare actor comparator left right record
    | .member operand values negated =>
      let truth :=
        ((operand.read actor record).membership (values.read actor record)).negatedIf negated
      if operand.isRemote then truth.decided else truth
    | .anyRelated relation condition _ =>
      .ofBool (((record.read [relation]).items?.getD []).any fun row =>
        (rowTruth actor condition row).holds)
    | .select subject branches otherwise =>
      rowSelect actor subject branches record (rowTruth actor otherwise record)
    | .firstOf branches otherwise =>
      rowFirst actor branches record (rowTruth actor otherwise record)
    | .role condition => rowTruth actor condition record
    | p => p.truth actor record
  else (p.truth actor record).decided
termination_by structural p

def rowAll (actor : Value) (ps : List Predicate) (record : Value) : Truth :=
  match ps with
  | [] => .yes
  | p :: ps => (rowTruth actor p record).and (rowAll actor ps record)
termination_by structural ps

def rowAny (actor : Value) (ps : List Predicate) (record : Value) : Truth :=
  match ps with
  | [] => .no
  | p :: ps => (rowTruth actor p record).or (rowAny actor ps record)
termination_by structural ps

def rowSelect (actor : Value) (subject : Operand) (branches : List (Operand × Predicate))
    (record : Value) (last : Truth) : Truth :=
  match branches with
  | [] => last
  | (key, outcome) :: rest =>
    let matched := rowCompare actor .eq subject key record
    (matched.and (rowTruth actor outcome record)).or
      ((rowMissed record (oriented .eq subject key) matched).and
        (rowSelect actor subject rest record last))
termination_by structural branches

def rowFirst (actor : Value) (branches : List (Predicate × Predicate)) (record : Value)
    (last : Truth) : Truth :=
  match branches with
  | [] => last
  | (key, outcome) :: rest =>
    let matched := rowTruth actor key record
    (matched.and (rowTruth actor outcome record)).or
      ((rowMissed record key matched).and (rowFirst actor rest record last))
termination_by structural branches

end

/-! ## Equations -/

variable {admitted : Unresolved → Prop} {p : Predicate} {actor record : Value}

theorem rowTruth_of_unread (unread : p.readsRecord = Bool.false) :
    p.rowTruth actor record = (p.truth actor record).decided := by
  unfold rowTruth
  rw [unread, if_neg Bool.false_ne_true]

theorem rowAll_eq (actor : Value) (ps : List Predicate) (record : Value) :
    rowAll actor ps record = Truth.all (ps.map (rowTruth actor · record)) := by
  induction ps with
  | nil => rfl
  | cons p ps ih => simp only [rowAll, List.map_cons, Truth.all_cons, ih]

theorem rowAny_eq (actor : Value) (ps : List Predicate) (record : Value) :
    rowAny actor ps record = Truth.any (ps.map (rowTruth actor · record)) := by
  induction ps with
  | nil => rfl
  | cons p ps ih => simp only [rowAny, List.map_cons, Truth.any_cons, ih]

theorem rowTruth_all {ps : List Predicate} (compiled : ∀ p ∈ ps, p.Compiled admitted) :
    rowTruth actor (.all ps) record = Truth.all (ps.map (rowTruth actor · record)) := by
  cases reads : (Predicate.all ps).readsRecord with
  | true => exact (if_pos reads).trans (rowAll_eq actor ps record)
  | false =>
      have unread := anyReadsRecord_eq_false_iff.mp reads
      have proper : ∀ t ∈ ps.map (truth actor · record), t.isProper :=
        List.forall_mem_map.mpr fun p member => (compiled p member).isProper_truth actor record
      rw [rowTruth_of_unread reads, truth_all, Truth.decided_all proper, List.map_map]
      exact congrArg Truth.all
        (List.map_congr_left fun p member => (rowTruth_of_unread (unread p member)).symm)

theorem rowTruth_any (ps : List Predicate) :
    rowTruth actor (.any ps) record = Truth.any (ps.map (rowTruth actor · record)) := by
  cases reads : (Predicate.any ps).readsRecord with
  | true => exact (if_pos reads).trans (rowAny_eq actor ps record)
  | false =>
      have unread := anyReadsRecord_eq_false_iff.mp reads
      rw [rowTruth_of_unread reads, truth_any, Truth.decided_any, List.map_map]
      exact congrArg Truth.any
        (List.map_congr_left fun p member => (rowTruth_of_unread (unread p member)).symm)

theorem rowTruth_compare (comparator : Comparator) (left right : Operand) :
    rowTruth actor (.compare comparator left right) record =
      rowCompare actor comparator left right record := by
  cases reads : (Predicate.compare comparator left right).readsRecord with
  | true => exact if_pos reads
  | false =>
      rw [rowTruth_of_unread reads, rowCompare]
      rw [readsRecord] at reads
      rw [reads, Bool.false_and, if_neg Bool.false_ne_true, truth]

theorem rowTruth_not (reads : p.readsRecord) :
    rowTruth actor (.not p) record = (p.rowTruth actor record).not :=
  if_pos reads

theorem rowTruth_role : rowTruth actor (.role p) record = p.rowTruth actor record := by
  cases reads : p.readsRecord with
  | false => rw [rowTruth_of_unread (p := .role p) reads, rowTruth_of_unread reads, truth]
  | true => exact if_pos reads

theorem rowTruth_member {operand values : Operand} {negated : Bool}
    (reads : (Predicate.member operand values negated).readsRecord) :
    rowTruth actor (.member operand values negated) record =
      let truth := (Predicate.member operand values negated).truth actor record
      if operand.isRemote then truth.decided else truth :=
  if_pos reads

theorem rowTruth_isNull (operand : Operand) (negated : Bool) :
    rowTruth actor (.isNull operand negated) record =
      (Predicate.isNull operand negated).truth actor record := by
  cases reads : (Predicate.isNull operand negated).readsRecord with
  | false => rw [rowTruth_of_unread reads, truth, Truth.decided_ofBool]
  | true => exact if_pos reads

theorem rowTruth_oriented (comparator : Comparator) (left right : Operand) :
    rowTruth actor (oriented comparator left right) record =
      rowCompare actor comparator left right record := by
  rw [oriented]
  split
  · exact rowTruth_compare comparator left right
  · cases flips : comparator.flipped? with
    | none => exact rowTruth_compare comparator left right
    | some flipped =>
        simp only [rowTruth_compare, rowCompare, Comparator.compare_flipped flips,
          Bool.or_comm right.readsRecord, Bool.or_comm right.isRemote]

theorem rowSelect_eq_keyed (actor : Value) (subject : Operand)
    (branches : List (Operand × Predicate)) (record : Value) (last : Truth) :
    rowSelect actor subject branches record last =
      rowFirst actor (keyed subject branches) record last := by
  induction branches with
  | nil => rfl
  | cons branch rest ih =>
      simp only [keyed, List.map_cons, rowSelect, rowFirst, rowTruth_oriented]
      rw [ih]
      rfl

theorem isProper_rowFirst {last : Truth} (proper : last.isProper) (actor : Value)
    (branches : List (Predicate × Predicate)) (record : Value) :
    (rowFirst actor branches record last).isProper := by
  cases branches with
  | nil => exact proper
  | cons branch rest => exact Truth.isProper_or _ _

theorem Choice.rowTruth_eq {branches : List (Predicate × Predicate)} {otherwise : Predicate}
    (choice : p.Choice branches otherwise) (reads : p.readsRecord) (actor record : Value) :
    p.rowTruth actor record =
      rowFirst actor branches record (otherwise.rowTruth actor record) := by
  cases choice with
  | select => exact (if_pos reads).trans (rowSelect_eq_keyed _ _ _ _ _)
  | firstOf => exact if_pos reads

theorem isProper_rowCompare (actor : Value) (comparator : Comparator) (left right : Operand)
    (record : Value) : (rowCompare actor comparator left right record).isProper := by
  rw [rowCompare]
  split
  · exact Comparator.isProper_compare _ _ _
  · exact Truth.isProper_decided _

theorem Compiled.isProper_rowTruth (compiled : p.Compiled admitted) (actor record : Value) :
    (p.rowTruth actor record).isProper := by
  have unread {p : Predicate} (reads : p.readsRecord = Bool.false) :
      (p.rowTruth actor record).isProper := by
    rw [rowTruth_of_unread reads]
    exact Truth.isProper_decided _
  induction compiled with
  | const => exact unread rfl
  | all operands _ => rw [rowTruth_all operands]; exact Truth.isProper_all _
  | any _ _ => rw [rowTruth_any]; exact Truth.isProper_any _
  | @not operand _ _ =>
      cases reads : (Predicate.not operand).readsRecord with
      | false => exact unread reads
      | true =>
          rw [readsRecord] at reads
          rw [rowTruth_not reads]
          exact Truth.isProper_not _
  | compare _ _ _ _ => rw [rowTruth_compare]; exact isProper_rowCompare _ _ _ _ _
  | @member operand values negated _ _ =>
      cases reads : (Predicate.member operand values negated).readsRecord with
      | false => exact unread reads
      | true =>
          rw [rowTruth_member reads]
          split
          · exact Truth.isProper_decided _
          · exact Truth.isProper_negatedIf (Value.isProper_membership _ _) _
  | isNull _ => rw [rowTruth_isNull]; exact Truth.isProper_ofBool _
  | anyRelated _ _ _ => exact Truth.isProper_ofBool _
  | @select subject branches otherwise _ _ _ _ _ ih =>
      cases reads : (Predicate.select subject branches otherwise).readsRecord with
      | false => exact unread reads
      | true => rw [Choice.select.rowTruth_eq reads]; exact isProper_rowFirst ih _ _ _
  | @firstOf branches otherwise _ _ _ _ _ ih =>
      cases reads : (Predicate.firstOf branches otherwise).readsRecord with
      | false => exact unread reads
      | true => rw [Choice.firstOf.rowTruth_eq reads]; exact isProper_rowFirst ih _ _ _
  | @role condition _ ih =>
      rw [rowTruth_role]
      exact ih
  | @unresolved construct value default _ =>
      change ((Predicate.unresolved construct).truth actor record).isProper
      simp only [truth, default]
      exact Truth.isProper_ofBool _

end Predicate

end RowGuard
