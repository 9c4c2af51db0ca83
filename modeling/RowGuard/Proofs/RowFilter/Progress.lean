import RowGuard.Proofs.Predicate.Layout
import RowGuard.Proofs.RowFilter.Shape
import RowGuard.Proofs.Strictness

/-! Lowering never gets stuck. A compiled predicate whose fields have paths is
lowered to a filter: every node has a form or is reported by its text, every
path ends in a field, and constant parts are evaluated without a record to
read. -/

set_option autoImplicit false

namespace RowGuard

/-! ## Written predicates -/

theorem Operand.exists_print {operand : Operand} (sound : operand.isSound) (row : String) :
    ∃ text, operand.print row = .ok text := by
  cases operand with
  | foreign _ => cases sound
  | record _ | actor _ _ | value _ | values _ => exact ⟨_, rfl⟩

namespace Predicate

theorem exists_printConjuncts {row : String} {ps : List Predicate}
    (each : ∀ p ∈ ps, ∃ text, p.printWith row = .ok text) :
    ∃ texts, printConjuncts row ps = .ok texts := by
  induction ps with
  | nil => exact ⟨[], rfl⟩
  | cons p ps ih =>
      rw [List.forall_mem_cons] at each
      obtain ⟨text, printed⟩ := each.1
      obtain ⟨texts, others⟩ := ih each.2
      rw [printConjuncts, printed, others]
      exact ⟨_, rfl⟩

theorem exists_printAlternatives {row : String} {ps : List Predicate}
    (each : ∀ p ∈ ps, ∃ text, p.printWith row = .ok text) :
    ∃ texts, printAlternatives row ps = .ok texts := by
  induction ps with
  | nil => exact ⟨[], rfl⟩
  | cons p ps ih =>
      rw [List.forall_mem_cons] at each
      obtain ⟨text, printed⟩ := each.1
      obtain ⟨texts, others⟩ := ih each.2
      rw [printAlternatives, printed, others]
      exact ⟨_, rfl⟩

theorem exists_printSelect {row : String} {branches : List (Operand × Predicate)}
    (keys : ∀ branch ∈ branches, branch.1.isSound)
    (outcomes : ∀ branch ∈ branches, ∃ text, branch.2.printWith row = .ok text) :
    ∃ texts, printSelect row branches = .ok texts := by
  induction branches with
  | nil => exact ⟨[], rfl⟩
  | cons branch rest ih =>
      rw [List.forall_mem_cons] at keys outcomes
      obtain ⟨key, onKey⟩ := Operand.exists_print keys.1 row
      obtain ⟨text, printed⟩ := outcomes.1
      obtain ⟨texts, others⟩ := ih keys.2 outcomes.2
      rw [printSelect, onKey, printed, others]
      exact ⟨_, rfl⟩

theorem exists_printFirst {row : String} {branches : List (Predicate × Predicate)}
    (keys : ∀ branch ∈ branches, ∃ text, branch.1.printWith row = .ok text)
    (outcomes : ∀ branch ∈ branches, ∃ text, branch.2.printWith row = .ok text) :
    ∃ texts, printFirst row branches = .ok texts := by
  induction branches with
  | nil => exact ⟨[], rfl⟩
  | cons branch rest ih =>
      rw [List.forall_mem_cons] at keys outcomes
      obtain ⟨key, onKey⟩ := keys.1
      obtain ⟨text, printed⟩ := outcomes.1
      obtain ⟨texts, others⟩ := ih keys.2 outcomes.2
      rw [printFirst, onKey, printed, others]
      exact ⟨_, rfl⟩

theorem Compiled.exists_printWith {admitted : Unresolved → Prop} {p : Predicate}
    (compiled : p.Compiled admitted) (row : String) : ∃ text, p.printWith row = .ok text := by
  induction compiled generalizing row with
  | const | unresolved _ _ => exact ⟨_, rfl⟩
  | all _ ih =>
      obtain ⟨texts, printed⟩ := exists_printConjuncts fun p member => ih p member row
      rw [printWith, printed]
      exact ⟨_, rfl⟩
  | any _ ih =>
      obtain ⟨texts, printed⟩ := exists_printAlternatives fun p member => ih p member row
      rw [printWith, printed]
      exact ⟨_, rfl⟩
  | not _ ih =>
      obtain ⟨text, printed⟩ := ih row
      rw [printWith, printed]
      exact ⟨_, rfl⟩
  | compare _ left right _ =>
      obtain ⟨l, onLeft⟩ := Operand.exists_print left row
      obtain ⟨r, onRight⟩ := Operand.exists_print right row
      rw [printWith, onLeft, onRight]
      exact ⟨_, rfl⟩
  | member operand values =>
      obtain ⟨o, onOperand⟩ := Operand.exists_print operand row
      obtain ⟨v, onValues⟩ := Operand.exists_print values row
      rw [printWith, onOperand, onValues]
      exact ⟨_, rfl⟩
  | isNull operand =>
      obtain ⟨o, onOperand⟩ := Operand.exists_print operand row
      rw [printWith, onOperand]
      exact ⟨_, rfl⟩
  | anyRelated _ _ ih =>
      obtain ⟨text, printed⟩ := ih "related"
      rw [printWith, printed]
      exact ⟨_, rfl⟩
  | select subject keys _ _ outcomeIH otherwiseIH =>
      obtain ⟨s, onSubject⟩ := Operand.exists_print subject row
      obtain ⟨texts, onBranches⟩ :=
        exists_printSelect keys fun branch member => outcomeIH branch member row
      obtain ⟨text, onOtherwise⟩ := otherwiseIH row
      rw [printWith, onSubject, onBranches, onOtherwise]
      exact ⟨_, rfl⟩
  | firstOf _ _ _ keyIH outcomeIH otherwiseIH =>
      obtain ⟨texts, onBranches⟩ := exists_printFirst
        (fun branch member => keyIH branch member row)
        fun branch member => outcomeIH branch member row
      obtain ⟨text, onOtherwise⟩ := otherwiseIH row
      rw [printWith, onBranches, onOtherwise]
      exact ⟨_, rfl⟩
  | role _ ih => exact ih row

end Predicate

namespace RowFilter

open Compilation (Event)

variable {scope : Scope} {p : Predicate}

/-! ## Tests -/

theorem ends_print (compiled : p.Compiled fun _ => True) : (Compilation.ofExcept p.print).Ends := by
  obtain ⟨text, printed⟩ := compiled.exists_printWith "record"
  refine ⟨text, ?_⟩
  rw [Predicate.print, printed]
  rfl

theorem ends_inexpressible (compiled : p.Compiled fun _ => True) :
    (inexpressible scope p).Ends := by
  refine (ends_print compiled).bind fun text _ => ?_
  exact Traced.Ends.bind ⟨(), rfl⟩ fun _ _ => Traced.ends_pure _

theorem ends_noteSplit (compiled : p.Compiled fun _ => True) (message : String) :
    (noteSplit scope p message).Ends :=
  (ends_print compiled).bind fun _ _ => ⟨(), rfl⟩

theorem ends_atPath (leaf : String → RowFilter) {path : List String} (some : path ≠ []) :
    (atPath leaf path).Ends := by
  induction path with
  | nil => exact absurd rfl some
  | cons name path ih =>
      cases path with
      | nil => exact Traced.ends_pure _
      | cons next path => exact (ih (by simp)).map _

theorem ends_nullAt {path : List String} (some : path ≠ []) : (nullAt path).Ends := by
  induction path with
  | nil => exact absurd rfl some
  | cons name path ih =>
      cases path with
      | nil => exact Traced.ends_pure _
      | cons next path => exact (ih (by simp)).map _

theorem ne_nil_of_fits {comparator : Comparator} {path : List String} {right : Operand}
    (fits : (Predicate.compare comparator (.record path) right).Fits .free ()) : path ≠ [] := by
  cases fits with
  | compare left _ => exact (Layout.holds_record.mp left).ne_nil

theorem ends_fieldTest {run : Compilation RowFilter} (compiled : p.Compiled fun _ => True)
    (fits : p.Fits .free ()) (test : FieldTest scope p run) : run.Ends := by
  cases test with
  | compare _ => exact ends_atPath _ (ne_nil_of_fits fits)
  | member _ =>
      cases fits with
      | member holds => exact ends_atPath _ (Layout.holds_record.mp holds).ne_nil
  | isNull =>
      cases fits with
      | isNull holds => exact (ends_nullAt (Layout.holds_record.mp holds).ne_nil).map _
  | inexpressible => exact ends_inexpressible compiled

theorem ends_unmatched {key : Predicate} (fits : key.Fits .free ()) (matched : RowFilter) :
    (unmatched key matched).Ends := by
  unfold unmatched
  split
  · exact (ends_nullAt (ne_nil_of_fits fits)).map _
  · exact Traced.ends_pure _

theorem ends_lower_of_unread (compiled : p.Compiled fun _ => True) (top : Bool)
    (unread : p.readsRecord = false) : (lower scope top p).Ends := by
  rw [lower_of_unread unread]
  split
  · exact Traced.ends_pure _
  · refine Traced.Ends.map ⟨(p.truth .null .null).holds, ?_⟩ _
    rw [Compilation.ofEvaluation, compiled.result_grants_null]
    rfl

theorem ends_lowerCompare {comparator : Comparator} {left right : Operand}
    (known : comparator.isKnown) (onLeft : left.isSound) (onRight : right.isSound)
    (leftHolds : Layout.free.Holds () left) (rightHolds : Layout.free.Holds () right) :
    (lowerCompare scope comparator left right).Ends := by
  have turned : (Predicate.oriented comparator left right).Compiled fun _ => True :=
    Predicate.compiled_oriented known onLeft onRight
  cases reads : (Predicate.compare comparator left right).readsRecord with
  | false =>
      have own : Predicate.oriented comparator left right = .compare comparator left right := by
        rcases Predicate.oriented_cases comparator left right with same | ⟨_, _, isRecord⟩
        · exact same
        · cases right with
          | record path => simp [Predicate.readsRecord, Operand.readsRecord] at reads
          | actor _ _ | value _ | values _ | foreign _ => cases isRecord
      rw [own] at turned
      have ended : (lower scope false (.compare comparator left right)).Ends :=
        ends_lower_of_unread turned false reads
      rwa [← lowerCompare_eq_lower] at ended
  | true =>
      rw [lowerCompare, settled?_of_readsRecord reads, Option.getD_none]
      exact ends_fieldTest turned (Predicate.fits_oriented leftHolds rightHolds comparator)
        (fieldTest_ofCompare _ _)

/-! ## Connectives and choices -/

theorem ends_splitAny {parts : List RowFilter} (compiled : p.Compiled fun _ => True) :
    (splitAny scope p parts).Ends := by
  unfold splitAny
  split
  · exact Traced.ends_pure _
  · exact Traced.ends_pure _
  · exact (ends_noteSplit compiled _).bind fun _ _ => Traced.ends_pure _

theorem ends_splitAll {top : Bool} {parts : List RowFilter}
    (compiled : ∀ condition ∈ roles parts, condition.Compiled fun _ => True) :
    (splitAll scope top parts).Ends := by
  have noted (message : String) :
      (noteSplit scope (Predicate.allOf (roles parts)) message).Ends :=
    ends_noteSplit (Predicate.compiled_allOf compiled) message
  unfold splitAll
  split
  · exact Traced.ends_pure _
  · exact Traced.ends_pure _
  · split
    · refine Traced.Ends.bind ⟨(), rfl⟩ fun _ _ => ?_
      exact (noted _).bind fun _ _ => Traced.ends_pure _
    · exact (noted _).bind fun _ _ => Traced.ends_pure _

theorem ends_lowerAll {top : Bool} {ps : List Predicate}
    (each : ∀ p ∈ ps, (lower scope top p).Ends) : (lowerAll scope top ps).Ends := by
  induction ps with
  | nil => exact Traced.ends_pure _
  | cons p ps ih =>
      rw [List.forall_mem_cons] at each
      exact each.1.bind fun _ _ => (ih each.2).map _

theorem compiled_roles {top : Bool} {ps : List Predicate} {parts : List RowFilter}
    (compiled : ∀ p ∈ ps, p.Compiled fun _ => True)
    (lowered : (lowerAll scope top ps).result = .ok parts) :
    ∀ condition ∈ roles parts, condition.Compiled fun _ => True := by
  have admits (events : List Event) : scope.Admits events fun _ => True :=
    ⟨fun _ => id, fun _ _ _ => trivial⟩
  have each := (invariant_keeps scope fun _ => True).ofLowerAll top ps
    (Traced.eq_ok_of_result lowered)
  exact (kept_of_each (each_kept each compiled (admits _))).1.roles

theorem ends_chainSelect {subject : Operand} {branches : List (Operand × Predicate)}
    (each : ∀ branch ∈ branches, (lower scope false branch.2).Ends) (last : RowFilter) :
    (chainSelect scope subject last branches).Ends := by
  induction branches with
  | nil => exact Traced.ends_pure _
  | cons branch rest ih =>
      rw [List.forall_mem_cons] at each
      exact (ih each.2).bind fun _ _ => each.1.map _

theorem ends_chainFirst {branches : List (Predicate × Predicate)}
    (each : ∀ branch ∈ branches, (lower scope false branch.2).Ends) (last : RowFilter) :
    (chainFirst scope last branches).Ends := by
  induction branches with
  | nil => exact Traced.ends_pure _
  | cons branch rest ih =>
      rw [List.forall_mem_cons] at each
      exact (ih each.2).bind fun _ _ => each.1.map _

theorem ends_armsOfSelect {subject : Operand} {branches : List (Operand × Predicate)}
    (keys : ∀ branch ∈ branches, (lowerCompare scope .eq subject branch.1).Ends ∧
      (Predicate.oriented .eq subject branch.1).Fits .free ())
    (each : ∀ branch ∈ branches, (lower scope false branch.2).Ends) (excluded : List RowFilter) :
    (armsOfSelect scope subject excluded branches).Ends := by
  induction branches generalizing excluded with
  | nil => exact Traced.ends_pure _
  | cons branch rest ih =>
      rw [List.forall_mem_cons] at keys each
      refine keys.1.1.bind fun matched _ => each.1.bind fun passed _ => ?_
      refine (ends_unmatched keys.1.2 _).bind fun left _ => ?_
      exact (ih keys.2 each.2 _).map _

theorem ends_armsOfFirst {branches : List (Predicate × Predicate)}
    (keys : ∀ branch ∈ branches, (lower scope false branch.1).Ends ∧ branch.1.Fits .free ())
    (each : ∀ branch ∈ branches, (lower scope false branch.2).Ends) (excluded : List RowFilter) :
    (armsOfFirst scope excluded branches).Ends := by
  induction branches generalizing excluded with
  | nil => exact Traced.ends_pure _
  | cons branch rest ih =>
      rw [List.forall_mem_cons] at keys each
      refine keys.1.1.bind fun matched _ => each.1.bind fun passed _ => ?_
      refine (ends_unmatched keys.1.2 _).bind fun left _ => ?_
      exact (ih keys.2 each.2 _).map _

/-! ## Predicates -/

theorem ends_lower_of_form (compiled : p.Compiled fun _ => True) (top : Bool)
    (form : settled? scope p = none → (lower scope top p).Ends) : (lower scope top p).Ends := by
  cases reads : p.readsRecord with
  | false => exact ends_lower_of_unread compiled top reads
  | true => exact form (settled?_of_readsRecord reads)

theorem ends_negated {operand : Predicate} (ended : (lower scope false operand).Ends) :
    (do
      match ← lower scope false operand with
      | .roleOnly condition => return .roleOnly condition.negate
      | f => return negate f : Compilation RowFilter).Ends := by
  refine ended.bind fun f _ => ?_
  cases f with
  | roleOnly _ | pass | block | all _ | any _ | not _ | equals _ _ | compare _ _ _ | member _ _
  | isNull _ | like _ _ _ | someRelated _ _ _ | related _ _ | given _ _ _ | unresolved _
  | foreign _ => exact Traced.ends_pure _

/-- A compiled predicate whose fields have paths is lowered to a filter. -/
theorem ends_lower (compiled : p.Compiled fun _ => True) (fits : p.Fits .free ()) (top : Bool) :
    (lower scope top p).Ends := by
  -- The places of the layout without obstacles are all the same, so the induction follows the
  -- compiled predicate and takes what fits apart in each case.
  induction compiled generalizing top with
  | const => exact ends_lower_of_unread .const top rfl
  | all each ih =>
      refine ends_lower_of_form (.all each) top fun unsettled => ?_
      rw [lower, unsettled]
      refine (ends_lowerAll fun p member => ?_).bind fun parts lowered => ?_
      · exact ih p member (Predicate.fits_all_iff.mp fits p member) top
      · exact ends_splitAll (compiled_roles each lowered)
  | any each ih =>
      refine ends_lower_of_form (.any each) top fun unsettled => ?_
      rw [lower, unsettled]
      refine (ends_lowerAll fun p member => ?_).bind fun parts _ => ends_splitAny (.any each)
      exact ih p member (Predicate.fits_any_iff.mp fits p member) false
  | not operand ih =>
      refine ends_lower_of_form (.not operand) top fun unsettled => ?_
      rw [lower, unsettled]
      cases fits with
      | not fits => exact ends_negated (ih fits false)
  | role condition ih =>
      refine ends_lower_of_form (.role condition) top fun unsettled => ?_
      rw [lower, unsettled]
      cases fits with
      | role fits => exact ih fits top
  | unresolved default admits =>
      refine ends_lower_of_form (.unresolved default admits) top fun unsettled => ?_
      rw [lower, unsettled]
      exact Traced.ends_pure _
  | compare known left right turned =>
      rw [← lowerCompare_eq_lower]
      cases fits with
      | compare onLeft onRight => exact ends_lowerCompare known left right onLeft onRight
  | member operand values =>
      refine ends_lower_of_form (.member operand values) top fun unsettled => ?_
      rw [lower, unsettled]
      exact ends_fieldTest (.member operand values) fits (fieldTest_ofMember _ _ _ _)
  | isNull operand =>
      refine ends_lower_of_form (.isNull operand) top fun unsettled => ?_
      rw [lower, unsettled]
      exact ends_fieldTest (.isNull operand) fits (fieldTest_ofNull _ _ _)
  | anyRelated test condition ih =>
      refine ends_lower_of_form (.anyRelated test condition) top fun unsettled => ?_
      rw [lower, unsettled]
      cases fits with
      | anyRelated _ fits => exact (ih fits false).map _
  | @select subject branches otherwise sound keys outcomes last outcomeIH lastIH =>
      have whole := Predicate.Compiled.select sound keys outcomes last
      refine ends_lower_of_form whole top fun unsettled => ?_
      rw [lower, unsettled]
      cases fits with
      | select onSubject onKeys onOutcomes onLast =>
          have each : ∀ branch ∈ branches, (lower scope false branch.2).Ends :=
            fun branch member => outcomeIH branch member (onOutcomes branch member) false
          dsimp only
          split
          · refine (lastIH onLast false).bind fun _ _ => ?_
            refine (ends_chainSelect each _).bind fun _ _ => ?_
            exact (ends_noteSplit whole _).map _
          · refine (ends_armsOfSelect (fun branch member => ?_) each []).bind fun _ _ => ?_
            · refine ⟨?_, Predicate.fits_oriented onSubject (onKeys branch member) .eq⟩
              exact ends_lowerCompare rfl sound (keys branch member) onSubject (onKeys branch member)
            · exact (lastIH onLast false).map _
  | @firstOf branches otherwise keys outcomes last keyIH outcomeIH lastIH =>
      have whole := Predicate.Compiled.firstOf keys outcomes last
      refine ends_lower_of_form whole top fun unsettled => ?_
      rw [lower, unsettled]
      cases fits with
      | firstOf onKeys onOutcomes onLast =>
          have each : ∀ branch ∈ branches, (lower scope false branch.2).Ends :=
            fun branch member => outcomeIH branch member (onOutcomes branch member) false
          dsimp only
          split
          · refine (lastIH onLast false).bind fun _ _ => ?_
            refine (ends_chainFirst each _).bind fun _ _ => ?_
            exact (ends_noteSplit whole _).map _
          · refine (ends_armsOfFirst (fun branch member => ?_) each []).bind fun _ _ => ?_
            · exact ⟨keyIH branch member (onKeys branch member) false, onKeys branch member⟩
            · exact (lastIH onLast false).map _

end RowFilter

end RowGuard
