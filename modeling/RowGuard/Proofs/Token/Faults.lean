import RowGuard.Proofs.Token.Number
import RowGuard.Proofs.Token.Walk

/-! Why a text has no tokens. Scanning fails if and only if a walk over the text
comes to a place where no rule applies. There the text is malformed, or there is
a number that cannot be converted: an integer of too many digits, a decimal out
of range, or one with a digit that has no decimal value. -/

set_option autoImplicit false

namespace RowGuard

/-! ## Outcomes -/

/-- Whether an error says that a text is malformed. -/
def ReadError.IsMalformed (error : ReadError) : Prop :=
  ∃ failure, error = .malformed failure

/-- Whether an error says that a text is malformed, and points into it: at a place up to its end,
where what the error has found is written. -/
def ReadError.PointsInto (cs : List Char) (error : ReadError) : Prop :=
  ∃ failure, error = .malformed failure ∧ failure.position ≤ cs.length ∧
    failure.found.toList <+: cs.drop failure.position

theorem ReadError.PointsInto.isMalformed {cs : List Char} {error : ReadError}
    (points : error.PointsInto cs) : error.IsMalformed := by
  obtain ⟨failure, same, _⟩ := points
  exact ⟨failure, same⟩

/-- Whether an outcome fails with allowed errors only. -/
def FailsWith {α : Type} (allowed : ReadError → Prop) (outcome : Except ReadError α) : Prop :=
  ∀ error, outcome = .error error → allowed error

namespace FailsWith

variable {α β : Type} {allowed others : ReadError → Prop} {outcome : Except ReadError α}

theorem ok (value : α) : FailsWith allowed (.ok value : Except ReadError α) :=
  nofun

theorem error {error : ReadError} (isAllowed : allowed error) :
    FailsWith allowed (.error error : Except ReadError α) := by
  rintro _ ⟨⟩
  exact isAllowed

theorem mono (fails : FailsWith allowed outcome) (wider : ∀ error, allowed error → others error) :
    FailsWith others outcome :=
  fun error failed => wider error (fails error failed)

theorem bind {next : α → Except ReadError β} (first : FailsWith allowed outcome)
    (second : ∀ value, outcome = .ok value → FailsWith allowed (next value)) :
    FailsWith allowed (outcome >>= next) := by
  cases outcome with
  | error failure =>
      rintro _ ⟨⟩
      exact first failure rfl
  | ok value => exact second value rfl

theorem bind_pure {next : α → β} (first : FailsWith allowed outcome) :
    FailsWith allowed (outcome >>= fun value => pure (next value)) :=
  first.bind fun _ _ => .ok _

theorem map {next : α → β} (first : FailsWith allowed outcome) :
    FailsWith allowed (outcome.map next) := by
  cases outcome with
  | error failure =>
      rintro _ ⟨⟩
      exact first failure rfl
  | ok value => nofun

theorem ite {holds : Prop} [Decidable holds] {other : Except ReadError α}
    (yes : holds → FailsWith allowed outcome) (no : ¬holds → FailsWith allowed other) :
    FailsWith allowed (if holds then outcome else other) := by
  by_cases held : holds
  · simpa only [if_pos held] using yes held
  · simpa only [if_neg held] using no held

end FailsWith

/-! ## Digits without a value -/

namespace Text

/-- A digit without a decimal value, such as a superscript. -/
def Valueless (c : Char) : Prop :=
  isDigit c ∧ digitValue? c = none

theorem exists_of_foldlM_eq_none {cs : List Char} {init : Nat}
    (failed : cs.foldlM (fun value c => (digitValue? c).map (value * 10 + ·)) init = none) :
    ∃ c ∈ cs, digitValue? c = none := by
  induction cs generalizing init with
  | nil => cases failed
  | cons c cs ih =>
      rw [List.foldlM_cons] at failed
      cases valued : digitValue? c with
      | none => exact ⟨c, List.mem_cons_self, valued⟩
      | some value =>
          rw [valued] at failed
          obtain ⟨d, member, missing⟩ := ih failed
          exact ⟨d, List.mem_cons_of_mem _ member, missing⟩

/-- A run of digits that is no number has a digit without a value. -/
theorem exists_valueless {cs : List Char} (filled : cs ≠ []) (digits : ∀ c ∈ cs, isDigit c)
    (failed : natOfDigits? cs = none) : ∃ c ∈ cs, Valueless c := by
  cases cs with
  | nil => exact absurd rfl filled
  | cons c cs =>
      obtain ⟨d, member, missing⟩ := exists_of_foldlM_eq_none failed
      exact ⟨d, member, digits d member, missing⟩

end Text

/-! ## The parts of a number -/

namespace Token

theorem takeFraction_append_eq (cs : List Char) :
    (takeFraction cs).1 ++ (takeFraction cs).2 = cs := by
  unfold takeFraction
  split
  · split
    · rfl
    · exact congrArg _ List.takeWhile_append_dropWhile
  · rfl

theorem isFraction_takeFraction (cs : List Char) :
    ∃ run, IsFraction (takeFraction cs).1 run := by
  unfold takeFraction
  split
  · split
    · exact ⟨[], .none⟩
    · exact ⟨_, .digits fun c => List.mem_takeWhile_imp⟩
  · exact ⟨[], .none⟩

theorem takeExponent_append_eq (cs : List Char) :
    (takeExponent cs).1 ++ (takeExponent cs).2 = cs := by
  unfold takeExponent
  split
  · split
    · dsimp only
      split
      · rfl
      · split
        · split
          · simp
          · simp
        · simp
    · rfl
  · rfl

theorem isExponent_takeExponent (cs : List Char) :
    ∃ part, IsExponent (takeExponent cs).1 part := by
  unfold takeExponent
  split
  · split
    · next mark _ marks =>
        have isMark : mark = 'e' ∨ mark = 'E' := by simpa using marks
        dsimp only
        split
        · exact ⟨none, .none⟩
        · next filled =>
            refine ⟨_, .digits isMark ?_ filled fun c => List.mem_takeWhile_imp⟩
            split
            · split
              · next signs => simpa using signs
              · exact .inl rfl
            · exact .inl rfl
    · exact ⟨none, .none⟩
  · exact ⟨none, .none⟩

end Token

namespace Decimal

open Token (IsFraction IsExponent)

variable {whole fraction exponent places : List Char} {part : Option (List Char)}

theorem exists_valueless_of_exponentOf? {sign run : List Char}
    (isSign : sign = [] ∨ sign = ['+'] ∨ sign = ['-']) (filled : run ≠ [])
    (digits : ∀ c ∈ run, Text.isDigit c) (failed : exponentOf? (sign ++ run) = none) :
    ∃ c ∈ run, Text.Valueless c := by
  apply Text.exists_valueless filled digits
  by_contra valued
  obtain ⟨n, value⟩ := Option.ne_none_iff_exists'.mp valued
  rcases isSign with rfl | rfl | rfl
  · rw [List.nil_append] at failed
    unfold exponentOf? at failed
    split at failed
    · exact absurd (digits '-' List.mem_cons_self) (by decide)
    · exact absurd (digits '+' List.mem_cons_self) (by decide)
    · rw [value] at failed
      cases failed
  · rw [List.singleton_append, exponentOf?, value] at failed
    cases failed
  · rw [List.singleton_append, exponentOf?, value] at failed
    cases failed

theorem exists_valueless_of_ofLexeme? (filled : whole ≠ [])
    (digits : ∀ c ∈ whole, Text.isDigit c) (isFraction : IsFraction fraction places)
    (isExponent : IsExponent exponent part)
    (failed : ofLexeme? false (whole ++ fraction ++ exponent) = .error .notDecimal) :
    ∃ c ∈ whole ++ fraction ++ exponent, Text.Valueless c := by
  rw [ofLexeme?_parts digits isFraction isExponent] at failed
  split at failed
  · split at failed <;> cases failed
  · next unread =>
      cases coefficient : Text.natOfDigits? (whole ++ places) with
      | none =>
          have all : ∀ c ∈ whole ++ places, Text.isDigit c := by
            intro c member
            rcases List.mem_append.mp member with member | member
            · exact digits c member
            · exact isFraction.isDigit c member
          obtain ⟨c, member, missing⟩ := Text.exists_valueless (by simp [filled]) all coefficient
          refine ⟨c, List.mem_append_left _ ?_, missing⟩
          rcases List.mem_append.mp member with member | member
          · exact List.mem_append_left _ member
          · exact List.mem_append_right _ (isFraction.subset member)
      | some n =>
          cases isExponent with
          | none => exact absurd rfl (unread n 0 coefficient)
          | digits _ isSign filled run =>
              have failed : exponentOf? _ = none :=
                Option.eq_none_iff_forall_ne_some.mpr fun e => unread n e coefficient
              obtain ⟨c, member, missing⟩ :=
                exists_valueless_of_exponentOf? isSign filled run failed
              exact ⟨c, by simp [member], missing⟩

end Decimal

/-! ## Numbers that cannot be converted -/

/-- Why a number in a text cannot be converted. -/
inductive Token.NumberFault (cs : List Char) : ReadError → Prop where
  /-- An integer has more digits than are read. -/
  | tooLong {digits : Nat} : Text.maxDigits < digits → NumberFault cs (.tooLong digits)
  | notInteger {c : Char} {digits : String} : c ∈ cs → Text.Valueless c →
      NumberFault cs (.notInteger digits)
  | notDecimal {c : Char} : c ∈ cs → Text.Valueless c → NumberFault cs (.decimal .notDecimal)
  | outOfRange : NumberFault cs (.decimal .outOfRange)

namespace Token

variable {cs rest : List Char} {c : Char} {error : ReadError} {size start : Nat}
  {tokens : List Token}

theorem NumberFault.not_isMalformed (fault : NumberFault cs error) : ¬error.IsMalformed := by
  rintro ⟨failure, rfl⟩
  cases fault

theorem NumberFault.mono {others : List Char} (fault : NumberFault cs error)
    (within : cs ⊆ others) : NumberFault others error := by
  cases fault with
  | tooLong many => exact .tooLong many
  | notInteger member missing => exact .notInteger (within member) missing
  | notDecimal member missing => exact .notDecimal (within member) missing
  | outOfRange => exact .outOfRange

theorem failsWith_integer (filled : cs ≠ []) (digits : ∀ c ∈ cs, Text.isDigit c) :
    FailsWith (NumberFault cs) (integer cs) := by
  unfold integer
  dsimp only
  split
  · next many => exact .error (.tooLong many)
  · split
    · exact .ok _
    · next failed =>
        obtain ⟨c, member, missing⟩ := Text.exists_valueless filled digits failed
        exact .error (.notInteger member missing)

theorem failsWith_number (digit : Text.isDigit c) :
    FailsWith (NumberFault (c :: rest)) (number (c :: rest)) := by
  have filled : (c :: rest).takeWhile Text.isDigit ≠ [] := by simp [digit]
  have digits : ∀ d ∈ (c :: rest).takeWhile Text.isDigit, Text.isDigit d :=
    fun d => List.mem_takeWhile_imp
  obtain ⟨places, isFraction⟩ :=
    isFraction_takeFraction ((c :: rest).dropWhile Text.isDigit)
  obtain ⟨part, isExponent⟩ :=
    isExponent_takeExponent (takeFraction ((c :: rest).dropWhile Text.isDigit)).2
  unfold number
  dsimp only
  split
  · apply FailsWith.map
    exact (failsWith_integer filled digits).mono fun _ fault =>
      fault.mono (List.takeWhile_subset _)
  · split
    · exact .ok _
    · next fault failed =>
        cases fault with
        | outOfRange => exact .error .outOfRange
        | notDecimal =>
            obtain ⟨d, member, missing⟩ :=
              Decimal.exists_valueless_of_ofLexeme? filled digits isFraction isExponent failed
            apply FailsWith.error
            apply NumberFault.notDecimal _ missing
            have whole : (c :: rest).takeWhile Text.isDigit ++ (takeFraction
                ((c :: rest).dropWhile Text.isDigit)).1 ++ (takeExponent (takeFraction
                ((c :: rest).dropWhile Text.isDigit)).2).1 ++ (takeExponent (takeFraction
                ((c :: rest).dropWhile Text.isDigit)).2).2 = c :: rest := by
              rw [List.append_assoc, takeExponent_append_eq, List.append_assoc,
                takeFraction_append_eq, List.takeWhile_append_dropWhile]
            rw [← whole]
            exact List.mem_append_left _ member

/-! ## Malformed texts -/

section Malformed

variable {whole : List Char}

theorem failAt_pointsInto (suffix : rest <:+ whole) (expected : String) {found : String}
    (written : found.toList <+: rest) :
    (failAt whole.length rest expected found).PointsInto whole := by
  refine ⟨_, rfl, Nat.sub_le _ _, ?_⟩
  rwa [← List.suffix_iff_eq_drop.mp suffix]

theorem failAt_nothing (suffix : rest <:+ whole) (expected : String) :
    (failAt whole.length rest expected "").PointsInto whole :=
  failAt_pointsInto suffix expected (by rw [String.toList_empty]; exact List.nil_prefix)

theorem failAt_end (expected : String) : (failAt whole.length [] expected "").PointsInto whole :=
  failAt_nothing List.nil_suffix expected

theorem singleton_prefix_cons (c : Char) (rest : List Char) :
    (String.singleton c).toList <+: c :: rest := by
  rw [String.toList_singleton]
  exact List.prefix_append [c] rest

theorem failsWith_typeWord (suffix : cs <:+ whole) :
    FailsWith (ReadError.PointsInto whole) (typeWord whole.length cs) := by
  unfold typeWord
  split
  · split
    · exact .error (failAt_end _)
    · exact .ok _
  · split
    · exact .ok _
    · exact .error (failAt_pointsInto suffix _ (singleton_prefix_cons _ _))
  · exact .error (failAt_end _)

theorem failsWith_typeName {fuel : Nat} (suffix : cs <:+ whole) :
    FailsWith (ReadError.PointsInto whole) (typeName whole.length fuel cs) := by
  induction fuel generalizing cs with
  | zero => exact failsWith_typeWord suffix
  | succ fuel ih =>
      apply (failsWith_typeWord suffix).bind
      rintro ⟨word, after⟩ read
      dsimp only
      split
      · exact ih ((List.suffix_cons _ _).trans ((typeWord_suffix read).trans suffix))
      · exact .ok _

theorem failsWith_skipModifiers :
    FailsWith (ReadError.PointsInto whole) (skipModifiers whole.length cs) := by
  unfold skipModifiers
  split
  · split
    · exact .ok _
    · exact .error (failAt_end _)
  · exact .ok _

theorem failsWith_skipPhrase {word : String} :
    FailsWith (ReadError.PointsInto whole) (skipPhrase whole.length word cs) := by
  unfold skipPhrase
  split
  · exact failsWith_skipModifiers
  · exact .ok _

theorem failsWith_skipDimensions {fuel : Nat} :
    FailsWith (ReadError.PointsInto whole) (skipDimensions whole.length fuel cs) := by
  induction fuel generalizing cs with
  | zero => exact .ok _
  | succ fuel ih =>
      unfold skipDimensions
      split
      · split
        · exact .error (failAt_end _)
        · dsimp only
          split
          · exact ih
          · exact .ok _
      · exact .ok _

theorem failsWith_skipType (suffix : cs <:+ whole) :
    FailsWith (ReadError.PointsInto whole) (skipType whole.length cs) := by
  rw [skipType_eq_bind]
  apply (failsWith_typeName ((List.dropWhile_suffix _).trans suffix)).bind
  intro named _
  apply failsWith_skipModifiers.bind
  intro modified _
  apply failsWith_skipPhrase.bind
  intro phrased _
  exact failsWith_skipDimensions

/-- Where no rule applies the text is malformed, or there is a number that cannot be converted. -/
theorem failsWith_step (suffix : c :: rest <:+ whole) :
    FailsWith (fun error => error.PointsInto whole ∨
      Text.isDigit c ∧ number (c :: rest) = .error error) (step whole.length c rest) := by
  have further : rest.drop 1 <:+ whole :=
    (List.drop_suffix 1 rest).trans ((List.suffix_cons c rest).trans suffix)
  unfold step
  dsimp only
  refine .ite (fun _ => .ok _) fun _ => ?_
  refine .ite (fun _ => .ok _) fun _ => ?_
  refine .ite (fun _ => ?_) fun _ => ?_
  · split
    · exact .ok _
    · exact .error (.inl (failAt_nothing suffix _))
  refine .ite (fun _ => (failsWith_skipType further).map.mono fun _ => .inl) fun _ => ?_
  refine .ite (fun _ => ?_) fun _ => ?_
  · split
    · exact .ok _
    · exact .error (.inl (failAt_end _))
  refine .ite (fun _ => ?_) fun _ => ?_
  · split
    · exact .ok _
    · exact .error (.inl (failAt_end _))
  refine .ite (fun digit => ?_) fun _ => ?_
  · apply FailsWith.map
    exact fun error failed => .inr ⟨digit, failed⟩
  refine .ite (fun _ => .ok _) fun _ => ?_
  split
  · exact .ok _
  · refine .ite (fun _ => .ok _) fun _ => ?_
    exact .error (.inl (failAt_pointsInto suffix _ (singleton_prefix_cons _ _)))

end Malformed

/-! ## Where scanning stops -/

theorem walk_of_scanFrom_error (whole : start + cs.length = size)
    (failed : scanFrom size 0 cs = .error error) :
    ∃ c rest tokens, Walk start cs (c :: rest) tokens ∧ step size c rest = .error error := by
  induction length : cs.length using Nat.strongRecOn generalizing cs start with
  | ind n ih =>
      subst length
      cases cs with
      | nil => cases failed
      | cons c rest =>
          rw [List.length_cons] at whole
          cases read : step size c rest with
          | error failure =>
              rw [scanFrom, read] at failed
              cases failed
              exact ⟨c, rest, [], .here, read⟩
          | ok taken =>
              obtain ⟨lexeme?, after⟩ := taken
              have steps := steps_of_step read
              have less := steps.length_lt
              have left : start + (rest.length + 1 - after.length) + after.length = size := by
                omega
              have later : scanFrom size 0 after = .error error := by
                rw [scanFrom, read] at failed
                dsimp only [bind, Except.bind] at failed
                rw [scanFrom_after steps.suffix] at failed
                cases more : scanFrom size 0 after with
                | error _ =>
                    rw [more] at failed
                    exact failed
                | ok _ =>
                    rw [more] at failed
                    cases lexeme? <;> cases failed
              obtain ⟨d, further, tokens, walk, stuck⟩ := ih after.length less left later rfl
              cases lexeme? with
              | none => exact ⟨d, further, tokens, .passed steps walk, stuck⟩
              | some lexeme => exact ⟨d, further, _, .found steps walk, stuck⟩

theorem scanFrom_error_of_walk (walk : Walk start cs (c :: rest) tokens)
    (stuck : step size c rest = .error error) : scanFrom size 0 cs = .error error := by
  generalize place : c :: rest = last at walk
  induction walk with
  | here =>
      subst place
      rw [scanFrom, stuck]
      rfl
  | found steps _ ih | passed steps _ ih =>
      rw [scanFrom, step_of_steps steps]
      dsimp only [bind, Except.bind]
      rw [scanFrom_after steps.suffix, ih place]

/-- Scanning fails if and only if the walk over the text comes to where no rule applies. -/
theorem scan_eq_error_iff {text : String} :
    scan text = .error error ↔
      ∃ c rest tokens, Walk 0 text.toList (c :: rest) tokens ∧
        step text.length c rest = .error error := by
  constructor
  · apply walk_of_scanFrom_error
    rw [Nat.zero_add, String.length_toList]
  · rintro ⟨c, rest, tokens, walk, stuck⟩
    exact scanFrom_error_of_walk walk stuck

/-- Whether scanning comes to a number that cannot be converted. -/
def Stops (text : String) (error : ReadError) : Prop :=
  ∃ c rest tokens, Walk 0 text.toList (c :: rest) tokens ∧ Text.isDigit c ∧
    number (c :: rest) = .error error

theorem Stops.scan_eq {text : String} (stops : Stops text error) : scan text = .error error := by
  obtain ⟨c, rest, tokens, walk, digit, failed⟩ := stops
  apply scan_eq_error_iff.mpr
  refine ⟨c, rest, tokens, walk, ?_⟩
  rw [step_of_isDigit digit, failed]
  rfl

theorem Stops.fault {text : String} (stops : Stops text error) :
    NumberFault text.toList error := by
  obtain ⟨c, rest, tokens, walk, digit, failed⟩ := stops
  exact (failsWith_number digit error failed).mono walk.suffix.subset

theorem failsWith_scan (text : String) :
    FailsWith (fun error => error.PointsInto text.toList ∨ Stops text error) (scan text) := by
  intro error failed
  obtain ⟨c, rest, tokens, walk, stuck⟩ := scan_eq_error_iff.mp failed
  rw [← String.length_toList] at stuck
  rcases failsWith_step walk.suffix error stuck with points | ⟨digit, unread⟩
  · exact .inl points
  · exact .inr ⟨c, rest, tokens, walk, digit, unread⟩

end Token

end RowGuard
