import Mathlib.Data.List.Basic
import RowGuard.Proofs.Text.CharClass
import RowGuard.Text.LetterCase

/-! Lower case and blanks. What lower case maps to is in lower case and is not
blank, so a text in lower case keeps its letters, and one without blanks around
it gets none. -/

set_option autoImplicit false

namespace RowGuard.Text

/-! ## Tables -/

namespace CaseRun

/-- Whether a run maps a code point. -/
def covers (run : CaseRun) (code : Nat) : Bool :=
  run.first ≤ code && code ≤ run.last && (code - run.first) % run.step == 0

/-- Where a run maps a code point. -/
def image (run : CaseRun) (code : Nat) : Nat :=
  ((code : Int) + run.shift).toNat

theorem find?_eq_some {runs : List CaseRun} {code target : Nat}
    (found : find? runs code = some target) :
    ∃ run ∈ runs, run.covers code ∧ target = run.image code := by
  obtain ⟨run, first, rfl⟩ := Option.map_eq_some_iff.mp found
  have covered : run.covers code := by
    simpa [covers] using List.find?_some first
  exact ⟨run, List.mem_of_find?_eq_some first, covered, rfl⟩

theorem find?_eq_none {runs : List CaseRun} {code : Nat}
    (missed : ∀ run ∈ runs, run.covers code = false) : find? runs code = none := by
  refine Option.map_eq_none_iff.mpr (List.find?_eq_none.mpr fun run member covered => ?_)
  rw [← covers, missed run member] at covered
  cases covered

/-- Whether what a run maps to lies apart from what another one covers: before it, behind it, or
between the code points of its steps. -/
def misses (run other : CaseRun) : Bool :=
  (run.image run.last).blt other.first || other.last.blt (run.image run.first) ||
    (run.first.beq run.last || (run.step % other.step).beq 0) &&
      other.first.ble (run.image run.first) &&
      Nat.blt 0 ((run.image run.first - other.first) % other.step)

theorem not_covers_of_misses {run other : CaseRun} (apart : run.misses other)
    (positive : 0 ≤ (run.first : Int) + run.shift) {code : Nat} (covered : run.covers code) :
    other.covers (run.image code) = false := by
  simp only [covers, Bool.and_eq_true, decide_eq_true_eq, beq_iff_eq] at covered
  obtain ⟨⟨least, most⟩, step⟩ := covered
  have start : ((run.image run.first : Nat) : Int) = run.first + run.shift :=
    Int.toNat_of_nonneg positive
  have target : run.image code = run.image run.first + (code - run.first) := by
    unfold image
    omega
  have bound : run.image code ≤ run.image run.last := by
    unfold image
    omega
  simp only [misses, Bool.or_eq_true, Bool.and_eq_true, Nat.blt_eq, Nat.beq_eq, Nat.ble_eq]
    at apart
  simp only [covers, Bool.and_eq_false_iff, decide_eq_false_iff_not, beq_eq_false_iff_ne]
  rcases apart with (before | behind) | ⟨⟨regular, after⟩, between⟩
  · exact .inl (.inl (by omega))
  · exact .inl (.inr (by omega))
  -- The images lie whole steps of the other run apart, and the first is between two of its steps.
  · right
    rcases regular with single | multiple
    · have same : code = run.first := by omega
      rw [same]
      omega
    · have whole : (code - run.first) % other.step = 0 :=
        Nat.mod_eq_zero_of_dvd (Nat.dvd_trans (Nat.dvd_of_mod_eq_zero multiple)
          (Nat.dvd_of_mod_eq_zero step))
      rw [target, Nat.sub_add_comm after, Nat.add_mod, whole, Nat.add_zero, Nat.mod_mod]
      omega

end CaseRun

/-- Code points that lower case keeps clear of: what it would map in its turn, blanks, and what is
no character. -/
def unlowered : List CaseRun :=
  ⟨0x41, 0x5A, 1, 0⟩ :: ⟨0x130, 0x130, 1, 0⟩ :: ⟨0x00, 0x20, 1, 0⟩ :: ⟨0xD800, 0xDFFF, 1, 0⟩ ::
    ⟨0x110000, 0x220000, 1, 0⟩ :: blankRanges.map (fun range => ⟨range.1, range.2, 1, 0⟩) ++
    lowerRuns

theorem lowerRuns_misses :
    lowerRuns.all (fun run => unlowered.all run.misses) := by
  decide +kernel

theorem lowerRuns_positive : ∀ run ∈ lowerRuns,
    0 ≤ (run.first : Int) + run.shift ∧ run.image run.last < 0x220000 := by
  decide +kernel

/-! ## Characters -/

/-- Whether a character is its own lower case wherever it stands. -/
def IsLow (c : Char) : Prop :=
  lowerChar c = [c] ∧ c ≠ 'Σ'

instance (c : Char) : Decidable (IsLow c) :=
  inferInstanceAs (Decidable (_ ∧ _))

theorem covers_interval {first last code : Nat}
    (apart : (CaseRun.mk first last 1 0).covers code = false) : code < first ∨ last < code := by
  simp only [CaseRun.covers, Nat.mod_one, BEq.rfl, Bool.and_true, Bool.and_eq_false_iff,
    decide_eq_false_iff_not, Nat.not_le] at apart
  exact apart

theorem unlowered_apart {run : CaseRun} (member : run ∈ lowerRuns) {code : Nat}
    (covered : run.covers code) {other : CaseRun} (listed : other ∈ unlowered) :
    other.covers (run.image code) = false := by
  have misses := List.all_eq_true.mp (List.all_eq_true.mp lowerRuns_misses run member) other listed
  exact CaseRun.not_covers_of_misses misses (lowerRuns_positive run member).1 covered

theorem unlowered_outside {run : CaseRun} (member : run ∈ lowerRuns) {code : Nat}
    (covered : run.covers code) (first last : Nat) (listed : ⟨first, last, 1, 0⟩ ∈ unlowered) :
    run.image code < first ∨ last < run.image code :=
  covers_interval (unlowered_apart member covered listed)

theorem toNat_image {run : CaseRun} (member : run ∈ lowerRuns) {code : Nat}
    (covered : run.covers code) : (Char.ofNat (run.image code)).toNat = run.image code := by
  have surrogate := unlowered_outside member covered 0xD800 0xDFFF (by simp [unlowered])
  have beyond := unlowered_outside member covered 0x110000 0x220000 (by simp [unlowered])
  have bound := (lowerRuns_positive run member).2
  simp only [CaseRun.covers, Bool.and_eq_true, decide_eq_true_eq] at covered
  have valid : (run.image code).isValidChar := by
    unfold CaseRun.image at bound surrogate beyond ⊢
    unfold Nat.isValidChar
    omega
  rw [Char.ofNat, dif_pos valid]
  rfl

theorem isLow_of_run {run : CaseRun} (member : run ∈ lowerRuns) {code : Nat}
    (covered : run.covers code) : IsLow (Char.ofNat (run.image code)) := by
  have back := toNat_image member covered
  have again : CaseRun.find? lowerRuns (run.image code) = none :=
    CaseRun.find?_eq_none fun other listed =>
      unlowered_apart member covered (List.mem_append_right _ listed)
  constructor
  · rw [lowerChar, back]
    split
    · rename_i small
      have capital := unlowered_outside member covered 0x41 0x5A (.head _)
      have each : ∀ n < 0x80, n < 0x41 ∨ 0x5A < n → (Char.ofNat n).toLower = Char.ofNat n := by
        decide +kernel
      rw [each _ small capital]
    · have dotted := unlowered_outside member covered 0x130 0x130 (by simp [unlowered])
      have plain : spelled? lowerSpelled (run.image code) = none := by
        have other : (0x130 == run.image code) = false := by
          rw [beq_eq_false_iff_ne]
          omega
        simp [spelled?, lowerSpelled, other]
      rw [plain, again]
      rfl
  · intro sigma
    have sigmaRun : (CaseRun.find? lowerRuns 0x3A3).isSome := by decide +kernel
    have code : run.image code = 0x3A3 := by
      rw [← back, sigma]
      rfl
    rw [← code, again] at sigmaRun
    cases sigmaRun

theorem not_isBlank_of_run {run : CaseRun} (member : run ∈ lowerRuns) {code : Nat}
    (covered : run.covers code) : isBlank (Char.ofNat (run.image code)) = false := by
  by_cases small : run.image code < 0x80
  · have ascii := unlowered_outside member covered 0x00 0x20 (by simp [unlowered])
    have each : ∀ n < 0x80, n < 0 ∨ 0x20 < n → isBlank (Char.ofNat n) = false := by
      decide +kernel
    exact each _ small ascii
  · rw [isBlank, toNat_image member covered, if_neg small, CodeRanges.has, List.any_eq_false]
    intro range listed inside
    have missed := unlowered_outside member covered range.1 range.2
      (List.mem_append_left _ (by simp [listed]))
    simp only [Bool.and_eq_true, decide_eq_true_eq] at inside
    omega

/-- The lower case of a character is one that is spelled out, one that a run leads to, or the
character itself; that of an ASCII character is its own kind. -/
theorem lowerChar_cases (c : Char) :
    (c.toNat < 0x80 ∧ lowerChar c = [c.toLower]) ∨
    (c.toNat = 0x130 ∧ lowerChar c = ['i', '\u0307']) ∨
    (∃ run ∈ lowerRuns, run.covers c.toNat ∧ lowerChar c = [Char.ofNat (run.image c.toNat)]) ∨
    lowerChar c = [c] := by
  unfold lowerChar
  split
  · rename_i small
    exact .inl ⟨small, rfl⟩
  · split
    · rename_i cs spelled
      obtain ⟨entry, found, rfl⟩ := Option.map_eq_some_iff.mp spelled
      have listed := List.mem_of_find?_eq_some found
      have same : (entry.1 == c.toNat) = true := by simpa using List.find?_some found
      rw [lowerSpelled, List.mem_singleton] at listed
      subst listed
      exact .inr (.inl ⟨(beq_iff_eq.mp same).symm, rfl⟩)
    · cases found : CaseRun.find? lowerRuns c.toNat with
      | none => exact .inr (.inr (.inr rfl))
      | some target =>
          obtain ⟨run, member, covered, rfl⟩ := CaseRun.find?_eq_some found
          exact .inr (.inr (.inl ⟨run, member, covered, rfl⟩))

theorem isLow_of_mem_lowerChar {c d : Char} (plain : c ≠ 'Σ') (member : d ∈ lowerChar c) :
    IsLow d := by
  rcases lowerChar_cases c with ⟨small, low⟩ | ⟨_, low⟩ | ⟨run, listed, covered, low⟩ | low
  · have each : ∀ n < 0x80, IsLow (Char.ofNat n).toLower := by decide +kernel
    rw [low, List.mem_singleton] at member
    rw [member, ← Char.ofNat_toNat c]
    exact each _ small
  · have each : ∀ d ∈ ['i', '\u0307'], IsLow d :=
      List.forall_iff_forall_mem.mp (by decide +kernel)
    exact each d (low ▸ member)
  · rw [low, List.mem_singleton] at member
    exact member ▸ isLow_of_run listed covered
  · rw [low, List.mem_singleton] at member
    exact member ▸ ⟨low, plain⟩

theorem not_isBlank_of_mem_lowerChar {c d : Char} (filled : isBlank c = false)
    (member : d ∈ lowerChar c) : isBlank d = false := by
  rcases lowerChar_cases c with ⟨small, low⟩ | ⟨_, low⟩ | ⟨run, listed, covered, low⟩ | low
  · have each : ∀ n < 0x80, isBlank (Char.ofNat n) = false →
        isBlank (Char.ofNat n).toLower = false := by
      decide +kernel
    rw [low, List.mem_singleton] at member
    have kept := each c.toNat small
    rw [Char.ofNat_toNat] at kept
    exact member ▸ kept filled
  · have each : ∀ d ∈ ['i', '\u0307'], isBlank d = false :=
      List.forall_iff_forall_mem.mp (by decide +kernel)
    exact each d (low ▸ member)
  · rw [low, List.mem_singleton] at member
    exact member ▸ not_isBlank_of_run listed covered
  · rw [low, List.mem_singleton] at member
    exact member ▸ filled

theorem lowerChar_ne_nil (c : Char) : lowerChar c ≠ [] := by
  rcases lowerChar_cases c with ⟨_, low⟩ | ⟨_, low⟩ | ⟨_, _, _, low⟩ | low <;> simp [low]

/-! ## Texts -/

/-- The lower case of a character where it stands. -/
def lowerAt (reversedBefore after : List Char) (c : Char) : List Char :=
  if c == 'Σ' then [if endsWord reversedBefore after then 'ς' else 'σ'] else lowerChar c

theorem lowerAfter_cons (reversedBefore rest : List Char) (c : Char) :
    lowerAfter reversedBefore (c :: rest) =
      lowerAt reversedBefore rest c ++ lowerAfter (c :: reversedBefore) rest :=
  rfl

/-- Whatever is kept by lower case and holds of both small sigmas holds of the lower case of a
character where it stands. -/
theorem forall_mem_lowerAt {p : Char → Prop} (final : p 'ς') (inner : p 'σ') {c : Char}
    (kept : c ≠ 'Σ' → ∀ d ∈ lowerChar c, p d) (reversedBefore after : List Char) :
    ∀ d ∈ lowerAt reversedBefore after c, p d := by
  intro d member
  unfold lowerAt at member
  split at member
  · rw [List.mem_singleton] at member
    subst member
    split
    · exact final
    · exact inner
  · rename_i plain
    exact kept (by simpa using plain) d member

theorem isLow_of_mem_lowerAfter {reversedBefore cs : List Char} :
    ∀ d ∈ lowerAfter reversedBefore cs, IsLow d := by
  induction cs generalizing reversedBefore with
  | nil => simp [lowerAfter]
  | cons c rest ih =>
      rw [lowerAfter_cons]
      refine List.forall_mem_append.mpr ⟨?_, ih⟩
      exact forall_mem_lowerAt (by decide +kernel) (by decide +kernel)
        (fun plain _ member => isLow_of_mem_lowerChar plain member) _ _

theorem lowerAfter_of_isLow {reversedBefore cs : List Char} (low : ∀ c ∈ cs, IsLow c) :
    lowerAfter reversedBefore cs = cs := by
  induction cs generalizing reversedBefore with
  | nil => rfl
  | cons c rest ih =>
      obtain ⟨⟨same, plain⟩, later⟩ := List.forall_mem_cons.mp low
      rw [lowerAfter_cons, ih later, lowerAt, if_neg (by simpa using plain), same,
        List.singleton_append]

/-- The lower case of a text is in lower case. -/
theorem lowerChars_lowerChars (cs : List Char) : lowerChars (lowerChars cs) = lowerChars cs :=
  lowerAfter_of_isLow isLow_of_mem_lowerAfter

/-! ## Texts without blanks around them -/

/-- Whether a text neither begins nor ends with a blank. -/
def Trimmed (cs : List Char) : Prop :=
  (∀ c ∈ cs.head?, isBlank c = false) ∧ ∀ c ∈ cs.getLast?, isBlank c = false

theorem trimmed_trim (cs : List Char) : Trimmed (trim cs) := by
  have cut (cs : List Char) : ∀ c ∈ (cs.dropWhile isBlank).head?, isBlank c = false := by
    intro c first
    have filled := List.head?_dropWhile_not isBlank cs
    rwa [first] at filled
  constructor
  -- The blanks dropped at the end come last in what was left, so its first character stays.
  · intro c first
    obtain ⟨dropped, split⟩ := List.dropWhile_suffix (l := (cs.dropWhile isBlank).reverse) isBlank
    have whole : cs.dropWhile isBlank = trim cs ++ dropped.reverse := by
      rw [trim, ← List.reverse_append, split, List.reverse_reverse]
    refine cut cs c ?_
    rw [whole, List.head?_append, first]
    rfl
  · rw [trim, List.getLast?_reverse]
    exact cut _

theorem trim_of_trimmed {cs : List Char} (trimmed : Trimmed cs) : trim cs = cs := by
  have back : ∀ c ∈ cs.reverse.head?, isBlank c = false := by
    rw [List.head?_reverse]
    exact trimmed.2
  rw [trim, dropWhile_of_filled trimmed.1, dropWhile_of_filled back, List.reverse_reverse]

theorem not_isBlank_of_mem_lowerAt {c : Char} (filled : isBlank c = false)
    (reversedBefore after : List Char) :
    ∀ d ∈ lowerAt reversedBefore after c, isBlank d = false :=
  forall_mem_lowerAt (by decide +kernel) (by decide +kernel)
    (fun _ _ member => not_isBlank_of_mem_lowerChar filled member) _ _

theorem lowerAt_ne_nil (reversedBefore after : List Char) (c : Char) :
    lowerAt reversedBefore after c ≠ [] := by
  unfold lowerAt
  split
  · exact List.cons_ne_nil _ _
  · exact lowerChar_ne_nil c

theorem head?_lowerAfter {reversedBefore cs : List Char}
    (filled : ∀ c ∈ cs.head?, isBlank c = false) :
    ∀ d ∈ (lowerAfter reversedBefore cs).head?, isBlank d = false := by
  cases cs with
  | nil => simp [lowerAfter]
  | cons c rest =>
      intro d first
      rw [lowerAfter_cons, List.head?_append_of_ne_nil _ (lowerAt_ne_nil _ _ _)] at first
      exact not_isBlank_of_mem_lowerAt (filled c rfl) _ _ d (List.mem_of_head? first)

theorem getLast?_lowerAfter {reversedBefore cs : List Char}
    (filled : ∀ c ∈ cs.getLast?, isBlank c = false) :
    ∀ d ∈ (lowerAfter reversedBefore cs).getLast?, isBlank d = false := by
  induction cs generalizing reversedBefore with
  | nil => simp [lowerAfter]
  | cons c rest ih =>
      intro d last
      cases rest with
      | nil =>
          rw [lowerAfter_cons, lowerAfter, List.append_nil] at last
          exact not_isBlank_of_mem_lowerAt (filled c rfl) _ _ d (List.mem_of_getLast? last)
      | cons next rest =>
          have more : lowerAfter (c :: reversedBefore) (next :: rest) ≠ [] := by
            rw [lowerAfter_cons]
            exact List.append_ne_nil_of_left_ne_nil (lowerAt_ne_nil _ _ _) _
          rw [lowerAfter_cons, List.getLast?_append_of_ne_nil _ more] at last
          refine ih (fun e member => filled e ?_) d last
          rwa [List.getLast?_cons_cons]

theorem Trimmed.lowerChars {cs : List Char} (trimmed : Trimmed cs) : Trimmed (lowerChars cs) :=
  ⟨head?_lowerAfter trimmed.1, getLast?_lowerAfter trimmed.2⟩

end RowGuard.Text
