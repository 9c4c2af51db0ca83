import RowGuard.Truth

/-! Laws of three-valued truth. Among the three truth values the connectives
are those of strong Kleene logic; what is no truth value is passed over by a
conjunction, so the laws that tell it from the truth ask for proper values. -/

set_option autoImplicit false

namespace RowGuard.Truth

/-- Whether a truth is one of the three truth values. -/
def isProper : Truth → Bool
  | .other _ => false
  | _ => true

theorem holds_iff {t : Truth} : t.holds = true ↔ t = .yes := by
  cases t <;> simp [holds]

theorem holds_eq_false_iff {t : Truth} : t.holds = false ↔ t ≠ .yes := by
  cases t <;> simp [holds]

@[simp]
theorem holds_ofBool (b : Bool) : (ofBool b).holds = b := by
  cases b <;> rfl

@[simp]
theorem isProper_ofBool (b : Bool) : (ofBool b).isProper := by
  cases b <;> rfl

@[simp]
theorem ofBool_eq_yes_iff {b : Bool} : ofBool b = .yes ↔ b = true := by
  cases b <;> simp [ofBool]

@[simp]
theorem ofBool_eq_no_iff {b : Bool} : ofBool b = .no ↔ b = false := by
  cases b <;> simp [ofBool]

@[simp]
theorem ofBool_ne_unknown (b : Bool) : ofBool b ≠ .unknown := by
  cases b <;> simp [ofBool]

@[simp]
theorem not_ofBool (b : Bool) : (ofBool b).not = ofBool !b := by
  cases b <;> rfl

theorem ofBool_holds_of_ne_unknown {t : Truth} (proper : t.isProper) (known : t ≠ .unknown) :
    ofBool t.holds = t := by
  cases t with
  | no => rfl
  | unknown => exact absurd rfl known
  | yes => rfl
  | other _ => cases proper

/-- The truth where the unknown counts as false. -/
def decided (t : Truth) : Truth :=
  ofBool t.holds

@[simp]
theorem holds_decided (t : Truth) : t.decided.holds = t.holds :=
  holds_ofBool _

@[simp]
theorem isProper_decided (t : Truth) : t.decided.isProper :=
  isProper_ofBool _

theorem decided_eq_self {t : Truth} (proper : t.isProper) (known : t ≠ .unknown) :
    t.decided = t :=
  ofBool_holds_of_ne_unknown proper known

@[simp]
theorem decided_ofBool (b : Bool) : (ofBool b).decided = ofBool b := by
  rw [decided, holds_ofBool]

/-! ## Negation -/

theorem isProper_not (t : Truth) : t.not.isProper := by
  cases t with
  | other truthy => exact isProper_ofBool _
  | no | unknown | yes => rfl

theorem not_not {t : Truth} (proper : t.isProper) : t.not.not = t := by
  cases t with
  | other _ => cases proper
  | no | unknown | yes => rfl

theorem decided_not_of_eq_self {t : Truth} (known : t.decided = t) : t.not.decided = t.not := by
  cases t with
  | unknown | other _ => cases known
  | no | yes => rfl

theorem not_eq_yes_iff {t : Truth} (proper : t.isProper) : t.not = .yes ↔ t = .no := by
  cases t with
  | other _ => cases proper
  | no | unknown | yes => simp [not]

theorem not_eq_no_iff {t : Truth} (proper : t.isProper) : t.not = .no ↔ t = .yes := by
  cases t with
  | other _ => cases proper
  | no | unknown | yes => simp [not]

theorem isProper_negatedIf {t : Truth} (proper : t.isProper) (negated : Bool) :
    (t.negatedIf negated).isProper := by
  cases negated with
  | false => exact proper
  | true => exact isProper_not t

/-! ## Conjunction and disjunction -/

@[simp]
theorem isProper_and (s t : Truth) : (s.and t).isProper := by
  cases s <;> cases t <;> rfl

@[simp]
theorem isProper_or (s t : Truth) : (s.or t).isProper := by
  cases s <;> cases t <;> rfl

theorem and_assoc (s t u : Truth) : (s.and t).and u = s.and (t.and u) := by
  cases s <;> cases t <;> cases u <;> rfl

theorem or_assoc (s t u : Truth) : (s.or t).or u = s.or (t.or u) := by
  cases s <;> cases t <;> cases u <;> rfl

theorem yes_and {t : Truth} (proper : t.isProper) : Truth.yes.and t = t := by
  cases t with
  | other _ => cases proper
  | no | unknown | yes => rfl

theorem no_or {t : Truth} (proper : t.isProper) : Truth.no.or t = t := by
  cases t with
  | other _ => cases proper
  | no | unknown | yes => rfl

@[simp]
theorem no_and (t : Truth) : Truth.no.and t = .no := by
  cases t <;> rfl

@[simp]
theorem yes_or (t : Truth) : Truth.yes.or t = .yes := by
  cases t <;> rfl

@[simp]
theorem and_no (t : Truth) : t.and .no = .no := by
  cases t <;> rfl

@[simp]
theorem or_yes (t : Truth) : t.or .yes = .yes := by
  cases t <;> rfl

@[simp]
theorem and_yes {t : Truth} (proper : t.isProper) : t.and .yes = t := by
  cases t with
  | other _ => cases proper
  | no | unknown | yes => rfl

@[simp]
theorem or_no {t : Truth} (proper : t.isProper) : t.or .no = t := by
  cases t with
  | other _ => cases proper
  | no | unknown | yes => rfl

theorem and_eq_yes_iff {s t : Truth} (first : s.isProper) (second : t.isProper) :
    s.and t = .yes ↔ s = .yes ∧ t = .yes := by
  cases s <;> cases t <;> simp_all [and, isProper]

theorem and_eq_no_iff {s t : Truth} : s.and t = .no ↔ s = .no ∨ t = .no := by
  cases s <;> cases t <;> simp [and]

theorem or_eq_yes_iff {s t : Truth} : s.or t = .yes ↔ s = .yes ∨ t = .yes := by
  cases s <;> cases t <;> simp [or]

theorem or_eq_no_iff {s t : Truth} (first : s.isProper) (second : t.isProper) :
    s.or t = .no ↔ s = .no ∧ t = .no := by
  cases s <;> cases t <;> simp_all [or, isProper]

theorem and_left_comm (s t u : Truth) : s.and (t.and u) = t.and (s.and u) := by
  cases s <;> cases t <;> cases u <;> rfl

theorem or_left_comm (s t u : Truth) : s.or (t.or u) = t.or (s.or u) := by
  cases s <;> cases t <;> cases u <;> rfl

theorem decided_and {s t : Truth} (first : s.isProper) (second : t.isProper) :
    (s.and t).decided = s.decided.and t.decided := by
  cases s with
  | other _ => cases first
  | no | unknown | yes =>
      cases t with
      | other _ => cases second
      | no | unknown | yes => rfl

theorem decided_or (s t : Truth) : (s.or t).decided = s.decided.or t.decided := by
  cases s <;> cases t <;> rfl

theorem holds_and {s t : Truth} (first : s.isProper) (second : t.isProper) :
    (s.and t).holds = (s.holds && t.holds) := by
  cases s with
  | other _ => cases first
  | no | unknown | yes =>
      cases t with
      | other _ => cases second
      | no | unknown | yes => rfl

theorem holds_or (s t : Truth) : (s.or t).holds = (s.holds || t.holds) := by
  cases s <;> cases t <;> rfl

theorem and_or_distrib {t u : Truth} (first : t.isProper) (second : u.isProper) (s : Truth) :
    s.and (t.or u) = (s.and t).or (s.and u) := by
  cases t with
  | other _ => cases first
  | no | unknown | yes =>
      cases u with
      | other _ => cases second
      | no | unknown | yes => cases s <;> rfl

/-! ## Lists -/

@[simp]
theorem all_nil : all [] = .yes :=
  rfl

@[simp]
theorem any_nil : any [] = .no :=
  rfl

@[simp]
theorem all_cons (t : Truth) (ts : List Truth) : all (t :: ts) = t.and (all ts) :=
  rfl

@[simp]
theorem any_cons (t : Truth) (ts : List Truth) : any (t :: ts) = t.or (any ts) :=
  rfl

@[simp]
theorem isProper_all (ts : List Truth) : (all ts).isProper := by
  cases ts with
  | nil => rfl
  | cons t ts => exact isProper_and t (all ts)

@[simp]
theorem isProper_any (ts : List Truth) : (any ts).isProper := by
  cases ts with
  | nil => rfl
  | cons t ts => exact isProper_or t (any ts)

theorem all_append (ts us : List Truth) : all (ts ++ us) = (all ts).and (all us) := by
  induction ts with
  | nil => exact (yes_and (isProper_all us)).symm
  | cons t ts ih => simp only [List.cons_append, all_cons, ih, and_assoc]

theorem any_append (ts us : List Truth) : any (ts ++ us) = (any ts).or (any us) := by
  induction ts with
  | nil => exact (no_or (isProper_any us)).symm
  | cons t ts ih => simp only [List.cons_append, any_cons, ih, or_assoc]

theorem all_singleton {t : Truth} (proper : t.isProper) : all [t] = t :=
  and_yes proper

theorem any_singleton {t : Truth} (proper : t.isProper) : any [t] = t :=
  or_no proper

theorem all_eq_no_iff {ts : List Truth} : all ts = .no ↔ .no ∈ ts := by
  induction ts with
  | nil => simp
  | cons t ts ih => rw [all_cons, and_eq_no_iff, ih, List.mem_cons, eq_comm]

theorem any_eq_yes_iff {ts : List Truth} : any ts = .yes ↔ .yes ∈ ts := by
  induction ts with
  | nil => simp
  | cons t ts ih => rw [any_cons, or_eq_yes_iff, ih, List.mem_cons, eq_comm]

theorem all_eq_yes_iff {ts : List Truth} (proper : ∀ t ∈ ts, t.isProper) :
    all ts = .yes ↔ ∀ t ∈ ts, t = .yes := by
  induction ts with
  | nil => simp
  | cons t ts ih =>
      rw [List.forall_mem_cons] at proper
      rw [all_cons, and_eq_yes_iff proper.1 (isProper_all ts), ih proper.2, List.forall_mem_cons]

theorem any_eq_no_iff {ts : List Truth} (proper : ∀ t ∈ ts, t.isProper) :
    any ts = .no ↔ ∀ t ∈ ts, t = .no := by
  induction ts with
  | nil => simp
  | cons t ts ih =>
      rw [List.forall_mem_cons] at proper
      rw [any_cons, or_eq_no_iff proper.1 (isProper_any ts), ih proper.2, List.forall_mem_cons]

theorem decided_all {ts : List Truth} (proper : ∀ t ∈ ts, t.isProper) :
    (all ts).decided = all (ts.map decided) := by
  induction ts with
  | nil => rfl
  | cons t ts ih =>
      rw [List.forall_mem_cons] at proper
      rw [all_cons, decided_and proper.1 (isProper_all ts), ih proper.2, List.map_cons, all_cons]

theorem decided_any (ts : List Truth) : (any ts).decided = any (ts.map decided) := by
  induction ts with
  | nil => rfl
  | cons t ts ih => rw [any_cons, decided_or, ih, List.map_cons, any_cons]

theorem holds_all {ts : List Truth} (proper : ∀ t ∈ ts, t.isProper) :
    (all ts).holds = ts.all holds := by
  induction ts with
  | nil => rfl
  | cons t ts ih =>
      rw [List.forall_mem_cons] at proper
      rw [all_cons, holds_and proper.1 (isProper_all ts), ih proper.2, List.all_cons]

theorem holds_any (ts : List Truth) : (any ts).holds = ts.any holds := by
  induction ts with
  | nil => rfl
  | cons t ts ih => rw [any_cons, holds_or, ih, List.any_cons]

end RowGuard.Truth
