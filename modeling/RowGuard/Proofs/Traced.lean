import RowGuard.Traced

/-! Reading a finished run apart. A composite that ends in a value is a first
run that does, followed by a second one, and its events are theirs in order.
Where only the value matters, the events of the first run are passed over. A
run that takes item after item is a step for each of them. -/

set_option autoImplicit false

namespace RowGuard.Traced

variable {ε ν α β : Type}

theorem bind_eq_ok_iff {first : Traced ε ν α} {next : α → Traced ε ν β} {value : β}
    {events : List ν} :
    first >>= next = ⟨.ok value, events⟩ ↔
      ∃ middle before after, first = ⟨.ok middle, before⟩ ∧ next middle = ⟨.ok value, after⟩ ∧
        events = before ++ after := by
  obtain ⟨result, trace⟩ := first
  change andThen ⟨result, trace⟩ next = _ ↔ _
  cases result with
  | error error => simp [andThen]
  | ok middle =>
      constructor
      · intro finished
        simp only [andThen, mk.injEq] at finished
        refine ⟨middle, trace, (next middle).trace, rfl, ?_, finished.2.symm⟩
        rw [← finished.1]
      · rintro ⟨_, before, after, same, finished, rfl⟩
        cases same
        simp [andThen, finished]

@[simp]
theorem pure_eq_ok_iff {value other : α} {events : List ν} :
    (pure value : Traced ε ν α) = ⟨.ok other, events⟩ ↔ value = other ∧ events = [] := by
  constructor
  · intro same
    cases same
    exact ⟨rfl, rfl⟩
  · rintro ⟨rfl, rfl⟩
    rfl

@[simp]
theorem fail_eq_ok_iff {error : ε} {value : α} {events : List ν} :
    (fail error : Traced ε ν α) = ⟨.ok value, events⟩ ↔ False := by
  simp [fail]

@[simp]
theorem note_eq_ok_iff {event : ν} {value : Unit} {events : List ν} :
    (note event : Traced ε ν Unit) = ⟨.ok value, events⟩ ↔ events = [event] := by
  simp [note, eq_comm]

@[simp]
theorem noteAll_eq_ok_iff {noted events : List ν} {value : Unit} :
    (noteAll noted : Traced ε ν Unit) = ⟨.ok value, events⟩ ↔ events = noted := by
  simp [noteAll, eq_comm]

@[simp]
theorem lift_eq_ok_iff {result : Except ε α} {value : α} {events : List ν} :
    (lift result : Traced ε ν α) = ⟨.ok value, events⟩ ↔ result = .ok value ∧ events = [] := by
  simp [lift, eq_comm]

theorem result_bind_of_ok {first : Traced ε ν α} {value : α} (ended : first.result = .ok value)
    (next : α → Traced ε ν β) : (first >>= next).result = (next value).result := by
  rw [result_bind, ended]
  rfl

theorem result_bind_eq_ok_iff {first : Traced ε ν α} {next : α → Traced ε ν β} {value : β} :
    (first >>= next).result = .ok value ↔
      ∃ middle, first.result = .ok middle ∧ (next middle).result = .ok value := by
  rw [result_bind]
  cases first.result with
  | error error => exact ⟨nofun, fun ⟨_, absurd, _⟩ => nomatch absurd⟩
  | ok middle =>
      constructor
      · exact fun ended => ⟨middle, rfl, ended⟩
      · rintro ⟨_, same, ended⟩
        cases same
        exact ended

theorem result_bind_eq_error_iff {first : Traced ε ν α} {next : α → Traced ε ν β} {error : ε} :
    (first >>= next).result = .error error ↔
      first.result = .error error ∨
        ∃ middle, first.result = .ok middle ∧ (next middle).result = .error error := by
  rw [result_bind]
  cases first.result with
  | error failure =>
      constructor
      · intro failed
        cases failed
        exact .inl rfl
      · rintro (failed | ⟨_, absurd, _⟩)
        · cases failed
          rfl
        · cases absurd
  | ok middle =>
      constructor
      · exact fun failed => .inr ⟨middle, rfl, failed⟩
      · rintro (absurd | ⟨_, same, failed⟩)
        · cases absurd
        · cases same
          exact failed

theorem result_bind_pure_of_ok {first : Traced ε ν α} {value : α}
    (ended : first.result = .ok value) (f : α → β) :
    (first >>= fun value => pure (f value)).result = .ok (f value) :=
  result_bind_of_ok ended _

theorem eq_ok_of_result {run : Traced ε ν α} {value : α} (ended : run.result = .ok value) :
    run = ⟨.ok value, run.trace⟩ := by
  obtain ⟨result, trace⟩ := run
  cases ended
  rfl

/-- A run that is tested by evaluation ends in a value that passes the test. -/
theorem exists_ok_of_any (run : Traced ε ν α) (test : α → Bool)
    (passed : run.result.toOption.any test) : ∃ value, run.result = .ok value ∧ test value := by
  cases ended : run.result with
  | error error => rw [ended] at passed; cases passed
  | ok value => rw [ended] at passed; exact ⟨value, rfl, passed⟩

/-! ## Events -/

/-- Whether a run notes allowed events only, however it ends. -/
def Notes (allowed : ν → Prop) (run : Traced ε ν α) : Prop :=
  ∀ event ∈ run.trace, allowed event

section Notes

variable {allowed : ν → Prop}

theorem notes_pure (value : α) : (pure value : Traced ε ν α).Notes allowed := by
  simp [Notes]

theorem notes_fail (error : ε) : (fail error : Traced ε ν α).Notes allowed := by
  simp [Notes, fail]

theorem notes_lift (result : Except ε α) : (lift result : Traced ε ν α).Notes allowed := by
  simp [Notes, lift]

theorem notes_note {event : ν} (allows : allowed event) :
    (note event : Traced ε ν Unit).Notes allowed := by
  simpa [Notes, note] using allows

theorem Notes.bind {first : Traced ε ν α} {next : α → Traced ε ν β} (before : first.Notes allowed)
    (after : ∀ value, (next value).Notes allowed) : (first >>= next).Notes allowed := by
  obtain ⟨result, trace⟩ := first
  cases result with
  | error error => exact before
  | ok value => exact List.forall_mem_append.mpr ⟨before, after value⟩

theorem Notes.of_eq {run : Traced ε ν α} {result : Except ε α} {events : List ν}
    (notes : run.Notes allowed) (ended : run = ⟨result, events⟩) :
    ∀ event ∈ events, allowed event := by
  subst ended
  exact notes

end Notes

/-! ## Errors -/

/-- Whether a run fails by allowed errors only. -/
def FailsAs (allowed : ε → Prop) (run : Traced ε ν α) : Prop :=
  ∀ error, run.result = .error error → allowed error

section FailsAs

variable {allowed : ε → Prop}

theorem failsAs_pure (value : α) : (pure value : Traced ε ν α).FailsAs allowed := by
  intro error failed
  cases failed

theorem failsAs_note (event : ν) : (note event : Traced ε ν Unit).FailsAs allowed := by
  intro error failed
  cases failed

theorem failsAs_noteAll (events : List ν) : (noteAll events : Traced ε ν Unit).FailsAs allowed := by
  intro error failed
  cases failed

theorem failsAs_fail {error : ε} (allows : allowed error) :
    (fail error : Traced ε ν α).FailsAs allowed := by
  intro error failed
  cases failed
  exact allows

theorem FailsAs.mono {run : Traced ε ν α} {others : ε → Prop} (fails : run.FailsAs allowed)
    (wider : ∀ error, allowed error → others error) : run.FailsAs others :=
  fun error failed => wider error (fails error failed)

theorem FailsAs.bind {first : Traced ε ν α} {next : α → Traced ε ν β}
    (before : first.FailsAs allowed) (after : ∀ value, (next value).FailsAs allowed) :
    (first >>= next).FailsAs allowed := by
  intro error failed
  rw [result_bind] at failed
  cases result : first.result with
  | error _ =>
      rw [result] at failed
      cases failed
      exact before _ result
  | ok value =>
      rw [result] at failed
      exact after value error failed

end FailsAs

/-! ## Runs that end -/

/-- Whether a run ends in a value. -/
def Ends (run : Traced ε ν α) : Prop :=
  ∃ value, run.result = .ok value

theorem ends_pure (value : α) : (pure value : Traced ε ν α).Ends :=
  ⟨value, rfl⟩

theorem Ends.bind {first : Traced ε ν α} {next : α → Traced ε ν β} (ended : first.Ends)
    (after : ∀ value, first.result = .ok value → (next value).Ends) : (first >>= next).Ends := by
  obtain ⟨value, same⟩ := ended
  obtain ⟨last, later⟩ := after value same
  exact ⟨last, (result_bind_of_ok same next).trans later⟩

theorem Ends.map {first : Traced ε ν α} (ended : first.Ends) (f : α → β) :
    (first >>= fun value => pure (f value)).Ends :=
  ended.bind fun value _ => ends_pure (f value)

theorem FailsAs.ends {run : Traced ε ν α} {allowed : ε → Prop} (fails : run.FailsAs allowed)
    (never : ∀ error, ¬allowed error) : run.Ends := by
  cases ended : run.result with
  | ok value => exact ⟨value, ended⟩
  | error error => exact absurd (fails error ended) (never error)

/-! ## Runs side by side -/

section EndsAs

variable {allowed wider : ε → Prop} {run other : Traced ε ν α}

/-- Whether a run ends as another one does, or else fails by an allowed error. -/
def EndsAs (allowed : ε → Prop) (run other : Traced ε ν α) : Prop :=
  run.result = other.result ∨ ∃ error, run.result = .error error ∧ allowed error

theorem EndsAs.mono (ends : run.EndsAs allowed other)
    (wide : ∀ error, allowed error → wider error) : run.EndsAs wider other := by
  rcases ends with same | ⟨error, failed, allows⟩
  · exact .inl same
  · exact .inr ⟨error, failed, wide error allows⟩

theorem EndsAs.eq_of_ok (ends : run.EndsAs allowed other) {value : α}
    (ended : run.result = .ok value) : other.result = .ok value := by
  rcases ends with same | ⟨_, failed, _⟩
  · exact same.symm.trans ended
  · cases ended.symm.trans failed

theorem EndsAs.failsAs {further : ε → Prop} (ends : run.EndsAs allowed other)
    (fails : other.FailsAs further) : run.FailsAs fun error => allowed error ∨ further error := by
  intro error failed
  rcases ends with same | ⟨_, failedAs, allows⟩
  · exact .inr (fails error (same.symm.trans failed))
  · cases failed.symm.trans failedAs
    exact .inl allows

theorem EndsAs.trans {further : ε → Prop} {last : Traced ε ν α} (ends : run.EndsAs allowed other)
    (next : other.EndsAs further last) :
    run.EndsAs (fun error => allowed error ∨ further error) last := by
  rcases ends with same | ⟨error, failed, allows⟩
  · rcases next with sameNext | ⟨error, failed, allows⟩
    · exact .inl (same.trans sameNext)
    · exact .inr ⟨error, same.trans failed, .inr allows⟩
  · exact .inr ⟨error, failed, .inl allows⟩

end EndsAs

/-! ## Results side by side -/

/-- Whether a run ends as another one does, up to a change of the value. -/
def Follows (f : α → β) (run : Traced ε ν α) (other : Traced ε ν β) : Prop :=
  other.result = run.result.map f

section Follows

variable {γ δ : Type} {f : α → β} {g : γ → δ}

theorem follows_pure (f : α → β) (value : α) :
    (pure value : Traced ε ν α).Follows f (pure (f value)) :=
  rfl

theorem Follows.bind {run : Traced ε ν α} {other : Traced ε ν β} {next : α → Traced ε ν γ}
    {nextOther : β → Traced ε ν δ} (first : run.Follows f other)
    (second : ∀ value, (next value).Follows g (nextOther (f value))) :
    (run >>= next).Follows g (other >>= nextOther) := by
  rw [Follows] at first ⊢
  rw [result_bind, result_bind, first]
  cases run.result with
  | error error => rfl
  | ok value => exact second value

theorem follows_bind_self {run : Traced ε ν α} {next : α → Traced ε ν γ}
    {nextOther : α → Traced ε ν δ} (second : ∀ value, (next value).Follows g (nextOther value)) :
    (run >>= next).Follows g (run >>= nextOther) := by
  rw [Follows, result_bind, result_bind]
  cases run.result with
  | error error => rfl
  | ok value => exact second value

end Follows

/-! ## Item by item -/

/-- Items, what a step makes of each of them, and the events in order. -/
inductive Each (step : α → β → List ν → Prop) : List α → List β → List ν → Prop where
  | nil : Each step [] [] []
  | cons {a : α} {as : List α} {b : β} {bs : List β} {before after : List ν} :
      step a b before → Each step as bs after → Each step (a :: as) (b :: bs) (before ++ after)

theorem Each.imp {step other : α → β → List ν → Prop} {as : List α} {bs : List β}
    {events : List ν} (each : Each step as bs events)
    (weaker : ∀ a ∈ as, ∀ b part, part ⊆ events → step a b part → other a b part) :
    Each other as bs events := by
  induction each with
  | nil => exact .nil
  | cons first _ ih =>
      rw [List.forall_mem_cons] at weaker
      refine .cons (weaker.1 _ _ (List.subset_append_left _ _) first) (ih ?_)
      intro a member b part within
      exact weaker.2 a member b part (List.Subset.trans within (List.subset_append_right _ _))

theorem Each.forall_left {step : α → β → List ν → Prop} {holds : α → Prop} {as : List α}
    {bs : List β} {events : List ν} (each : Each step as bs events)
    (gives : ∀ a ∈ as, ∀ b part, part ⊆ events → step a b part → holds a) :
    ∀ a ∈ as, holds a := by
  replace each : Each (fun a _ _ => holds a) as bs events := each.imp gives
  clear gives
  induction each with
  | nil => simp
  | cons first _ ih => exact List.forall_mem_cons.mpr ⟨first, ih⟩

theorem Each.forall_right {step : α → β → List ν → Prop} {holds : β → Prop} {as : List α}
    {bs : List β} {events : List ν} (each : Each step as bs events)
    (gives : ∀ a ∈ as, ∀ b part, part ⊆ events → step a b part → holds b) :
    ∀ b ∈ bs, holds b := by
  replace each : Each (fun _ b _ => holds b) as bs events := each.imp gives
  clear gives
  induction each with
  | nil => simp
  | cons first _ ih => exact List.forall_mem_cons.mpr ⟨first, ih⟩

theorem Each.forall_event {step : α → β → List ν → Prop} {holds : ν → Prop} {as : List α}
    {bs : List β} {events : List ν} (each : Each step as bs events)
    (gives : ∀ a b part, step a b part → ∀ event ∈ part, holds event) :
    ∀ event ∈ events, holds event := by
  induction each with
  | nil => simp
  | cons first _ ih => exact List.forall_mem_append.mpr ⟨gives _ _ _ first, ih⟩

end RowGuard.Traced
