/-!
# Computations that leave a trace

A computation may fail, and on its way it notes events in order. What was noted before a failure is
kept. Evaluation notes the relationships it found unloaded, and compilation notes its findings.
-/

set_option autoImplicit false

namespace RowGuard

/-- The outcome of a computation: a value or an error, and the events noted up to then. -/
structure Traced (ε ν α : Type) where
  result : Except ε α
  trace : List ν

namespace Traced

variable {ε ν α β : Type}

def ok (value : α) : Traced ε ν α :=
  ⟨.ok value, []⟩

def fail (error : ε) : Traced ε ν α :=
  ⟨.error error, []⟩

def note (event : ν) : Traced ε ν Unit :=
  ⟨.ok (), [event]⟩

def noteAll (events : List ν) : Traced ε ν Unit :=
  ⟨.ok (), events⟩

def lift (result : Except ε α) : Traced ε ν α :=
  ⟨result, []⟩

/-- Goes on with the value, if there is one; the events follow one another. -/
def andThen (first : Traced ε ν α) (next : α → Traced ε ν β) : Traced ε ν β :=
  match first.result with
  | .error error => ⟨.error error, first.trace⟩
  | .ok value => ⟨(next value).result, first.trace ++ (next value).trace⟩

instance : Monad (Traced ε ν) where
  pure := ok
  bind := andThen

def mapError {δ : Type} (f : ε → δ) (outcome : Traced ε ν α) : Traced δ ν α :=
  ⟨outcome.result.mapError f, outcome.trace⟩

def mapTrace {μ : Type} (f : ν → μ) (outcome : Traced ε ν α) : Traced ε μ α :=
  ⟨outcome.result, outcome.trace.map f⟩

/-! ## The value and the events of a composite -/

@[simp]
theorem result_pure (value : α) : (pure value : Traced ε ν α).result = .ok value :=
  rfl

@[simp]
theorem trace_pure (value : α) : (pure value : Traced ε ν α).trace = [] :=
  rfl

/-- The value of a composite does not depend on the events. -/
theorem result_bind (first : Traced ε ν α) (next : α → Traced ε ν β) :
    (first >>= next).result = first.result >>= fun value => (next value).result := by
  change (andThen first next).result = _
  unfold andThen
  cases first.result <;> rfl

end Traced

end RowGuard
