import DiskQuota.Service

/-!
Tasks without their log. What a task does to the state, what it comes to and which calls it makes do not
depend on what it writes into the journal between the calls, so a task with a journal can be read as a
task on the calls alone (`Task.bare`). Each way of building a task has its counterpart there: notes and
spans vanish, a call at a step is the call with its failure filed, and an announced release is the
release.
-/
namespace DiskQuota

variable {σ ε φ ψ α β : Type}

namespace Task

/-- The task with nothing but its calls on record. -/
def bare (x : Task σ (Entry ε) φ α) : Task σ ε φ α := fun s =>
  ⟨(x s).value, calls (x s).trace, (x s).state⟩

/-- The task with its failures put in other words. -/
def mapError (f : φ → ψ) (x : Task σ ε φ α) : Task σ ε ψ α := fun s =>
  ⟨(x s).value.mapError f, (x s).trace, (x s).state⟩

@[simp] theorem bare_pure (a : α) : (pure a : Task σ (Entry ε) φ α).bare = pure a := rfl

@[simp] theorem bare_bind (x : Task σ (Entry ε) φ α) (f : α → Task σ (Entry ε) φ β) :
    (x >>= f).bare = x.bare >>= fun a => (f a).bare := by
  funext s
  cases h : (x s).value with
  | ok a => simp [bare, bind_apply_ok h, bind_apply_ok (x := x.bare) h]
  | error e => simp [bare, bind_apply_error h, bind_apply_error (x := x.bare) h]

@[simp] theorem bare_ensuring (x : Task σ (Entry ε) φ α) (event : Event) (release : σ → Ran σ ε Unit) :
    (x.ensuring (announced event release)).bare = x.bare.ensuring release := by
  funext s
  simp [bare, ensuring]

@[simp] theorem bare_note (event : Event) :
    (note event : Task σ (Entry ε) StepError Unit).bare = pure () := rfl

@[simp] theorem bare_inSpan (span : Span) (x : Task σ (Entry ε) StepError α) :
    (inSpan span x).bare = x.bare := by
  funext s
  simp [bare]

@[simp] theorem bare_attempt (step : Step) (call : Task σ ε Status α) :
    (attempt step call).bare = call.mapError (.ofStep step) := by
  funext s
  simp [bare, mapError, attempt_value]

end Task
end DiskQuota
