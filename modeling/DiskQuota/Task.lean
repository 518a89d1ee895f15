/-!
Work over a state that is put on record as it goes. A task may fail; its trace and the state it
leaves count either way, and a task after a failed one does not run. `Task.ensuring` is the exception
to the last: what it adds runs on every path.
-/
namespace DiskQuota

/-- What a piece of work came to: its value, what it put on record, and the state after it. -/
structure Ran (σ ε α : Type) where
  value : α
  trace : List ε
  state : σ

/-- Work over the state `σ` that records `ε` and may fail with `φ`. -/
def Task (σ ε φ α : Type) : Type := σ → Ran σ ε (Except φ α)

namespace Task

variable {σ ε φ α β : Type}

protected def pure (a : α) : Task σ ε φ α := fun s => ⟨.ok a, [], s⟩

protected def bind (x : Task σ ε φ α) (f : α → Task σ ε φ β) : Task σ ε φ β := fun s =>
  match x s with
  | ⟨.ok a, t, s⟩ => let r := f a s; ⟨r.value, t ++ r.trace, r.state⟩
  | ⟨.error e, t, s⟩ => ⟨.error e, t, s⟩

instance : Monad (Task σ ε φ) where
  pure := Task.pure
  bind := Task.bind

@[simp] theorem pure_apply (a : α) (s : σ) : (pure a : Task σ ε φ α) s = ⟨.ok a, [], s⟩ := rfl

theorem bind_apply (x : Task σ ε φ α) (f : α → Task σ ε φ β) (s : σ) :
    (x >>= f) s = match x s with
      | ⟨.ok a, t, s⟩ => let r := f a s; ⟨r.value, t ++ r.trace, r.state⟩
      | ⟨.error e, t, s⟩ => ⟨.error e, t, s⟩ := rfl

theorem bind_apply_ok {x : Task σ ε φ α} {f : α → Task σ ε φ β} {s : σ} {a : α}
    (h : (x s).value = .ok a) :
    (x >>= f) s = ⟨(f a (x s).state).value, (x s).trace ++ (f a (x s).state).trace,
      (f a (x s).state).state⟩ := by
  obtain ⟨v, t, s', hx⟩ : ∃ v t s', x s = ⟨v, t, s'⟩ := ⟨_, _, _, rfl⟩
  simp only [hx] at h
  subst h
  simp [bind_apply, hx]

theorem bind_apply_error {x : Task σ ε φ α} {f : α → Task σ ε φ β} {s : σ} {e : φ}
    (h : (x s).value = .error e) : (x >>= f) s = ⟨.error e, (x s).trace, (x s).state⟩ := by
  obtain ⟨v, t, s', hx⟩ : ∃ v t s', x s = ⟨v, t, s'⟩ := ⟨_, _, _, rfl⟩
  simp only [hx] at h
  subst h
  simp [bind_apply, hx]

/-- Fails at once, with nothing on record. -/
def fail (e : φ) : Task σ ε φ α := fun s => ⟨.error e, [], s⟩

/-- Puts one entry on record. -/
def record (e : ε) : Task σ ε φ Unit := fun s => ⟨.ok (), [e], s⟩

/-- Looks at the state and may change it. -/
def step (f : σ → Except φ α × σ) : Task σ ε φ α := fun s => ⟨(f s).1, [], (f s).2⟩

/-- The task and after it, whatever it came to, the cleanup. -/
def ensuring (x : Task σ ε φ α) (cleanup : σ → Ran σ ε Unit) : Task σ ε φ α := fun s =>
  let r := x s
  let c := cleanup r.state
  ⟨r.value, r.trace ++ c.trace, c.state⟩

@[simp] theorem fail_apply (e : φ) (s : σ) : (fail e : Task σ ε φ α) s = ⟨.error e, [], s⟩ := rfl

@[simp] theorem record_apply (e : ε) (s : σ) :
    (record e : Task σ ε φ Unit) s = ⟨.ok (), [e], s⟩ := rfl

@[simp] theorem step_apply (f : σ → Except φ α × σ) (s : σ) :
    (step f : Task σ ε φ α) s = ⟨(f s).1, [], (f s).2⟩ := rfl

section

variable (x : Task σ ε φ α) (g : α → β) (s : σ)

/-! Making something of a result is silent. -/

theorem map_apply : (do return g (← x) : Task σ ε φ β) s =
    ⟨(x s).value.map g, (x s).trace, (x s).state⟩ := by
  cases hv : (x s).value with
  | error e =>
    rw [bind_apply_error hv]
    rfl
  | ok a =>
    rw [bind_apply_ok hv, pure_apply, List.append_nil]
    rfl

theorem map_value : ((do return g (← x) : Task σ ε φ β) s).value = (x s).value.map g := by
  rw [map_apply]

theorem map_trace : ((do return g (← x) : Task σ ε φ β) s).trace = (x s).trace := by
  rw [map_apply]

theorem map_state : ((do return g (← x) : Task σ ε φ β) s).state = (x s).state := by
  rw [map_apply]

end

section

variable (x : Task σ ε φ α) (cleanup : σ → Ran σ ε Unit) (s : σ)

@[simp] theorem ensuring_value : (x.ensuring cleanup s).value = (x s).value := rfl

@[simp] theorem ensuring_trace :
    (x.ensuring cleanup s).trace = (x s).trace ++ (cleanup (x s).state).trace := rfl

@[simp] theorem ensuring_state : (x.ensuring cleanup s).state = (cleanup (x s).state).state := rfl

end

end Task
end DiskQuota
