import DiskQuota.Proofs.Fsrm.NotFound

/-!
Runs of tasks, told by their calls. The outcomes in store are known by their place, and with them what
came of each call of a trace (`Machine.answers`). A run is told by what the task comes to and by its
calls, which tell of the state too (`Runs`); there is one rule for each way in which a task is built.
-/
namespace DiskQuota.Fsrm

/-! Outcomes by their place. -/

namespace Machine

variable (m : Machine) (t u : List Call)

/-- The outcome that falls to the call that can fail after `n` others. -/
def outcome (n : Nat) : Outcome := (m.store.drop n).headD .success

/-- The calls of a trace that can fail, each with the outcome that falls to it. -/
def answers : List (Call × Outcome) := exchanges Call.asks .success m.store t

theorem outcome_after (n : Nat) : (m.after t).outcome n = m.outcome (t.countP Call.asks + n) :=
  congrArg (fun os : List Outcome => os.headD .success) List.drop_drop

theorem answers_append : m.answers (t ++ u) = m.answers t ++ (m.after t).answers u :=
  exchanges_append _ _ _ t u

theorem answers_eq : m.answers t = (t.filter Call.asks).mapIdx fun i c => (c, m.outcome i) := by
  induction t generalizing m with
  | nil => rfl
  | cons c t ih =>
    have hcons : c :: t = [c] ++ t := rfl
    by_cases hc : c.asks = true
    · have hcount : [c].countP Call.asks = 1 := List.countP_singleton.trans (if_pos hc)
      have hhead : m.answers [c] = [(c, m.outcome 0)] := by simp [answers, exchanges, hc, outcome]
      rw [hcons, answers_append, hhead, ih, ← hcons, List.filter_cons_of_pos hc, List.mapIdx_cons]
      simp only [outcome_after, hcount, Nat.add_comm]
      rfl
    · have hcount : [c].countP Call.asks = 0 := by simp [hc]
      have hhead : m.answers [c] = [] := by simp [answers, exchanges, hc]
      rw [hcons, answers_append, hhead, ih, ← hcons, List.filter_cons_of_neg hc]
      simp only [outcome_after, hcount, Nat.zero_add]
      rfl

end Machine

theorem settle_of_none {α : Type} {o : Outcome} (h : o.failure? = none) (a : α) : o.settle a = .ok a := by
  rw [Outcome.settle, h]

theorem map_settle {α β : Type} (o : Outcome) (a : α) (g : α → β) :
    (o.settle a).map g = o.settle (g a) := by
  rw [Outcome.settle, Outcome.settle]
  cases o.failure? <;> rfl

theorem map_mapError {α β : Type} (v : Except Status α) (f : Status → StepError) (g : α → β) :
    (v.mapError f).map g = (v.map g).mapError f := by
  cases v <;> rfl

/-- The care for a string takes no outcome. -/
theorem filter_asks_quoted (text : String) {c : Call} (hc : c.asks = true) :
    (quoted text c).filter Call.asks = [c] :=
  filter_quoted text hc rfl rfl

theorem filter_asks_readAs (o : Outcome) {c : Call} (hc : c.asks = true) :
    (readAs o c).filter Call.asks = [c] :=
  filter_readAs o hc fun _ => rfl

section

variable {m : Machine} {c : Call} {t : List Call}

theorem answers_quoted (m : Machine) (text : String) (hc : c.asks = true) :
    m.answers (quoted text c) = [(c, m.outcome 0)] := by
  rw [Machine.answers_eq, filter_asks_quoted text hc]
  rfl

theorem answers_readAs (m : Machine) (o : Outcome) (hc : c.asks = true) :
    m.answers (readAs o c) = [(c, m.outcome 0)] := by
  rw [Machine.answers_eq, filter_asks_readAs o hc]
  rfl

theorem outcome_after_quoted (m : Machine) (text : String) {c : Call} (hc : c.asks = true) (n : Nat) :
    (m.after (quoted text c)).outcome n = m.outcome (1 + n) := by
  rw [Machine.outcome_after, List.countP_eq_length_filter, filter_asks_quoted text hc]
  rfl

theorem outcome_after_readAs (m : Machine) (o : Outcome) {c : Call} (hc : c.asks = true) (n : Nat) :
    (m.after (readAs o c)).outcome n = m.outcome (1 + n) := by
  rw [Machine.outcome_after, List.countP_eq_length_filter, filter_asks_readAs o hc]
  rfl

/-- Calls of a kind are not answered where none is made. -/
theorem not_mem_answers {p : Call → Bool} (hc : p c = true) (h : ∀ d ∈ t, p d = false) (m : Machine)
    (o : Outcome) : (c, o) ∉ m.answers t := by
  intro hmem
  rw [h c (mem_of_mem_exchanges hmem)] at hc
  cases hc

end

/-! Runs of tasks, with the calls that they make. -/

section

variable {α β : Type}

/-- From `m` the task comes to `v` by the calls `t`, which tell of the state that it leaves. -/
structure Runs (x : Task Machine (Entry Call) StepError α) (m : Machine) (v : Except StepError α)
    (t : List Call) : Prop where
  value : (x m).value = v
  calls : calls (x m).trace = t
  state : (x m).state = m.after t

namespace Runs

variable {x : Task Machine (Entry Call) StepError α} {m : Machine} {v : Except StepError α}
  {t u : List Call}

protected theorem pure (a : α) : Runs (pure a) m (.ok a) [] := ⟨rfl, rfl, m.after_nil.symm⟩

protected theorem note (event : Event) : Runs (note event) m (.ok ()) [] :=
  ⟨rfl, rfl, m.after_nil.symm⟩

/-- A call at its step. -/
protected theorem attempt {call : Task Machine Call Status α} {a : Except Status α}
    (h : call m = m.ran a t) (p : Step) :
    Runs (attempt p call) m (a.mapError (.ofStep p)) t where
  value := by rw [attempt_value, h]; rfl
  calls := by rw [calls_attempt, h]; rfl
  state := by rw [attempt_state, h]; rfl

theorem attempt_ok {call : Task Machine Call Status α} {v : Except Status α} {a : α}
    (h : call m = m.ran v t) (hv : v = .ok a) (p : Step) :
    Runs (DiskQuota.attempt p call) m (.ok a) t := by
  subst hv
  exact .attempt h p

theorem attempt_error {call : Task Machine Call Status α} {v : Except Status α} {k : Status}
    (h : call m = m.ran v t) (hv : v = .error k) (p : Step) :
    Runs (DiskQuota.attempt p call) m (.error (.ofStep p k)) t := by
  subst hv
  exact .attempt h p

theorem bind_ok {f : α → Task Machine (Entry Call) StepError β} {a : α} {w : Except StepError β}
    (hx : Runs x m (.ok a) t) (hf : Runs (f a) (m.after t) w u) : Runs (x >>= f) m w (t ++ u) where
  value := by rw [Task.bind_apply_ok hx.value, hx.state, hf.value]
  calls := by rw [Task.bind_apply_ok hx.value, hx.state, calls_append, hx.calls, hf.calls]
  state := by rw [Task.bind_apply_ok hx.value, hx.state, hf.state, m.after_append]

theorem bind_error {f : α → Task Machine (Entry Call) StepError β} {e : StepError}
    (hx : Runs x m (.error e) t) : Runs (x >>= f) m (.error e) t where
  value := by rw [Task.bind_apply_error hx.value]
  calls := by rw [Task.bind_apply_error hx.value, hx.calls]
  state := by rw [Task.bind_apply_error hx.value, hx.state]

protected theorem map (g : α → β) (hx : Runs x m v t) : Runs (do return g (← x)) m (v.map g) t where
  value := by rw [Task.map_value, hx.value]
  calls := by rw [Task.map_trace, hx.calls]
  state := by rw [Task.map_state, hx.state]

/-- A cleanup follows whatever the task came to. -/
protected theorem ensuring {event : Event} {release : Machine → Ran Machine Call Unit}
    (hx : Runs x m v t) (h : release (m.after t) = (m.after t).ran () u) :
    Runs (x.ensuring (announced event release)) m v (t ++ u) where
  value := hx.value
  calls := by rw [Task.ensuring_trace, calls_append, calls_announced, hx.calls, hx.state, h]; rfl
  state := by rw [Task.ensuring_state, announced_state, hx.state, h, m.after_append]; rfl

protected theorem inSpan (span : Span) (hx : Runs x m v t) : Runs (inSpan span x) m v t where
  value := hx.value
  calls := by rw [calls_inSpan, hx.calls]
  state := hx.state

end Runs

end

end DiskQuota.Fsrm
