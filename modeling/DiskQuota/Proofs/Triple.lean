import DiskQuota.Service
import Mathlib.Logic.Basic

/-!
Triples about the state of a task. `Triple P x Q E` says that from a state with `P` the task ends in
`Q` if it succeeds and in `E` if it fails, and there is one rule for each way in which a task is built.
What stands around the calls of a service (the journal, the spans, the scopes of its handles) asks
nothing of the predicates but that the releases keep them.
-/
namespace DiskQuota

variable {σ ε φ α β : Type}

/-- From a state with `P`, the task ends in `Q` if it succeeds and in `E` if it fails. -/
def Triple (P : σ → Prop) (x : Task σ ε φ α) (Q : α → σ → Prop) (E : φ → σ → Prop) : Prop :=
  ∀ s, P s → match (x s).value with
    | .ok a => Q a (x s).state
    | .error e => E e (x s).state

/-- A cleanup that keeps a predicate. -/
def Keeps (P : σ → Prop) (cleanup : σ → Ran σ ε Unit) : Prop := ∀ s, P s → P (cleanup s).state

namespace Triple

variable {P : σ → Prop} {x : Task σ ε φ α} {f : α → Task σ ε φ β} {Q : α → σ → Prop}
  {R : β → σ → Prop} {E : φ → σ → Prop} {s : σ}

theorem of_ok (h : Triple P x Q E) (hs : P s) {a : α} (ha : (x s).value = .ok a) :
    Q a (x s).state := by
  have hx := h s hs
  rwa [ha] at hx

theorem of_error (h : Triple P x Q E) (hs : P s) {e : φ} (he : (x s).value = .error e) :
    E e (x s).state := by
  have hx := h s hs
  rwa [he] at hx

/-- A condition that is not about the state can be used right away. -/
theorem of_and {c : Prop} (h : c → Triple P x Q E) : Triple (fun s => c ∧ P s) x Q E :=
  fun s hs => h hs.1 s hs.2

protected theorem pure {a : α} (h : ∀ s, P s → Q a s) : Triple P (pure a : Task σ ε φ α) Q E := h

protected theorem record {e : ε} : Triple P (Task.record e : Task σ ε φ Unit) (fun _ => P) E :=
  fun _ hs => hs

/-- A step that does not fail. -/
theorem step_ok {g : σ → α} {h : σ → σ} (hs : ∀ s, P s → Q (g s) (h s)) :
    Triple P (Task.step fun s => (.ok (g s), h s) : Task σ ε φ α) Q E := hs

/-- A step that fails under a condition and else leaves the state alone. -/
theorem step_unless {c : σ → Bool} {e : φ} {a : α} (hE : ∀ s, P s → E e s)
    (hQ : ∀ s, P s → Q a s) :
    Triple P (Task.step fun s => (if c s then .error e else .ok a, s) : Task σ ε φ α) Q E := by
  intro s hs
  rw [Task.step_apply]
  by_cases h : c s = true
  · rw [if_pos h]
    exact hE s hs
  · rw [if_neg h]
    exact hQ s hs

protected theorem bind (hx : Triple P x Q E) (hf : ∀ a, Triple (Q a) (f a) R E) :
    Triple P (x >>= f) R E := by
  intro s hs
  cases hv : (x s).value with
  | ok a =>
    rw [Task.bind_apply_ok hv]
    exact hf a _ (hx.of_ok hs hv)
  | error e =>
    rw [Task.bind_apply_error hv]
    exact hx.of_error hs hv

/-- The cleanup runs on every path, so it has to keep both ends. -/
protected theorem ensuring {cleanup : σ → Ran σ ε Unit} (hx : Triple P x Q E)
    (hQ : ∀ a, Keeps (Q a) cleanup) (hE : ∀ e, Keeps (E e) cleanup) :
    Triple P (x.ensuring cleanup) Q E := by
  intro s hs
  rw [Task.ensuring_value, Task.ensuring_state]
  cases hv : (x s).value with
  | ok a => exact hQ a _ (hx.of_ok hs hv)
  | error e => exact hE e _ (hx.of_error hs hv)

end Triple

section

variable {P : σ → Prop} {Q : α → σ → Prop} {E : StepError → σ → Prop}

theorem Keeps.announced {event : Event} {release : σ → Ran σ ε Unit} (h : Keeps P release) :
    Keeps P (announced event release) :=
  fun s hs => h s hs

namespace Triple

protected theorem note {event : Event} : Triple P (note (ε := ε) event) (fun _ => P) E :=
  fun _ hs => hs

protected theorem inSpan {span : Span} {x : Task σ (Entry ε) StepError α} (h : Triple P x Q E) :
    Triple P (inSpan span x) Q E :=
  fun s hs => h s hs

/-- A call ends as it ends, and its failure is filed under the step. -/
protected theorem attempt {step : Step} {call : Task σ ε Status α}
    (h : Triple P call Q fun code => E (.ofStep step code)) : Triple P (attempt step call) Q E := by
  intro s hs
  rw [attempt_value, attempt_state]
  cases hv : (call s).value with
  | ok a => exact h.of_ok hs hv
  | error code => exact h.of_error hs hv

variable {S : Service σ ε}

protected theorem withRecord {record : S.Record} {work : Task σ (Entry ε) StepError α}
    (h : Triple P work Q E) (hQ : ∀ a, Keeps (Q a) (S.releaseRecord record))
    (hE : ∀ e, Keeps (E e) (S.releaseRecord record)) : Triple P (S.withRecord record work) Q E :=
  h.ensuring (fun a => (hQ a).announced) fun e => (hE e).announced

end Triple

/-- A service whose calls up to a session, and whose releases, leave alone what `P` is about. -/
structure Service.Neutral (S : Service σ ε) (P : σ → Prop) : Prop where
  resolve : ∀ text, Triple P (S.resolve text) (fun _ => P) fun _ => P
  openContext : ∀ threading, Triple P (S.openContext threading) (fun _ => P) fun _ => P
  instantiate : ∀ manager interface context,
    Triple P (S.instantiate manager interface context) (fun _ => P) fun _ => P
  releaseRecord : ∀ record, Keeps P (S.releaseRecord record)
  releaseSession : ∀ session, Keeps P (S.releaseSession session)
  closeContext : Keeps P S.closeContext

namespace Triple

variable {S : Service σ ε}

protected theorem acquire (hP : S.Neutral P) (settings : Settings) :
    Triple P (S.acquire settings) (fun _ => P) fun _ => P := by
  apply Triple.bind (.attempt (hP.resolve _))
  intro _
  apply Triple.bind (.attempt (hP.resolve _))
  intro _
  apply Triple.bind (.attempt (hP.openContext _))
  intro _
  apply Triple.bind (.attempt (hP.instantiate _ _ _))
  intro _
  exact .bind .note fun _ => .pure fun _ hs => hs

/-- Work in a session: what it fails with is what the acquisition fails with as well. -/
protected theorem withSession (hP : S.Neutral P) (hQ : ∀ a, S.Neutral (Q a)) {settings : Settings}
    {work : S.Session → Task σ (Entry ε) StepError α}
    (hwork : ∀ session, Triple P (work session) Q fun _ => P) :
    Triple P (S.withSession settings work) Q fun _ => P := by
  refine .ensuring ?_ (fun a => (hQ a).closeContext.announced) fun _ => hP.closeContext.announced
  apply Triple.bind (.acquire hP settings)
  intro session
  exact (hwork session).ensuring (fun a => ((hQ a).releaseSession session).announced)
    fun _ => (hP.releaseSession session).announced

end Triple

end

end DiskQuota
