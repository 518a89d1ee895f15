import DiskQuota.Proofs.Session

/-!
Operations as work in a session. Every operation is some work (`Operation.work`) in a session of its own,
within its span (`Operation.run_eq`), so what holds of work in a session is said once for all operations.
The four differ in how they obtain a record and in what they make of it.
-/
namespace DiskQuota

variable {σ ε φ α β γ : Type}

/-! What is made of a result can be made of it before a cleanup and within a span. -/

theorem Task.map_bind (x : Task σ ε φ α) (f : α → Task σ ε φ β) (g : β → γ) :
    (do return g (← x >>= f)) = x >>= fun a => do return g (← f a) := by
  funext s
  rw [Task.map_apply]
  cases hv : (x s).value with
  | error e =>
    rw [Task.bind_apply_error hv, Task.bind_apply_error hv]
    rfl
  | ok a => rw [Task.bind_apply_ok hv, Task.bind_apply_ok hv, Task.map_apply]

theorem Task.map_ensuring (x : Task σ ε φ α) (cleanup : σ → Ran σ ε Unit) (g : α → β) :
    (do return g (← x.ensuring cleanup)) = Task.ensuring (do return g (← x)) cleanup := by
  funext s
  rw [Task.map_apply, Task.ensuring, Task.ensuring, Task.map_apply]

theorem map_inSpan (span : Span) (x : Task σ (Entry ε) StepError α) (g : α → β) :
    (do return g (← inSpan span x)) = inSpan span (do return g (← x)) := by
  funext s
  rw [Task.map_apply, inSpan, inSpan, Task.map_apply]

namespace Service

variable (S : Service σ ε) (settings : Settings)

theorem map_withSession (work : S.Session → Task σ (Entry ε) StepError α) (g : α → β) :
    (do return g (← S.withSession settings work)) =
      S.withSession settings fun session => do return g (← work session) := by
  rw [withSession, Task.map_ensuring, Task.map_bind]
  simp only [Task.map_ensuring]
  rfl

/-- Gives a record a limit and commits it. -/
def change (limit : UInt64) (record : S.Record) : Task σ (Entry ε) StepError Unit := do
  let changed ← attempt .setLimit (S.setLimit record limit)
  attempt .commit (S.commit changed)
  note .quotaCommitted

theorem setQuota_eq (volume : String) (limit : UInt64) : S.setQuota settings volume limit =
    inSpan (.setQuota volume limit) (S.withSession settings fun session => do
      let record ← attempt .createRecord (S.create session volume)
      S.withRecord record (S.change limit record)) := rfl

theorem map_found (missing : α) (work : S.Record → Task σ (Entry ε) StepError α) (g : α → β)
    (record : Option S.Record) : (do return g (← S.found missing work record)) =
      S.found (g missing) (fun record => do return g (← work record)) record := by
  cases record with
  | none => rfl
  | some record => exact Task.map_ensuring (work record) _ g

end Service

namespace Operation

/-- The span that an operation stands in. -/
def span : Operation → Span
  | setQuota volume limit => .setQuota volume limit
  | getQuotaUsed volume | queryUsage volume => .queryUsage volume
  | describeQuota volume => .describeQuota volume

/-- What an operation does in its session. -/
def work (S : Service σ ε) : Operation → S.Session → Task σ (Entry ε) StepError Answer
  | setQuota volume limit, session => do
    let record ← attempt .createRecord (S.create session volume)
    S.withRecord record do
      S.change limit record
      return .done
  | getQuotaUsed volume, session => do
    let record ← attempt .getRecord (S.get session volume)
    S.found (.bytes 0) (fun record => do return .bytes (← S.usage record).bytes) record
  | queryUsage volume, session => do
    let record ← attempt .getRecord (S.get session volume)
    S.found (.usage .notConfigured) (fun record => do return .usage (← S.usage record)) record
  | describeQuota volume, session => do
    let record ← attempt .getRecord (S.get session volume)
    S.found (.snapshot none) (fun record => do return .snapshot (← S.snapshot volume record)) record

variable (S : Service σ ε) (settings : Settings)

/-- **An operation is work in a session**, within its span. -/
theorem run_eq (op : Operation) :
    op.run S settings = inSpan op.span (S.withSession settings (op.work S)) := by
  cases op with
  | setQuota volume limit =>
    show (do return (fun _ => Answer.done) (← S.setQuota settings volume limit)) = _
    rw [Service.setQuota_eq, map_inSpan, S.map_withSession]
    simp only [Task.map_bind, Service.withRecord, Task.map_ensuring]
    rfl
  | getQuotaUsed volume =>
    show (do return Answer.bytes (← S.getQuotaUsed settings volume)) = _
    rw [Service.getQuotaUsed, Task.map_bind, Service.queryUsage_eq]
    show (do return Answer.bytes (← _ : Usage).bytes) = _
    rw [map_inSpan, Service.search, S.map_withSession]
    simp only [Task.map_bind, S.map_found _ _ fun u : Usage => Answer.bytes u.bytes]
    rfl
  | queryUsage volume =>
    show (do return Answer.usage (← S.queryUsage settings volume)) = _
    rw [Service.queryUsage_eq, map_inSpan, Service.search, S.map_withSession]
    simp only [Task.map_bind, S.map_found]
    rfl
  | describeQuota volume =>
    show (do return Answer.snapshot (← S.describeQuota settings volume)) = _
    rw [Service.describeQuota_eq, map_inSpan, Service.search, S.map_withSession]
    simp only [Task.map_bind, S.map_found]
    rfl

end Operation
end DiskQuota
