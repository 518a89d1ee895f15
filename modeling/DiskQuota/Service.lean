import DiskQuota.Journal
import DiskQuota.Settings
import DiskQuota.Task

/-!
A quota service and the scope of a session on it. A service is given by its calls, which may fail
with a status, and its releases, which do not fail. `Service.withSession` acquires a session, works
with it and leaves nothing behind: the context is torn down once per attempt, also where resolving an
identifier failed before there was a context; the session is released exactly if it was obtained, and
before the context. `Service.withRecord` does the same for a record inside the session's scope.
-/
namespace DiskQuota

/-- A quota service over the state `σ` that shows its calls as `ε`. -/
structure Service (σ ε : Type) where
  /-- A class or interface identifier, once resolved. -/
  Ident : Type
  /-- A live session of the quota manager. -/
  Session : Type
  /-- A quota record, with the changes made to it and not yet committed. -/
  Record : Type
  resolve : String → Task σ ε Status Ident
  openContext : Threading → Task σ ε Status Unit
  instantiate : (manager interface : Ident) → ServerContext → Task σ ε Status Session
  create : Session → (volume : String) → Task σ ε Status Record
  /-- The record of a volume, `none` if the service has no quota for it. -/
  get : Session → (volume : String) → Task σ ε Status (Option Record)
  /-- The record with its limit changed; the change counts once it is committed. -/
  setLimit : Record → (limit : UInt64) → Task σ ε Status Record
  limit : Record → Task σ ε Status UInt64
  used : Record → Task σ ε Status UInt64
  commit : Record → Task σ ε Status Unit
  releaseRecord : Record → σ → Ran σ ε Unit
  releaseSession : Session → σ → Ran σ ε Unit
  closeContext : σ → Ran σ ε Unit

variable {σ ε α : Type}

/-- Writes an event into the journal. -/
def note (event : Event) : Task σ (Entry ε) StepError Unit := .record (.log event)

/-- Makes the call that is due at a step. A failure is logged at once and filed under the step. -/
def attempt (step : Step) (call : Task σ ε Status α) : Task σ (Entry ε) StepError α := fun s =>
  match call s with
  | ⟨.ok a, t, s⟩ => ⟨.ok a, t.map .call, s⟩
  | ⟨.error code, t, s⟩ =>
    ⟨.error (.ofStep step code), t.map .call ++ [.log (.callFailed step code)], s⟩

/-- Announces a release and makes it. -/
def announced (event : Event) (release : σ → Ran σ ε Unit) : σ → Ran σ (Entry ε) Unit := fun s =>
  let r := release s
  ⟨(), .log event :: r.trace.map .call, r.state⟩

/-- The span is entered before the work and left after it, whatever it came to. -/
def inSpan (span : Span) (work : Task σ (Entry ε) StepError α) :
    Task σ (Entry ε) StepError α := fun s =>
  let r := work s
  ⟨r.value, .enter span :: (r.trace ++ [.exit span]), r.state⟩

/-! What stands around a call or a piece of work adds no call of its own and leaves the state alone. -/

theorem attempt_value (step : Step) (call : Task σ ε Status α) (s : σ) :
    (attempt step call s).value = (call s).value.mapError (.ofStep step) := by
  unfold attempt
  split
  · next h => rw [h]; rfl
  · next h => rw [h]; rfl

@[simp] theorem calls_attempt (step : Step) (call : Task σ ε Status α) (s : σ) :
    calls (attempt step call s).trace = (call s).trace := by
  unfold attempt
  split <;> simp_all

@[simp] theorem attempt_state (step : Step) (call : Task σ ε Status α) (s : σ) :
    (attempt step call s).state = (call s).state := by
  unfold attempt
  split <;> simp_all

@[simp] theorem inSpan_value (span : Span) (work : Task σ (Entry ε) StepError α) (s : σ) :
    (inSpan span work s).value = (work s).value := rfl

@[simp] theorem calls_inSpan (span : Span) (work : Task σ (Entry ε) StepError α) (s : σ) :
    calls (inSpan span work s).trace = calls (work s).trace := by
  simp [inSpan]

@[simp] theorem inSpan_state (span : Span) (work : Task σ (Entry ε) StepError α) (s : σ) :
    (inSpan span work s).state = (work s).state := rfl

@[simp] theorem calls_announced (event : Event) (release : σ → Ran σ ε Unit) (s : σ) :
    calls (announced event release s).trace = (release s).trace := by
  simp [announced]

@[simp] theorem announced_state (event : Event) (release : σ → Ran σ ε Unit) (s : σ) :
    (announced event release s).state = (release s).state := rfl

namespace Service

variable (S : Service σ ε)

/-- The four steps to a session. -/
def acquire (settings : Settings) : Task σ (Entry ε) StepError S.Session := do
  let manager ← attempt .resolveManagerClass (S.resolve settings.managerClass)
  let interface ← attempt .resolveManagerInterface (S.resolve settings.managerInterface)
  attempt .initializeContext (S.openContext settings.threading)
  let session ← attempt .instantiateSession
    (S.instantiate manager interface settings.serverContext)
  note .sessionAcquired
  return session

/-- Works with a fresh session, which is released afterwards, and after it the context. -/
def withSession (settings : Settings) (work : S.Session → Task σ (Entry ε) StepError α) :
    Task σ (Entry ε) StepError α :=
  Task.ensuring
    (do
      let session ← S.acquire settings
      (work session).ensuring (announced .releasingSession (S.releaseSession session)))
    (announced .tearingDown S.closeContext)

/-- Works with a record, which is released afterwards. -/
def withRecord (record : S.Record) (work : Task σ (Entry ε) StepError α) :
    Task σ (Entry ε) StepError α :=
  work.ensuring (announced .releasingRecord (S.releaseRecord record))

end Service
end DiskQuota
