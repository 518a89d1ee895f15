import DiskQuota.Manager

/-!
A principle for all operations at once. An operation is put together from the calls of a service, notes
in the journal, spans and the scopes of handles, and from nothing else; so a property of tasks that all
of these keep (`Service.Closed`) holds of every operation (`Closed.run`).
-/
namespace DiskQuota

variable {σ ε : Type}

/-- A property of tasks that is kept by everything that operations over a service are made of. -/
structure Service.Closed (S : Service σ ε)
    (P : ∀ {α : Type}, Task σ (Entry ε) StepError α → Prop) : Prop where
  pure : ∀ {α : Type} (a : α), P (pure a)
  note : ∀ event, P (note event)
  bind : ∀ {α β : Type} {x : Task σ (Entry ε) StepError α} {f : α → Task σ (Entry ε) StepError β},
    P x → (∀ a, P (f a)) → P (x >>= f)
  inSpan : ∀ {α : Type} {x : Task σ (Entry ε) StepError α} (span : Span), P x → P (inSpan span x)
  resolve : ∀ step text, P (attempt step (S.resolve text))
  openContext : ∀ step threading, P (attempt step (S.openContext threading))
  instantiate : ∀ step manager interface context,
    P (attempt step (S.instantiate manager interface context))
  create : ∀ step session volume, P (attempt step (S.create session volume))
  get : ∀ step session volume, P (attempt step (S.get session volume))
  setLimit : ∀ step record limit, P (attempt step (S.setLimit record limit))
  limit : ∀ step record, P (attempt step (S.limit record))
  used : ∀ step record, P (attempt step (S.used record))
  commit : ∀ step record, P (attempt step (S.commit record))
  withRecord : ∀ {α : Type} {x : Task σ (Entry ε) StepError α} (record : S.Record),
    P x → P (S.withRecord record x)
  withSession : ∀ {α : Type} {x : Task σ (Entry ε) StepError α} (session : S.Session),
    P x → P (x.ensuring (announced .releasingSession (S.releaseSession session)))
  withContext : ∀ {α : Type} {x : Task σ (Entry ε) StepError α},
    P x → P (x.ensuring (announced .tearingDown S.closeContext))

namespace Service.Closed

variable {S : Service σ ε} {P : ∀ {α : Type}, Task σ (Entry ε) StepError α → Prop}

theorem scope (h : S.Closed P) (settings : Settings) {α : Type}
    {work : S.Session → Task σ (Entry ε) StepError α} (hwork : ∀ session, P (work session)) :
    P (S.withSession settings work) := by
  refine h.withContext (h.bind ?_ fun session => h.withSession session (hwork session))
  apply h.bind (h.resolve _ _)
  intro manager
  apply h.bind (h.resolve _ _)
  intro interface
  apply h.bind (h.openContext _ _)
  intro _
  apply h.bind (h.instantiate _ _ _ _)
  intro session
  exact h.bind (h.note _) fun _ => h.pure session

theorem setQuota (h : S.Closed P) (settings : Settings) (volume : String) (limit : UInt64) :
    P (S.setQuota settings volume limit) := by
  refine h.inSpan _ (h.scope settings fun session => ?_)
  refine h.bind (h.create _ session volume) fun record => h.withRecord record ?_
  apply h.bind (h.setLimit _ record limit)
  intro changed
  exact h.bind (h.commit _ changed) fun _ => h.note _

theorem queryUsage (h : S.Closed P) (settings : Settings) (volume : String) :
    P (S.queryUsage settings volume) := by
  refine h.inSpan _ (h.scope settings fun session => ?_)
  apply h.bind (h.get _ session volume)
  intro found
  cases found with
  | none => exact h.bind (h.note _) fun _ => h.pure _
  | some record => exact h.withRecord record (h.bind (h.used _ record) fun n => h.pure _)

theorem getQuotaUsed (h : S.Closed P) (settings : Settings) (volume : String) :
    P (S.getQuotaUsed settings volume) :=
  h.bind (h.queryUsage settings volume) fun u => h.pure u.bytes

theorem describeQuota (h : S.Closed P) (settings : Settings) (volume : String) :
    P (S.describeQuota settings volume) := by
  refine h.inSpan _ (h.scope settings fun session => ?_)
  apply h.bind (h.get _ session volume)
  intro found
  cases found with
  | none => exact h.bind (h.note _) fun _ => h.pure _
  | some record =>
    refine h.withRecord record (h.bind (h.limit _ record) fun l => ?_)
    exact h.bind (h.used _ record) fun n => h.pure _

/-- What is kept by all that operations are made of holds of every operation. -/
theorem run (h : S.Closed P) (settings : Settings) (op : Operation) : P (op.run S settings) := by
  cases op with
  | setQuota volume limit => exact h.bind (h.setQuota settings volume limit) fun _ => h.pure _
  | getQuotaUsed volume => exact h.bind (h.getQuotaUsed settings volume) fun n => h.pure _
  | queryUsage volume => exact h.bind (h.queryUsage settings volume) fun u => h.pure _
  | describeQuota volume => exact h.bind (h.describeQuota settings volume) fun d => h.pure _

end Service.Closed
end DiskQuota
