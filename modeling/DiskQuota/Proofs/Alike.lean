import DiskQuota.Manager

/-!
A principle for two runs of the same operation, over two services or from two states of one. An
operation does with the handles of a service nothing but hand them to the service, so a relation of tasks
that is kept by everything that operations are made of, and relates the calls of the two services on
related handles, relates the operations (`Alike.run`). Work inside a session and whole operations are
related each in a way of its own, since the context is opened and closed around the one and inside the
other.
-/
namespace DiskQuota

variable {σ τ ε δ : Type}

/-- The entry with another call in the place of its call, if it has one. -/
def Entry.map {ε δ : Type} (f : ε → δ) : Entry ε → Entry δ
  | call c => .call (f c)
  | enter span => .enter span
  | exit span => .exit span
  | log event => .log event

theorem calls_map {ε δ : Type} (f : ε → δ) (journal : List (Entry ε)) :
    calls (journal.map (Entry.map f)) = (calls journal).map f := by
  induction journal with
  | nil => rfl
  | cons entry journal ih => cases entry <;> simp [Entry.map, ih]

/-- Relations of tasks over two services, given how their handles are related. `P` is about work inside a
session and `Q` about whole operations, each for a relation of what the two tasks come to. -/
structure Service.Alike (S : Service σ ε) (T : Service τ δ) (settings settings' : Settings)
    (session : S.Session → T.Session → Prop) (record : S.Record → T.Record → Prop)
    (P Q : ∀ {α β : Type}, (α → β → Prop) →
      Task σ (Entry ε) StepError α → Task τ (Entry δ) StepError β → Prop) : Prop where
  pure : ∀ {α β : Type} {R : α → β → Prop} {a : α} {b : β}, R a b → P R (pure a) (pure b)
  note : ∀ event, P (· = ·) (note event) (note event)
  bind : ∀ {α β α' β' : Type} {R : α → β → Prop} {R' : α' → β' → Prop}
    {x : Task σ (Entry ε) StepError α} {y : Task τ (Entry δ) StepError β}
    {f : α → Task σ (Entry ε) StepError α'} {g : β → Task τ (Entry δ) StepError β'},
    P R x y → (∀ a b, R a b → P R' (f a) (g b)) → P R' (x >>= f) (y >>= g)
  create : ∀ {a b}, session a b → ∀ step volume,
    P record (attempt step (S.create a volume)) (attempt step (T.create b volume))
  get : ∀ {a b}, session a b → ∀ step volume,
    P (Option.Rel record) (attempt step (S.get a volume)) (attempt step (T.get b volume))
  setLimit : ∀ {a b}, record a b → ∀ step limit,
    P record (attempt step (S.setLimit a limit)) (attempt step (T.setLimit b limit))
  limit : ∀ {a b}, record a b → ∀ step,
    P (· = ·) (attempt step (S.limit a)) (attempt step (T.limit b))
  used : ∀ {a b}, record a b → ∀ step,
    P (· = ·) (attempt step (S.used a)) (attempt step (T.used b))
  commit : ∀ {a b}, record a b → ∀ step,
    P (· = ·) (attempt step (S.commit a)) (attempt step (T.commit b))
  withRecord : ∀ {α β : Type} {R : α → β → Prop} {a b}, record a b →
    ∀ {x : Task σ (Entry ε) StepError α} {y : Task τ (Entry δ) StepError β},
    P R x y → P R (S.withRecord a x) (T.withRecord b y)
  withSession : ∀ {α β : Type} {R : α → β → Prop} {work : S.Session → Task σ (Entry ε) StepError α}
    {work' : T.Session → Task τ (Entry δ) StepError β},
    (∀ a b, session a b → P R (work a) (work' b)) →
    Q R (S.withSession settings work) (T.withSession settings' work')
  inSpan : ∀ {α β : Type} {R : α → β → Prop} {x : Task σ (Entry ε) StepError α}
    {y : Task τ (Entry δ) StepError β} (span : Span), Q R x y → Q R (inSpan span x) (inSpan span y)
  map : ∀ {α β : Type} {x : Task σ (Entry ε) StepError α} {y : Task τ (Entry δ) StepError α}
    (f : α → β), Q (· = ·) x y → Q (· = ·) (do return f (← x)) (do return f (← y))

namespace Service.Alike

variable {S : Service σ ε} {T : Service τ δ} {settings settings' : Settings}
  {session : S.Session → T.Session → Prop} {record : S.Record → T.Record → Prop}
  {P Q : ∀ {α β : Type}, (α → β → Prop) →
    Task σ (Entry ε) StepError α → Task τ (Entry δ) StepError β → Prop}

theorem setQuota (h : S.Alike T settings settings' session record P Q) (volume : String)
    (limit : UInt64) :
    Q (· = ·) (S.setQuota settings volume limit) (T.setQuota settings' volume limit) := by
  refine h.inSpan _ (h.withSession fun a b hab => ?_)
  refine h.bind (h.create hab _ volume) fun r r' hr => h.withRecord hr ?_
  apply h.bind (h.setLimit hr _ limit)
  intro c c' hc
  exact h.bind (h.commit hc _) fun _ _ _ => h.note _

theorem queryUsage (h : S.Alike T settings settings' session record P Q) (volume : String) :
    Q (· = ·) (S.queryUsage settings volume) (T.queryUsage settings' volume) := by
  refine h.inSpan _ (h.withSession fun a b hab => ?_)
  apply h.bind (h.get hab _ volume)
  intro found found' hfound
  cases hfound with
  | none => exact h.bind (h.note _) fun _ _ _ => h.pure rfl
  | some hr =>
    refine h.withRecord hr (h.bind (h.used hr _) fun n n' hn => ?_)
    exact h.pure (congrArg Usage.used hn)

theorem getQuotaUsed (h : S.Alike T settings settings' session record P Q) (volume : String) :
    Q (· = ·) (S.getQuotaUsed settings volume) (T.getQuotaUsed settings' volume) :=
  h.map Usage.bytes (h.queryUsage volume)

theorem describeQuota (h : S.Alike T settings settings' session record P Q) (volume : String) :
    Q (· = ·) (S.describeQuota settings volume) (T.describeQuota settings' volume) := by
  refine h.inSpan _ (h.withSession fun a b hab => ?_)
  apply h.bind (h.get hab _ volume)
  intro found found' hfound
  cases hfound with
  | none => exact h.bind (h.note _) fun _ _ _ => h.pure rfl
  | some hr =>
    refine h.withRecord hr (h.bind (h.limit hr _) fun l l' hl => ?_)
    refine h.bind (h.used hr _) fun n n' hn => h.pure ?_
    rw [hl, hn]

/-- What relates all that operations are made of relates the operations, and they come to the same. -/
theorem run (h : S.Alike T settings settings' session record P Q) (op : Operation) :
    Q (· = ·) (op.run S settings) (op.run T settings') := by
  cases op with
  | setQuota volume limit => exact h.map (fun _ => Answer.done) (h.setQuota volume limit)
  | getQuotaUsed volume => exact h.map Answer.bytes (h.getQuotaUsed volume)
  | queryUsage volume => exact h.map Answer.usage (h.queryUsage volume)
  | describeQuota volume => exact h.map Answer.snapshot (h.describeQuota volume)

end Service.Alike
end DiskQuota
