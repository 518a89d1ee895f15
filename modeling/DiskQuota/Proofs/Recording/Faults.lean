import DiskQuota.Proofs.Recording.Refinement

/-!
When an operation over the recording service fails, and with what. `State.refusal` reads it off the state:
the failure that was asked for, if the operation comes to its step, or a quota that may not be created
again. `Tries` says how a task fares under the failure asked for, with one rule for each way in which a
task is built; since every operation ends its attempt, the state it finds is at rest, and one that fails
leaves it as it was. The headline `faults_exact` says so in every state that a script can reach.
-/
namespace DiskQuota.Recording

/-- The steps to a session. -/
def acquisitionSteps : List Step :=
  [.resolveManagerClass, .resolveManagerInterface, .initializeContext, .instantiateSession]

/-- The failure that is asked for, if it is at one of these steps, filed under the category. -/
def State.failsAt (s : State) (category : Category) (steps : List Step) : Option StepError :=
  match s.failure with
  | some (step, code) => if step ∈ steps then some ⟨category, step, code⟩ else none
  | none => none

/-- The failure of creating a quota for a volume that has one, where that is refused. -/
def State.rejects (s : State) (volume : String) : Option StepError :=
  if s.rejectExisting && s.quotas.contains volume then
    some ⟨.recordResolution, .createRecord, ⟨0x80045303⟩⟩
  else none

/-- The error that an operation meets. -/
def State.refusal (s : State) : Operation → Option StepError
  | .setQuota volume _ =>
    (s.failsAt .acquisition acquisitionSteps).or <|
      (s.failsAt .recordResolution [.createRecord]).or <|
        (s.rejects volume).or (s.failsAt .mutation [.setLimit, .commit])
  | .getQuotaUsed volume | .queryUsage volume =>
    (s.failsAt .acquisition acquisitionSteps).or <| (s.failsAt .recordResolution [.getRecord]).or <|
      if s.quotas.contains volume then s.failsAt .read [.readUsed] else none
  | .describeQuota volume =>
    (s.failsAt .acquisition acquisitionSteps).or <| (s.failsAt .recordResolution [.getRecord]).or <|
      if s.quotas.contains volume then s.failsAt .read [.readLimit, .readUsed] else none

/-- What an operation that succeeds leaves. -/
def State.after (s : State) : Operation → State
  | .setQuota volume limit =>
    { s with quotas := s.quotas.insert volume ⟨limit, (s.stored volume).used⟩ }
  | _ => s

/-- The state between two attempts. -/
def State.atRest (s : State) : State := { s with resolved := 0 }

/-- The earlier step comes first. -/
theorem State.failsAt_cons (s : State) (category : Category) (step : Step) (steps : List Step) :
    s.failsAt category (step :: steps) = (s.failsAt category [step]).or (s.failsAt category steps) := by
  unfold failsAt
  cases s.failure with
  | none => rfl
  | some f => by_cases h : f.1 = step <;> simp [h]

/-- The code that is asked for at a step. -/
def State.codeAt (s : State) (step : Step) : Option Status :=
  match s.failure with
  | some (failing, code) => if failing = step then some code else none
  | none => none

theorem State.failsAt_singleton (s : State) (step : Step) :
    s.failsAt step.category [step] = (s.codeAt step).map (.ofStep step) := by
  unfold failsAt codeAt
  cases s.failure with
  | none => rfl
  | some f => by_cases h : f.1 = step <;> simp [h, StepError.ofStep]

theorem check_apply (step : Step) (s : State) :
    check step s = ⟨match s.codeAt step with | some code => .error code | none => .ok (), [], s⟩ := by
  unfold check State.codeAt
  rw [Task.step_apply]
  cases s.failure with
  | none => rfl
  | some f => by_cases h : f.1 = step <;> simp [h]

theorem call_apply (c : Call) (step : Step) (s : State) :
    call c step s =
      ⟨match s.codeAt step with | some code => .error code | none => .ok (), [c], s⟩ := by
  rw [call, Task.bind_apply, Task.record_apply]
  simp only [check_apply]
  rfl

/-- From `s` the task fails with `fault`, if there is one, and then leaves what is committed and asked for
as it was; and else it comes to `a` and leaves `s'`. -/
structure Tries {α : Type} (x : Task State (Entry Call) StepError α) (s : State)
    (fault : Option StepError) (a : α) (s' : State) : Prop where
  value : (x s).value = match fault with | some e => .error e | none => .ok a
  failed : fault.isSome → (x s).state.atRest = s.atRest
  done : fault = none → (x s).state = s'

namespace Tries

variable {α β : Type} {x : Task State (Entry Call) StepError α} {s s' s'' : State}
  {fault fault' : Option StepError} {a : α} {b : β} {k : α → Task State (Entry Call) StepError β}

protected theorem pure : Tries (pure a) s none a s := ⟨rfl, nofun, fun _ => rfl⟩

protected theorem note {event : Event} : Tries (note event) s none () s := ⟨rfl, nofun, fun _ => rfl⟩

/-- One after the other, where the first has left what is committed and asked for as it was. -/
protected theorem bind (hx : Tries x s fault a s') (hs' : s'.atRest = s.atRest)
    (hk : Tries (k a) s' fault' b s'') : Tries (x >>= k) s (fault.or fault') b s'' := by
  cases fault with
  | some e =>
    have hv : (x s).value = .error e := hx.value
    constructor <;> rw [Task.bind_apply_error hv]
    · rfl
    · exact fun _ => hx.failed rfl
    · exact nofun
  | none =>
    have hv : (x s).value = .ok a := hx.value
    have hs : (x s).state = s' := hx.done rfl
    constructor <;> rw [Task.bind_apply_ok hv, hs, Option.none_or]
    · exact hk.value
    · exact fun h => (hk.failed h).trans hs'
    · exact hk.done

/-- What follows does not fail and changes nothing. -/
theorem followed (hx : Tries x s fault a s') (hk : Tries (k a) s' none b s') :
    Tries (x >>= k) s fault b s' := by
  cases fault with
  | some e =>
    have hv : (x s).value = .error e := hx.value
    constructor <;> rw [Task.bind_apply_error hv]
    · exact fun _ => hx.failed rfl
    · exact nofun
  | none =>
    have hv : (x s).value = .ok a := hx.value
    constructor <;> rw [Task.bind_apply_ok hv, hx.done rfl]
    · exact hk.value
    · exact nofun
    · exact fun _ => hk.done rfl

/-- A call that fails with `code`, if there is one. -/
protected theorem attempt {step : Step} {call : Task State Call Status α} {t : List Call} {s₁ : State}
    (code : Option Status)
    (hcall : call s = ⟨match code with | some code => .error code | none => .ok a, t,
      match code with | some _ => s₁ | none => s'⟩)
    (hs₁ : s₁.atRest = s.atRest) : Tries (attempt step call) s (code.map (.ofStep step)) a s' := by
  constructor
  · rw [attempt_value, hcall]
    cases code <;> rfl
  · rw [attempt_state, hcall]
    cases code with
    | some code => exact fun _ => hs₁
    | none => exact nofun
  · rw [attempt_state, hcall]
    cases code with
    | some code => exact nofun
    | none => exact fun _ => rfl

/-- A call that fails only where that is asked for. -/
protected theorem call (c : Call) (step : Step) (s : State) :
    Tries (attempt step (call c step)) s (s.failsAt step.category [step]) () s := by
  rw [State.failsAt_singleton]
  refine .attempt (s.codeAt step) (t := [c]) ?_ (Eq.refl s.atRest)
  rw [call_apply]
  cases s.codeAt step <;> rfl

/-- Such a call, and what is made of the state if it does not fail. -/
protected theorem call_then (c : Call) (step : Step) (g : State → α) (h : State → State) (s : State) :
    Tries (attempt step (do call c step; .step fun s => (.ok (g s), h s))) s
      (s.failsAt step.category [step]) (g s) (h s) := by
  rw [State.failsAt_singleton]
  refine .attempt (s.codeAt step) (t := [c]) ?_ (Eq.refl s.atRest)
  rw [Task.bind_apply, call_apply]
  cases s.codeAt step <;> rfl

/-- The first identifier that is asked for is taken for the class and the second for the interface. -/
protected theorem resolve (text : String) (s : State) :
    Tries (attempt s.nextIdentifier (resolve text)) s (s.failsAt .acquisition [s.nextIdentifier]) text
      { s with resolved := s.resolved + 1 } := by
  have hcategory : s.nextIdentifier.category = .acquisition := by
    unfold State.nextIdentifier
    split <;> rfl
  rw [← hcategory, State.failsAt_singleton]
  have hrest : State.atRest { s with resolved := s.resolved + 1 } = s.atRest := rfl
  refine .attempt (s.codeAt s.nextIdentifier) (t := [.resolveIdentifier text]) ?_ hrest
  have hcode : State.codeAt { s with resolved := s.resolved + 1 } s.nextIdentifier =
      s.codeAt s.nextIdentifier := rfl
  simp only [resolve, Task.bind_apply, Task.record_apply, Task.step_apply, check_apply, hcode]
  cases s.codeAt s.nextIdentifier <;> rfl

/-- A record is created unless that is to fail, or is refused for the volume. -/
protected theorem create (volume : String) (s : State) :
    Tries (attempt .createRecord (create volume)) s
      ((s.failsAt .recordResolution [.createRecord]).or (s.rejects volume)) ⟨volume, none⟩ s := by
  have hasked : s.failsAt .recordResolution [.createRecord] =
      (s.codeAt .createRecord).map (.ofStep .createRecord) := s.failsAt_singleton .createRecord
  have hfault : (s.failsAt .recordResolution [.createRecord]).or (s.rejects volume) =
      ((s.codeAt .createRecord).or (if s.rejectExisting && s.quotas.contains volume then
        some .alreadyExists else none)).map (.ofStep .createRecord) := by
    rw [hasked, State.rejects, Option.map_or, apply_ite (Option.map _)]
    rfl
  rw [hfault]
  refine .attempt _ (t := [.createQuota volume]) ?_ (Eq.refl s.atRest)
  rw [create, Task.bind_apply, call_apply]
  cases s.codeAt .createRecord with
  | some code => rfl
  | none =>
    simp only [Task.step_apply]
    cases s.rejectExisting && s.quotas.contains volume <;> rfl

/-- A record is found exactly for a volume that has a quota. -/
protected theorem get (volume : String) {quota : Option Quota} (h : s.quotas.get? volume = quota) :
    Tries (attempt .getRecord (get volume)) s (s.failsAt .recordResolution [.getRecord])
      (quota.map fun _ => ⟨volume, none⟩) s := by
  have hfound : (if s.quotas.contains volume then some (⟨volume, none⟩ : Record) else none) =
      quota.map fun _ => ⟨volume, none⟩ := by
    rw [Quotas.contains, h]
    cases quota <;> rfl
  rw [← hfound]
  exact .call_then (.getQuota volume) .getRecord
    (fun s => if s.quotas.contains volume then some (⟨volume, none⟩ : Record) else none) id s

protected theorem setLimit (r : Record) (limit : UInt64) (s : State) :
    Tries (attempt .setLimit (setLimit r limit)) s (s.failsAt .mutation [.setLimit])
      { r with pending := some limit } s :=
  .call_then (.setLimit limit) .setLimit (fun _ => ({ r with pending := some limit } : Record)) id s

protected theorem limit (r : Record) (s : State) :
    Tries (attempt .readLimit (limit r)) s (s.failsAt .read [.readLimit])
      (r.pending.getD (s.stored r.volume).limit) s :=
  .call_then .readLimit .readLimit (fun s => r.pending.getD (s.stored r.volume).limit) id s

protected theorem used (r : Record) (s : State) :
    Tries (attempt .readUsed (used r)) s (s.failsAt .read [.readUsed]) (s.stored r.volume).used s :=
  .call_then .readUsed .readUsed (fun s => (s.stored r.volume).used) id s

/-- A commit that does not fail writes the pending limit. -/
protected theorem commit (volume : String) (limit : UInt64) (s : State) :
    Tries (attempt .commit (commit ⟨volume, some limit⟩)) s (s.failsAt .mutation [.commit]) ()
      { s with quotas := s.quotas.insert volume ⟨limit, (s.stored volume).used⟩ } :=
  .call_then .commit .commit (fun _ => ())
    (fun s => { s with quotas := s.quotas.insert volume ⟨limit, (s.stored volume).used⟩ }) s

/-- A release changes nothing. -/
protected theorem ensuring (hx : Tries x s fault a s') {event : Event}
    {release : State → Ran State Call Unit} (hrelease : ∀ s, (release s).state = s) :
    Tries (x.ensuring (announced event release)) s fault a s' := by
  constructor
  · exact hx.value
  · rw [Task.ensuring_state, announced_state, hrelease]
    exact hx.failed
  · rw [Task.ensuring_state, announced_state, hrelease]
    exact hx.done

protected theorem withRecord (r : Record) (hx : Tries x s fault a s') :
    Tries (service.withRecord r x) s fault a s' := hx.ensuring fun _ => rfl

/-- A session takes four steps, two of them for the identifiers. -/
theorem acquire (settings : Settings) (hs : s.resolved = 0) :
    Tries (service.acquire settings) s (s.failsAt .acquisition acquisitionSteps) () { s with resolved := 2 } := by
  obtain ⟨failure, reject, resolved, quotas⟩ := s
  subst hs
  rw [acquisitionSteps, State.failsAt_cons, State.failsAt_cons _ _ .resolveManagerInterface,
    State.failsAt_cons _ _ .initializeContext]
  refine .bind (.resolve settings.managerClass ⟨failure, reject, 0, quotas⟩) rfl ?_
  refine .bind (.resolve settings.managerInterface ⟨failure, reject, 1, quotas⟩) rfl ?_
  refine .bind (.call _ .initializeContext ⟨failure, reject, 2, quotas⟩) rfl ?_
  refine .followed (.call _ .instantiateSession ⟨failure, reject, 2, quotas⟩) ?_
  exact .followed .note .pure

end Tries

/-- From `s` the attempt fails with `fault`, if there is one, and then leaves everything as it was; and else
it comes to `a` and leaves `s'`. -/
structure Attempts {α : Type} (x : Task State (Entry Call) StepError α) (s : State)
    (fault : Option StepError) (a : α) (s' : State) : Prop where
  value : (x s).value = match fault with | some e => .error e | none => .ok a
  failed : fault.isSome → (x s).state = s
  done : fault = none → (x s).state = s'

namespace Attempts

variable {α β : Type} {x : Task State (Entry Call) StepError α} {s s' : State}
  {fault : Option StepError} {a : α}

/-- Work in a session, after which the attempt ends. -/
protected theorem withSession {settings : Settings} {work : Unit → Task State (Entry Call) StepError α}
    (hs : s.atRest = s) (hwork : Tries (work ()) { s with resolved := 2 } fault a s') :
    Attempts (service.withSession settings work) s ((s.failsAt .acquisition acquisitionSteps).or fault) a
      s'.atRest := by
  have hreleased : Tries
      ((work ()).ensuring (announced .releasingSession (service.releaseSession ())))
      { s with resolved := 2 } fault a s' := hwork.ensuring fun _ => rfl
  have hinner := (Tries.acquire settings (congrArg State.resolved hs).symm).bind rfl hreleased
    (k := fun session =>
      (work session).ensuring (announced .releasingSession (service.releaseSession session)))
  refine ⟨hinner.value, fun h => ?_, fun h => ?_⟩
  · exact (hinner.failed h).trans hs
  · exact congrArg State.atRest (hinner.done h)

protected theorem inSpan {span : Span} (hx : Attempts x s fault a s') :
    Attempts (inSpan span x) s fault a s' := ⟨hx.value, hx.failed, hx.done⟩

protected theorem map (f : α → β) (hx : Attempts x s fault a s') :
    Attempts (do return f (← x)) s fault (f a) s' := by
  cases fault with
  | some e =>
    have hv : (x s).value = .error e := hx.value
    constructor <;> rw [Task.bind_apply_error hv]
    · exact hx.failed
    · exact nofun
  | none =>
    have hv : (x s).value = .ok a := hx.value
    constructor <;> rw [Task.bind_apply_ok hv]
    · rfl
    · exact nofun
    · exact hx.done

theorem setQuota (settings : Settings) (volume : String) (limit : UInt64) (hs : s.atRest = s) :
    Attempts (service.setQuota settings volume limit) s (s.refusal (.setQuota volume limit)) ()
      (s.after (.setQuota volume limit)) := by
  have hafter : s.after (.setQuota volume limit) = State.atRest
      { s with resolved := 2, quotas := s.quotas.insert volume ⟨limit, (s.stored volume).used⟩ } := by
    rw [← hs]
    rfl
  rw [hafter, State.refusal, s.failsAt_cons _ .setLimit,
    ← @Option.or_assoc _ (s.failsAt .recordResolution [.createRecord])]
  refine .inSpan (.withSession hs ?_)
  refine .bind (.create volume { s with resolved := 2 }) rfl (.withRecord _ ?_)
  refine .bind (.setLimit ⟨volume, none⟩ limit { s with resolved := 2 }) rfl ?_
  exact .followed (.commit volume limit { s with resolved := 2 }) .note

/-- Work that only reads. -/
theorem reading {settings : Settings} {work : Unit → Task State (Entry Call) StepError α}
    (hs : s.atRest = s)
    (hwork : Tries (work ()) { s with resolved := 2 } fault a { s with resolved := 2 }) :
    Attempts (service.withSession settings work) s ((s.failsAt .acquisition acquisitionSteps).or fault) a s := by
  have hattempt : Attempts (service.withSession settings work) s ((s.failsAt .acquisition acquisitionSteps).or fault)
      a (State.atRest { s with resolved := 2 }) := .withSession hs hwork
  have hrest : State.atRest { s with resolved := 2 } = s := hs
  rwa [hrest] at hattempt

theorem stored_eq {volume : String} {q : Quota} (h : s.quotas.get? volume = some q) :
    s.stored volume = q := by
  rw [State.stored, h]
  rfl

theorem queryUsage (settings : Settings) (volume : String) (hs : s.atRest = s) :
    Attempts (service.queryUsage settings volume) s (s.refusal (.queryUsage volume))
      (Table.usage s.quotas.get? volume) s := by
  rw [State.refusal, Quotas.contains, Table.usage]
  cases hq : s.quotas.get? volume with
  | none => exact .inSpan (.reading hs (.bind (.get volume hq) rfl (.followed .note .pure)))
  | some q =>
    obtain rfl := stored_eq hq
    refine .inSpan (.reading hs (.bind (.get volume hq) rfl (.withRecord _ ?_)))
    exact .followed (.used ⟨volume, none⟩ { s with resolved := 2 }) .pure

theorem getQuotaUsed (settings : Settings) (volume : String) (hs : s.atRest = s) :
    Attempts (service.getQuotaUsed settings volume) s (s.refusal (.getQuotaUsed volume))
      (Table.used s.quotas.get? volume) s := by
  rw [← Table.bytes_usage]
  exact (queryUsage settings volume hs).map Usage.bytes

theorem describeQuota (settings : Settings) (volume : String) (hs : s.atRest = s) :
    Attempts (service.describeQuota settings volume) s (s.refusal (.describeQuota volume))
      (Table.snapshot s.quotas.get? volume) s := by
  rw [State.refusal, Quotas.contains, Table.snapshot]
  cases hq : s.quotas.get? volume with
  | none => exact .inSpan (.reading hs (.bind (.get volume hq) rfl (.followed .note .pure)))
  | some q =>
    obtain rfl := stored_eq hq
    rw [s.failsAt_cons _ .readLimit]
    refine .inSpan (.reading hs (.bind (.get volume hq) rfl (.withRecord _ ?_)))
    refine .bind (.limit ⟨volume, none⟩ { s with resolved := 2 }) rfl ?_
    exact .followed (.used ⟨volume, none⟩ { s with resolved := 2 }) .pure

end Attempts

/-- **What an operation comes to is decided by the state it finds.** It fails with the error that the state
has for it and then leaves everything as it was; without one it answers from what is committed. -/
theorem run_attempts (settings : Settings) (op : Operation) {s : State} (hs : s.atRest = s) :
    Attempts (op.run service settings) s (s.refusal op) (Table.answer s.quotas.get? op)
      (s.after op) := by
  cases op with
  | setQuota volume limit => exact (Attempts.setQuota settings volume limit hs).map fun _ => Answer.done
  | getQuotaUsed volume => exact (Attempts.getQuotaUsed settings volume hs).map Answer.bytes
  | queryUsage volume => exact (Attempts.queryUsage settings volume hs).map Answer.usage
  | describeQuota volume => exact (Attempts.describeQuota settings volume hs).map Answer.snapshot

/-! Scripts. -/

theorem State.after_atRest {s : State} (hs : s.atRest = s) (op : Operation) :
    (s.after op).atRest = s.after op := by
  cases op with
  | setQuota volume limit =>
    rw [← hs]
    rfl
  | _ => exact hs

/-- Whatever an operation comes to, its attempt is over. -/
theorem run_atRest (settings : Settings) (op : Operation) {s : State} (hs : s.atRest = s) :
    (op.run service settings s).state.atRest = (op.run service settings s).state := by
  have hrun := run_attempts settings op hs
  cases hfault : s.refusal op with
  | some e => rwa [hrun.failed (by simp [hfault])]
  | none =>
    rw [hrun.done hfault]
    exact State.after_atRest hs op

theorem step_atRest {s : Standing State Call} (hs : s.state.atRest = s.state) (c : Command Control) :
    (bench.step s c).standing.state.atRest = (bench.step s c).standing.state := by
  cases hop : asked c with
  | some op =>
    rw [step_state_of_asked hop]
    exact run_atRest s.settings op hs
  | none =>
    rw [step_state_of_not_asked hop]
    cases c with
    | control k =>
      rw [← hs]
      cases k <;> rfl
    | _ => exact hs

/-- Between commands the service is at rest, by induction on the script. -/
theorem standing_atRest {s : Standing State Call} (hs : s.state.atRest = s.state)
    (script : List (Command Control)) :
    (bench.standing s script).state.atRest = (bench.standing s script).state := by
  induction script generalizing s with
  | nil => exact hs
  | cons c script ih => exact ih (step_atRest hs c)

/-- What a script reaches from a fresh service. -/
def reached (settings : Settings) (script : List (Command Control)) : Standing State Call :=
  bench.standing ⟨settings, .initial, []⟩ script

theorem reached_atRest (settings : Settings) (script : List (Command Control)) :
    (reached settings script).state.atRest = (reached settings script).state :=
  standing_atRest rfl script

/-- How an operation fares in the state `s` of the service. -/
structure FailsExactly (settings : Settings) (s : State) (op : Operation) : Prop where
  /-- It fails exactly if the state has an error for it, with that error, and else it answers from what is
  committed. -/
  value : (op.run service settings s).value = match s.refusal op with
    | some e => .error e
    | none => .ok (Table.answer s.quotas.get? op)
  /-- What is to fail at the class fails at the first identifier that is asked for, -/
  first : ∀ code, s.failure = some (.resolveManagerClass, code) →
    calls (op.run service settings s).trace =
      [.resolveIdentifier settings.managerClass, .uninitializeContext]
  /-- and what is to fail at the interface at the second. -/
  second : ∀ code, s.failure = some (.resolveManagerInterface, code) →
    calls (op.run service settings s).trace =
      [.resolveIdentifier settings.managerClass, .resolveIdentifier settings.managerInterface,
        .uninitializeContext]
  /-- A failure leaves everything as it was, -/
  failed : ∀ e, (op.run service settings s).value = .error e → (op.run service settings s).state = s
  /-- and a success only writes what was asked for. -/
  succeeded : ∀ a, (op.run service settings s).value = .ok a →
    (op.run service settings s).state = s.after op

/-- Where the class is to fail no more than the first identifier is asked for. -/
theorem run_class_fails (settings : Settings) (op : Operation) {s : State} (hs : s.atRest = s)
    {code : Status} (h : s.failure = some (.resolveManagerClass, code)) :
    calls (op.run service settings s).trace =
      [.resolveIdentifier settings.managerClass, .uninitializeContext] := by
  obtain ⟨failure, reject, resolved, quotas⟩ := s
  obtain rfl : resolved = 0 := (congrArg State.resolved hs).symm
  obtain rfl : failure = some (.resolveManagerClass, code) := h
  cases op <;> rfl

/-- Where the interface is to fail, so is the second. -/
theorem run_interface_fails (settings : Settings) (op : Operation) {s : State} (hs : s.atRest = s)
    {code : Status} (h : s.failure = some (.resolveManagerInterface, code)) :
    calls (op.run service settings s).trace =
      [.resolveIdentifier settings.managerClass, .resolveIdentifier settings.managerInterface,
        .uninitializeContext] := by
  obtain ⟨failure, reject, resolved, quotas⟩ := s
  obtain rfl : resolved = 0 := (congrArg State.resolved hs).symm
  obtain rfl : failure = some (.resolveManagerInterface, code) := h
  cases op <;> rfl

/-- **Faults are met exactly, and failures leave nothing behind.** In every state of the service that a script
can reach, whatever failed on the way, an operation fails exactly if the failure that is asked for is at one
of the steps it comes to, or if it is to create a quota where that is refused, and the earlier of the two
is the error. A failure leaves the whole state as it was. -/
theorem faults_exact (settings : Settings) (script : List (Command Control)) (op : Operation) :
    FailsExactly (reached settings script).settings (reached settings script).state op := by
  have hrest := reached_atRest settings script
  generalize (reached settings script).settings = settings' at *
  generalize (reached settings script).state = s at *
  have hrun := run_attempts settings' op hrest
  refine ⟨hrun.value, ?_, ?_, ?_, ?_⟩
  · intro code h
    exact run_class_fails settings' op hrest h
  · intro code h
    exact run_interface_fails settings' op hrest h
  · intro e he
    refine hrun.failed ?_
    have hvalue := hrun.value
    cases hfault : s.refusal op with
    | some e' => rfl
    | none =>
      rw [he, hfault] at hvalue
      cases hvalue
  · intro a ha
    refine hrun.done ?_
    have hvalue := hrun.value
    cases hfault : s.refusal op with
    | none => rfl
    | some e =>
      rw [ha, hfault] at hvalue
      cases hvalue

/-- A quota that may not be created again is noticed before a limit that cannot be set. -/
example : State.refusal ⟨some (.setLimit, .accessDenied), true, 0, Quotas.empty.insert "D:" ⟨5, 1⟩⟩
    (.setQuota "D:" 7) = some ⟨.recordResolution, .createRecord, ⟨0x80045303⟩⟩ := by decide

end DiskQuota.Recording
