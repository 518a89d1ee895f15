import DiskQuota.Proofs.Closed
import DiskQuota.Proofs.Fsrm.Ask
import DiskQuota.Proofs.Native.Status

/-!
Failures with a code of success. An operation over the file server resource manager fails with the code
zero exactly if the operating system answered one of its calls with success and no object
(`run_code_ok_iff`): every other failure has a code of its own, which is not zero. Where that happens,
and nowhere else, the status of a call by address says success of an operation that failed.
-/
namespace DiskQuota.Fsrm

/-- A call that succeeded without the object that it should have handed out. -/
def NoObject (x : Call × Outcome) : Prop := x.1.handsOut = true ∧ x.2 = .nullObject

/-- The task fails with the code zero exactly if a call of it was answered without an object. What a
state has in store, which calls a trace shows and which code an error carries are given by the
level at which the task is read. -/
structure Tells {τ ε φ α : Type} (store : τ → List Outcome) (call? : ε → Option Call)
    (code : φ → Status) (x : Task τ ε φ α) : Prop where
  taken : ∀ s, store (x s).state =
    (store s).drop (((x s).trace.filterMap call?).countP Call.asks)
  null : ∀ s, (∃ e, (x s).value = .error e ∧ code e = .ok) ↔
    ∃ y ∈ exchanges Call.asks .success (store s) ((x s).trace.filterMap call?), NoObject y

namespace Tells

variable {τ ε φ α β : Type} {store : τ → List Outcome} {call? : ε → Option Call} {code : φ → Status}

/-- What makes no call that can fail, takes no outcome and does not fail with zero. -/
theorem of_quiet {x : Task τ ε φ α} (hstore : ∀ s, store (x s).state = store s)
    (hcalls : ∀ s, ∀ d ∈ (x s).trace.filterMap call?, d.asks = false)
    (hcode : ∀ s e, (x s).value = .error e → code e ≠ .ok) : Tells store call? code x where
  taken s := by
    have hzero : ((x s).trace.filterMap call?).countP Call.asks = 0 :=
      List.countP_eq_zero.2 fun c hc => by simp [hcalls s c hc]
    rw [hstore, hzero, List.drop_zero]
  null s := by
    rw [exchanges_of_not_asks _ _ _ (hcalls s)]
    constructor
    · rintro ⟨e, he, hok⟩
      exact absurd hok (hcode s e he)
    · rintro ⟨y, hy, -⟩
      exact absurd hy List.not_mem_nil

/-- What makes no call at all. -/
theorem of_silent {x : Task τ ε φ α} (hstore : ∀ s, store (x s).state = store s)
    (htrace : ∀ s, (x s).trace.filterMap call? = [])
    (hcode : ∀ s e, (x s).value = .error e → code e ≠ .ok) : Tells store call? code x := by
  refine of_quiet hstore ?_ hcode
  intro s d hd
  rw [htrace] at hd
  exact absurd hd List.not_mem_nil

protected theorem pure (a : α) : Tells store call? code (pure a : Task τ ε φ α) :=
  of_silent (fun _ => rfl) (fun _ => rfl) nofun

protected theorem bind {x : Task τ ε φ α} {f : α → Task τ ε φ β} (hx : Tells store call? code x)
    (hf : ∀ a, Tells store call? code (f a)) : Tells store call? code (x >>= f) := by
  constructor
  · intro s
    cases hv : (x s).value with
    | error e =>
      rw [Task.bind_apply_error hv]
      exact hx.taken s
    | ok a =>
      rw [Task.bind_apply_ok hv, List.filterMap_append, List.countP_append, ← List.drop_drop,
        ← hx.taken s]
      exact (hf a).taken _
  · intro s
    cases hv : (x s).value with
    | error e =>
      have hnull := hx.null s
      rw [hv] at hnull
      rw [Task.bind_apply_error hv, ← hnull]
      simp only [Except.error.injEq]
    | ok a =>
      have hnull := hx.null s
      rw [hv] at hnull
      -- nothing was handed out empty before, or the task would have ended there
      have hnone : ¬∃ y ∈ exchanges Call.asks .success (store s) ((x s).trace.filterMap call?),
          NoObject y := fun h => by
        obtain ⟨e, he, -⟩ := hnull.2 h
        cases he
      rw [Task.bind_apply_ok hv, (hf a).null, List.filterMap_append, exchanges_append, hx.taken s]
      constructor
      · rintro ⟨y, hy, hno⟩
        exact ⟨y, List.mem_append_right _ hy, hno⟩
      · rintro ⟨y, hy, hno⟩
        rcases List.mem_append.1 hy with hy | hy
        · exact absurd ⟨y, hy, hno⟩ hnone
        · exact ⟨y, hy, hno⟩

/-- A cleanup makes calls that cannot fail, if any. -/
protected theorem ensuring {x : Task τ ε φ α} (hx : Tells store call? code x)
    {cleanup : τ → Ran τ ε Unit} (hstore : ∀ s, store (cleanup s).state = store s)
    (hcalls : ∀ s, ∀ c ∈ (cleanup s).trace.filterMap call?, c.asks = false) :
    Tells store call? code (x.ensuring cleanup) := by
  constructor
  · intro s
    have hzero : ((cleanup (x s).state).trace.filterMap call?).countP Call.asks = 0 :=
      List.countP_eq_zero.2 fun c hc => by simp [hcalls _ c hc]
    rw [Task.ensuring_state, Task.ensuring_trace, hstore, hx.taken, List.filterMap_append,
      List.countP_append, hzero, Nat.add_zero]
  · intro s
    rw [Task.ensuring_value, Task.ensuring_trace, hx.null, List.filterMap_append, exchanges_append,
      exchanges_of_not_asks _ _ _ (hcalls _), List.append_nil]

/-- A call of a service tells of its step what it tells of itself. -/
protected theorem attempt {x : Task τ Call Status α} (hx : Tells store some id x) (step : Step) :
    Tells store Entry.call? StepError.code (attempt step x) := by
  have htrace : ∀ s, (attempt step x s).trace.filterMap Entry.call? = (x s).trace.filterMap some := by
    intro s
    rw [List.filterMap_some]
    exact calls_attempt step x s
  constructor
  · intro s
    rw [attempt_state, htrace, hx.taken]
  · intro s
    rw [htrace, ← hx.null, attempt_value]
    cases (x s).value with
    | ok a => exact ⟨nofun, nofun⟩
    | error k =>
      constructor
      · rintro ⟨e, he, hok⟩
        cases he
        exact ⟨k, rfl, hok⟩
      · rintro ⟨k', hk, hok⟩
        cases hk
        exact ⟨_, rfl, hok⟩

protected theorem inSpan {x : Task τ (Entry Call) StepError α} (span : Span)
    (hx : Tells store Entry.call? StepError.code x) :
    Tells store Entry.call? StepError.code (inSpan span x) := by
  have htrace : ∀ s, (inSpan span x s).trace.filterMap Entry.call? =
      (x s).trace.filterMap Entry.call? := calls_inSpan span x
  constructor
  · intro s
    rw [htrace, inSpan_state, hx.taken]
  · intro s
    rw [htrace, inSpan_value, hx.null]

end Tells

/-! The functions of the operating system. -/

/-- A call that hands nothing out fails with failing codes alone. -/
theorem ask_tells {c : Call} (hc : c.asks = true) (hnone : c.handsOut = false) :
    Tells System.outcomes some id (ask c) := by
  refine ⟨ask_taken hc, fun s => ?_⟩
  rw [exchanges_ask hc, ask_apply]
  constructor
  · rintro ⟨e, he, hok⟩
    cases hn : s.next with
    | code k =>
      simp only [hn] at he
      split at he
      · next hk =>
        cases he
        exact absurd hok (ne_ok_of_isFailure hk)
      · cases he
    | _ => simp [hn] at he
  · rintro ⟨y, hy, hobject, -⟩
    rw [List.mem_singleton.1 hy, hnone] at hobject
    exact absurd hobject Bool.false_ne_true

/-- A call that hands out an object fails with zero if there is none. -/
theorem handedOut_tells {c : Call} (hc : c.asks = true) (hobject : c.handsOut = true)
    {next : System → Nat × System} (hnext : ∀ s, (next s).2.outcomes = s.outcomes) :
    Tells System.outcomes some id (do handedOut (← ask c) next) := by
  constructor
  · intro s
    simp only [Task.bind_apply, ask_apply]
    cases hn : s.next with
    | code k => by_cases hk : k.isFailure = true <;> simp [hk, handedOut, hnext, hc]
    | _ => simp [handedOut, hnext, hc]
  · intro s
    have hexchange : ∀ o, s.next = o → ((∃ y ∈ exchanges Call.asks .success s.outcomes [c], NoObject y) ↔
        o = .nullObject) := by
      rintro o rfl
      rw [exchanges, if_pos hc]
      simp [exchanges, NoObject, hobject, System.next]
    simp only [Task.bind_apply, ask_apply]
    cases hn : s.next with
    | code k =>
      by_cases hk : k.isFailure = true
      · simp [hk, hexchange _ hn, ne_ok_of_isFailure hk]
      · simp [hk, handedOut, hexchange _ hn]
    | nullObject => simp [handedOut, hexchange _ hn, noObject, Status.ok]
    | _ => simp [handedOut, hexchange _ hn]

theorem iidFromString_tells (text : String) : Tells System.outcomes some id (iidFromString text) := by
  refine .bind (ask_tells rfl rfl) fun _ => ?_
  split
  · exact .pure _
  · refine .of_silent (fun _ => rfl) (fun _ => rfl) ?_
    intro s e he
    cases he
    decide

/-- A text as a system string adds calls that cannot fail. -/
theorem withString_tells {α : Type} {text : String} {x : Task System Call Status α}
    (hx : Tells System.outcomes some id x) : Tells System.outcomes some id (withString text x) := by
  rw [withString]
  split
  · exact hx
  · refine .bind ?_ fun _ => ?_
    · refine .of_quiet (fun _ => rfl) ?_ nofun
      intro s d hd
      rw [List.mem_singleton.1 hd]
      rfl
    · refine hx.ensuring (fun _ => rfl) ?_
      intro s d hd
      rw [List.mem_singleton.1 hd]
      rfl

theorem readUnsigned_tells {c : Call} (hc : c.asks = true) (hnone : c.handsOut = false) :
    Tells System.outcomes some id (readUnsigned c) := by
  refine .bind (ask_tells hc hnone) fun o => ?_
  refine .bind ?_ fun _ => .pure _
  refine .of_quiet (fun _ => rfl) ?_ nofun
  intro s d hd
  rw [List.mem_singleton.1 hd]
  rfl

/-! The calls of the service. -/

theorem onSystem_tells {α : Type} {x : Task System Call Status α}
    (hx : Tells System.outcomes some id x) : Tells Machine.store some id (onSystem x) where
  taken m := hx.taken m.system
  null m := hx.null m.system

/-- That a volume has no quota is no failure, and its code is not zero. -/
theorem getRecord_tells (session : Nat) (volume : String) :
    Tells Machine.store some id (getRecord session volume) := by
  have hget : Tells Machine.store some id (onSystem (getQuota session volume)) :=
    onSystem_tells (withString_tells (handedOut_tells rfl rfl fun _ => rfl))
  have htrace : ∀ m, (getRecord session volume m).trace =
      (onSystem (getQuota session volume) m).trace := by
    intro m
    rw [getRecord]
    split <;> simp_all
  constructor
  · intro m
    rw [htrace, ← hget.taken, getRecord]
    split <;> simp_all
  · intro m
    rw [htrace, ← hget.null, getRecord]
    split
    · next hm => simp [hm]
    · next code t m' hm =>
      -- "not found" is taken for an answer, and it is not the code of a missing object
      by_cases hcode : code = .notFound
      · subst hcode
        simp [hm, Status.notFound, Status.ok]
      · simp [hm, hcode]

theorem openContext_tells (threading : Threading) :
    Tells Machine.store some id (openContext threading) := by
  refine .bind (onSystem_tells (ask_tells rfl rfl)) fun _ => ?_
  exact .of_silent (fun _ => rfl) (fun _ => rfl) nofun

theorem instantiate_tells (manager interface : Guid) (context : ServerContext) :
    Tells Machine.store some id (instantiate manager interface context) := by
  rw [instantiate]
  split
  · exact onSystem_tells (handedOut_tells rfl rfl fun _ => rfl)
  · refine .of_silent (fun _ => rfl) (fun _ => rfl) ?_
    intro s e he
    cases he
    decide

theorem closeContext_store (m : Machine) :
    (announced .tearingDown closeContext m).state.store = m.store := by
  rw [announced_state, closeContext]
  split <;> rfl

theorem closeContext_asks (m : Machine) :
    ∀ c ∈ (announced .tearingDown closeContext m).trace.filterMap Entry.call?, c.asks = false := by
  show ∀ c ∈ calls (announced .tearingDown closeContext m).trace, c.asks = false
  rw [calls_announced, closeContext]
  split
  · simp [Call.asks]
  · simp

/-- The service of the file server resource manager tells of failures with zero throughout. -/
theorem service_closed :
    service.Closed fun x => Tells Machine.store Entry.call? StepError.code x where
  pure := .pure
  note event := .of_silent (fun _ => rfl) (fun _ => rfl) nofun
  bind := .bind
  inSpan span h := .inSpan span h
  resolve step text := (onSystem_tells (iidFromString_tells text)).attempt step
  openContext step threading := (openContext_tells threading).attempt step
  instantiate step manager interface context :=
    (instantiate_tells manager interface context).attempt step
  create step session volume :=
    (onSystem_tells (withString_tells (handedOut_tells rfl rfl fun _ => rfl))).attempt step
  get step session volume := (getRecord_tells session volume).attempt step
  setLimit step record limit :=
    (Tells.bind (onSystem_tells (ask_tells rfl rfl)) fun _ => .pure record).attempt step
  limit step record := (onSystem_tells (readUnsigned_tells rfl rfl)).attempt step
  used step record := (onSystem_tells (readUnsigned_tells rfl rfl)).attempt step
  commit step record :=
    (Tells.bind (onSystem_tells (ask_tells rfl rfl)) fun _ => .pure ()).attempt step
  withRecord record h := by
    refine .ensuring h (fun _ => rfl) ?_
    intro m d hd
    rw [List.mem_singleton.1 hd]
    rfl
  withSession session h := by
    refine .ensuring h (fun _ => rfl) ?_
    intro m d hd
    rw [List.mem_singleton.1 hd]
    rfl
  withContext h := .ensuring h closeContext_store closeContext_asks

/-- An operation fails with the code zero exactly if a call of it was answered without an object. -/
theorem run_code_ok_iff (settings : Settings) (op : Operation) (m : Machine) :
    (∃ e, (op.run service settings m).value = .error e ∧ e.code = .ok) ↔
      ∃ x ∈ exchanges Call.asks .success m.store (calls (op.run service settings m).trace),
        NoObject x :=
  (service_closed.run settings op).null m

/-- The status of an exported call is zero exactly if its operation succeeded and the reply carries the
answer. -/
def SoundExport (call : Native.Call) (m : Machine) : Prop :=
  (exported call m).value.code = 0 ↔
    ∃ op a, call.operation = .ok op ∧ (runAlone op m).value = .ok a ∧
      (exported call m).value = call.reply (.ok a)

theorem soundExport_iff (call : Native.Call) (m : Machine) :
    SoundExport call m ↔
      ¬∃ x ∈ exchanges Call.asks .success m.store (calls (exported call m).trace), NoObject x := by
  have hsound : SoundExport call m ↔ Native.Sound service .default call ⟨0, m.system⟩ := Iff.rfl
  have htrace : (exported call m).trace = (call.run service .default ⟨0, m.system⟩).trace := rfl
  rw [hsound, Native.sound_iff, htrace, Native.Call.run_eq]
  cases hop : call.operation with
  | error code =>
    constructor
    · rintro - ⟨x, hx, -⟩
      exact List.not_mem_nil hx
    · rintro - ⟨op, e, hop', -⟩
      cases hop'
  | ok op =>
    refine not_congr (Iff.trans ?_ (run_code_ok_iff .default op ⟨0, m.system⟩))
    constructor
    · rintro ⟨op', e, hop', he⟩
      cases hop'
      exact ⟨e, he⟩
    · rintro ⟨e, he⟩
      exact ⟨op, e, rfl, he⟩

/-- **When a status of zero can be relied on.** Over any service, exactly where no operation fails with a
code of zero. Over the file server resource manager, an operation fails so exactly if one of its
calls is answered with success and no object; the exports mistake that failure, and no other, for a
success. -/
theorem status_sound_iff {σ ε : Type} (S : Service σ ε) (settings : Settings) (call : Native.Call)
    (s : σ) (op : Operation) (m : Machine) :
    (Native.Sound S settings call s ↔
      ¬∃ op e, call.operation = .ok op ∧ (op.run S settings s).value = .error e ∧ e.code = .ok) ∧
    ((∃ e, (op.run service settings m).value = .error e ∧ e.code = .ok) ↔
      ∃ x ∈ exchanges Call.asks .success m.store (calls (op.run service settings m).trace),
        NoObject x) ∧
    (SoundExport call m ↔
      ¬∃ x ∈ exchanges Call.asks .success m.store (calls (exported call m).trace), NoObject x) :=
  ⟨Native.sound_iff S settings call s, run_code_ok_iff settings op m, soundExport_iff call m⟩

/-- A session that is handed out as no object: setting the quota fails before it begins, and the status
says that it succeeded. -/
theorem null_session_reports_success :
    (exported (.setQuota (some [68, 58, 92, 0]) 5)
      (.initial [.success, .success, .success, .nullObject])).value = .status 0 ∧
    (runAlone (.setQuota "D:\\" 5) (.initial [.success, .success, .success, .nullObject])).value =
      .error (.ofStep .instantiateSession .ok) ∧
    ¬SoundExport (.setQuota (some [68, 58, 92, 0]) 5)
      (.initial [.success, .success, .success, .nullObject]) := by
  have herror : (runAlone (.setQuota "D:\\" 5)
      (.initial [.success, .success, .success, .nullObject])).value =
        .error (.ofStep .instantiateSession .ok) := by decide
  have hasked : Native.Call.operation (.setQuota (some [68, 58, 92, 0]) 5) =
      .ok (.setQuota "D:\\" 5) := by decide
  refine ⟨by decide, herror, fun h => ?_⟩
  obtain ⟨op, a, hop, ha, -⟩ := h.1 (by decide)
  rw [hasked] at hop
  cases hop
  rw [herror] at ha
  cases ha

end DiskQuota.Fsrm
