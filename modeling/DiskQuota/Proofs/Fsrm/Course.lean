import DiskQuota.Proofs.Fsrm.Runs
import DiskQuota.Proofs.Work

/-!
The courses that an operation can take. Which call comes next, and what all comes to, is decided by the
outcomes in store; there are six ways to acquire a session or fail to, and a few more to work in one
(`Acquires`, `Works`). An operation takes one of them from any state (`run_course`). What is said of
operations can then be read off call by call.
-/
namespace DiskQuota.Fsrm

/-! Acquiring a session. -/

/-- The calls before a session turn out well: both texts name an identifier, and a context is opened. -/
structure Prepared (settings : Settings) (m : Machine) (manager interface : Guid) : Prop where
  manager : (m.outcome 0).identify settings.managerClass = .ok manager
  interface : (m.outcome 1).identify settings.managerInterface = .ok interface
  opened : (m.outcome 2).failure? = none

/-- The ways in which acquiring a session can go. -/
inductive Acquires (settings : Settings) (m : Machine) : Except StepError Nat → List Call → Prop where
  | noClass {k : Status} (h : (m.outcome 0).identify settings.managerClass = .error k) :
      Acquires settings m (.error (.ofStep .resolveManagerClass k))
        [.iidFromString (String.ofList (upToZero settings.managerClass))]
  | noInterface {manager : Guid} {k : Status}
      (hmanager : (m.outcome 0).identify settings.managerClass = .ok manager)
      (h : (m.outcome 1).identify settings.managerInterface = .error k) :
      Acquires settings m (.error (.ofStep .resolveManagerInterface k))
        [.iidFromString (String.ofList (upToZero settings.managerClass)),
          .iidFromString (String.ofList (upToZero settings.managerInterface))]
  | noContext {manager interface : Guid} {k : Status}
      (hmanager : (m.outcome 0).identify settings.managerClass = .ok manager)
      (hinterface : (m.outcome 1).identify settings.managerInterface = .ok interface)
      (h : (m.outcome 2).failure? = some k) :
      Acquires settings m (.error (.ofStep .initializeContext k)) (preparation settings)
  | unknown {manager interface : Guid} (hprepared : Prepared settings m manager interface)
      (h : interface ≠ managerInterface) :
      Acquires settings m (.error (.ofStep .instantiateSession .noInterface)) (preparation settings)
  | noSession {manager : Guid} {session : Nat} {k : Status}
      (hprepared : Prepared settings m manager managerInterface)
      (h : (m.outcome 3).object session = .error k) :
      Acquires settings m (.error (.ofStep .instantiateSession k)) (acquisition settings manager)
  | obtained {manager : Guid} {session : Nat} (hprepared : Prepared settings m manager managerInterface)
      (h : (m.outcome 3).object session = .ok session) :
      Acquires settings m (.ok session) (acquisition settings manager)

section

variable {settings : Settings} {m : Machine} {manager interface : Guid}

/-- Only through the interface that is known is a session asked for. -/
theorem instantiate_runs (hprepared : Prepared settings m manager interface) :
    ∃ v t, Runs (do
        let session ← attempt .instantiateSession
          (service.instantiate manager interface settings.serverContext)
        note .sessionAcquired
        return session) (m.after (preparation settings)) v t ∧
      Acquires settings m v (preparation settings ++ t) := by
  by_cases h : interface = managerInterface
  · subst h
    have hcall := instantiate_apply (m.after (preparation settings)) manager settings.serverContext
    cases hsession : (m.outcome 3).object ((m.after (preparation settings)).system.sessions + 1) with
    | error k =>
      exact ⟨_, _, .bind_error (.attempt_error hcall hsession _), .noSession hprepared hsession⟩
    | ok session =>
      obtain rfl := Outcome.eq_of_object hsession
      exact ⟨_, _, .bind_ok (.attempt_ok hcall hsession _) (.bind_ok (.note _) (.pure _)),
        .obtained hprepared hsession⟩
  · have hcall := instantiate_of_ne (m.after (preparation settings)) h manager settings.serverContext
    exact ⟨_, _, .bind_error (.attempt hcall _), .unknown hprepared h⟩

theorem acquire_runs (settings : Settings) (m : Machine) :
    ∃ v t, Runs (service.acquire settings) m v t ∧ Acquires settings m v t := by
  let first : List Call := [.iidFromString (String.ofList (upToZero settings.managerClass))]
  let second : List Call := [.iidFromString (String.ofList (upToZero settings.managerInterface))]
  have hclass := resolve_apply m settings.managerClass
  have hiid := resolve_apply (m.after first) settings.managerInterface
  have hopen := openContext_apply ((m.after first).after second) settings.threading
  rw [Service.acquire]
  cases hmanager : (m.outcome 0).identify settings.managerClass with
  | error k => exact ⟨_, _, .bind_error (.attempt_error hclass hmanager _), .noClass hmanager⟩
  | ok manager =>
    have hclass := Runs.attempt_ok hclass hmanager .resolveManagerClass
    cases hinterface : (m.outcome 1).identify settings.managerInterface with
    | error k =>
      exact ⟨_, _, .bind_ok hclass (.bind_error (.attempt_error hiid hinterface _)),
        .noInterface hmanager hinterface⟩
    | ok interface =>
      have hiid := Runs.attempt_ok hiid hinterface .resolveManagerInterface
      have hnext : ((m.after first).after second).next = m.outcome 2 := by
        rw [← Machine.after_append]
        rfl
      cases hopened : (m.outcome 2).failure? with
      | some k =>
        have hfails := settle_of_failure hopened ()
        rw [← hnext] at hfails
        exact ⟨_, _, .bind_ok hclass (.bind_ok hiid (.bind_error (.attempt_error hopen hfails _))),
          .noContext hmanager hinterface hopened⟩
      | none =>
        have hopens : ((m.after first).after second).next.settle () = .ok () := by
          rw [hnext]
          exact settle_of_none hopened ()
        obtain ⟨v, t, hruns, hacquires⟩ := instantiate_runs ⟨hmanager, hinterface, hopened⟩
        have hsplit : preparation settings =
            first ++ (second ++ [.openCom (threadingFlag settings.threading)]) := rfl
        rw [hsplit, Machine.after_append, Machine.after_append] at hruns
        exact ⟨_, _, .bind_ok hclass (.bind_ok hiid (.bind_ok (.attempt_ok hopen hopens _) hruns)),
          hacquires⟩

end

/-! Work in a session. -/

/-- What an operation answers where a volume has no quota. A write makes one instead. -/
def absence : Operation → Option Answer
  | .setQuota .. => none
  | .getQuotaUsed _ => some (.bytes 0)
  | .queryUsage _ => some (.usage .notConfigured)
  | .describeQuota _ => some (.snapshot none)

/-- The ways in which a read can go once its record is found. -/
inductive Consults (record : Nat) (m : Machine) :
    Operation → Except StepError Answer → List Call → Prop where
  | bytes (volume : String) : Consults record m (.getQuotaUsed volume)
      (((m.outcome 0).settle (.bytes (m.outcome 0).variant.bits)).mapError (.ofStep .readUsed))
      (readAs (m.outcome 0) (.quotaUsed record))
  | usage (volume : String) : Consults record m (.queryUsage volume)
      (((m.outcome 0).settle (.usage (.used (m.outcome 0).variant.bits))).mapError (.ofStep .readUsed))
      (readAs (m.outcome 0) (.quotaUsed record))
  | noLimit (volume : String) {k : Status} (h : (m.outcome 0).failure? = some k) :
      Consults record m (.describeQuota volume) (.error (.ofStep .readLimit k))
        (readAs (m.outcome 0) (.quotaLimit record))
  | snapshot (volume : String) (h : (m.outcome 0).failure? = none) :
      Consults record m (.describeQuota volume)
        (((m.outcome 1).settle (.snapshot (some
          ⟨volume, (m.outcome 0).variant.bits, (m.outcome 1).variant.bits⟩))).mapError (.ofStep .readUsed))
        (readAs (m.outcome 0) (.quotaLimit record) ++ readAs (m.outcome 1) (.quotaUsed record))

/-- The ways in which the work of an operation can go. -/
inductive Works (session : Nat) (m : Machine) :
    Operation → Except StepError Answer → List Call → Prop where
  | notCreated {volume : String} {limit : UInt64} {record : Nat} {k : Status}
      (h : (m.outcome 0).object record = .error k) :
      Works session m (.setQuota volume limit) (.error (.ofStep .createRecord k))
        (quoted volume (.createQuota session volume))
  | notSet {volume : String} {limit : UInt64} {record : Nat} {k : Status}
      (hrecord : (m.outcome 0).object record = .ok record) (h : (m.outcome 1).failure? = some k) :
      Works session m (.setQuota volume limit) (.error (.ofStep .setLimit k))
        (quoted volume (.createQuota session volume) ++
          [.setQuotaLimit record (.ofUnsigned limit), .releaseRecord record])
  | set {volume : String} {limit : UInt64} {record : Nat}
      (hrecord : (m.outcome 0).object record = .ok record) (h : (m.outcome 1).failure? = none) :
      Works session m (.setQuota volume limit)
        (((m.outcome 2).settle .done).mapError (.ofStep .commit))
        (quoted volume (.createQuota session volume) ++
          [.setQuotaLimit record (.ofUnsigned limit), .commit record, .releaseRecord record])
  | refused {op : Operation} {record : Nat} {a : Answer} {k : Status} (hop : absence op = some a)
      (h : (m.outcome 0).found record = .error k) :
      Works session m op (.error (.ofStep .getRecord k))
        (quoted op.volume (.getQuota session op.volume))
  | missing {op : Operation} {a : Answer} (hop : absence op = some a)
      (h : m.outcome 0 = .code .notFound) :
      Works session m op (.ok a) (quoted op.volume (.getQuota session op.volume))
  | found {op : Operation} {record : Nat} {v : Except StepError Answer} {t : List Call}
      (h : (m.outcome 0).object record = .ok record)
      (hconsults : Consults record (m.after (quoted op.volume (.getQuota session op.volume))) op v t) :
      Works session m op v
        (quoted op.volume (.getQuota session op.volume) ++ (t ++ [.releaseRecord record]))

section

variable {m : Machine} {session record : Nat}

theorem usage_runs (record : Nat) (m : Machine) : Runs (service.usage record) m
    (((m.outcome 0).settle (.used (m.outcome 0).variant.bits)).mapError (.ofStep .readUsed))
    (readAs (m.outcome 0) (.quotaUsed record)) := by
  have hruns := (Runs.attempt (used_apply m record) .readUsed).map Usage.used
  rwa [map_mapError, map_settle] at hruns

theorem snapshot_runs (volume : String) (record : Nat) (m : Machine) :
    ∃ v t, Runs (do return Answer.snapshot (← service.snapshot volume record)) m v t ∧
      Consults record m (.describeQuota volume) v t := by
  let limited := m.after (readAs (m.outcome 0) (.quotaLimit record))
  have hlimit : service.limit record m = m.ran ((m.outcome 0).settle (m.outcome 0).variant.bits)
      (readAs (m.outcome 0) (.quotaLimit record)) := limit_apply m record
  cases h : (m.outcome 0).failure? with
  | some k =>
    have hfails := settle_of_failure h (m.outcome 0).variant.bits
    exact ⟨_, _, (Runs.bind_error (.attempt_error hlimit hfails _)).map _, .noLimit volume h⟩
  | none =>
    have hreads := settle_of_none h (m.outcome 0).variant.bits
    have hnext : limited.next = m.outcome 1 := outcome_after_readAs m _ rfl 0
    have hused := (Runs.attempt (used_apply limited record) .readUsed).map
      fun used => some (Snapshot.mk volume (m.outcome 0).variant.bits used)
    rw [hnext, map_mapError, map_settle] at hused
    have hruns := (Runs.bind_ok (f := fun limit => do
      let used ← attempt .readUsed (service.used record)
      return some ⟨volume, limit, used⟩) (.attempt_ok hlimit hreads .readLimit) hused).map Answer.snapshot
    rw [map_mapError, map_settle] at hruns
    exact ⟨_, _, hruns, .snapshot volume h⟩

theorem consults_runs {op : Operation} {a : Answer} (hop : absence op = some a) (record : Nat)
    (m : Machine) : ∃ work v t,
      (∀ session, op.work service session = (do
        let record ← attempt .getRecord (service.get session op.volume)
        service.found a work record)) ∧
      Runs (work record) m v t ∧ Consults record m op v t := by
  cases op with
  | setQuota volume limit => cases hop
  | getQuotaUsed volume =>
    cases hop
    have hruns := (usage_runs record m).map fun u => Answer.bytes u.bytes
    rw [map_mapError, map_settle] at hruns
    exact ⟨_, _, _, fun _ => rfl, hruns, .bytes volume⟩
  | queryUsage volume =>
    cases hop
    have hruns := (usage_runs record m).map Answer.usage
    rw [map_mapError, map_settle] at hruns
    exact ⟨_, _, _, fun _ => rfl, hruns, .usage volume⟩
  | describeQuota volume =>
    cases hop
    obtain ⟨v, t, hruns, hconsults⟩ := snapshot_runs volume record m
    exact ⟨_, v, t, fun _ => rfl, hruns, hconsults⟩

/-- A record is released after the work with it. -/
protected theorem Runs.withRecord {α : Type} {x : Task Machine (Entry Call) StepError α}
    {v : Except StepError α} {t : List Call} (hx : Runs x m v t) (record : Nat) :
    Runs (service.withRecord record x) m v (t ++ [.releaseRecord record]) :=
  hx.ensuring (releaseRecord_apply (m.after t) record)

/-- A record that cannot be given the limit is not committed. -/
theorem change_runs_of_failure {k : Status} (h : m.next.failure? = some k) (record : Nat)
    (limit : UInt64) :
    Runs (service.change limit record) m (.error (.ofStep .setLimit k))
      [.setQuotaLimit record (.ofUnsigned limit)] :=
  .bind_error (.attempt_error (setLimit_apply m record limit) (settle_of_failure h record) _)

theorem change_runs (h : m.next.failure? = none) (record : Nat) (limit : UInt64) :
    Runs (service.change limit record) m (((m.outcome 1).settle ()).mapError (.ofStep .commit))
      [.setQuotaLimit record (.ofUnsigned limit), .commit record] := by
  have hset := Runs.attempt_ok (setLimit_apply m record limit) (settle_of_none h record) .setLimit
  have hcommit := commit_apply (m.after [.setQuotaLimit record (.ofUnsigned limit)]) record
  cases hcommitted : (m.outcome 1).settle () with
  | error k => exact .bind_ok hset (.bind_error (.attempt_error hcommit hcommitted _))
  | ok _ => exact .bind_ok hset (.bind_ok (.attempt_ok hcommit hcommitted _) (.note _))

theorem works_of_setQuota (volume : String) (limit : UInt64) (session : Nat) (m : Machine) :
    ∃ v t, Runs ((Operation.setQuota volume limit).work service session) m v t ∧
      Works session m (.setQuota volume limit) v t := by
  let created := m.after (quoted volume (.createQuota session volume))
  have hcreate := create_apply m session volume
  have hnext : ∀ n, created.outcome n = m.outcome (1 + n) := outcome_after_quoted m volume rfl
  cases hrecord : (m.outcome 0).object (m.system.records + 1) with
  | error k =>
    exact ⟨_, _, .bind_error (.attempt_error hcreate hrecord _), .notCreated hrecord⟩
  | ok record =>
    obtain rfl := Outcome.eq_of_object hrecord
    have hcreate := Runs.attempt_ok hcreate hrecord .createRecord
    cases h : (m.outcome 1).failure? with
    | some k =>
      have hset : created.next.failure? = some k := (congrArg Outcome.failure? (hnext 0)).trans h
      have hruns := (change_runs_of_failure hset (m.system.records + 1) limit).map fun _ => Answer.done
      exact ⟨_, _, .bind_ok hcreate (hruns.withRecord _), .notSet hrecord h⟩
    | none =>
      have hset : created.next.failure? = none := (congrArg Outcome.failure? (hnext 0)).trans h
      have hruns := (change_runs hset (m.system.records + 1) limit).map fun _ => Answer.done
      rw [hnext, map_mapError, map_settle] at hruns
      exact ⟨_, _, .bind_ok hcreate (hruns.withRecord _), .set hrecord h⟩

theorem object_of_found {o : Outcome} {n k : Nat} (h : o.found n = .ok (some k)) :
    o.object n = .ok k := by
  rw [Outcome.found] at h
  cases hobject : o.object n with
  | ok j =>
    rw [hobject] at h
    cases h
    rfl
  | error j =>
    rw [hobject] at h
    dsimp only at h
    split at h <;> cases h

theorem works_of_read {op : Operation} {a : Answer} (hop : absence op = some a)
    (session : service.Session) (m : Machine) :
    ∃ v t, Runs (op.work service session) m v t ∧ Works session m op v t := by
  have hget := get_apply m session op.volume
  obtain ⟨work, v, t, hwork, hruns, hconsults⟩ := consults_runs hop (m.system.records + 1)
    (m.after (quoted op.volume (.getQuota session op.volume)))
  rw [hwork]
  cases hfound : (m.outcome 0).found (m.system.records + 1) with
  | error k => exact ⟨_, _, .bind_error (.attempt_error hget hfound _), .refused hop hfound⟩
  | ok record =>
    have hget := Runs.attempt_ok hget hfound .getRecord
    cases record with
    | none =>
      have hnothing : Runs (service.found a work none) (m.after (quoted op.volume
          (.getQuota session op.volume))) (.ok a) [] := .bind_ok (t := []) (.note _) (.pure a)
      have hruns := hget.bind_ok (f := fun record => service.found a work record) hnothing
      rw [List.append_nil] at hruns
      exact ⟨_, _, hruns, .missing hop (found_eq_none_iff.1 hfound)⟩
    | some record =>
      have hobject := object_of_found hfound
      obtain rfl := Outcome.eq_of_object hobject
      exact ⟨_, _, .bind_ok hget (hruns.withRecord _), .found hobject hconsults⟩

theorem work_runs (op : Operation) (session : Nat) (m : Machine) :
    ∃ v t, Runs (op.work service session) m v t ∧ Works session m op v t := by
  cases op with
  | setQuota volume limit => exact works_of_setQuota volume limit session m
  | getQuotaUsed volume => exact works_of_read rfl session m
  | queryUsage volume => exact works_of_read rfl session m
  | describeQuota volume => exact works_of_read rfl session m

end

/-! Whole operations. -/

/-- The end of an operation: a context is closed if one is open. -/
def closing (contexts : UInt32) : List Call := if 0 < contexts then [.closeCom] else []

/-- The ways in which an operation can go. -/
inductive Course (settings : Settings) (op : Operation) (m : Machine) :
    Except StepError Answer → List Call → Prop where
  | unacquired {e : StepError} {t : List Call} (h : Acquires settings m (.error e) t) :
      Course settings op m (.error e) (t ++ closing (m.after t).contexts)
  | acquired {session : Nat} {v : Except StepError Answer} {t u : List Call}
      (h : Acquires settings m (.ok session) t) (hworks : Works session (m.after t) op v u) :
      Course settings op m v (t ++ (u ++ .releaseSession session :: closing (m.contexts + 1)))

/-- Whether a call is on the way to a session or the way back. -/
def Call.onTheWay : Call → Bool
  | .iidFromString _ | .openCom _ | .closeCom | .coCreateInstance .. | .releaseSession _ => true
  | .sysAllocString _ | .sysFreeString | .createQuota .. | .getQuota .. | .setQuotaLimit ..
  | .quotaLimit _ | .quotaUsed _ | .variantClear _ | .commit _ | .releaseRecord _ => false

theorem Acquires.onTheWay {settings : Settings} {m : Machine} {v : Except StepError Nat} {t : List Call}
    (h : Acquires settings m v t) : ∀ c ∈ t, c.onTheWay = true := by
  cases h <;> simp [preparation, acquisition, Call.onTheWay]

theorem closing_onTheWay (contexts : UInt32) : ∀ c ∈ closing contexts, c.onTheWay = true := by
  rw [closing]
  split <;> simp [Call.onTheWay]

section

variable {settings : Settings} {op : Operation} {m : Machine} {session record : Nat} {e : StepError}
  {t u : List Call}

/-- A context more is open before a session. -/
theorem contexts_of_prepared {manager interface : Guid} (h : Prepared settings m manager interface) :
    (m.after (preparation settings)).contexts = m.contexts + 1 := by
  let asked : List Call := [.iidFromString (String.ofList (upToZero settings.managerClass)),
    .iidFromString (String.ofList (upToZero settings.managerInterface))]
  have hsplit : preparation settings = asked ++ [.openCom (threadingFlag settings.threading)] := rfl
  have hopened : (m.after asked).next.failure? = none := h.opened
  rw [hsplit, Machine.after_append, contexts_of_opened _ hopened,
    contexts_of_still _ (by simp [asked, Call.onContext])]

theorem Acquires.contexts (h : Acquires settings m (.ok session) t) :
    (m.after t).contexts = m.contexts + 1 := by
  cases h with
  | @obtained manager session hprepared h =>
    have hsplit : acquisition settings manager = preparation settings ++
        [.coCreateInstance manager (contextFlags settings.serverContext) managerInterface] := rfl
    rw [hsplit, Machine.after_append, contexts_of_still _ (by simp [Call.onContext]),
      contexts_of_prepared hprepared]

theorem Consults.atWork {v : Except StepError Answer} (h : Consults record m op v t) :
    ∀ c ∈ t, c.onTheWay = false := by
  cases h with
  | bytes | usage | noLimit => exact forall_mem_readAs rfl fun _ => rfl
  | snapshot =>
    exact List.forall_mem_append.2
      ⟨forall_mem_readAs rfl fun _ => rfl, forall_mem_readAs rfl fun _ => rfl⟩

theorem Works.atWork {v : Except StepError Answer} (h : Works session m op v t) :
    ∀ c ∈ t, c.onTheWay = false := by
  cases h with
  | notCreated | refused | missing => exact forall_mem_quoted rfl rfl rfl
  | notSet | set =>
    exact List.forall_mem_append.2 ⟨forall_mem_quoted rfl rfl rfl, by simp [Call.onTheWay]⟩
  | found h hconsults =>
    exact List.forall_mem_append.2 ⟨forall_mem_quoted rfl rfl rfl,
      List.forall_mem_append.2 ⟨hconsults.atWork, by simp [Call.onTheWay]⟩⟩

theorem onContext_of_atWork {c : Call} (h : c.onTheWay = false) : c.onContext = false := by
  cases c <;> first | rfl | cases h

variable {α : Type} {work : service.Session → Task Machine (Entry Call) StepError α}
  {v : Except StepError α}

theorem Runs.withSession_of_error (h : Runs (service.acquire settings) m (.error e) t) :
    Runs (service.withSession settings work) m (.error e) (t ++ closing (m.after t).contexts) :=
  h.bind_error.ensuring (closeContext_apply (m.after t))

/-- Work that is still gives up the session, and then the context of the session. -/
theorem Runs.withSession_of_ok (h : Runs (service.acquire settings) m (.ok session) t)
    (hcontexts : (m.after t).contexts = m.contexts + 1) (hwork : Runs (work session) (m.after t) v u)
    (hstill : ∀ c ∈ u, c.onContext = false) :
    Runs (service.withSession settings work) m v
      (t ++ (u ++ .releaseSession session :: closing (m.contexts + 1))) := by
  have hrelease := releaseSession_apply ((m.after t).after u) session
  have hleft : (m.after (t ++ (u ++ [.releaseSession session]))).contexts = m.contexts + 1 := by
    rw [Machine.after_append, contexts_of_still _ (List.forall_mem_append.2
      ⟨hstill, by simp [Call.onContext]⟩), hcontexts]
  have hclose := closeContext_apply (m.after (t ++ (u ++ [.releaseSession session])))
  rw [← closing, hleft] at hclose
  have hinside := h.bind_ok (f := fun session => (work session).ensuring
    (announced .releasingSession (service.releaseSession session))) (hwork.ensuring hrelease)
  have hruns : Runs (service.withSession settings work) m v _ := hinside.ensuring hclose
  rw [List.append_assoc, List.append_assoc] at hruns
  exact hruns

end

/-- **An operation takes one of the courses**, whatever the settings, the state and the outcomes. -/
theorem run_course (settings : Settings) (op : Operation) (m : Machine) :
    ∃ v t, Runs (op.run service settings) m v t ∧ Course settings op m v t := by
  rw [Operation.run_eq]
  obtain ⟨v, t, hacquire, hacquires⟩ := acquire_runs settings m
  cases v with
  | error e =>
    exact ⟨_, _, (Runs.withSession_of_error hacquire).inSpan _, .unacquired hacquires⟩
  | ok session =>
    obtain ⟨w, u, hwork, hworks⟩ := work_runs op session (m.after t)
    have hruns := Runs.withSession_of_ok hacquire hacquires.contexts hwork
      fun c hc => onContext_of_atWork (hworks.atWork c hc)
    exact ⟨_, _, hruns.inSpan _, .acquired hacquires hworks⟩

/-- Other calls are made at work. -/
theorem Course.work_of_mem {settings : Settings} {op : Operation} {m : Machine}
    {v : Except StepError Answer} {t : List Call} (h : Course settings op m v t) {c : Call} {o : Outcome}
    (hmem : (c, o) ∈ m.answers t) (hc : c.onTheWay = false) :
    ∃ session m' u, Works session m' op v u ∧ (c, o) ∈ m'.answers u := by
  have hnot : ∀ {m : Machine} {t : List Call}, (∀ d ∈ t, d.onTheWay = true) → (c, o) ∉ m.answers t := by
    intro m t ht hmem
    rw [ht c (mem_of_mem_exchanges hmem)] at hc
    cases hc
  cases h with
  | unacquired hacquires =>
    exact absurd hmem (hnot (List.forall_mem_append.2 ⟨hacquires.onTheWay, closing_onTheWay _⟩))
  | @acquired session v t u hacquires hworks =>
    have hback : ∀ d ∈ .releaseSession session :: closing (m.contexts + 1), d.onTheWay = true :=
      List.forall_mem_cons.2 ⟨rfl, closing_onTheWay _⟩
    rw [Machine.answers_append, Machine.answers_append, List.mem_append, List.mem_append] at hmem
    rcases hmem with hmem | hmem | hmem
    · exact absurd hmem (hnot hacquires.onTheWay)
    · exact ⟨session, m.after t, u, hworks, hmem⟩
    · exact absurd hmem (hnot hback)

theorem Runs.asked {settings : Settings} {op : Operation} {m : Machine} {v : Except StepError Answer}
    {t : List Call} (h : Runs (op.run service settings) m v t) : asked settings op m = m.answers t :=
  congrArg m.answers h.calls

end DiskQuota.Fsrm
