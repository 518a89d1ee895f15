import DiskQuota.Proofs.Fsrm.Surfacing

/-!
Where "not found" is an answer. One code of one call says that a volume has no quota: that of looking for
its record, in a session that was obtained. The reads answer that there is none then and only then
(`not_found_exact`); from any other call the same code surfaces as a failure of that call, as does any
other failing code from this one.
-/
namespace DiskQuota.Fsrm

/-- The calls of an operation that can fail, each with the outcome that fell to it. -/
def asked (settings : Settings) (op : Operation) (m : Machine) : List (Call × Outcome) :=
  exchanges Call.asks .success m.store (calls (op.run service settings m).trace)

/-- The four steps to a session succeeded, and looking for the record of the volume in that session failed
with the code for "not found". -/
def NotFound (settings : Settings) (op : Operation) (m : Machine) : Prop :=
  ∃ session, (service.acquire settings m).value = .ok session ∧
    (.getQuota session op.volume, .code ⟨0x80045301⟩) ∈ asked settings op m

/-- The calls before a session. -/
def preparation (settings : Settings) : List Call :=
  [.iidFromString (String.ofList (upToZero settings.managerClass)),
    .iidFromString (String.ofList (upToZero settings.managerInterface)),
    .openCom (threadingFlag settings.threading)]

/-- The calls that acquire a session of a manager class. -/
def acquisition (settings : Settings) (manager : Guid) : List Call :=
  preparation settings ++
    [.coCreateInstance manager (contextFlags settings.serverContext) managerInterface]

/-! A session that was obtained. -/

theorem settle_eq_ok {α : Type} {o : Outcome} {a b : α} (h : o.settle a = .ok b) :
    o.failure? = none := by
  rw [Outcome.settle] at h
  split at h
  · cases h
  · assumption

theorem contexts_of_still (m : Machine) {t : List Call} (h : ∀ c ∈ t, c.onContext = false) :
    (m.after t).contexts = m.contexts := by
  rw [m.after_of_still h]

theorem contexts_of_opened (m : Machine) {model : UInt32} (h : m.next.failure? = none) :
    (m.after [.openCom model]).contexts = m.contexts + 1 := by
  have hnext : m.store.headD .success = m.next := rfl
  have hasks : (Call.openCom model).asks = true := rfl
  rw [Machine.after, tally_cons, if_pos hasks, hnext]
  simp [Call.opens, h]

/-- A session that was obtained cost four calls and left one context more open. -/
theorem acquired {settings : Settings} {m : Machine} {session : Nat}
    (h : (service.acquire settings m).value = .ok session) :
    (∃ manager, calls (service.acquire settings m).trace = acquisition settings manager) ∧
      (service.acquire settings m).state.contexts = m.contexts + 1 := by
  obtain ⟨(manager : Guid), (interface : Guid), -, -, hopened, hsession, htrace, hstate⟩ :=
    service.acquire_ok h
  rw [htrace, hstate]
  simp only [resolve_apply, openContext_apply, Machine.ran] at hopened hsession ⊢
  -- a session is made through the one interface that is known
  by_cases hinterface : interface = managerInterface
  · subst hinterface
    rw [instantiate_apply]
    refine ⟨⟨manager, rfl⟩, ?_⟩
    rw [Machine.ran, contexts_of_still _ (by simp [Call.onContext]),
      contexts_of_opened _ (settle_eq_ok hopened), contexts_of_still _ (by simp [Call.onContext]),
      contexts_of_still _ (by simp [Call.onContext])]
  · rw [instantiate_of_ne _ hinterface] at hsession
    cases hsession

/-! The search for a record. -/

theorem found_eq_none_iff {o : Outcome} {n : Nat} : o.found n = .ok none ↔ o = .code .notFound := by
  constructor
  · intro h
    cases o with
    | code k =>
      cases hk : k.isFailure with
      | false => simp [Outcome.found, Outcome.object, Outcome.settle, failure?_code, hk] at h
      | true =>
        have hfailure : (Outcome.code k).failure? = some k := (failure?_code k).trans (if_pos hk)
        rw [Outcome.found, object_of_failure hfailure] at h
        by_cases hnone : k = .notFound
        · rw [hnone]
        · dsimp only at h
          rw [if_neg hnone] at h
          cases h
    -- the code of an object that is missing is another
    | nullObject => cases h
    | value v => cases h
    | success => cases h
  · rintro rfl
    rfl

theorem mem_of_mem_exchanges {os : List Outcome} {t : List Call} {x : Call × Outcome}
    (h : x ∈ exchanges Call.asks .success os t) : x.1 ∈ t := by
  have hmem := List.mem_map_of_mem (f := (·.1)) h
  rw [fst_exchanges] at hmem
  exact (List.mem_filter.1 hmem).1

/-- A session was obtained, and looking for the record in it is answered with "not found". -/
structure Missing (settings : Settings) (m : Machine) (session : Nat) : Prop where
  acquired : (service.acquire settings m).value = .ok session
  answered : (service.acquire settings m).state.next = .code .notFound

section

variable {α : Type} (missing : α) (work : service.Record → Task Machine (Entry Call) StepError α)
  {settings : Settings} (volume : String) {m : Machine} {session : Nat}

/-- There is no record to work with or to release; the session and the context are given up. -/
theorem search_of_missing (h : Missing settings m session) :
    (service.search missing work settings volume m).value = .ok missing ∧
      ∃ manager, calls (service.search missing work settings volume m).trace =
        acquisition settings manager ++ quoted volume (.getQuota session volume) ++
          .releaseSession session :: if 0 < m.contexts + 1 then [.closeCom] else [] := by
  have hget := get_apply (service.acquire settings m).state session volume
  have hnone : (service.get session volume (service.acquire settings m).state).value = .ok none := by
    rw [hget, Machine.ran, found_eq_none_iff.2 h.answered]
    rfl
  obtain ⟨hvalue, hcalls⟩ := service.search_of_ok missing work h.acquired hnone
  obtain ⟨⟨manager, hmanager⟩, hcontexts⟩ := acquired h.acquired
  refine ⟨hvalue, manager, ?_⟩
  have hnothing : ∀ s, service.found missing work none s = ⟨.ok missing, [.log .noQuota], s⟩ :=
    fun _ => rfl
  have hstill : ∀ c ∈ quoted volume (.getQuota session volume) ++ [.releaseSession session],
      c.onContext = false := by
    intro c hc
    rcases List.mem_append.1 hc with hc | hc
    · exact quoted_still rfl c hc
    · rw [List.mem_singleton.1 hc]
      rfl
  rw [hcalls, hmanager, hget, hnothing, releaseSession_apply, closeContext_apply]
  simp only [Machine.ran, ← Machine.after_append]
  rw [contexts_of_still _ hstill, hcontexts]
  simp

variable {work} (hwork : ∀ record m, ∀ c ∈ calls (work record m).trace, c.gets = false)

include hwork

theorem found_gets (record : Option service.Record) (m : Machine) :
    ∀ c ∈ calls (service.found missing work record m).trace, c.gets = false := by
  cases record with
  | none => exact fun _ hc => absurd hc List.not_mem_nil
  | some record =>
    intro c hc
    change c ∈ calls (service.withRecord record (work record) m).trace at hc
    rw [Service.withRecord, Task.ensuring_trace, calls_append, calls_announced] at hc
    rcases List.mem_append.1 hc with hc | hc
    · exact hwork record m c hc
    · have hc : c ∈ [.releaseRecord record] := hc
      rw [List.mem_singleton.1 hc]
      rfl

/-- Looking for the record is the one call of its kind, if the work makes none. -/
theorem search_gets_once (h : (service.acquire settings m).value = .ok session) :
    ∃ rest, calls (service.search missing work settings volume m).trace =
        calls (service.acquire settings m).trace ++
          (quoted volume (.getQuota session volume) ++ rest) ∧
      ∀ c ∈ rest, c.gets = false := by
  have hclose : ∀ m, ∀ c ∈ (service.closeContext m).trace, c.gets = false := by
    intro m
    rw [closeContext_apply, Machine.ran]
    split <;> simp [Call.gets]
  have hend : ∀ m, ∀ c ∈ (service.releaseSession session m).trace ++
      (service.closeContext (service.releaseSession session m).state).trace, c.gets = false := by
    intro m
    rw [releaseSession_apply]
    simpa [Machine.ran, Call.gets] using hclose _
  have hget := get_apply (service.acquire settings m).state session volume
  cases hvalue : (service.get session volume (service.acquire settings m).state).value with
  | error k =>
    obtain ⟨-, hcalls⟩ := service.search_of_error missing work h hvalue
    rw [hget] at hcalls
    exact ⟨_, hcalls, hend _⟩
  | ok record =>
    obtain ⟨-, hcalls⟩ := service.search_of_ok missing work h hvalue
    rw [hget] at hcalls
    refine ⟨_, hcalls, fun c hc => ?_⟩
    rcases List.mem_append.1 hc with hc | hc
    · exact found_gets missing hwork record _ c hc
    · exact hend _ c hc

/-- What fell to looking for the record is what the system had next once the session was there. -/
theorem mem_search_iff (h : (service.acquire settings m).value = .ok session) (o : Outcome) :
    (.getQuota session volume, o) ∈ exchanges Call.asks .success m.store
        (calls (service.search missing work settings volume m).trace) ↔
      (service.acquire settings m).state.next = o := by
  obtain ⟨rest, hcalls, hrest⟩ := search_gets_once missing volume hwork h
  obtain ⟨⟨manager, hmanager⟩, -⟩ := acquired h
  have hgets : ∀ {os : List Outcome} {t : List Call}, (∀ c ∈ t, c.gets = false) →
      (.getQuota session volume, o) ∉ exchanges Call.asks .success os t :=
    fun ht hmem => absurd (ht _ (mem_of_mem_exchanges hmem)) (by simp [Call.gets])
  have hget : exchanges Call.asks .success (service.acquire settings m).state.store
      (quoted volume (.getQuota session volume)) =
        [(.getQuota session volume, (service.acquire settings m).state.next)] := by
    rw [← exchanges_essential, essential_quoted volume rfl]
    rfl
  have hbefore : ∀ c ∈ calls (service.acquire settings m).trace, c.gets = false := by
    rw [hmanager]
    simp [acquisition, preparation, Call.gets]
  rw [hcalls, exchanges_append, ← (acquire_surfaces settings).store, exchanges_append, hget]
  constructor
  · intro hmem
    rcases List.mem_append.1 hmem with hmem | hmem
    · exact absurd hmem (hgets hbefore)
    · rcases List.mem_append.1 hmem with hmem | hmem
      · cases List.mem_singleton.1 hmem
        rfl
      · exact absurd hmem (hgets hrest)
  · rintro rfl
    simp

omit hwork

/-- A search comes to what stands for a missing record exactly where there is none, if the work
comes to something else. -/
theorem search_eq_missing_iff (hne : ∀ record m, (work record m).value ≠ .ok missing) :
    (service.search missing work settings volume m).value = .ok missing ↔
      ∃ session, Missing settings m session := by
  constructor
  · intro h
    obtain ⟨(session : Nat), record, hacquired, hrecord, hfound⟩ := service.search_ok h
    refine ⟨session, hacquired, ?_⟩
    cases record with
    | some record => exact absurd hfound (hne record _)
    | none =>
      rw [get_apply] at hrecord
      exact found_eq_none_iff.1 hrecord
  · rintro ⟨session, h⟩
    exact (search_of_missing missing work volume h).1

/-- An operation that calls what a search calls. -/
theorem notFound_iff (hwork : ∀ record m, ∀ c ∈ calls (work record m).trace, c.gets = false)
    {op : Operation} {missing : α} (hcalls : calls (op.run service settings m).trace =
      calls (service.search missing work settings op.volume m).trace) :
    NotFound settings op m ↔ ∃ session, Missing settings m session := by
  simp only [NotFound, asked, hcalls]
  constructor
  · rintro ⟨session, h, hmem⟩
    exact ⟨session, h, (mem_search_iff missing _ hwork h _).1 hmem⟩
  · rintro ⟨session, h⟩
    exact ⟨session, h.acquired, (mem_search_iff missing _ hwork h.acquired _).2 h.answered⟩

end

/-! The reads. -/

section

theorem readAs_gets {o : Outcome} {c : Call} (h : c.gets = false) : ∀ d ∈ readAs o c, d.gets = false :=
  forall_mem_readAs h fun _ => rfl

theorem limit_trace (record : service.Record) (m : Machine) :
    (service.limit record m).trace = readAs m.next (.quotaLimit record) :=
  congrArg Ran.trace (limit_apply m record)

theorem used_trace (record : service.Record) (m : Machine) :
    (service.used record m).trace = readAs m.next (.quotaUsed record) :=
  congrArg Ran.trace (used_apply m record)

theorem usage_calls (record : service.Record) (m : Machine) :
    calls (service.usage record m).trace = readAs m.next (.quotaUsed record) := by
  rw [Service.usage, Task.map_trace, calls_attempt, used_trace]

theorem usage_gets (record : service.Record) (m : Machine) :
    ∀ c ∈ calls (service.usage record m).trace, c.gets = false := by
  rw [usage_calls]
  exact readAs_gets rfl

theorem snapshot_gets (volume : String) (record : service.Record) (m : Machine) :
    ∀ c ∈ calls (service.snapshot volume record m).trace, c.gets = false := by
  refine forall_calls_bind (fun m => ?_) (fun _ => forall_calls_bind (fun m => ?_) fun _ _ => ?_) m
  · rw [calls_attempt, limit_trace]
    exact readAs_gets rfl
  · rw [calls_attempt, used_trace]
    exact readAs_gets rfl
  · exact nofun

variable (settings : Settings) (volume : String) (m : Machine)

theorem getQuotaUsed_calls : calls ((Operation.getQuotaUsed volume).run service settings m).trace =
    calls (service.search .notConfigured service.usage settings volume m).trace := by
  rw [Operation.run, Task.map_trace, Service.getQuotaUsed, Task.map_trace, Service.queryUsage_eq,
    calls_inSpan]

theorem queryUsage_calls : calls ((Operation.queryUsage volume).run service settings m).trace =
    calls (service.search .notConfigured service.usage settings volume m).trace := by
  rw [Operation.run, Task.map_trace, Service.queryUsage_eq, calls_inSpan]

theorem describeQuota_calls : calls ((Operation.describeQuota volume).run service settings m).trace =
    calls (service.search none (service.snapshot volume) settings volume m).trace := by
  rw [Operation.run, Task.map_trace, Service.describeQuota_eq, calls_inSpan]

theorem usage_ne_notConfigured (record : service.Record) (m : Machine) :
    (service.usage record m).value ≠ .ok .notConfigured := by
  rw [Service.usage, Task.map_value]
  cases (attempt .readUsed (service.used record) m).value <;> simp [Except.map]

theorem snapshot_ne_none (record : service.Record) (m : Machine) :
    (service.snapshot volume record m).value ≠ .ok none := by
  intro h
  obtain ⟨limit, -, h, -⟩ := Task.bind_ok h
  obtain ⟨used, -, h, -⟩ := Task.bind_ok h
  cases h

theorem queryUsage_iff : ((Operation.queryUsage volume).run service settings m).value =
    .ok (.usage .notConfigured) ↔ NotFound settings (.queryUsage volume) m := by
  rw [notFound_iff usage_gets (queryUsage_calls settings volume m),
    ← search_eq_missing_iff _ volume usage_ne_notConfigured, Operation.run, Task.map_value,
    Service.queryUsage_eq, inSpan_value]
  cases (service.search .notConfigured service.usage settings volume m).value <;> simp [Except.map]

theorem describeQuota_iff : ((Operation.describeQuota volume).run service settings m).value =
    .ok (.snapshot none) ↔ NotFound settings (.describeQuota volume) m := by
  rw [notFound_iff (snapshot_gets volume) (describeQuota_calls settings volume m),
    ← search_eq_missing_iff _ volume (snapshot_ne_none volume), Operation.run,
    Task.map_value, Service.describeQuota_eq, inSpan_value]
  cases (service.search none (service.snapshot volume) settings volume m).value <;> simp [Except.map]

/-- A usage query that worked with a record read its use. -/
theorem search_usage_reads {session : service.Session} {record : service.Record}
    (h : (service.acquire settings m).value = .ok session)
    (hrecord : (service.get session volume (service.acquire settings m).state).value =
      .ok (some record)) :
    .quotaUsed record ∈ calls (service.search .notConfigured service.usage settings volume m).trace := by
  have hread : ∀ (o : Outcome), Call.quotaUsed record ∈ readAs o (.quotaUsed record) := by
    intro o
    rw [readAs]
    split <;> simp
  rw [(service.search_of_ok _ _ h hrecord).2, Service.found, Service.withRecord, Task.ensuring_trace,
    calls_append, usage_calls]
  simp [hread]

theorem getQuotaUsed_iff :
    (((Operation.getQuotaUsed volume).run service settings m).value = .ok (.bytes 0) ∧
      ∀ record, .quotaUsed record ∉ calls ((Operation.getQuotaUsed volume).run service settings m).trace) ↔
    NotFound settings (.getQuotaUsed volume) m := by
  rw [notFound_iff usage_gets (getQuotaUsed_calls settings volume m), getQuotaUsed_calls,
    Operation.run, Task.map_value, Service.getQuotaUsed, Task.map_value, Service.queryUsage_eq,
    inSpan_value]
  constructor
  · rintro ⟨hvalue, hunread⟩
    obtain ⟨u, hu⟩ : ∃ u, (service.search .notConfigured service.usage settings volume m).value =
        .ok u := by
      cases h : (service.search .notConfigured service.usage settings volume m).value with
      | error e => simp [h, Except.map] at hvalue
      | ok u => exact ⟨u, rfl⟩
    obtain ⟨(session : Nat), record, hacquired, hrecord, -⟩ := service.search_ok hu
    cases record with
    | some record => exact absurd (search_usage_reads settings volume m hacquired hrecord) (hunread _)
    | none =>
      rw [get_apply] at hrecord
      exact ⟨session, hacquired, found_eq_none_iff.1 hrecord⟩
  · rintro ⟨session, h⟩
    obtain ⟨hvalue, manager, hcalls⟩ := search_of_missing .notConfigured service.usage volume h
    rw [hvalue, hcalls]
    refine ⟨rfl, fun record => ?_⟩
    rw [quoted, acquisition, preparation]
    split <;> split <;> simp

/-- No record is named where there is none: the session is released and the context closed. -/
theorem calls_of_notFound {op : Operation}
    (hop : op ∈ [.getQuotaUsed volume, .queryUsage volume, .describeQuota volume])
    (h : NotFound settings op m) : ∃ manager session,
    calls (op.run service settings m).trace = acquisition settings manager ++
      quoted volume (.getQuota session volume) ++
        .releaseSession session :: if 0 < m.contexts + 1 then [.closeCom] else [] := by
  simp only [List.mem_cons, List.not_mem_nil, or_false] at hop
  rcases hop with rfl | rfl | rfl
  · obtain ⟨session, h⟩ := (notFound_iff usage_gets (getQuotaUsed_calls settings volume m)).1 h
    obtain ⟨-, manager, hcalls⟩ := search_of_missing .notConfigured service.usage volume h
    exact ⟨manager, session, (getQuotaUsed_calls settings volume m).trans hcalls⟩
  · obtain ⟨session, h⟩ := (notFound_iff usage_gets (queryUsage_calls settings volume m)).1 h
    obtain ⟨-, manager, hcalls⟩ := search_of_missing .notConfigured service.usage volume h
    exact ⟨manager, session, (queryUsage_calls settings volume m).trans hcalls⟩
  · obtain ⟨session, h⟩ :=
      (notFound_iff (snapshot_gets volume) (describeQuota_calls settings volume m)).1 h
    obtain ⟨-, manager, hcalls⟩ := search_of_missing none (service.snapshot volume) volume h
    exact ⟨manager, session, (describeQuota_calls settings volume m).trans hcalls⟩

/-- A failing code surfaces, unless it says that there is no record. -/
theorem run_error_of_asked {op : Operation} {i : Nat} {c : Call} {k : Status}
    (h : (asked settings op m)[i]? = some (c, .code k)) (hk : 0x80000000 ≤ k.code)
    (hmissing : c.gets = true → k ≠ .notFound) : ∃ category p,
      c.category? = some category ∧ c.step? i = some p ∧
        (op.run service settings m).value = .error ⟨category, p, k⟩ := by
  have hrefused : refusal c (.code k) = some k := by
    rw [refusal, Outcome.failure?, if_pos hk]
    simpa [Option.filter] using hmissing
  obtain ⟨p, hp, hvalue⟩ := (run_surfaces settings op).surfaces m i c _ k h hrefused
  rw [Nat.zero_add] at hp
  exact ⟨p.category, p, category?_of_step? hp, hp, hvalue⟩

/-- **"Not found" is an answer of one call only.** A usage query answers that no quota is configured, a
description that there is none, and the bytes in use are the zero that was not read, exactly where a
session was obtained and looking for the record in it failed with the code for "not found". Any
failing code of any call beside surfaces at the step of that call. Where there is no record, none is
read or released, and the session is released and the context closed once, as long as the contexts can
be counted. -/
theorem not_found_exact :
    (((Operation.queryUsage volume).run service settings m).value = .ok (.usage .notConfigured) ↔
      NotFound settings (.queryUsage volume) m) ∧
    (((Operation.describeQuota volume).run service settings m).value = .ok (.snapshot none) ↔
      NotFound settings (.describeQuota volume) m) ∧
    ((((Operation.getQuotaUsed volume).run service settings m).value = .ok (.bytes 0) ∧
        ∀ record, .quotaUsed record ∉
          calls ((Operation.getQuotaUsed volume).run service settings m).trace) ↔
      NotFound settings (.getQuotaUsed volume) m) ∧
    (∀ (op : Operation) (i : Nat) (c : Call) (k : Status),
      (asked settings op m)[i]? = some (c, .code k) → 0x80000000 ≤ k.code →
      (c.gets = true → k ≠ ⟨0x80045301⟩) →
      ∃ category p, c.category? = some category ∧ c.step? i = some p ∧
        (op.run service settings m).value = .error ⟨category, p, k⟩) ∧
    ∀ op ∈ [.getQuotaUsed volume, .queryUsage volume, .describeQuota volume],
      NotFound settings op m → ∃ manager session,
        calls (op.run service settings m).trace = acquisition settings manager ++
          quoted volume (.getQuota session volume) ++
            .releaseSession session :: if 0 < m.contexts + 1 then [.closeCom] else [] :=
  ⟨queryUsage_iff settings volume m, describeQuota_iff settings volume m,
    getQuotaUsed_iff settings volume m, fun _ _ _ _ => run_error_of_asked settings m,
    fun _ => calls_of_notFound settings volume m⟩

end

/-- The same code from creating the record is a failure. -/
example : ((Operation.setQuota "D:" 5).run service .default
    (.initial [.success, .success, .success, .success, .code ⟨0x80045301⟩])).value =
      .error ⟨.recordResolution, .createRecord, ⟨0x80045301⟩⟩ := by decide

end DiskQuota.Fsrm
