import DiskQuota.Proofs.Fsrm.NullObject
import DiskQuota.Proofs.Fsrm.Reply
import DiskQuota.Proofs.Session

/-!
Failures of the operating system come to light. Every call that can fail is made at a step of the
operation, which is known from the call and from how many were made before it (`Call.step?`), and a
failing code is what the operation comes to, at that step and unchanged (`run_surfaces`). The one
exception is the code by which looking for a record says that there is none (`refusal`).
-/
namespace DiskQuota.Fsrm

/-- Whether a call looks for a record. -/
def Call.gets : Call → Bool
  | .getQuota .. => true
  | _ => false

/-- The step at which an operation makes a call, given how many that can fail it made before. -/
def Call.step? (before : Nat) : Call → Option Step
  | .iidFromString _ =>
    some (if before = 0 then .resolveManagerClass else .resolveManagerInterface)
  | .openCom _ => some .initializeContext
  | .coCreateInstance .. => some .instantiateSession
  | .createQuota .. => some .createRecord
  | .getQuota .. => some .getRecord
  | .setQuotaLimit .. => some .setLimit
  | .quotaLimit _ => some .readLimit
  | .quotaUsed _ => some .readUsed
  | .commit _ => some .commit
  | .closeCom | .sysAllocString _ | .sysFreeString | .variantClear _ | .releaseRecord _
  | .releaseSession _ => none

/-- What a call is part of, if it can fail. -/
def Call.category? : Call → Option Category
  | .iidFromString _ | .openCom _ | .coCreateInstance .. => some .acquisition
  | .createQuota .. | .getQuota .. => some .recordResolution
  | .setQuotaLimit .. | .commit _ => some .mutation
  | .quotaLimit _ | .quotaUsed _ => some .read
  | .closeCom | .sysAllocString _ | .sysFreeString | .variantClear _ | .releaseRecord _
  | .releaseSession _ => none

/-- A call is made at a step of its category. -/
theorem category?_of_step? {before : Nat} {c : Call} {p : Step} (h : c.step? before = some p) :
    c.category? = some p.category := by
  cases c <;> cases h <;> first | rfl | (split <;> rfl)

/-- The failing code of a call, unless it says that a volume has no quota. -/
def refusal (c : Call) (o : Outcome) : Option Status :=
  o.failure?.filter fun k => !(c.gets && k = .notFound)

theorem failure?_of_refusal {c : Call} {o : Outcome} {k : Status} (h : refusal c o = some k) :
    o.failure? = some k := (Option.filter_eq_some_iff.1 h).1

/-- Calls that take no outcome do not show among the exchanges. -/
theorem exchanges_essential (os : List Outcome) (t : List Call) :
    exchanges Call.asks .success os (essential t) = exchanges Call.asks .success os t := by
  induction t generalizing os with
  | nil => rfl
  | cons c t ih =>
    by_cases hc : c.essential = true
    · rw [essential, List.filter_cons_of_pos hc, exchanges, exchanges, ← essential, ih, ih]
    · have hasks : c.asks = false := Bool.eq_false_iff.2 fun h => hc (essential_of_asks h)
      rw [essential, List.filter_cons_of_neg hc, ← essential, ih, exchanges, hasks,
        if_neg Bool.false_ne_true]

section

variable {α β : Type}

/-- Where `n` calls that can fail were made before, the refusals of a task surface. -/
structure Surfaces (n : Nat) (x : Task Machine (Entry Call) StepError α) : Prop where
  store : ∀ m, (x m).state.store = m.store.drop ((calls (x m).trace).countP Call.asks)
  surfaces : ∀ m i c o k,
    (exchanges Call.asks .success m.store (calls (x m).trace))[i]? = some (c, o) →
    refusal c o = some k → ∃ p, c.step? (n + i) = some p ∧ (x m).value = .error (.ofStep p k)

/-- A task that succeeds makes exactly `j` calls that can fail. -/
def Takes (j : Nat) (x : Task Machine (Entry Call) StepError α) : Prop :=
  ∀ m a, (x m).value = .ok a → (calls (x m).trace).countP Call.asks = j

theorem length_exchanges (os : List Outcome) (t : List Call) :
    (exchanges Call.asks .success os t).length = t.countP Call.asks := by
  have h := congrArg List.length (fst_exchanges Call.asks (.success : Outcome) os t)
  rwa [List.length_map, ← List.countP_eq_length_filter] at h

/-- A call of the service that is one call of the system and fails where that is refused. -/
structure Makes (c : Call) (call : Task Machine Call Status α) : Prop where
  asks : c.asks = true
  once : ∀ m, essential (call m).trace = [c]
  after : ∀ m, (call m).state = m.after (call m).trace
  refused : ∀ m k, refusal c m.next = some k → (call m).value = .error k

theorem Makes.of_ran {c : Call} {call : Task Machine Call Status α} {v : Machine → Except Status α}
    {t : Machine → List Call} (hcall : ∀ m, call m = m.ran (v m) (t m)) (hc : c.asks = true)
    (ht : ∀ m, essential (t m) = [c]) (hv : ∀ m k, refusal c m.next = some k → v m = .error k) :
    Makes c call where
  asks := hc
  once m := by rw [hcall]; exact ht m
  after m := by rw [hcall]; rfl
  refused m k h := by rw [hcall]; exact hv m k h

namespace Takes

protected theorem pure (a : α) : Takes 0 (pure a : Task Machine (Entry Call) StepError α) :=
  fun _ _ _ => rfl

protected theorem note (event : Event) :
    Takes 0 (note event : Task Machine (Entry Call) StepError Unit) := fun _ _ _ => rfl

protected theorem bind {j l : Nat} {x : Task Machine (Entry Call) StepError α}
    {f : α → Task Machine (Entry Call) StepError β} (hx : Takes j x) (hf : ∀ a, Takes l (f a)) :
    Takes (j + l) (x >>= f) := by
  intro m b hb
  cases hv : (x m).value with
  | error e =>
    rw [Task.bind_apply_error hv] at hb
    cases hb
  | ok a =>
    rw [Task.bind_apply_ok hv] at hb ⊢
    rw [calls_append, List.countP_append, hx m a hv, hf a _ b hb]

protected theorem attempt {c : Call} {call : Task Machine Call Status α} (h : Makes c call)
    (p : Step) : Takes 1 (attempt p call) := by
  intro m a _
  rw [calls_attempt, ← countP_asks_essential, h.once, List.countP_singleton, if_pos h.asks]

end Takes

namespace Surfaces

variable {n j : Nat} {x : Task Machine (Entry Call) StepError α}

/-- What makes no call that can fail. -/
theorem of_quiet (hstore : ∀ m, (x m).state.store = m.store)
    (hcalls : ∀ m, ∀ c ∈ calls (x m).trace, c.asks = false) : Surfaces n x where
  store m := by
    have hzero : (calls (x m).trace).countP Call.asks = 0 :=
      List.countP_eq_zero.2 fun c hc => by simp [hcalls m c hc]
    rw [hstore, hzero, List.drop_zero]
  surfaces m i c o k h := by
    rw [exchanges_of_not_asks _ _ _ (hcalls m)] at h
    cases h

protected theorem pure (a : α) : Surfaces n (pure a : Task Machine (Entry Call) StepError α) :=
  .of_quiet (fun _ => rfl) (by simp)

protected theorem note (event : Event) :
    Surfaces n (note event : Task Machine (Entry Call) StepError Unit) :=
  .of_quiet (fun _ => rfl) (by simp [DiskQuota.note])

/-- One after the other. The second is made only after a success of the first, which refused nothing. -/
protected theorem bind {f : α → Task Machine (Entry Call) StepError β} (hx : Surfaces n x)
    (htakes : Takes j x) (hf : ∀ a, Surfaces (n + j) (f a)) : Surfaces n (x >>= f) := by
  constructor
  · intro m
    cases hv : (x m).value with
    | error e =>
      rw [Task.bind_apply_error hv]
      exact hx.store m
    | ok a =>
      rw [Task.bind_apply_ok hv, calls_append, List.countP_append, ← List.drop_drop, ← hx.store m]
      exact (hf a).store _
  · intro m i c o k h hk
    cases hv : (x m).value with
    | error e =>
      rw [Task.bind_apply_error hv] at h ⊢
      obtain ⟨p, hp, he⟩ := hx.surfaces m i c o k h hk
      rw [hv] at he
      cases he
      exact ⟨p, hp, rfl⟩
    | ok a =>
      have hlength : (exchanges Call.asks .success m.store (calls (x m).trace)).length = j := by
        rw [length_exchanges, htakes m a hv]
      rw [Task.bind_apply_ok hv] at h ⊢
      rw [calls_append, exchanges_append, ← hx.store m] at h
      by_cases hi : i < j
      · -- it would have ended the first task
        rw [List.getElem?_append_left (by omega)] at h
        obtain ⟨p, -, he⟩ := hx.surfaces m i c o k h hk
        rw [hv] at he
        cases he
      · rw [List.getElem?_append_right (by omega), hlength] at h
        obtain ⟨p, hp, he⟩ := (hf a).surfaces _ _ c o k h hk
        exact ⟨p, by rw [← hp]; congr 1; omega, he⟩

/-- What is made of the result asks nothing more. -/
protected theorem map {g : α → β} (hx : Surfaces n x) : Surfaces n (do return g (← x)) where
  store m := by rw [Task.map_state, Task.map_trace, hx.store]
  surfaces m i c o k h hk := by
    rw [Task.map_trace] at h
    obtain ⟨p, hp, he⟩ := hx.surfaces m i c o k h hk
    exact ⟨p, hp, by rw [Task.map_value, he]; rfl⟩

/-- A cleanup makes calls that cannot fail, if any. -/
protected theorem ensuring (hx : Surfaces n x) {cleanup : Machine → Ran Machine (Entry Call) Unit}
    (hstore : ∀ m, (cleanup m).state.store = m.store)
    (hcalls : ∀ m, ∀ c ∈ calls (cleanup m).trace, c.asks = false) :
    Surfaces n (x.ensuring cleanup) := by
  constructor
  · intro m
    have hzero : (calls (cleanup (x m).state).trace).countP Call.asks = 0 :=
      List.countP_eq_zero.2 fun c hc => by simp [hcalls _ c hc]
    rw [Task.ensuring_state, Task.ensuring_trace, hstore, hx.store, calls_append, List.countP_append,
      hzero, Nat.add_zero]
  · intro m i c o k h
    rw [Task.ensuring_trace, calls_append, exchanges_append, exchanges_of_not_asks _ _ _ (hcalls _),
      List.append_nil] at h
    exact hx.surfaces m i c o k h

protected theorem inSpan (span : Span) (hx : Surfaces n x) : Surfaces n (inSpan span x) where
  store m := by rw [calls_inSpan, inSpan_state, hx.store]
  surfaces m i c o k := by
    rw [calls_inSpan, inSpan_value]
    exact hx.surfaces m i c o k

/-- A call that is made at its step. -/
protected theorem attempt {c : Call} {call : Task Machine Call Status α} (h : Makes c call)
    {p : Step} (hp : c.step? n = some p) : Surfaces n (attempt p call) := by
  constructor
  · intro m
    rw [calls_attempt, attempt_state, h.after]
    rfl
  · intro m i d o k hi hk
    rw [calls_attempt, ← exchanges_essential, h.once, exchanges, if_pos h.asks] at hi
    obtain ⟨rfl, hx⟩ : i = 0 ∧ (c, m.next) = (d, o) := by
      cases i with
      | zero => exact ⟨rfl, Option.some.inj hi⟩
      | succ i => cases hi
    cases hx
    refine ⟨p, hp, ?_⟩
    rw [attempt_value, h.refused m k hk]
    rfl

end Surfaces

end

/-! The calls of the service. -/

section

variable {α : Type} {o : Outcome} {k : Status}

theorem settle_of_failure (h : o.failure? = some k) (a : α) : o.settle a = .error k := by
  rw [Outcome.settle, h]

theorem object_of_failure (h : o.failure? = some k) (n : Nat) : o.object n = .error k := by
  have hne : o ≠ .nullObject := by
    rintro rfl
    cases h
  rw [Outcome.object, if_neg hne, settle_of_failure h]

theorem found_of_refusal {session : Nat} {volume : String}
    (h : refusal (.getQuota session volume) o = some k) (n : Nat) : o.found n = .error k := by
  have hk : k ≠ .notFound := by
    have := (Option.filter_eq_some_iff.1 h).2
    simpa [Call.gets] using this
  rw [Outcome.found, object_of_failure (failure?_of_refusal h)]
  exact if_neg hk

end

theorem makes_resolve (text : String) :
    Makes (.iidFromString (String.ofList (upToZero text))) (service.resolve text) := by
  refine .of_ran (resolve_apply · text) rfl (fun _ => rfl) fun m k h => ?_
  simp only [Outcome.identify, failure?_of_refusal h]
  rfl

theorem makes_openContext (threading : Threading) :
    Makes (.openCom (threadingFlag threading)) (service.openContext threading) :=
  .of_ran (openContext_apply · threading) rfl (fun _ => rfl)
    fun _ _ h => settle_of_failure (failure?_of_refusal h) _

theorem makes_instantiate (manager : Guid) (context : ServerContext) :
    Makes (.coCreateInstance manager (contextFlags context) managerInterface)
      (service.instantiate manager managerInterface context) :=
  .of_ran (instantiate_apply · manager context) rfl (fun _ => rfl)
    fun _ _ h => object_of_failure (failure?_of_refusal h) _

theorem makes_create (session : Nat) (volume : String) :
    Makes (.createQuota session volume) (service.create session volume) :=
  .of_ran (create_apply · session volume) rfl (fun _ => essential_quoted volume rfl)
    fun _ _ h => object_of_failure (failure?_of_refusal h) _

theorem makes_get (session : Nat) (volume : String) :
    Makes (.getQuota session volume) (service.get session volume) :=
  .of_ran (get_apply · session volume) rfl (fun _ => essential_quoted volume rfl)
    fun _ _ h => found_of_refusal h _

theorem makes_setLimit (record : Nat) (limit : UInt64) :
    Makes (.setQuotaLimit record (.ofUnsigned limit)) (service.setLimit record limit) :=
  .of_ran (setLimit_apply · record limit) rfl (fun _ => rfl)
    fun _ _ h => settle_of_failure (failure?_of_refusal h) _

theorem makes_commit (record : Nat) : Makes (.commit record) (service.commit record) :=
  .of_ran (commit_apply · record) rfl (fun _ => rfl)
    fun _ _ h => settle_of_failure (failure?_of_refusal h) _

theorem makes_limit (record : Nat) : Makes (.quotaLimit record) (service.limit record) :=
  .of_ran (limit_apply · record) rfl (fun m => essential_readAs m.next rfl)
    fun _ _ h => settle_of_failure (failure?_of_refusal h) _

theorem makes_used (record : Nat) : Makes (.quotaUsed record) (service.used record) :=
  .of_ran (used_apply · record) rfl (fun m => essential_readAs m.next rfl)
    fun _ _ h => settle_of_failure (failure?_of_refusal h) _

/-- A call through an interface that is not known is not made. -/
theorem Surfaces.instantiate (manager interface : Guid) (context : ServerContext) (n : Nat) :
    Surfaces n (attempt .instantiateSession (service.instantiate manager interface context)) := by
  by_cases h : interface = managerInterface
  · subst h
    exact .attempt (makes_instantiate manager context) rfl
  · have hrun := fun m => instantiate_of_ne m h manager context
    refine .of_quiet (fun m => ?_) fun m => ?_
    · rw [attempt_state, hrun, Machine.ran, m.after_nil]
    · simp [hrun, Machine.ran]

theorem Takes.instantiate (manager interface : Guid) (context : ServerContext) :
    Takes 1 (attempt .instantiateSession (service.instantiate manager interface context)) := by
  by_cases h : interface = managerInterface
  · subst h
    exact .attempt (makes_instantiate manager context) _
  · intro m session hm
    rw [attempt_value, instantiate_of_ne m h, Machine.ran] at hm
    cases hm

/-! The operations. -/

section

variable (settings : Settings)

theorem acquire_takes : Takes 4 (service.acquire settings) :=
  .bind (.attempt (makes_resolve _) _) fun manager =>
    .bind (.attempt (makes_resolve _) _) fun interface =>
    .bind (.attempt (makes_openContext _) _) fun _ =>
    .bind (.instantiate manager interface _) fun session =>
    .bind (.note _) fun _ => .pure session

theorem acquire_surfaces : Surfaces 0 (service.acquire settings) := by
  refine .bind (.attempt (makes_resolve _) rfl) (.attempt (makes_resolve _) _) fun manager => ?_
  refine .bind (.attempt (makes_resolve _) rfl) (.attempt (makes_resolve _) _) fun interface => ?_
  refine .bind (.attempt (makes_openContext _) rfl) (.attempt (makes_openContext _) _) fun _ => ?_
  refine .bind (.instantiate manager interface _ _) (.instantiate manager interface _) fun session => ?_
  exact .bind (.note _) (.note _) fun _ => .pure session

variable {α : Type} {n : Nat}

theorem Surfaces.withRecord {work : Task Machine (Entry Call) StepError α} (record : Nat)
    (h : Surfaces n work) : Surfaces n (service.withRecord record work) := by
  refine .ensuring h (fun _ => rfl) fun m c hc => ?_
  rw [List.mem_singleton.1 hc]
  rfl

theorem Surfaces.withSession {work : Nat → Task Machine (Entry Call) StepError α}
    (h : ∀ session, Surfaces 4 (work session)) : Surfaces 0 (service.withSession settings work) := by
  refine .ensuring ?_ closeContext_store closeContext_asks
  refine .bind (acquire_surfaces settings) (acquire_takes settings) fun session => ?_
  refine .ensuring (h session) (fun _ => rfl) fun m c hc => ?_
  rw [List.mem_singleton.1 hc]
  rfl

theorem setQuota_surfaces (volume : String) (limit : UInt64) :
    Surfaces 0 (service.setQuota settings volume limit) := by
  refine .inSpan _ (.withSession settings fun session => ?_)
  refine .bind (.attempt (makes_create _ _) rfl) (.attempt (makes_create _ _) _) fun record => ?_
  refine .withRecord record ?_
  refine .bind (.attempt (makes_setLimit _ _) rfl) (.attempt (makes_setLimit _ _) _) fun changed => ?_
  refine .bind (.attempt (makes_commit _) rfl) (.attempt (makes_commit _) _) fun _ => ?_
  exact .note _

theorem queryUsage_surfaces (volume : String) : Surfaces 0 (service.queryUsage settings volume) := by
  refine .inSpan _ (.withSession settings fun session => ?_)
  refine .bind (.attempt (makes_get _ _) rfl) (.attempt (makes_get _ _) _) fun found => ?_
  cases found with
  | none => exact .bind (.note _) (.note _) fun _ => .pure _
  | some record =>
    refine .withRecord record ?_
    exact .bind (.attempt (makes_used _) rfl) (.attempt (makes_used _) _) fun _ => .pure _

theorem describeQuota_surfaces (volume : String) :
    Surfaces 0 (service.describeQuota settings volume) := by
  refine .inSpan _ (.withSession settings fun session => ?_)
  refine .bind (.attempt (makes_get _ _) rfl) (.attempt (makes_get _ _) _) fun found => ?_
  cases found with
  | none => exact .bind (.note _) (.note _) fun _ => .pure _
  | some record =>
    refine .withRecord record ?_
    refine .bind (.attempt (makes_limit _) rfl) (.attempt (makes_limit _) _) fun _ => ?_
    exact .bind (.attempt (makes_used _) rfl) (.attempt (makes_used _) _) fun _ => .pure _

theorem run_surfaces (op : Operation) : Surfaces 0 (op.run service settings) := by
  cases op with
  | setQuota volume limit => exact (setQuota_surfaces settings volume limit).map
  | getQuotaUsed volume => exact (queryUsage_surfaces settings volume).map.map
  | queryUsage volume => exact (queryUsage_surfaces settings volume).map
  | describeQuota volume => exact (describeQuota_surfaces settings volume).map

end

end DiskQuota.Fsrm
