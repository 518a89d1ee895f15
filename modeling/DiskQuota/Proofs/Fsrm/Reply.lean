import DiskQuota.Proofs.Fsrm.Account

/-!
The calls of the service in closed form. Each takes the next outcome of the system at most once; what it
comes to is a function of that outcome, and the state after it is the one that its trace tells of
(`Machine.after`). Nothing below the service is opened again.
-/
namespace DiskQuota.Fsrm

/-- The outcome that falls to the next call. -/
def Machine.next (m : Machine) : Outcome := m.system.next

/-- The part of a text that can name an identifier: it ends at the first zero. -/
def upToZero (text : String) : List Char := text.toList.takeWhile (· != '\x00')

/-- The identifier that a text names. -/
def identifier? (text : String) : Option Guid := Guid.ofChars? (upToZero text)

/-- The text of the one management interface that is known. -/
theorem identifier?_known :
    identifier? "\x7b4846cb01-d430-494f-abb4-b1054999fb09\x7d" = some managerInterface := by
  decide

section

variable {α : Type}

/-- What a call comes to that fails as its outcome says, and else gives `a`. -/
def Outcome.settle (o : Outcome) (a : α) : Except Status α :=
  match o.failure? with
  | some k => .error k
  | none => .ok a

/-- What resolving a text comes to: a text that names nothing is malformed. -/
def Outcome.identify (o : Outcome) (text : String) : Except Status Guid :=
  match o.failure?, identifier? text with
  | some k, _ => .error k
  | none, some g => .ok g
  | none, none => .error malformedIdentifier

/-- What a call comes to that hands out the object `n`: a success may hand out none. -/
def Outcome.object (o : Outcome) (n : Nat) : Except Status Nat :=
  if o = .nullObject then .error noObject else o.settle n

/-- An object that is handed out is the one that was to be. -/
theorem Outcome.eq_of_object {o : Outcome} {n k : Nat} (h : o.object n = .ok k) : k = n := by
  rw [Outcome.object, Outcome.settle] at h
  split at h
  · cases h
  · split at h <;> cases h
    rfl

/-- What looking for the record `n` comes to: one failure says that there is none. -/
def Outcome.found (o : Outcome) (n : Nat) : Except Status (Option Nat) :=
  match o.object n with
  | .ok n => .ok (some n)
  | .error k => if k = .notFound then .ok none else .error k

/-- A call with a text as a system string. The empty text needs no string. -/
def quoted (text : String) (c : Call) : List Call :=
  if text.isEmpty then [c] else [.sysAllocString text, c, .sysFreeString]

/-- The tagged value that a read fills in. Where none is in store it is an unsigned zero (tag 21). -/
def Outcome.variant : Outcome → Tagged
  | .value v => v
  | _ => ⟨21, 0⟩

theorem tagged_eq (o : Outcome) : o.tagged = o.variant := by cases o <;> rfl

/-- A read, and after a success the care for the value that was read. -/
def readAs (o : Outcome) (c : Call) : List Call :=
  match o.failure? with
  | some _ => [c]
  | none => [c, .variantClear o.variant.tag]

/-- A run on the system that came to `a` by the calls `t`. -/
def System.ran (s : System) (a : α) (t : List Call) : Ran System Call α := ⟨a, t, s.after t⟩

/-- A run on the machine that came to `a` by the calls `t`. -/
def Machine.ran (m : Machine) (a : α) (t : List Call) : Ran Machine Call α := ⟨a, t, m.after t⟩

end

/-! The functions of the operating system. -/

section

variable {α : Type} (s : System)

/-- What one call that takes an outcome leaves. -/
theorem System.after_ask {c : Call} (hc : c.asks = true) : s.after [c] =
    ⟨s.outcomes.tail, s.sessions + if c.gives .session s.next then 1 else 0,
      s.records + if c.gives .record s.next then 1 else 0, s.clearing⟩ := by
  simp [System.after, tally_cons, hc, System.next]

theorem ask_bind (c : Call) (k : Outcome → Task System Call Status α) : (ask c >>= k) s =
    match s.next.failure? with
    | some code => ⟨.error code, [c], { s with outcomes := s.outcomes.tail }⟩
    | none =>
      let r := k s.next { s with outcomes := s.outcomes.tail }
      ⟨r.value, c :: r.trace, r.state⟩ := by
  rw [Task.bind_apply, ask_apply]
  cases h : s.next with
  | code k => by_cases hk : k.isFailure = true <;> simp [failure?_code, hk]
  | _ => rfl

/-- A call that hands nothing out. -/
theorem ask_ran {c : Call} (hc : c.asks = true) (hnone : c.yields = none) :
    ask c s = s.ran (s.next.settle s.next) [c] := by
  rw [ask_apply, System.ran, System.after_ask s hc, Outcome.settle]
  cases s.next with
  | code k => by_cases hk : k.isFailure = true <;> simp [failure?_code, Call.gives, hnone, hk]
  | _ => simp [Outcome.failure?, Call.gives, hnone]

theorem iidFromString_apply (text : String) : iidFromString text s =
    s.ran (s.next.identify text) [.iidFromString (String.ofList (upToZero text))] := by
  rw [iidFromString, ask_bind, System.ran, System.after_ask s rfl, Outcome.identify, identifier?, upToZero]
  cases s.next.failure? with
  | some code => simp [Call.gives, Call.yields]
  | none => cases Guid.ofChars? (text.toList.takeWhile (· != '\x00')) <;> simp [Call.gives, Call.yields]

/-- How an object of a kind comes to be. -/
def Object.new : Object → System → Nat × System
  | .session => newSession
  | .record => newRecord

theorem handedOut_of_ne {o : Outcome} (h : o ≠ .nullObject) (next : System → Nat × System) :
    handedOut o next = .step fun s => (.ok (next s).1, (next s).2) := by
  cases o <;> first | rfl | exact absurd rfl h

theorem handedOut_apply {c : Call} (hc : c.asks = true) (kind : Object) (hkind : c.yields = some kind) :
    (do handedOut (← ask c) kind.new) s = s.ran (s.next.object (s.existing kind + 1)) [c] := by
  rw [ask_bind, System.ran, System.after_ask s hc, Outcome.object, Outcome.settle]
  cases hn : s.next.failure? with
  | some code =>
    have hne : s.next ≠ .nullObject := by
      intro h
      simp [h, Outcome.failure?] at hn
    simp [Call.gives, hn, hne]
  | none =>
    by_cases hne : s.next = .nullObject
    · simp [Call.gives, hne, handedOut]
    · rw [handedOut_of_ne hne]
      cases kind <;> simp [Call.gives, hn, hne, hkind, Object.new, newSession, newRecord, System.existing]

/-- What is left of a call with a string where the care for it does not count. -/
theorem filter_quoted {p : Call → Bool} {c : Call} (text : String) (hc : p c = true)
    (halloc : p (.sysAllocString text) = false) (hfree : p .sysFreeString = false) :
    (quoted text c).filter p = [c] := by
  rw [quoted]
  split
  · exact List.filter_cons_of_pos hc
  · rw [List.filter_cons_of_neg (by simp [halloc]), List.filter_cons_of_pos hc,
      List.filter_cons_of_neg (by simp [hfree])]
    rfl

theorem filter_readAs {p : Call → Bool} {c : Call} (o : Outcome) (hc : p c = true)
    (hclear : ∀ tag, p (.variantClear tag) = false) : (readAs o c).filter p = [c] := by
  rw [readAs]
  split
  · exact List.filter_cons_of_pos hc
  · rw [List.filter_cons_of_pos hc, List.filter_cons_of_neg (by simp [hclear])]
    rfl

theorem essential_quoted (text : String) {c : Call} (hc : c.asks = true) :
    essential (quoted text c) = [c] :=
  filter_quoted text (essential_of_asks hc) rfl rfl

theorem essential_readAs (o : Outcome) {c : Call} (hc : c.asks = true) :
    essential (readAs o c) = [c] :=
  filter_readAs o (essential_of_asks hc) fun _ => rfl

/-- A text as a system string changes nothing but the trace. -/
theorem withString_apply {x : Task System Call Status α} {a : Except Status α} {c : Call}
    (hc : c.asks = true) (hx : x s = s.ran a [c]) (text : String) :
    withString text x s = s.ran a (quoted text c) := by
  have hafter : s.after (quoted text c) = s.after [c] := by
    rw [← s.after_essential, essential_quoted text hc]
  rw [System.ran, hafter, withString, quoted]
  split
  · exact hx
  · simp [Task.bind_apply, Task.ensuring, hx, System.ran]

theorem readUnsigned_apply {c : Call} (hc : c.asks = true) (hnone : c.yields = none) :
    readUnsigned c s = s.ran (s.next.settle s.next.variant.bits) (readAs s.next c) := by
  have hafter : s.after (readAs s.next c) = s.after [c] := by
    rw [← s.after_essential, essential_readAs s.next hc]
  rw [System.ran, hafter, System.after_ask s hc, readUnsigned, ask_bind, readAs, Outcome.settle]
  cases s.next.failure? <;> simp [Call.gives, hnone, Task.bind_apply, tagged_eq]

end

/-! The calls of the service. -/

section

variable {α : Type} (m : Machine)

/-- What is left of a trace that opens and closes no context. -/
theorem Machine.after_of_still {t : List Call} (h : ∀ c ∈ t, c.onContext = false) :
    m.after t = { m with system := m.system.after t } := by
  have hopen : tally Call.opens m.store t = 0 :=
    tally_eq_zero _ _ fun c hc o => Call.opens_of_not_onContext (h c hc) o
  have hclose : t.count .closeCom = 0 := List.count_eq_zero.2 fun hc => Call.ne_closeCom (h _ hc) rfl
  simp [Machine.after, hopen, hclose]

theorem onSystem_apply {x : Task System Call Status α} {a : Except Status α} {t : List Call}
    (hx : x m.system = m.system.ran a t) (h : ∀ c ∈ t, c.onContext = false) :
    onSystem x m = m.ran a t := by
  rw [Machine.ran, m.after_of_still h]
  simp [onSystem, hx, System.ran]

/-- A call of the system that hands nothing out, and what the service makes of its outcome. -/
theorem onSystem_return {c : Call} (hc : c.asks = true) (hnone : c.yields = none)
    (hstill : c.onContext = false) (a : α) :
    (do let _ ← onSystem (ask c); return a) m = m.ran (m.next.settle a) [c] := by
  have hask : onSystem (ask c) m = m.ran (m.next.settle m.next) [c] :=
    onSystem_apply m (ask_ran m.system hc hnone) (by simpa using hstill)
  rw [Task.bind_apply, hask, Machine.ran, Machine.ran, Outcome.settle, Outcome.settle]
  cases m.next.failure? <;> simp

theorem resolve_apply (text : String) : service.resolve text m =
    m.ran (m.next.identify text) [.iidFromString (String.ofList (upToZero text))] :=
  onSystem_apply m (iidFromString_apply m.system text) (by simp [Call.onContext])

theorem openContext_apply (threading : Threading) : service.openContext threading m =
    m.ran (m.next.settle ()) [.openCom (threadingFlag threading)] := by
  have hask := ask_ran m.system (c := .openCom (threadingFlag threading)) rfl rfl
  show openContext threading m = _
  rw [openContext, Task.bind_apply, onSystem, hask, System.ran, Machine.ran, Outcome.settle,
    Outcome.settle, Machine.after, Machine.store]
  cases h : m.next.failure? with
  | some k => simp_all [Machine.next, System.next, tally_cons, Call.asks, Call.opens]
  | none => simp_all [Machine.next, System.next, tally_cons, Call.asks, Call.opens]

theorem instantiate_apply (manager : Guid) (context : ServerContext) :
    service.instantiate manager managerInterface context m =
    m.ran (m.next.object (m.system.sessions + 1))
      [.coCreateInstance manager (contextFlags context) managerInterface] := by
  show instantiate manager managerInterface context m = _
  rw [instantiate, if_pos rfl]
  exact onSystem_apply m (handedOut_apply m.system rfl .session rfl) (by simp [Call.onContext])

theorem instantiate_of_ne {interface : Guid} (h : interface ≠ managerInterface) (manager : Guid)
    (context : ServerContext) :
    service.instantiate manager interface context m = m.ran (.error .noInterface) [] := by
  show instantiate manager interface context m = _
  rw [instantiate, if_neg h, Machine.ran, m.after_nil]
  rfl

theorem forall_mem_quoted {p : Call → Prop} {text : String} {c : Call} (halloc : p (.sysAllocString text))
    (hc : p c) (hfree : p .sysFreeString) : ∀ d ∈ quoted text c, p d := by
  rw [quoted]
  split
  · simpa using hc
  · simpa using ⟨halloc, hc, hfree⟩

theorem forall_mem_readAs {p : Call → Prop} {o : Outcome} {c : Call} (hc : p c)
    (hclear : ∀ tag, p (.variantClear tag)) : ∀ d ∈ readAs o c, p d := by
  rw [readAs]
  split
  · simpa using hc
  · simpa using ⟨hc, hclear _⟩

/-- The care for a string is about no context. -/
theorem quoted_still {text : String} {c : Call} (h : c.onContext = false) :
    ∀ d ∈ quoted text c, d.onContext = false := forall_mem_quoted rfl h rfl

theorem readAs_still {o : Outcome} {c : Call} (h : c.onContext = false) :
    ∀ d ∈ readAs o c, d.onContext = false := forall_mem_readAs h fun _ => rfl

theorem create_apply (session : Nat) (volume : String) : service.create session volume m =
    m.ran (m.next.object (m.system.records + 1)) (quoted volume (.createQuota session volume)) :=
  onSystem_apply m (withString_apply m.system (c := .createQuota session volume) rfl
    (handedOut_apply m.system rfl .record rfl) volume) (quoted_still rfl)

theorem get_apply (session : Nat) (volume : String) : service.get session volume m =
    m.ran (m.next.found (m.system.records + 1)) (quoted volume (.getQuota session volume)) := by
  have hget : onSystem (getQuota session volume) m = _ :=
    onSystem_apply m (withString_apply m.system (c := .getQuota session volume) rfl
      (handedOut_apply m.system rfl .record rfl) volume) (quoted_still rfl)
  show getRecord session volume m = _
  rw [getRecord, hget, Machine.ran, Machine.ran, Outcome.found]
  cases h : m.next.object (m.system.records + 1) with
  | ok n =>
    have h' : m.system.next.object (m.system.existing .record + 1) = .ok n := h
    simp [h']
  | error k =>
    have h' : m.system.next.object (m.system.existing .record + 1) = .error k := h
    simp [h']

theorem setLimit_apply (record : Nat) (limit : UInt64) : service.setLimit record limit m =
    m.ran (m.next.settle record) [.setQuotaLimit record (.ofUnsigned limit)] :=
  onSystem_return m rfl rfl rfl record

theorem commit_apply (record : Nat) :
    service.commit record m = m.ran (m.next.settle ()) [.commit record] :=
  onSystem_return m rfl rfl rfl ()

theorem limit_apply (record : Nat) : service.limit record m =
    m.ran (m.next.settle m.next.variant.bits) (readAs m.next (.quotaLimit record)) :=
  onSystem_apply m (readUnsigned_apply m.system rfl rfl) (readAs_still rfl)

theorem used_apply (record : Nat) : service.used record m =
    m.ran (m.next.settle m.next.variant.bits) (readAs m.next (.quotaUsed record)) :=
  onSystem_apply m (readUnsigned_apply m.system rfl rfl) (readAs_still rfl)

theorem closeContext_apply : service.closeContext m =
    m.ran () (if 0 < m.contexts then [.closeCom] else []) := by
  show closeContext m = _
  rw [closeContext]
  split
  · simp [Machine.ran, Machine.after, System.after, tally_cons, Call.asks]
  · simp [Machine.ran]

theorem releaseRecord_apply (record : Nat) :
    service.releaseRecord record m = m.ran () [.releaseRecord record] := by
  rw [Machine.ran, m.after_of_still (by simp [Call.onContext])]
  rfl

theorem releaseSession_apply (session : Nat) :
    service.releaseSession session m = m.ran () [.releaseSession session] := by
  rw [Machine.ran, m.after_of_still (by simp [Call.onContext])]
  rfl

end

end DiskQuota.Fsrm
