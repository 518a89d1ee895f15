import DiskQuota.Manager

/-!
The scope of a session opened up. Acquiring the session decides first what an operation comes to; only
after a success the work is done and the session released, and the context is torn down either way.
Reading a quota is the same search for a record (`Service.search`) whatever is made of the record.
-/
namespace DiskQuota

variable {σ ε φ α β : Type}

/-- A success is that of the parts, one after the other. -/
theorem Task.bind_ok {x : Task σ ε φ α} {f : α → Task σ ε φ β} {s : σ} {b : β}
    (h : ((x >>= f) s).value = .ok b) :
    ∃ a, (x s).value = .ok a ∧ (f a (x s).state).value = .ok b ∧
      ((x >>= f) s).trace = (x s).trace ++ (f a (x s).state).trace ∧
      ((x >>= f) s).state = (f a (x s).state).state := by
  cases hv : (x s).value with
  | error e =>
    rw [Task.bind_apply_error hv] at h
    cases h
  | ok a =>
    rw [Task.bind_apply_ok hv] at h ⊢
    exact ⟨a, rfl, h, rfl, rfl⟩

/-- What holds of the calls of two parts holds of those of both together. -/
theorem forall_calls_bind {x : Task σ (Entry ε) φ α} {f : α → Task σ (Entry ε) φ β} {p : ε → Prop}
    (hx : ∀ s, ∀ c ∈ calls (x s).trace, p c) (hf : ∀ a s, ∀ c ∈ calls (f a s).trace, p c) (s : σ) :
    ∀ c ∈ calls ((x >>= f) s).trace, p c := by
  cases hv : (x s).value with
  | error e =>
    rw [Task.bind_apply_error hv]
    exact hx s
  | ok a =>
    rw [Task.bind_apply_ok hv, calls_append]
    exact List.forall_mem_append.2 ⟨hx s, hf a _⟩

theorem attempt_eq_ok_iff {p : Step} {call : Task σ ε Status α} {s : σ} {a : α} :
    (attempt p call s).value = .ok a ↔ (call s).value = .ok a := by
  rw [attempt_value]
  cases (call s).value with
  | ok b =>
    constructor
    · intro h
      cases h
      rfl
    · intro h
      cases h
      rfl
  | error k => exact ⟨nofun, nofun⟩

namespace Service

variable (S : Service σ ε) {settings : Settings} {s : σ}

/-- A session that was obtained took its four steps one after the other. -/
theorem acquire_ok {session : S.Session} (h : (S.acquire settings s).value = .ok session) :
    ∃ manager interface,
      let first := S.resolve settings.managerClass s
      let second := S.resolve settings.managerInterface first.state
      let third := S.openContext settings.threading second.state
      let fourth := S.instantiate manager interface settings.serverContext third.state
      first.value = .ok manager ∧ second.value = .ok interface ∧ third.value = .ok () ∧
        fourth.value = .ok session ∧
        calls (S.acquire settings s).trace =
          first.trace ++ (second.trace ++ (third.trace ++ fourth.trace)) ∧
        (S.acquire settings s).state = fourth.state := by
  rw [acquire] at h ⊢
  obtain ⟨manager, hmanager, h, ht₁, hs₁⟩ := Task.bind_ok h
  obtain ⟨interface, hinterface, h, ht₂, hs₂⟩ := Task.bind_ok h
  obtain ⟨⟨⟩, hopened, h, ht₃, hs₃⟩ := Task.bind_ok h
  obtain ⟨session', hsession, h, ht₄, hs₄⟩ := Task.bind_ok h
  obtain rfl : session' = session := Except.ok.inj h
  rw [ht₁, ht₂, ht₃, ht₄, hs₁, hs₂, hs₃, hs₄]
  simp only [attempt_eq_ok_iff, attempt_state] at hmanager hinterface hopened hsession
  refine ⟨manager, interface, hmanager, hinterface, hopened, hsession, ?_, ?_⟩
  · simp [note, Task.bind_apply]
  · simp [note, Task.bind_apply]

section

variable (work : S.Session → Task σ (Entry ε) StepError α)

theorem withSession_of_error {e : StepError} (h : (S.acquire settings s).value = .error e) :
    (S.withSession settings work s).value = .error e := by
  rw [withSession, Task.ensuring_value, Task.bind_apply_error h]

theorem withSession_of_ok {session : S.Session} (h : (S.acquire settings s).value = .ok session) :
    let worked := work session (S.acquire settings s).state
    let released := S.releaseSession session worked.state
    (S.withSession settings work s).value = worked.value ∧
      calls (S.withSession settings work s).trace = calls (S.acquire settings s).trace ++
        (calls worked.trace ++ (released.trace ++ (S.closeContext released.state).trace)) := by
  rw [withSession, Task.ensuring_value, Task.ensuring_trace, Task.bind_apply_ok h]
  exact ⟨rfl, by simp⟩

end

section

variable (missing : α) (work : S.Record → Task σ (Entry ε) StepError α)

/-- Works with a record if there is one. -/
def found : Option S.Record → Task σ (Entry ε) StepError α
  | none => do
    note .noQuota
    return missing
  | some record => S.withRecord record (work record)

/-- Searches for the record of a volume and works with it. -/
def search (settings : Settings) (volume : String) : Task σ (Entry ε) StepError α :=
  S.withSession settings fun session => do
    let record ← attempt .getRecord (S.get session volume)
    S.found missing work record

variable {volume : String} {session : S.Session}

/-- A search goes on with what was found. -/
theorem search_of_ok (h : (S.acquire settings s).value = .ok session) {record : Option S.Record}
    (hrecord : (S.get session volume (S.acquire settings s).state).value = .ok record) :
    let got := S.get session volume (S.acquire settings s).state
    let worked := S.found missing work record got.state
    let released := S.releaseSession session worked.state
    (S.search missing work settings volume s).value = worked.value ∧
      calls (S.search missing work settings volume s).trace =
        calls (S.acquire settings s).trace ++ (got.trace ++
          (calls worked.trace ++ (released.trace ++ (S.closeContext released.state).trace))) := by
  obtain ⟨hvalue, hcalls⟩ := S.withSession_of_ok (fun session => do
    let record ← attempt .getRecord (S.get session volume)
    S.found missing work record) h
  rw [Task.bind_apply_ok (attempt_eq_ok_iff.2 hrecord), attempt_state] at hvalue hcalls
  rw [search, hvalue, hcalls, calls_append, calls_attempt, List.append_assoc]
  exact ⟨rfl, rfl⟩

/-- A search that fails is over. -/
theorem search_of_error (h : (S.acquire settings s).value = .ok session) {k : Status}
    (hk : (S.get session volume (S.acquire settings s).state).value = .error k) :
    let got := S.get session volume (S.acquire settings s).state
    let released := S.releaseSession session got.state
    (S.search missing work settings volume s).value = .error (.ofStep .getRecord k) ∧
      calls (S.search missing work settings volume s).trace =
        calls (S.acquire settings s).trace ++ (got.trace ++
          (released.trace ++ (S.closeContext released.state).trace)) := by
  have hattempt : (attempt .getRecord (S.get session volume) (S.acquire settings s).state).value =
      .error (.ofStep .getRecord k) := by rw [attempt_value, hk]; rfl
  obtain ⟨hvalue, hcalls⟩ := S.withSession_of_ok (fun session => do
    let record ← attempt .getRecord (S.get session volume)
    S.found missing work record) h
  rw [Task.bind_apply_error hattempt, attempt_state] at hvalue hcalls
  rw [search, hvalue, hcalls, calls_attempt]
  exact ⟨rfl, rfl⟩

variable {missing work}

/-- A search that succeeds obtained a session and an answer in it. -/
theorem search_ok {a : α} (h : (S.search missing work settings volume s).value = .ok a) :
    ∃ session record, (S.acquire settings s).value = .ok session ∧
      (S.get session volume (S.acquire settings s).state).value = .ok record ∧
      (S.found missing work record (S.get session volume (S.acquire settings s).state).state).value =
        .ok a := by
  cases hacquired : (S.acquire settings s).value with
  | error e =>
    rw [search, S.withSession_of_error _ hacquired] at h
    cases h
  | ok session =>
    cases hrecord : (S.get session volume (S.acquire settings s).state).value with
    | error k =>
      rw [(S.search_of_error missing work hacquired hrecord).1] at h
      cases h
    | ok record =>
      rw [(S.search_of_ok missing work hacquired hrecord).1] at h
      exact ⟨session, record, rfl, hrecord, h⟩

end

/-- What a usage query makes of a record. -/
def usage (record : S.Record) : Task σ (Entry ε) StepError Usage := do
  return .used (← attempt .readUsed (S.used record))

/-- What a description makes of a record. -/
def snapshot (volume : String) (record : S.Record) :
    Task σ (Entry ε) StepError (Option Snapshot) := do
  let limit ← attempt .readLimit (S.limit record)
  let used ← attempt .readUsed (S.used record)
  return some ⟨volume, limit, used⟩

variable (settings : Settings) (volume : String)

theorem queryUsage_eq : S.queryUsage settings volume =
    inSpan (.queryUsage volume) (S.search .notConfigured S.usage settings volume) := rfl

theorem describeQuota_eq : S.describeQuota settings volume =
    inSpan (.describeQuota volume) (S.search none (S.snapshot volume) settings volume) := rfl

end Service
end DiskQuota
