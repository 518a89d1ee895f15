import DiskQuota.Proofs.Alike
import DiskQuota.Proofs.Fsrm.Mirror

/-!
The service of the file server resource manager refines the scripted one. Every operation mirrors the
same operation over the double (`run_mirrors`), since everything that operations are made of does. The
headline `run_refines` says so of a fresh service: for all that the system may answer there are outcomes
over which the double comes to the same, and the system is called for what the double is called for, with
two exceptions.
-/
namespace DiskQuota.Fsrm

/-- What the identifiers that the double resolves for an operation stand for, from `i` on. -/
def named (settings : Settings) (i k : Nat) : Option Guid :=
  if k = i + 1 then identifier? settings.managerClass
  else if k = i + 2 then identifier? settings.managerInterface
  else none

theorem named_class (settings : Settings) (i : Nat) :
    named settings i (i + 1) = identifier? settings.managerClass := if_pos rfl

theorem named_interface (settings : Settings) (i : Nat) :
    named settings i (i + 2) = identifier? settings.managerInterface :=
  (if_neg (by omega)).trans (if_pos rfl)

namespace Mirrors

variable {α β : Type} {R : α → β → Prop}

/-- Both acquire their sessions by the same four steps. -/
theorem acquire (settings : Settings) (closes : Bool) (m : Machine) (i : Nat) :
    Mirrors (named settings i) closes (fun _ => (· = ·)) (service.acquire settings).bare
      (Scripted.service.acquire settings).bare m i := by
  simp only [Service.acquire, Task.bare_bind, Task.bare_attempt, Task.bare_note, Task.bare_pure]
  refine .bind (.mapError _ (.resolve _ _ m i _)) ?_
  rintro manager _ _ ⟨hmanager, rfl, rfl⟩ m
  refine .bind (.mapError _ (.resolve _ _ m _ _)) ?_
  rintro interface _ _ ⟨hinterface, rfl, rfl⟩ m
  refine .bind (.mapError _ (.openContext _ _ m _ _)) fun _ _ i' _ m => ?_
  have ha : named settings i (i + 1) = some manager := (named_class settings i).trans hmanager
  have hb : named settings i (i + 1 + 1) = some interface :=
    (named_interface settings i).trans hinterface
  refine .bind (.mapError _ (.instantiate _ _ m _ ha hb _)) fun session session' i' hsession m => ?_
  exact .bind (.pure (R := fun _ => (· = ·)) rfl) fun _ _ _ _ _ => .pure hsession

/-- Without a context to close, none is closed. -/
theorem not_closes {guid : Nat → Option Guid} {R : Nat → α → β → Prop} {φ : Type}
    {x : Task Machine Call φ α} {y : Task Scripted.State Scripted.Call φ β} {m : Machine} {i : Nat}
    (h : Mirrors guid false R x y m i) : .closeCom ∉ (x m).trace := by
  obtain ⟨-, os, i', b, t', -, -, hcalls⟩ := h
  intro hmem
  have hessential : Call.closeCom ∈ essential (x m).trace := List.mem_filter.2 ⟨hmem, rfl⟩
  rw [hcalls.calls, List.mem_filterMap] at hessential
  obtain ⟨c', -, hc'⟩ := hessential
  cases (image_eq_closeCom_iff.1 hc').2

end Mirrors

/-- Whether there is a context to close after calls that closed none. -/
def leavesOpen (m : Machine) (t : List Call) : Bool :=
  0 < m.contexts + .ofNat (tally Call.opens m.store t)

/-- An operation over the service mirrors one over the double. There is a context to close at its end if
there was one before or if it opened one. -/
def Reflects (settings : Settings) {α β : Type} (R : α → β → Prop)
    (x : Task Machine (Entry Call) StepError α)
    (y : Task Scripted.State (Entry Scripted.Call) StepError β) : Prop :=
  ∀ m i, Mirrors (named settings i) (leavesOpen m (calls (x m).trace)) (fun _ => R) x.bare y.bare m i

/-- Work inside a session mirrors work inside a session of the double, whatever the identifiers stand
for and whether or not there is a context to close. -/
def Follows {α β : Type} (R : α → β → Prop) (x : Task Machine (Entry Call) StepError α)
    (y : Task Scripted.State (Entry Scripted.Call) StepError β) : Prop :=
  ∀ guid closes m i, Mirrors guid closes (fun _ => R) x.bare y.bare m i

section

variable {α β : Type} {R : α → β → Prop} {settings : Settings}
  {x : Task Machine (Entry Call) StepError α}
  {y : Task Scripted.State (Entry Scripted.Call) StepError β}

theorem leavesOpen_append (m : Machine) (t : List Call) {u : List Call}
    (hu : ∀ c ∈ u, c.asks = false) : leavesOpen m (t ++ u) = leavesOpen m t := by
  rw [leavesOpen, leavesOpen, tally_append, tally, tally, exchanges_of_not_asks _ _ _ hu]
  rfl

/-- A session, the work in it, and the context closed after it. -/
theorem Reflects.withSession {work : Nat → Task Machine (Entry Call) StepError α}
    {work' : Nat → Task Scripted.State (Entry Scripted.Call) StepError β}
    (hwork : ∀ session, Follows R (work session) (work' session)) :
    Reflects settings R (service.withSession settings work)
      (Scripted.service.withSession settings work') := by
  intro m i
  let inner : Task Machine (Entry Call) StepError α := do
    let session ← service.acquire settings
    (work session).ensuring (announced .releasingSession (service.releaseSession session))
  let inner' : Task Scripted.State (Entry Scripted.Call) StepError β := do
    let session ← Scripted.service.acquire settings
    (work' session).ensuring (announced .releasingSession (Scripted.service.releaseSession session))
  have hinner : ∀ closes, Mirrors (named settings i) closes (fun _ => R) inner.bare inner'.bare m i := by
    intro closes
    simp only [inner, inner', Task.bare_bind, Task.bare_ensuring]
    refine .bind (.acquire settings closes m i) fun session session' i' hsession m => ?_
    cases hsession
    exact .ensuring (hwork session _ closes m i') (releaseSession_apply _ session) (fun _ => rfl)
      (by simp [Call.asks]) rfl rfl
  -- the context is closed after all, and only then
  have hcount : (inner.bare m).trace.count .closeCom = 0 :=
    List.count_eq_zero.2 (hinner false).not_closes
  have hcontexts : (inner.bare m).state.contexts =
      m.contexts + .ofNat (tally Call.opens m.store (inner.bare m).trace) := by
    rw [(hinner false).1, Machine.after, hcount]
    simp
  obtain ⟨u, hu, hclose⟩ : ∃ u,
      u = (if leavesOpen m (inner.bare m).trace then [Call.closeCom] else []) ∧
      service.closeContext (inner.bare m).state = (inner.bare m).state.ran () u := by
    refine ⟨_, rfl, ?_⟩
    rw [closeContext_apply, hcontexts, leavesOpen]
    simp only [decide_eq_true_eq]
  have hasks : ∀ c ∈ u, c.asks = false := by
    rw [hu]
    split <;> simp [Call.asks]
  have htrace : calls (service.withSession settings work m).trace = (inner.bare m).trace ++ u := by
    show calls (inner.ensuring (announced .tearingDown service.closeContext) m).trace = _
    rw [Task.ensuring_trace, calls_append, calls_announced]
    exact congrArg (calls (inner m).trace ++ ·.trace) hclose
  rw [htrace, leavesOpen_append m _ hasks]
  show Mirrors _ _ _ (inner.ensuring (announced .tearingDown service.closeContext)).bare
    (inner'.ensuring (announced .tearingDown Scripted.service.closeContext)).bare m i
  rw [Task.bare_ensuring, Task.bare_ensuring]
  refine .ensuring (hinner _) hclose (fun _ => rfl) hasks rfl ?_
  rw [hu]
  cases h : leavesOpen m (inner.bare m).trace <;> rfl

theorem Follows.attempt {step : Step} {call : Task Machine Call Status α}
    {call' : Task Scripted.State Scripted.Call Status β}
    (h : ∀ guid closes m i, Mirrors guid closes (fun _ => R) call call' m i) :
    Follows R (attempt step call) (attempt step call') := by
  intro guid closes m i
  rw [Task.bare_attempt, Task.bare_attempt]
  exact .mapError _ (h guid closes m i)

theorem Follows.withRecord {record : Nat} (h : Follows R x y) :
    Follows R (service.withRecord record x) (Scripted.service.withRecord record y) := by
  intro guid closes m i
  show Mirrors _ _ _ (x.ensuring (announced .releasingRecord (service.releaseRecord record))).bare
    (y.ensuring (announced .releasingRecord (Scripted.service.releaseRecord record))).bare m i
  rw [Task.bare_ensuring, Task.bare_ensuring]
  exact .ensuring (h guid closes m i) (releaseRecord_apply _ record) (fun _ => rfl) (by simp [Call.asks])
    rfl rfl

theorem Reflects.inSpan (span : Span) (h : Reflects settings R x y) :
    Reflects settings R (inSpan span x) (inSpan span y) := by
  intro m i
  rw [calls_inSpan, Task.bare_inSpan, Task.bare_inSpan]
  exact h m i

/-- What is done with the value in the end calls for nothing. -/
theorem Reflects.map {x : Task Machine (Entry Call) StepError α}
    {y : Task Scripted.State (Entry Scripted.Call) StepError α} (f : α → β)
    (h : Reflects settings (· = ·) x y) :
    Reflects settings (· = ·) (do return f (← x)) (do return f (← y)) := by
  intro m i
  have htrace : calls ((do return f (← x) : Task Machine (Entry Call) StepError β) m).trace =
      calls (x m).trace := by
    cases hv : (x m).value with
    | ok a => rw [Task.bind_apply_ok hv, Task.pure_apply, List.append_nil]
    | error e => rw [Task.bind_apply_error hv]
  rw [htrace, Task.bare_bind, Task.bare_bind]
  exact .bind (h m i) fun a b _ hab _ => .pure (congrArg f hab)

end

/-- Everything that operations are made of has its likeness over the double. -/
theorem service_alike (settings : Settings) :
    service.Alike Scripted.service settings settings (· = ·) (· = ·) Follows (Reflects settings) where
  pure h _ _ m i := .pure h
  note event _ _ m i := .pure rfl
  bind hx hf guid closes m i := by
    rw [Task.bare_bind, Task.bare_bind]
    exact .bind (hx guid closes m i) fun a b i' hab m' => hf a b hab guid closes m' i'
  create h step volume := by
    cases h
    exact .attempt fun guid closes m i => .create guid closes m i _ volume
  get h step volume := by
    cases h
    exact .attempt fun guid closes m i => .get guid closes m i _ volume
  setLimit h step limit := by
    cases h
    exact .attempt fun guid closes m i => .setLimit guid closes m i _ limit
  limit h step := by
    cases h
    exact .attempt fun guid closes m i => .limit guid closes m i _
  used h step := by
    cases h
    exact .attempt fun guid closes m i => .used guid closes m i _
  commit h step := by
    cases h
    exact .attempt fun guid closes m i => .commit guid closes m i _
  withRecord h _ _ hx := by
    cases h
    exact .withRecord hx
  withSession h := .withSession fun session => h session session rfl
  inSpan span h := .inSpan span h
  map f h := .map f h

/-- Every operation mirrors the same operation over the double. -/
theorem run_mirrors (settings : Settings) (op : Operation) :
    Reflects settings (· = ·) (op.run service settings) (op.run Scripted.service settings) :=
  (service_alike settings).run op

/-! What the mirroring of an operation tells of it. -/

/-- The operation from `m` and over the double with the outcomes `os`. -/
structure Reflection (settings : Settings) (op : Operation) (m : Machine) (i : Nat)
    (os : List Scripted.Outcome) : Prop where
  value : (op.run service settings m).value =
    (op.run Scripted.service settings (double os i m.system)).value
  after : (op.run service settings m).state = m.after (calls (op.run service settings m).trace)
  /-- Both are left with the same sessions and records. -/
  left : ∃ i', (op.run Scripted.service settings (double os i m.system)).state =
    double [] i' (op.run service settings m).state.system
  opened : tally Call.opens m.store (calls (op.run service settings m).trace) =
    Scripted.opened os (calls (op.run Scripted.service settings (double os i m.system)).trace)
  trace : essential (calls (op.run service settings m).trace) =
    (calls (op.run Scripted.service settings (double os i m.system)).trace).filterMap
      (image (named settings i) (leavesOpen m (calls (op.run service settings m).trace)))
  identified : ∀ a b context, .instantiate a b context ∈
      calls (op.run Scripted.service settings (double os i m.system)).trace →
    (named settings i a).isSome ∧ (named settings i b).isSome

theorem exists_reflection (settings : Settings) (op : Operation) (m : Machine) (i : Nat) :
    ∃ os, Reflection settings op m i os := by
  obtain ⟨hafter, os, i', b, t', hy, hvalue, hcalls⟩ := run_mirrors settings op m i
  have hrun := hy []
  rw [List.append_nil] at hrun
  have htrace : calls (op.run Scripted.service settings (double os i m.system)).trace = t' :=
    congrArg Ran.trace hrun
  have hb : (op.run Scripted.service settings (double os i m.system)).value = b :=
    congrArg Ran.value hrun
  refine ⟨os, ?_, hafter, ⟨i', congrArg Ran.state hrun⟩, ?_, ?_, ?_⟩
  · rw [hb]
    exact hvalue.eq
  · rw [htrace, ← List.append_nil os]
    exact hcalls.opened []
  · rw [htrace]
    exact hcalls.calls
  · rw [htrace]
    exact hcalls.identified

/-- An operation opens no more than one context. -/
theorem run_opened (settings : Settings) (op : Operation) (m : Machine) :
    tally Call.opens m.store (calls (op.run service settings m).trace) = 0 ∨
      tally Call.opens m.store (calls (op.run service settings m).trace) = 1 := by
  obtain ⟨os, h⟩ := exists_reflection settings op m 0
  rw [h.opened]
  rcases Scripted.run_shape settings op (double os 0 m.system) with ⟨hzero, -⟩ | ⟨hone, -⟩
  · exact .inl hzero
  · exact .inr hone

/-- Whether there is a context to close, where the count does not overflow. -/
theorem leavesOpen_eq {m : Machine} {t : List Call}
    (h : m.contexts.toNat + tally Call.opens m.store t < UInt32.size) :
    leavesOpen m t = decide (0 < m.contexts.toNat + tally Call.opens m.store t) := by
  have hsize : UInt32.size = 4294967296 := rfl
  rw [leavesOpen, decide_eq_decide, UInt32.lt_iff_toNat_lt, UInt32.toNat_add, UInt32.toNat_ofNat',
    UInt32.toNat_zero]
  omega

/-- On a fresh service there is a context to close exactly if the operation opened one. -/
theorem leavesOpen_fresh (settings : Settings) (op : Operation) (s : System) :
    leavesOpen ⟨0, s⟩ (calls (op.run service settings ⟨0, s⟩).trace) =
      decide (0 < tally Call.opens s.outcomes (calls (op.run service settings ⟨0, s⟩).trace)) := by
  have hfits : (0 : UInt32).toNat + tally Call.opens s.outcomes
      (calls (op.run service settings ⟨0, s⟩).trace) < UInt32.size := by
    rcases run_opened settings op ⟨0, s⟩ with h | h <;> rw [Machine.store] at h <;> rw [h] <;> decide
  rw [leavesOpen_eq hfits]
  simp [Machine.store]

/-- Which calls of the double have no image. -/
theorem image_eq_none_iff {guid : Nat → Option Guid} {closes : Bool} {c : Scripted.Call}
    (hid : ∀ a b context, c = .instantiate a b context → (guid a).isSome ∧ (guid b).isSome) :
    image guid closes c = none ↔
      (∃ a b context, c = .instantiate a b context ∧ guid b ≠ some managerInterface) ∨
        (c = .closeContext ∧ closes = false) := by
  cases c with
  | instantiate a b context =>
    obtain ⟨ha, hb⟩ := hid a b context rfl
    obtain ⟨manager, ha⟩ := Option.isSome_iff_exists.1 ha
    obtain ⟨interface, hb⟩ := Option.isSome_iff_exists.1 hb
    simp [image, ha, hb]
  | closeContext => cases closes <;> simp [image]
  | _ => simp [image]

/-- **The service refines the scripted one.** For all settings, every operation and whatever the system
answers, there are outcomes over which the same operation on the double comes to the same. The calls of
the system, without the care for strings and tagged values, are the images of the double's calls, one
by one and in order. Exactly two have none: an instantiation through an interface other than the one
that is known, and the closing of a context that was not opened. -/
theorem run_refines (settings : Settings) (op : Operation) (s : System) (i : Nat) : ∃ os,
    (op.run service settings ⟨0, s⟩).value =
      (op.run Scripted.service settings (double os i s)).value ∧
    essential (calls (op.run service settings ⟨0, s⟩).trace) =
      (calls (op.run Scripted.service settings (double os i s)).trace).filterMap
        (image (named settings i)
          (0 < tally Call.opens s.outcomes (calls (op.run service settings ⟨0, s⟩).trace))) ∧
    ∀ c ∈ calls (op.run Scripted.service settings (double os i s)).trace,
      image (named settings i)
          (0 < tally Call.opens s.outcomes (calls (op.run service settings ⟨0, s⟩).trace)) c = none ↔
        ((∃ a b context, c = .instantiate a b context) ∧
          identifier? settings.managerInterface ≠
            identifier? "\x7b4846cb01-d430-494f-abb4-b1054999fb09\x7d") ∨
        (c = .closeContext ∧
          tally Call.opens s.outcomes (calls (op.run service settings ⟨0, s⟩).trace) = 0) := by
  obtain ⟨os, h⟩ := exists_reflection settings op ⟨0, s⟩ i
  have htrace := h.trace
  rw [leavesOpen_fresh] at htrace
  rw [identifier?_known]
  refine ⟨os, h.value, htrace, fun c hc => ?_⟩
  rw [image_eq_none_iff fun a b context hcall => h.identified a b context (hcall ▸ hc)]
  refine or_congr ?_ (by simp)
  -- the interface that a session is asked for through is the second identifier of the operation
  have hinterface : ∀ a b context, c = .instantiate a b context →
      named settings i b = identifier? settings.managerInterface := by
    rintro a b context rfl
    obtain ⟨-, rfl⟩ := Scripted.run_instantiate settings op _ hc
    exact named_interface settings i
  constructor
  · rintro ⟨a, b, context, hcall, hne⟩
    rw [hinterface a b context hcall] at hne
    exact ⟨⟨a, b, context, hcall⟩, hne⟩
  · rintro ⟨⟨a, b, context, hcall⟩, hne⟩
    rw [← hinterface a b context hcall] at hne
    exact ⟨a, b, context, hcall, hne⟩

end DiskQuota.Fsrm
