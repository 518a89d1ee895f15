import DiskQuota.Proofs.Fsrm.Neutral
import DiskQuota.Proofs.Fsrm.Objects

/-!
Lifetimes of objects within those of contexts. The calls of one command are a visit (`Visit`): it opens one
context at most and closes that, it does all that it does with objects in between, and it releases its
record before the session that the record came from. The headline `script_nested` says of scripts of any
length, over a fresh service and over services of their own, that every command is a visit and that all
together settle the objects that were handed out.
-/
namespace DiskQuota.Fsrm

/-- Whether a call obtains an object or is made on one. -/
def Call.onObject : Call → Bool
  | .closeCom | .sysFreeString | .iidFromString _ | .openCom _ | .sysAllocString _ | .variantClear _ => false
  | _ => true

/-- What stands between `p` and `q` is done strictly between opening a context, which succeeded, and the
call that closes it: the two face each other. -/
def Enclosed (s : System) (p q : List Call) : Prop :=
  ∃ p₁ model p₂ q₁ q₂, p = p₁ ++ .openCom model :: p₂ ∧
    (Call.openCom model).opens (s.after p₁).next = true ∧
    q = q₁ ++ .closeCom :: q₂ ∧ ∀ c ∈ p₂ ++ q₁, c.onContext = false

/-- The calls of one command from `s`. -/
structure Visit (s : System) (t : List Call) : Prop where
  /-- A context is opened once at most, -/
  once : tally Call.opens s.outcomes t ≤ 1
  /-- and closed if it was opened, and not otherwise. -/
  closed : t.count .closeCom = tally Call.opens s.outcomes t
  /-- What is done with objects is done while the context is open. -/
  enclosed : ∀ p c q, t = p ++ c :: q → c.onObject = true → Enclosed s p q
  /-- A record is released before the session that it came from. -/
  record_first : ∀ p c q session, t = p ++ c :: q → c.yields = some .record →
    (.session, session) ∈ c.names → c.gives .record (s.after p).next = true →
    [.releaseRecord ((s.after p).records + 1), .releaseSession session].Sublist q

theorem Visit.nil (s : System) : Visit s [] where
  once := Nat.zero_le 1
  closed := rfl
  enclosed p c q h := by simp at h
  record_first p c q _ h := by simp at h

/-! One operation. -/

theorem essential_of_onObject {c : Call} (h : c.onObject = true) : c.essential = true := by
  cases c <;> first | rfl | cases h

theorem essential_of_onContext {c : Call} (h : c.onContext = true) : c.essential = true := by
  cases c <;> first | rfl | cases h

theorem onContext_of_onObject {c : Call} (h : c.onObject = true) : c.onContext = false := by
  cases c <;> first | rfl | cases h

/-- Where an essential call stands, what is essential stands on either side of it. -/
theorem essential_split {t x y : List Call} {c : Call} (h : essential t = x ++ c :: y) :
    ∃ a b, t = a ++ c :: b ∧ essential a = x ∧ essential b = y := by
  obtain ⟨l, r, rfl, hl, hr⟩ := List.filter_eq_append_iff.1 h
  obtain ⟨m, b, rfl, hm, -, hb⟩ := List.filter_eq_cons_iff.1 hr
  refine ⟨l ++ m, b, by simp, ?_, hb⟩
  have hnil : essential m = [] := List.filter_eq_nil_iff.2 hm
  rw [essential_append, hnil, List.append_nil]
  exact hl

/-- What holds of the essential calls of a trace, and of all that are not essential, holds of the trace. -/
theorem forall_of_essential {p : Call → Prop} {t x : List Call} (ht : essential t = x)
    (hx : ∀ c ∈ x, p c) (hrest : ∀ c, c.essential = false → p c) : ∀ c ∈ t, p c := by
  intro c hc
  cases he : c.essential with
  | false => exact hrest c he
  | true => exact hx c (ht ▸ List.mem_filter.2 ⟨hc, he⟩)

theorem onObject_of_not_essential (c : Call) (h : c.essential = false) : c.onObject = false :=
  Bool.eq_false_iff.2 fun hc => by simp [essential_of_onObject hc] at h

theorem onContext_of_not_essential (c : Call) (h : c.essential = false) : c.onContext = false :=
  Bool.eq_false_iff.2 fun hc => by simp [essential_of_onContext hc] at h

/-- A call of the system is about objects exactly if the call of the double is about handles. -/
theorem image_onObject {guid : Nat → Option Guid} {closes : Bool} {c : Call} {c' : Scripted.Call}
    (h : image guid closes c' = some c) : c.onObject = c'.onHandle := by
  cases c' with
  | instantiate a b context =>
    obtain ⟨manager, -, -, rfl⟩ := image_instantiate h
    rfl
  | closeContext =>
    obtain ⟨-, rfl⟩ := image_closeContext h
    rfl
  | _ =>
    cases h
    rfl

/-- If a trace opened a context and but one of its calls can do so, then that call did. -/
theorem opens_of_tally {s : System} {a b : List Call} {model : UInt32}
    (ha : ∀ c ∈ a, ∀ o, c.opens o = false) (hb : ∀ c ∈ b, ∀ o, c.opens o = false)
    (h : tally Call.opens s.outcomes (a ++ .openCom model :: b) = 1) :
    (Call.openCom model).opens (s.after a).next = true := by
  have hasks : (Call.openCom model).asks = true := rfl
  have hnext : (s.outcomes.drop (a.countP Call.asks)).headD .success = (s.after a).next := rfl
  rw [tally_append, tally_eq_zero _ _ ha, tally_cons, if_pos hasks, tally_eq_zero _ _ hb, hnext] at h
  by_contra hfail
  rw [if_neg hfail] at h
  cases h

theorem image_yields {guid : Nat → Option Guid} {closes : Bool} {c : Call} {c' : Scripted.Call}
    (h : image guid closes c' = some c) (hy : c.yields = some .record) : c'.yields = some .record := by
  cases c' with
  | instantiate a b context =>
    obtain ⟨manager, -, -, rfl⟩ := image_instantiate h
    cases hy
  | closeContext =>
    obtain ⟨-, rfl⟩ := image_closeContext h
    cases hy
  | create session volume => rfl
  | get session volume => rfl
  | _ =>
    cases h
    cases hy

/-- As many objects were handed out as the double handed out handles. -/
theorem Reflection.handedOut {settings : Settings} {op : Operation} {m : Machine} {i : Nat}
    {os : List Scripted.Outcome} (h : Reflection settings op m i os) (kind : Object) :
    tally (Call.gives kind) m.store (calls (op.run service settings m).trace) =
      Scripted.handedOut kind.handle os
        (calls (op.run Scripted.service settings (double os i m.system)).trace) := by
  obtain ⟨i', hleft⟩ := h.left
  have hdouble := Scripted.run_existing settings (double os i m.system) op kind.handle
  have hsystem := System.existing_after m.system (calls (op.run service settings m).trace) kind
  have hafter : (op.run service settings m).state.system =
    m.system.after (calls (op.run service settings m).trace) := congrArg Machine.system h.after
  rw [hleft, existing_double, existing_double, hafter, hsystem] at hdouble
  exact Nat.add_left_cancel hdouble

variable (settings : Settings) (op : Operation) (s : System)

/-- The calls of an operation on a fresh service: either it opened no context and did nothing with
objects, or it did so between opening its context and closing it. -/
theorem run_frame :
    (tally Call.opens s.outcomes (calls (op.run service settings ⟨0, s⟩).trace) = 0 ∧
      ∀ c ∈ calls (op.run service settings ⟨0, s⟩).trace, c.onObject = false) ∨
    ∃ before model within rest,
      calls (op.run service settings ⟨0, s⟩).trace =
        before ++ .openCom model :: (within ++ .closeCom :: rest) ∧
      (Call.openCom model).opens (s.after before).next = true ∧
      (∀ c ∈ before ++ rest, c.onObject = false) ∧ ∀ c ∈ within, c.onContext = false := by
  obtain ⟨os, h⟩ := exists_reflection settings op ⟨0, s⟩ 0
  have htrace := h.trace
  have hopened := h.opened
  rw [leavesOpen_fresh] at htrace
  simp only [Machine.store] at hopened
  rcases Scripted.run_shape settings op (double os 0 s) with
    ⟨hzero, before, ht', hbefore⟩ | ⟨hone, work, ht', hwork⟩
  · refine .inl ⟨hopened.trans hzero, forall_of_essential htrace ?_ onObject_of_not_essential⟩
    rw [ht']
    intro c hc
    obtain ⟨c', hc', himage⟩ := List.mem_filterMap.1 hc
    rw [image_onObject himage]
    rcases List.mem_append.1 hc' with hc' | hc'
    · exact (hbefore c' hc').2
    · rw [List.mem_singleton.1 hc']
      rfl
  · have htally := hopened.trans hone
    have hsplit : essential (calls (op.run service settings ⟨0, s⟩).trace) =
        [.iidFromString (String.ofList (upToZero settings.managerClass)),
          .iidFromString (String.ofList (upToZero settings.managerInterface))] ++
        .openCom (threadingFlag settings.threading) ::
          (work.filterMap (image (named settings 0) true) ++ .closeCom :: []) := by
      rw [htrace, ht', htally]
      cases settings.threading <;> simp [image, threadingFlag]
    obtain ⟨before, after, ht, hbefore, hafter⟩ := essential_split hsplit
    obtain ⟨within, rest, rfl, hwithin, hrest⟩ := essential_split hafter
    have hbeforeContext : ∀ c ∈ before, c.onContext = false :=
      forall_of_essential hbefore (by simp [Call.onContext]) onContext_of_not_essential
    have hrestContext : ∀ c ∈ rest, c.onContext = false :=
      forall_of_essential hrest (by simp) onContext_of_not_essential
    have hwithinContext : ∀ c ∈ within, c.onContext = false := by
      refine forall_of_essential hwithin (fun c hc => ?_) onContext_of_not_essential
      obtain ⟨c', hc', himage⟩ := List.mem_filterMap.1 hc
      exact onContext_of_onObject ((image_onObject himage).trans (hwork c' hc'))
    refine .inr ⟨before, _, within, rest, ht, ?_, ?_, hwithinContext⟩
    · rw [ht] at htally
      refine opens_of_tally (fun c hc => Call.opens_of_not_onContext (hbeforeContext c hc)) ?_ htally
      intro c hc
      rcases List.mem_append.1 hc with hc | hc
      · exact Call.opens_of_not_onContext (hwithinContext c hc)
      · rcases List.mem_cons.1 hc with rfl | hc
        · exact fun _ => rfl
        · exact Call.opens_of_not_onContext (hrestContext c hc)
    · intro c hc
      rcases List.mem_append.1 hc with hc | hc
      · exact forall_of_essential hbefore (by simp [Call.onObject]) onObject_of_not_essential c hc
      · exact forall_of_essential hrest (by simp) onObject_of_not_essential c hc

theorem run_enclosed {p q : List Call} {c : Call}
    (h : calls (op.run service settings ⟨0, s⟩).trace = p ++ c :: q) (hc : c.onObject = true) :
    Enclosed s p q := by
  rcases run_frame settings op s with
    ⟨-, hnone⟩ | ⟨before, model, within, rest, ht, hopens, hout, hin⟩
  · rw [hnone c (by simp [h])] at hc
    cases hc
  · have hnot : c ∉ before ++ rest := fun hmem => by
      rw [hout c hmem] at hc
      cases hc
    rw [List.mem_append, not_or] at hnot
    have hopen : c ≠ .openCom model := by
      rintro rfl
      cases hc
    have hclose : c ≠ .closeCom := by
      rintro rfl
      cases hc
    -- so it stands between the two
    rw [ht, ← List.singleton_append, ← List.append_assoc] at h
    obtain ⟨p', rfl, hafter⟩ := split_of_not_mem_left h (by simp [hnot.1, hopen])
    obtain ⟨q', rfl, hwithin⟩ := split_of_not_mem_right hafter (by simp [hnot.2, hclose])
    subst hwithin
    refine ⟨before, model, p', q', rest, by simp, hopens, rfl, fun d hd => hin d ?_⟩
    rcases List.mem_append.1 hd with hd | hd
    · simp [hd]
    · simp [hd]

theorem run_record_released {p q : List Call} {c : Call} {session : Nat}
    (h : calls (op.run service settings ⟨0, s⟩).trace = p ++ c :: q) (hy : c.yields = some .record)
    (hnames : (.session, session) ∈ c.names) (hgives : c.gives .record (s.after p).next = true) :
    [.releaseRecord ((s.after p).records + 1), .releaseSession session].Sublist q := by
  obtain ⟨os, hr⟩ := exists_reflection settings op ⟨0, s⟩ 0
  -- the call of the double that this call is the image of
  have hessential : essential (calls (op.run service settings ⟨0, s⟩).trace) =
      essential p ++ c :: essential q := by
    rw [h, essential_append, essential, essential, essential,
      List.filter_cons_of_pos (essential_of_names hnames)]
  obtain ⟨before, after, ht', -, hafter⟩ :=
    List.filterMap_eq_append_iff.1 (hr.trace.symm.trans hessential)
  obtain ⟨skipped, c', rest, rfl, -, himage, hrest⟩ := List.filterMap_eq_cons_iff.1 hafter
  rw [← List.append_assoc] at ht'
  obtain ⟨hnames', hfirst⟩ := Scripted.run_record_first settings op _ ht' (image_yields himage hy)
  have hsession : session = s.sessions + 1 := by
    have hmem := (image_handles himage).2 _ hnames
    rw [hnames'] at hmem
    simpa [asHandle, Object.handle, double] using hmem
  -- the record that the call handed out is the only one
  have hone : Scripted.handedOut .record os
      (calls (op.run Scripted.service settings (double os 0 s)).trace) ≤ 1 :=
    (Scripted.run_segment settings (double os 0 s) op).one .record Scripted.Handle.noConfusion
  have htally : tally (Call.gives .record) s.outcomes (calls (op.run service settings ⟨0, s⟩).trace) =
      Scripted.handedOut .record os (calls (op.run Scripted.service settings (double os 0 s)).trace) :=
    hr.handedOut .record
  have hasks : c.asks = true := by
    cases c <;> first | rfl | cases hy
  have hnext : (s.outcomes.drop (p.countP Call.asks)).headD .success = (s.after p).next := rfl
  have hcount := tally_append (Call.gives .record) s.outcomes p (c :: q)
  rw [← h, tally_cons, if_pos hasks, hnext, if_pos hgives] at hcount
  have hnone : tally (Call.gives .record) s.outcomes p = 0 := by omega
  have hrecords : (s.after p).records = s.records := by
    show s.records + tally (Call.gives .record) s.outcomes p = s.records
    rw [hnone, Nat.add_zero]
  have hhanded : Scripted.handedOut .record os
      (calls (op.run Scripted.service settings (double os 0 s)).trace) = 1 := by omega
  have hreleased := (hfirst hhanded).filterMap (image (named settings 0)
    (leavesOpen ⟨0, s⟩ (calls (op.run service settings ⟨0, s⟩).trace)))
  rw [hrest] at hreleased
  rw [hrecords, hsession]
  exact hreleased.trans List.filter_sublist

/-- An operation on a fresh service is a visit. -/
theorem run_visit : Visit s (calls (op.run service settings ⟨0, s⟩).trace) where
  once := by
    have hone := run_opened settings op ⟨0, s⟩
    simp only [Machine.store] at hone
    omega
  closed := by
    have hone := run_opened settings op ⟨0, s⟩
    simp only [Machine.store] at hone
    rw [run_closes, leavesOpen_fresh]
    rcases hone with h | h <;> rw [h] <;> rfl
  enclosed p c q h hc := run_enclosed settings op s h hc
  record_first p c q session h hy hnames hgives := run_record_released settings op s h hy hnames hgives

/-! Scripts. -/

/-- The calls `t` lead from `m` to `m'` with nothing left behind: no context is open, and all objects
that were handed out are settled. -/
structure Contained (m : Machine) (t : List Call) (m' : Machine) : Prop where
  contexts : m'.contexts = 0
  settled : Settled m.system t m'.system
  visit : Visit m.system t

/-- Calls that are about no object and no context. -/
theorem Contained.of_idle {m : Machine} {t : List Call} (hm : m.contexts = 0)
    (hobject : ∀ c ∈ t, c.onObject = false) (hcontext : ∀ c ∈ t, c.onContext = false) :
    Contained m t (m.after t) := by
  have hgives : ∀ kind, tally (Call.gives kind) m.system.outcomes t = 0 := fun kind =>
    tally_eq_zero _ _ fun c hc o => by
      have h := hobject c hc
      cases c <;> first | rfl | cases h
  have hopens : tally Call.opens m.system.outcomes t = 0 :=
    tally_eq_zero _ _ fun c hc o => Call.opens_of_not_onContext (hcontext c hc) o
  have hclose : t.count .closeCom = 0 :=
    List.count_eq_zero.2 fun hc => Call.ne_closeCom (hcontext _ hc) rfl
  have hnone : ∀ c ∈ t, c.releases = none ∧ c.names = [] := fun c hc => by
    have h := hobject c hc
    cases c <;> first | exact ⟨rfl, rfl⟩ | cases h
  have hexisting : (m.system.after t).existing = m.system.existing := by
    funext kind
    rw [System.existing_after, hgives, Nat.add_zero]
  refine ⟨?_, ?_, ?_⟩
  · rw [m.after_of_still hcontext, hm]
  · rw [m.after_of_still hcontext]
    constructor
    · rw [hexisting]
      exact .of_idle hnone
    · rfl
  · constructor
    · rw [hopens]
      exact Nat.zero_le 1
    · rw [hclose, hopens]
    · rintro p c q rfl hc
      rw [hobject c (by simp)] at hc
      cases hc
    · rintro p c q session rfl - hnames -
      rw [(hnone c (by simp)).2] at hnames
      exact absurd hnames List.not_mem_nil

/-- An operation on a service with no context open. -/
theorem run_contained (settings : Settings) (op : Operation) {m : Machine} (hm : m.contexts = 0) :
    Contained m (calls (op.run service settings m).trace) (op.run service settings m).state := by
  obtain ⟨contexts, s⟩ := m
  cases hm
  have hvisit := run_visit settings op s
  have hfits : (0 : UInt32).toNat + 1 < UInt32.size := by decide
  have hcontexts := run_contexts settings op (m := ⟨0, s⟩) hfits
  refine ⟨UInt32.toNat_inj.1 ?_, run_settled settings op ⟨0, s⟩, hvisit⟩
  rw [hvisit.closed] at hcontexts
  exact Nat.add_right_cancel hcontexts

theorem native_contained (settings : Settings) (call : Native.Call) {m : Machine}
    (hm : m.contexts = 0) :
    Contained m (calls (call.run service settings m).trace) (call.run service settings m).state := by
  rw [Native.Call.run_eq]
  cases call.operation with
  | ok op => exact run_contained settings op hm
  | error code => exact ⟨hm, .nil m.system, .nil m.system⟩

/-- Whether a command leaves the contexts of the service at hand to its operations. -/
def managed : Command Control → Bool
  | .control (.openContext _) | .control .closeContext => false
  | _ => true

theorem control_contained (k : Control) (hk : managed (.control k) = true) {m : Machine}
    (hm : m.contexts = 0) : Contained m (calls (k.run m).trace) (k.run m).state := by
  cases k with
  | resolveIdentifier text =>
    show Contained m (calls ((service.resolve text m).trace.map .call)) (service.resolve text m).state
    rw [calls_map_call, resolve_apply]
    refine .of_idle (t := [.iidFromString (String.ofList (upToZero text))]) hm ?_ ?_
    · simp [Call.onObject]
    · simp [Call.onContext]
  | openContext threading => cases hk
  | closeContext => cases hk
  | alone op =>
    have h := run_contained .default op (m := ⟨0, m.system⟩) rfl
    exact ⟨hm, h.settled, h.visit⟩
  | exported call =>
    have h := native_contained .default call (m := ⟨0, m.system⟩) rfl
    exact ⟨hm, h.settled, h.visit⟩

/-- A command leaves nothing behind, be it for the service at hand or for one of its own. -/
theorem step_contained (st : Standing Machine Call) (c : Command Control) (hc : managed c = true)
    (hst : st.state.contexts = 0) :
    Contained st.state (calls (bench.step st c).journal) (bench.step st c).standing.state := by
  cases c with
  | operation op => exact run_contained st.settings op hst
  | native call => exact native_contained st.settings call hst
  | reconfigure document =>
    rw [Bench.step]
    split <;> exact ⟨hst, .nil _, .nil _⟩
  | startLogging filter => exact ⟨hst, .nil _, .nil _⟩
  | control k => exact control_contained k hc hst

/-- A script leaves nothing behind, by induction on its length. -/
theorem script_contained (st : Standing Machine Call) (cs : List (Command Control))
    (hcs : ∀ c ∈ cs, managed c = true) (hst : st.state.contexts = 0) :
    (bench.standing st cs).state.contexts = 0 ∧
      Settled st.state.system (scriptCalls (bench.run st cs)) (bench.standing st cs).state.system := by
  induction cs generalizing st with
  | nil => exact ⟨hst, .nil _⟩
  | cons c cs ih =>
    have hstep := step_contained st c (hcs c (by simp)) hst
    obtain ⟨hcontexts, hsettled⟩ := ih (bench.step st c).standing (fun d hd => hcs d (by simp [hd]))
      hstep.contexts
    exact ⟨hcontexts, hstep.settled.append hsettled⟩

/-- **Objects live within contexts.** From a fresh service, and over services of their own, let commands
come in any order, under any settings and over any outcomes. Each of them is a visit: it opens one context
at most and closes it, does with objects what it does while the context is open, and releases its record
before the session that the record came from. All together they settle the objects that were handed out:
each is released once, and none is named after its release. -/
theorem script_nested (settings : Settings) (past : List Call) (s : System)
    (cs : List (Command Control)) (hcs : ∀ c ∈ cs, managed c = true) :
    (∀ before c rest, cs = before ++ c :: rest →
      ∃ d, (bench.run ⟨settings, ⟨0, s⟩, past⟩ cs)[before.length]? = some d ∧
        Visit (bench.standing ⟨settings, ⟨0, s⟩, past⟩ before).state.system (calls d.journal)) ∧
    Settled s (scriptCalls (bench.run ⟨settings, ⟨0, s⟩, past⟩ cs))
      (bench.standing ⟨settings, ⟨0, s⟩, past⟩ cs).state.system ∧
    (bench.standing ⟨settings, ⟨0, s⟩, past⟩ cs).state.contexts = 0 := by
  obtain ⟨hcontexts, hsettled⟩ := script_contained ⟨settings, ⟨0, s⟩, past⟩ cs hcs rfl
  refine ⟨?_, hsettled, hcontexts⟩
  rintro before c rest rfl
  have hbefore := script_contained ⟨settings, ⟨0, s⟩, past⟩ before
    (fun d hd => hcs d (by simp [hd])) rfl
  exact ⟨_, bench.run_getElem? _ before rest c, (step_contained _ c (hcs c (by simp)) hbefore.1).visit⟩

/-- An operation whose commit fails, one on a service of its own whose session is no object, and an
exported read: two sessions and two records, all given back. -/
theorem script_nested_interleaved :
    (∀ c ∈ [.operation (.setQuota "D:" 5), .control (.alone (.getQuotaUsed "D:")),
      .control (.exported (.getQuotaUsed (some [68, 58, 0]) (some 0)))], managed c = true) ∧
    (scriptCalls (bench.run ⟨.default, ⟨0, .initial [.success, .success, .success, .success, .success,
        .success, .code .unspecified, .success, .success, .code ⟨1⟩, .nullObject]⟩, []⟩
      [.operation (.setQuota "D:" 5), .control (.alone (.getQuotaUsed "D:")),
        .control (.exported (.getQuotaUsed (some [68, 58, 0]) (some 0)))])).filter
          (fun c => c.releases.isSome || c.onContext) =
      [.openCom 2, .releaseRecord 1, .releaseSession 1, .closeCom, .openCom 2, .closeCom,
        .openCom 2, .releaseRecord 2, .releaseSession 2, .closeCom] ∧
    Settled (.initial [.success, .success, .success, .success, .success, .success, .code .unspecified,
        .success, .success, .code ⟨1⟩, .nullObject])
      (scriptCalls (bench.run ⟨.default, ⟨0, .initial [.success, .success, .success, .success, .success,
          .success, .code .unspecified, .success, .success, .code ⟨1⟩, .nullObject]⟩, []⟩
        [.operation (.setQuota "D:" 5), .control (.alone (.getQuotaUsed "D:")),
          .control (.exported (.getQuotaUsed (some [68, 58, 0]) (some 0)))]))
      (bench.standing ⟨.default, ⟨0, .initial [.success, .success, .success, .success, .success,
          .success, .code .unspecified, .success, .success, .code ⟨1⟩, .nullObject]⟩, []⟩
        [.operation (.setQuota "D:" 5), .control (.alone (.getQuotaUsed "D:")),
          .control (.exported (.getQuotaUsed (some [68, 58, 0]) (some 0)))]).state.system :=
  ⟨by decide, by decide, (script_nested .default [] (.initial [.success, .success, .success, .success,
    .success, .success, .code .unspecified, .success, .success, .code ⟨1⟩, .nullObject])
    [.operation (.setQuota "D:" 5), .control (.alone (.getQuotaUsed "D:")),
      .control (.exported (.getQuotaUsed (some [68, 58, 0]) (some 0)))] (by decide)).2.1⟩

end DiskQuota.Fsrm
