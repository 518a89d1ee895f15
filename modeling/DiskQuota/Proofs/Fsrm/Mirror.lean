import DiskQuota.Proofs.Bare
import DiskQuota.Proofs.Fsrm.Reply
import DiskQuota.Proofs.Scripted.Shape

/-!
The service of the file server resource manager next to the scripted service. Whatever the operating
system answers, there are outcomes over which the scripted service, here the double, goes through the
same: it comes to the same, and what the system is called for is the image of its calls (`image`), one by
one. `Mirrors` says this of two tasks, and there is one rule for each way in which a task is built and
one for each call.
-/
namespace DiskQuota.Scripted

theorem answered_eq {α : Type} (c : Call) (s : State) (a : α) (s' : State) :
    answered c s a s' =
      ⟨match s.next.code? with | some code => .error code | none => .ok a, [c], s'⟩ := by
  unfold answered
  cases s.next <;> rfl

theorem State.after_turn (s : State) (p : Step) (c : Call) (o : Outcome) : s.after [⟨⟨p, c⟩, o⟩] =
    ⟨s.outcomes.tail, s.identifiers + if c.gives .identifier o then 1 else 0,
      s.sessions + if c.gives .session o then 1 else 0,
      s.records + if c.gives .record o then 1 else 0⟩ := by
  simp only [State.after, List.countP_cons, List.countP_nil, Nat.zero_add]
  rw [← List.drop_one]
  rfl

end DiskQuota.Scripted

namespace DiskQuota.Fsrm

/-- The kind of handle by which the double knows an object. -/
def Object.handle : Object → Scripted.Handle
  | .session => .session
  | .record => .record

/-- The double of a system: it has handed out as many sessions and records, and `i` identifiers. -/
def double (os : List Scripted.Outcome) (i : Nat) (s : System) : Scripted.State :=
  ⟨os, i, s.sessions, s.records⟩

/-- The call of the system that stands for a call of the double, where `guid` tells what identifiers were
resolved to and `closes` whether there is a context to close. There is none for an instantiation through
another interface than the one that is known, and none for closing what is not open. -/
def image (guid : Nat → Option Guid) (closes : Bool) : Scripted.Call → Option Call
  | .resolve text => some (.iidFromString (String.ofList (upToZero text)))
  | .openContext threading =>
    some (.openCom (match threading with
      | .apartment => 2
      | .multithreaded => 0))
  | .instantiate manager interface context => do
    let manager ← guid manager
    let interface ← guid interface
    if interface = managerInterface then
      some (.coCreateInstance manager
        (match context with
          | .localServer => 4
          | .inProcess => 1
          | .any => 23)
        interface)
    else none
  | .create session volume => some (.createQuota session volume)
  | .get session volume => some (.getQuota session volume)
  | .setLimit record limit => some (.setQuotaLimit record ⟨21, limit⟩)
  | .limit record => some (.quotaLimit record)
  | .used record => some (.quotaUsed record)
  | .commit record => some (.commit record)
  | .releaseRecord record => some (.releaseRecord record)
  | .releaseSession session => some (.releaseSession session)
  | .closeContext => if closes then some .closeCom else none

theorem image_openContext (guid : Nat → Option Guid) (closes : Bool) (threading : Threading) :
    image guid closes (.openContext threading) = some (.openCom (threadingFlag threading)) := by
  cases threading <;> rfl

theorem image_instantiate {guid : Nat → Option Guid} {closes : Bool} {a b : Nat}
    {context : ServerContext} {c : Call}
    (h : image guid closes (.instantiate a b context) = some c) :
    ∃ manager, guid a = some manager ∧ guid b = some managerInterface ∧
      c = .coCreateInstance manager (contextFlags context) managerInterface := by
  simp only [image, Option.bind_eq_bind, Option.bind_eq_some_iff] at h
  obtain ⟨manager, ha, interface, hb, h⟩ := h
  split at h
  · next hi =>
    subst hi
    refine ⟨manager, ha, hb, ?_⟩
    cases context <;> exact (Option.some.inj h).symm
  · cases h

theorem image_closeContext {guid : Nat → Option Guid} {closes : Bool} {c : Call}
    (h : image guid closes .closeContext = some c) : closes = true ∧ c = .closeCom := by
  cases closes with
  | false => cases h
  | true =>
    cases h
    exact ⟨rfl, rfl⟩

theorem image_eq_closeCom_iff {guid : Nat → Option Guid} {closes : Bool} {c' : Scripted.Call} :
    image guid closes c' = some .closeCom ↔ c' = .closeContext ∧ closes = true := by
  constructor
  · intro h
    cases c' with
    | instantiate a b context =>
      obtain ⟨manager, -, -, hc⟩ := image_instantiate h
      cases hc
    | closeContext => exact ⟨rfl, (image_closeContext h).1⟩
    | _ => cases h
  · rintro ⟨rfl, rfl⟩
    rfl

/-- Two tasks come to the same: to values that are related, or to one error. -/
inductive Agree {φ α β : Type} (R : α → β → Prop) : Except φ α → Except φ β → Prop
  | ok {a : α} {b : β} (h : R a b) : Agree R (.ok a) (.ok b)
  | error (e : φ) : Agree R (.error e) (.error e)

theorem Agree.eq {φ α : Type} {v v' : Except φ α} (h : Agree (· = ·) v v') : v = v' := by
  cases h with
  | ok h => rw [h]
  | error e => rfl

/-- The calls `t` of the system, which had `store` in store, mirror the calls `t'` of the double over the
outcomes `os`. -/
structure Mirrored (guid : Nat → Option Guid) (closes : Bool) (store : List Outcome) (t : List Call)
    (os : List Scripted.Outcome) (t' : List Scripted.Call) : Prop where
  /-- The outcomes are what the double asks for. -/
  asked : t'.countP Scripted.Call.asks = os.length
  opened : ∀ rest, tally Call.opens store t = Scripted.opened (os ++ rest) t'
  calls : essential t = t'.filterMap (image guid closes)
  identified : ∀ a b context, .instantiate a b context ∈ t' → (guid a).isSome ∧ (guid b).isSome

/-- From `m`, the task `x` does what `y` does over the double with some outcomes. What they come to is
related by `R`, given how many identifiers the double has resolved by then. -/
def Mirrors {φ α β : Type} (guid : Nat → Option Guid) (closes : Bool) (R : Nat → α → β → Prop)
    (x : Task Machine Call φ α) (y : Task Scripted.State Scripted.Call φ β) (m : Machine)
    (i : Nat) : Prop :=
  (x m).state = m.after (x m).trace ∧ ∃ os i' b t',
    (∀ rest, y (double (os ++ rest) i m.system) = ⟨b, t', double rest i' (x m).state.system⟩) ∧
    Agree (R i') (x m).value b ∧ Mirrored guid closes m.store (x m).trace os t'

variable {guid : Nat → Option Guid} {closes : Bool}

namespace Mirrored

variable {store : List Outcome} {t u : List Call} {os os' : List Scripted.Outcome}
  {t' u' : List Scripted.Call}

theorem nil : Mirrored guid closes store [] [] [] where
  asked := rfl
  opened _ := rfl
  calls := rfl
  identified _ _ _ h := absurd h List.not_mem_nil

theorem append (h : Mirrored guid closes store t os t')
    (h' : Mirrored guid closes (store.drop (t.countP Call.asks)) u os' u') :
    Mirrored guid closes store (t ++ u) (os ++ os') (t' ++ u') where
  asked := by rw [List.countP_append, h.asked, h'.asked, List.length_append]
  opened rest := by
    rw [tally_append, List.append_assoc, Scripted.opened_append, h.opened, h.asked, List.drop_left,
      h'.opened]
  calls := by rw [essential_append, List.filterMap_append, h.calls, h'.calls]
  identified a b context hmem := by
    rcases List.mem_append.1 hmem with hmem | hmem
    · exact h.identified a b context hmem
    · exact h'.identified a b context hmem

/-- Calls that take no outcome leave the double's outcomes alone. -/
theorem quiet (hasks : ∀ c ∈ t, c.asks = false) (hasks' : ∀ c ∈ t', c.asks = false)
    (hcalls : essential t = t'.filterMap (image guid closes)) :
    Mirrored guid closes store t [] t' where
  asked := List.countP_eq_zero.2 fun c hc => by simp [hasks' c hc]
  opened rest := by
    rw [Scripted.opened_of_not_asks _ hasks', tally, exchanges_of_not_asks _ _ _ hasks]
    rfl
  calls := hcalls
  identified a b context hmem := by
    have h := hasks' _ hmem
    cases h

end Mirrored

/-- What takes no outcome leaves the system as it is. -/
theorem System.after_quiet (s : System) {t : List Call} (h : ∀ c ∈ t, c.asks = false) :
    s.after t = s := by
  have hzero : t.countP Call.asks = 0 := List.countP_eq_zero.2 fun c hc => by simp [h c hc]
  simp [System.after, hzero, tally, exchanges_of_not_asks _ _ _ h]

namespace Mirrors

variable {φ ψ α β α' β' : Type} {R : Nat → α → β → Prop} {R' : Nat → α' → β' → Prop}
  {x : Task Machine Call φ α} {y : Task Scripted.State Scripted.Call φ β} {m : Machine} {i : Nat}

protected theorem pure {a : α} {b : β} (h : R i a b) :
    Mirrors guid closes R (pure a : Task Machine Call φ α) (pure b) m i :=
  ⟨m.after_nil.symm, [], i, .ok b, [], fun _ => rfl, .ok h, .nil⟩

/-- One after the other. The second is made only if the first came to a value, on both sides. -/
protected theorem bind {f : α → Task Machine Call φ α'}
    {g : β → Task Scripted.State Scripted.Call φ β'} (hx : Mirrors guid closes R x y m i)
    (hf : ∀ a b i', R i' a b → ∀ m', Mirrors guid closes R' (f a) (g b) m' i') :
    Mirrors guid closes R' (x >>= f) (y >>= g) m i := by
  obtain ⟨hafter, os, i', b, t', hy, hvalue, hcalls⟩ := hx
  cases hv : (x m).value with
  | error e =>
    rw [hv] at hvalue
    cases hvalue
    rw [Mirrors, Task.bind_apply_error hv]
    refine ⟨hafter, os, i', .error e, t', fun rest => ?_, .error e, hcalls⟩
    rw [Task.bind_apply_error (e := e) (by rw [hy]), hy]
  | ok a =>
    rw [hv] at hvalue
    cases hvalue with
    | @ok _ b hab =>
      obtain ⟨hafter', os', i'', b', u', hy', hvalue', hcalls'⟩ := hf a b i' hab (x m).state
      rw [Mirrors, Task.bind_apply_ok hv]
      refine ⟨?_, os ++ os', i'', b', t' ++ u', fun rest => ?_, hvalue', hcalls.append ?_⟩
      · rw [Machine.after_append, ← hafter]
        exact hafter'
      · have hfirst := hy (os' ++ rest)
        rw [← List.append_assoc] at hfirst
        rw [Task.bind_apply_ok (a := b) (by rw [hfirst]), hfirst, hy']
      · have hstore : (x m).state.store = m.store.drop ((x m).trace.countP Call.asks) := by
          rw [hafter]
          rfl
        rw [← hstore]
        exact hcalls'

/-- The same error is the same in other words. -/
protected theorem mapError (f : φ → ψ) (h : Mirrors guid closes R x y m i) :
    Mirrors guid closes R (x.mapError f) (y.mapError f) m i := by
  obtain ⟨hafter, os, i', b, t', hy, hvalue, hcalls⟩ := h
  refine ⟨hafter, os, i', b.mapError f, t', fun rest => ?_, ?_, hcalls⟩
  · rw [Task.mapError, hy]
    rfl
  · show Agree (R i') ((x m).value.mapError f) _
    cases hv : (x m).value with
    | error e =>
      rw [hv] at hvalue
      cases hvalue
      exact .error (f e)
    | ok a =>
      rw [hv] at hvalue
      cases hvalue with
      | ok hab => exact .ok hab

/-- A cleanup, here the calls `u` of the system for the call `c'` of the double, takes no outcome. -/
protected theorem ensuring (h : Mirrors guid closes R x y m i) {release : Machine → Ran Machine Call Unit}
    {release' : Scripted.State → Ran Scripted.State Scripted.Call Unit} {u : List Call}
    {c' : Scripted.Call} (hrelease : release (x m).state = (x m).state.ran () u)
    (hrelease' : ∀ s, release' s = ⟨(), [c'], s⟩) (hu : ∀ c ∈ u, c.asks = false)
    (hc' : c'.asks = false) (hcalls : essential u = [c'].filterMap (image guid closes)) :
    Mirrors guid closes R (x.ensuring release) (y.ensuring release') m i := by
  obtain ⟨hafter, os, i', b, t', hy, hvalue, hfirst⟩ := h
  have hsystem : ((x m).state.after u).system = (x m).state.system := System.after_quiet _ hu
  refine ⟨?_, os, i', b, t' ++ [c'], fun rest => ?_, hvalue, ?_⟩
  · rw [Task.ensuring_state, Task.ensuring_trace, hrelease, Machine.after_append, ← hafter]
    rfl
  · rw [Task.ensuring_state, hrelease, Machine.ran, hsystem, Task.ensuring, hy, hrelease']
  · rw [Task.ensuring_trace, hrelease, ← List.append_nil os]
    exact hfirst.append (.quiet hu (by simpa using hc') hcalls)

end Mirrors

/-! The calls of the service. -/

/-- The outcome by which the double comes to the same as a call. -/
def told {α : Type} (answer : α → Scripted.Outcome) : Except Status α → Scripted.Outcome
  | .error k => .failure k
  | .ok a => answer a

theorem agree_told {α β : Type} {R : α → β → Prop} {answer : α → Scripted.Outcome}
    {v : Except Status α} {b : β} (hok : ∀ a, v = .ok a → (answer a).code? = none ∧ R a b) :
    Agree R v (match (told answer v).code? with | some k => .error k | none => .ok b) := by
  cases v with
  | error k => exact .error k
  | ok a =>
    obtain ⟨hcode, hab⟩ := hok a rfl
    rw [told, hcode]
    exact .ok hab

/-- An object is handed out, or the call fails. -/
theorem Outcome.object_cases (o : Outcome) (n : Nat) :
    (o.object n = .ok n ∧ (o.failure?.isNone && o != .nullObject) = true) ∨
      ∃ k, o.object n = .error k ∧ (o.failure?.isNone && o != .nullObject) = false := by
  rw [Outcome.object, Outcome.settle]
  by_cases hnull : o = .nullObject
  · exact .inr ⟨noObject, by simp [hnull]⟩
  · cases o.failure? with
    | some k => exact .inr ⟨k, by simp [hnull]⟩
    | none => exact .inl (by simp [hnull])

theorem Outcome.eq_of_found {o : Outcome} {n a : Nat} (h : o.found n = .ok (some a)) : a = n := by
  rw [Outcome.found] at h
  rcases o.object_cases n with ⟨ho, -⟩ | ⟨k, ho, -⟩
  · rw [ho] at h
    cases h
    rfl
  · rw [ho] at h
    by_cases hk : k = .notFound <;> simp [hk] at h

theorem Outcome.eq_of_settle {α : Type} {o : Outcome} {a b : α} (h : o.settle a = .ok b) : b = a := by
  rw [Outcome.settle] at h
  cases hf : o.failure? with
  | some k => simp [hf] at h
  | none =>
    rw [hf] at h
    cases h
    rfl

theorem Object.handle_inj {a b : Object} : a.handle = b.handle ↔ a = b := by
  cases a <;> cases b <;> decide

/-- A call hands out an object exactly if the call of the double does, which then gives no other answer
than that there is one. -/
theorem gives_told {α : Type} {kind : Object} {c : Call} {c' : Scripted.Call} {o : Outcome} {n : Nat}
    (hc : c.yields = some kind) (hc' : c'.yields = some kind.handle) {v : Except Status α}
    {answer : α → Scripted.Outcome} (hok : o.object n = .ok n → c'.ends (told answer v) = false)
    (herror : ∀ k, o.object n = .error k → c'.ends (told answer v) = true) (other : Object) :
    c.gives other o = c'.gives other.handle (told answer v) := by
  rw [Call.gives, Scripted.Call.gives, hc, hc', Bool.and_assoc]
  have hkind : decide (some kind = some other) = decide (some kind.handle = some other.handle) := by
    simp [Object.handle_inj]
  rw [hkind]
  rcases o.object_cases n with ⟨ho, hgives⟩ | ⟨k, ho, hgives⟩
  · rw [hgives, hok ho, Bool.not_false]
  · rw [hgives, herror k ho, Bool.not_true]

theorem tally_of_essential (f : Call → Outcome → Bool) (os : List Outcome) {t : List Call} {c : Call}
    (hc : c.asks = true) (ht : essential t = [c]) :
    tally f os t = if f c (os.headD .success) then 1 else 0 := by
  rw [← tally_essential, ht, tally_cons, if_pos hc, tally_nil, Nat.add_zero]

namespace Mirrors

variable {α β : Type} {R : Nat → α → β → Prop} {m : Machine} {i : Nat}
  {call : Task Machine Call Status α} {call' : Task Scripted.State Scripted.Call Status β}
  {v : Except Status α} {t : List Call} {c' : Scripted.Call} {o : Scripted.Outcome} {b : β}

/-- One call of the service and one of the double. The step that the latter is due at plays no part. -/
theorem of_ran (hcall : call m = m.ran v t)
    (hcall' : ∀ rest, call' (double (o :: rest) i m.system) =
      Scripted.answered c' (double (o :: rest) i m.system) b
        ((double (o :: rest) i m.system).after [⟨⟨.commit, c'⟩, o⟩]))
    (hc' : c'.asks = true) (hcalls : essential t = [c'].filterMap (image guid closes))
    (hvalue : Agree (R (i + if c'.gives .identifier o then 1 else 0)) v
      (match o.code? with | some k => .error k | none => .ok b))
    (hgives : ∀ kind, tally (Call.gives kind) m.store t = if c'.gives kind.handle o then 1 else 0)
    (hopens : tally Call.opens m.store t = if c'.opens o then 1 else 0)
    (hid : ∀ a b context, c' = .instantiate a b context → (guid a).isSome ∧ (guid b).isSome) :
    Mirrors guid closes R call call' m i := by
  rw [Mirrors, hcall]
  refine ⟨rfl, [o], _, _, [c'], fun rest => ?_, hvalue, ?_⟩
  · have hsession : tally (Call.gives .session) m.system.outcomes t = _ := hgives .session
    have hrecord : tally (Call.gives .record) m.system.outcomes t = _ := hgives .record
    rw [List.singleton_append, hcall', Scripted.answered_eq, Scripted.State.after_turn, Machine.ran,
      double, double, Machine.after, System.after, hsession, hrecord]
    rfl
  · constructor
    · simp [hc']
    · intro rest
      rw [Machine.ran, hopens, List.singleton_append, Scripted.opened_ask _ hc']
    · exact hcalls
    · intro a b context hmem
      exact hid a b context (List.mem_singleton.1 hmem).symm

/-- The call `c` of the system goes with the next outcome as the call `c'` of the double goes with `o`. -/
structure Like (guid : Nat → Option Guid) (closes : Bool) (m : Machine) (c : Call)
    (c' : Scripted.Call) (o : Scripted.Outcome) : Prop where
  image : image guid closes c' = some c
  asks : c.asks = true
  asks' : c'.asks = true
  gives : ∀ kind, c.gives kind m.next = c'.gives kind.handle o
  opens : c.opens m.next = c'.opens o

/-- A call of the service that makes one call of the system, and what goes with it. -/
theorem of_like {c : Call} (h : Like guid closes m c c' o) (ht : essential t = [c])
    (hcall : call m = m.ran v t)
    (hcall' : ∀ rest, call' (double (o :: rest) i m.system) =
      Scripted.answered c' (double (o :: rest) i m.system) b
        ((double (o :: rest) i m.system).after [⟨⟨.commit, c'⟩, o⟩]))
    (hvalue : Agree (R (i + if c'.gives .identifier o then 1 else 0)) v
      (match o.code? with | some k => .error k | none => .ok b)) :
    Mirrors guid closes R call call' m i := by
  refine .of_ran hcall hcall' h.asks' ?_ hvalue (fun kind => ?_) ?_ ?_
  · rw [ht, List.filterMap_cons_some h.image, List.filterMap_nil]
  · rw [tally_of_essential _ _ h.asks ht, ← h.gives]
    rfl
  · rw [tally_of_essential _ _ h.asks ht, ← h.opens]
    rfl
  · rintro a b context rfl
    obtain ⟨manager, ha, hb, -⟩ := image_instantiate h.image
    simp [ha, hb]

/-- A call that hands out an object, if it does not fail, or that the double counts as such. -/
theorem Like.of_object {kind : Object} {c : Call} (himage : Fsrm.image guid closes c' = some c)
    (hc : c.yields = some kind) (hc' : c'.yields = some kind.handle) {n : Nat}
    {answer : α → Scripted.Outcome} (hok : m.next.object n = .ok n → c'.ends (told answer v) = false)
    (herror : ∀ k, m.next.object n = .error k → c'.ends (told answer v) = true) :
    Like guid closes m c c' (told answer v) where
  image := himage
  asks := by cases c <;> first | rfl | cases hc
  asks' := by cases kind <;> cases c' <;> first | rfl | cases hc'
  gives := gives_told hc hc' hok herror
  opens := by cases kind <;> cases c <;> cases hc <;> cases c' <;> first | rfl | cases hc'

variable (guid closes m i)

theorem resolve (text : String) :
    Mirrors guid closes (fun i' g n => identifier? text = some g ∧ n = i + 1 ∧ i' = i + 1)
      (service.resolve text) (Scripted.service.resolve text) m i := by
  have hlike : Like guid closes m (.iidFromString (String.ofList (upToZero text))) (.resolve text)
      (told (fun _ => .success) (m.next.identify text)) :=
    ⟨rfl, rfl, rfl, fun kind => by cases kind <;> rfl, rfl⟩
  refine .of_like hlike rfl (resolve_apply m text) (fun _ => Scripted.resolve_apply ..)
    (agree_told fun g hg => ⟨rfl, ?_, rfl, ?_⟩)
  · rw [Outcome.identify] at hg
    cases hf : m.next.failure? <;> cases hid : identifier? text <;> simp_all
  · rw [hg]
    rfl

theorem openContext (threading : Threading) :
    Mirrors guid closes (fun _ => (· = ·)) (service.openContext threading)
      (Scripted.service.openContext threading) m i := by
  have hopens : (Call.openCom (threadingFlag threading)).opens m.next =
      (Scripted.Call.openContext threading).opens (told (fun _ => .success) (m.next.settle ())) := by
    rw [Call.opens, Outcome.settle]
    cases m.next.failure? <;> rfl
  have hlike : Like guid closes m (.openCom (threadingFlag threading)) (.openContext threading)
      (told (fun _ => .success) (m.next.settle ())) :=
    ⟨image_openContext guid closes threading, rfl, rfl, fun kind => by cases kind <;> rfl, hopens⟩
  exact .of_like hlike rfl (openContext_apply m threading) (fun _ => Scripted.openContext_apply ..)
    (agree_told fun _ _ => ⟨rfl, rfl⟩)

/-- Only through the one interface that is known is the system asked for a session. -/
theorem instantiate {a b : Nat} {manager interface : Guid} (ha : guid a = some manager)
    (hb : guid b = some interface) (context : ServerContext) :
    Mirrors guid closes (fun _ => (· = ·)) (service.instantiate manager interface context)
      (Scripted.service.instantiate a b context) m i := by
  by_cases hi : interface = managerInterface
  · subst hi
    have himage : image guid closes (.instantiate a b context) =
        some (.coCreateInstance manager (contextFlags context) managerInterface) := by
      cases context <;> simp [image, ha, hb, contextFlags]
    have hlike : Like guid closes m (.coCreateInstance manager (contextFlags context) managerInterface)
        (.instantiate a b context)
        (told (fun _ => .success) (m.next.object (m.system.sessions + 1))) := by
      refine .of_object (n := m.system.sessions + 1) himage rfl rfl (fun h => ?_) fun k h => ?_
      · rw [h]
        rfl
      · rw [h]
        rfl
    exact .of_like (b := m.system.sessions + 1) hlike rfl (instantiate_apply m manager context)
      (fun _ => Scripted.instantiate_apply ..) (agree_told fun n hn => ⟨rfl, Outcome.eq_of_object hn⟩)
  · have himage : image guid closes (.instantiate a b context) = none := by
      simp [image, ha, hb, hi]
    refine .of_ran (b := m.system.sessions + 1) (o := .failure .noInterface)
      (instantiate_of_ne m hi manager context) (fun _ => Scripted.instantiate_apply ..) rfl ?_ (.error _)
      (fun kind => by cases kind <;> rfl) rfl ?_
    · rw [List.filterMap_cons_none himage]
      rfl
    · rintro _ _ _ ⟨⟩
      simp [ha, hb]

theorem create (session : Nat) (volume : String) :
    Mirrors guid closes (fun _ => (· = ·)) (service.create session volume)
      (Scripted.service.create session volume) m i := by
  have hlike : Like guid closes m (.createQuota session volume) (.create session volume)
      (told (fun _ => .success) (m.next.object (m.system.records + 1))) := by
    refine .of_object (n := m.system.records + 1) rfl rfl rfl (fun h => ?_) fun k h => ?_
    · rw [h]
      rfl
    · rw [h]
      rfl
  exact .of_like (b := m.system.records + 1) hlike (essential_quoted volume rfl)
    (create_apply m session volume) (fun _ => Scripted.create_apply ..)
    (agree_told fun n hn => ⟨rfl, Outcome.eq_of_object hn⟩)

/-- The answer to a request for a record. -/
def foundAnswer : Option Nat → Scripted.Outcome
  | some _ => .success
  | none => .absent

theorem get (session : Nat) (volume : String) :
    Mirrors guid closes (fun _ => Option.Rel (· = ·)) (service.get session volume)
      (Scripted.service.get session volume) m i := by
  have hlike : Like guid closes m (.getQuota session volume) (.get session volume)
      (told foundAnswer (m.next.found (m.system.records + 1))) := by
    refine .of_object (n := m.system.records + 1) rfl rfl rfl (fun h => ?_) fun k h => ?_
    · rw [Outcome.found, h]
      rfl
    · -- "not found" is no failure, but it ends the asking too
      rw [Outcome.found, h]
      show Scripted.Call.ends _ (told _ (if k = .notFound then .ok none else .error k)) = true
      split <;> rfl
  refine .of_like hlike (b := if told foundAnswer (m.next.found (m.system.records + 1)) = .absent then none
      else some (m.system.records + 1)) (essential_quoted volume rfl) (get_apply m session volume)
    (fun _ => Scripted.get_apply ..) (agree_told fun found hfound => ?_)
  rw [hfound]
  cases found with
  | none => exact ⟨rfl, .none⟩
  | some n => exact ⟨rfl, .some (Outcome.eq_of_found hfound)⟩

theorem setLimit (record : Nat) (limit : UInt64) :
    Mirrors guid closes (fun _ => (· = ·)) (service.setLimit record limit)
      (Scripted.service.setLimit record limit) m i := by
  have hlike : Like guid closes m (.setQuotaLimit record (.ofUnsigned limit)) (.setLimit record limit)
      (told (fun _ => .success) (m.next.settle record)) :=
    ⟨rfl, rfl, rfl, fun kind => by cases kind <;> rfl, rfl⟩
  exact .of_like hlike rfl (setLimit_apply m record limit) (fun _ => Scripted.setLimit_apply ..)
    (agree_told fun _ h => ⟨rfl, Outcome.eq_of_settle h⟩)

theorem limit (record : Nat) :
    Mirrors guid closes (fun _ => (· = ·)) (service.limit record) (Scripted.service.limit record) m i := by
  have hlike : Like guid closes m (.quotaLimit record) (.limit record)
      (told .value (m.next.settle m.next.variant.bits)) :=
    ⟨rfl, rfl, rfl, fun kind => by cases kind <;> rfl, rfl⟩
  refine .of_like (b := (told .value (m.next.settle m.next.variant.bits)).number) hlike
    (essential_readAs _ rfl) (limit_apply m record) (fun _ => Scripted.limit_apply ..)
    (agree_told fun n hn => ⟨rfl, ?_⟩)
  rw [hn]
  rfl

theorem used (record : Nat) :
    Mirrors guid closes (fun _ => (· = ·)) (service.used record) (Scripted.service.used record) m i := by
  have hlike : Like guid closes m (.quotaUsed record) (.used record)
      (told .value (m.next.settle m.next.variant.bits)) :=
    ⟨rfl, rfl, rfl, fun kind => by cases kind <;> rfl, rfl⟩
  refine .of_like (b := (told .value (m.next.settle m.next.variant.bits)).number) hlike
    (essential_readAs _ rfl) (used_apply m record) (fun _ => Scripted.used_apply ..)
    (agree_told fun n hn => ⟨rfl, ?_⟩)
  rw [hn]
  rfl

theorem commit (record : Nat) :
    Mirrors guid closes (fun _ => (· = ·)) (service.commit record)
      (Scripted.service.commit record) m i := by
  have hlike : Like guid closes m (.commit record) (.commit record)
      (told (fun _ => .success) (m.next.settle ())) :=
    ⟨rfl, rfl, rfl, fun kind => by cases kind <;> rfl, rfl⟩
  exact .of_like hlike rfl (commit_apply m record) (fun _ => Scripted.commit_apply ..)
    (agree_told fun _ _ => ⟨rfl, rfl⟩)

end Mirrors
end DiskQuota.Fsrm
