import DiskQuota.Proofs.Exchange
import DiskQuota.Scripted

/-!
The scripted service call by call. A turn is a call that is due at a step together with the outcome that
falls to it. `played` plays a list of due calls from a state: up to and with the first that fails or,
where a record is asked for, finds none. `State.after` is the state that a list of turns leaves, and
every call of the service is brought into one form (`answered`), so that nothing below it is opened
again.
-/
namespace DiskQuota.Scripted

/-- Whether a call takes an outcome; the releases do not. -/
def Call.asks : Call → Bool
  | .releaseRecord _ | .releaseSession _ | .closeContext => false
  | _ => true

/-- The code of an outcome that is a failure. -/
def Outcome.code? : Outcome → Option Status
  | failure code => some code
  | _ => none

/-- Whether nothing more can be asked once the call turned out so: it failed, or there is no record to
go on with. -/
def Call.ends : Call → Outcome → Bool
  | _, .failure _ => true
  | .get .., .absent => true
  | _, _ => false

/-- Only where a record is asked for is there another way to end than to fail. -/
theorem Call.ends_eq {c : Call} (hc : ∀ session volume, c ≠ .get session volume) (o : Outcome) :
    c.ends o = o.code?.isSome := by
  cases c with
  | get session volume => exact absurd rfl (hc session volume)
  | _ => cases o <;> rfl

theorem Call.ends_of_code? {c : Call} {o : Outcome} {code : Status} (h : o.code? = some code) :
    c.ends o = true := by
  cases o <;> simp_all [Outcome.code?, Call.ends]

/-- What a call can hand out. -/
inductive Handle where
  | identifier
  | session
  | record
deriving DecidableEq

/-- What a call hands out if it succeeds. -/
def Call.yields : Call → Option Handle
  | .resolve _ => some .identifier
  | .instantiate .. => some .session
  | .create .. | .get .. => some .record
  | _ => none

/-- Whether a call hands something out when it turns out so. -/
def Call.gives (h : Handle) (c : Call) (o : Outcome) : Bool := c.yields = some h && !c.ends o

/-- A call that is due at a step. -/
structure Due where
  step : Step
  call : Call
deriving DecidableEq

/-- A due call and the outcome that fell to it. -/
structure Turn extends Due where
  outcome : Outcome
deriving DecidableEq

namespace Turn

def ends (x : Turn) : Bool := x.call.ends x.outcome

def gives (h : Handle) (x : Turn) : Bool := x.call.gives h x.outcome

/-- The error of a turn that failed. -/
def error? (x : Turn) : Option StepError := x.outcome.code?.map (.ofStep x.step)

/-- What can be told of a turn from outside. -/
def exchange (x : Turn) : Call × Outcome := (x.call, x.outcome)

theorem code?_eq_none {x : Turn} (h : x.ends = false) : x.outcome.code? = none := by
  cases hcode : x.outcome.code? with
  | none => rfl
  | some code =>
    rw [ends, Call.ends_of_code? hcode] at h
    cases h

/-- A turn after which the asking goes on did not fail. -/
theorem error?_eq_none {x : Turn} (h : x.ends = false) : x.error? = none := by
  rw [error?, code?_eq_none h]
  rfl

end Turn

/-- The outcome that falls to the next call. -/
def State.next (s : State) : Outcome := s.outcomes.headD .success

/-- The state that a list of turns leaves: their outcomes are taken, and what they hand out exists. -/
def State.after (s : State) (m : List Turn) : State where
  outcomes := s.outcomes.drop m.length
  identifiers := s.identifiers + m.countP (Turn.gives .identifier)
  sessions := s.sessions + m.countP (Turn.gives .session)
  records := s.records + m.countP (Turn.gives .record)

@[simp] theorem State.after_nil (s : State) : s.after [] = s := by simp [State.after]

theorem State.after_append (s : State) (m m' : List Turn) :
    s.after (m ++ m') = (s.after m).after m' := by
  simp [State.after, List.countP_append, Nat.add_assoc]

theorem State.after_cons (s : State) (x : Turn) (m : List Turn) :
    s.after (x :: m) = (s.after [x]).after m := s.after_append [x] m

/-- The due calls with the outcomes that fall to them if all are made. -/
def turns : List Due → List Outcome → List Turn
  | [], _ => []
  | d :: ds, os => ⟨d, os.headD .success⟩ :: turns ds os.tail

theorem toDue_turns (ds : List Due) (os : List Outcome) : (turns ds os).map (·.toDue) = ds := by
  induction ds generalizing os with
  | nil => rfl
  | cons d ds ih => simp [turns, ih]

/-- The turns that come of the due calls: all up to the first that leaves nothing to ask. -/
def played (ds : List Due) (s : State) : List Turn := cutAfter Turn.ends (turns ds s.outcomes)

@[simp] theorem played_nil (s : State) : played [] s = [] := rfl

theorem played_cons (d : Due) (ds : List Due) (s : State) :
    played (d :: ds) s = ⟨d, s.next⟩ ::
      if d.call.ends s.next then [] else played ds (s.after [⟨d, s.next⟩]) := by
  have hrest : (s.after [⟨d, s.next⟩]).outcomes = s.outcomes.tail := by simp [State.after]
  rw [played, played, hrest, turns, cutAfter, apply_ite (List.cons _)]
  rfl

/-- Later calls are made only if nothing ended the earlier ones. -/
theorem played_append (ds ds' : List Due) (s : State) :
    played (ds ++ ds') s = if (played ds s).any Turn.ends then played ds s
      else played ds s ++ played ds' (s.after (played ds s)) := by
  induction ds generalizing s with
  | nil => simp
  | cons d ds ih =>
    rw [List.cons_append, played_cons, played_cons]
    by_cases h : d.call.ends s.next = true
    · simp [h, Turn.ends]
    · have hx : Turn.ends ⟨d, s.next⟩ = false := by simpa [Turn.ends] using h
      rw [if_neg h, if_neg h, ih, List.any_cons, hx, Bool.false_or,
        s.after_cons _ (played ds _)]
      split <;> rfl

theorem toDue_played (ds : List Due) (s : State) : (played ds s).map (·.toDue) <+: ds := by
  have h := (cutAfter_prefix_self Turn.ends (turns ds s.outcomes)).map (·.toDue)
  rwa [toDue_turns] at h

/-- What is told of the calls that were made is told, in order, of those that are due. -/
theorem map_played_sublist {α : Type} (f : Due → α) (ds : List Due) (s : State) :
    ((played ds s).map fun x => f x.toDue).Sublist (ds.map f) := by
  have h := (toDue_played ds s).map f
  rw [List.map_map] at h
  exact h.sublist

theorem mem_of_mem_played {ds : List Due} {s : State} {x : Turn} (h : x ∈ played ds s) :
    x.toDue ∈ ds := by
  have hx : x ∈ turns ds s.outcomes := (cutAfter_prefix_self _ _).subset h
  rw [← toDue_turns ds s.outcomes]
  exact List.mem_map_of_mem hx

/-- Turns as they fall to the calls can be told from the calls and the outcomes alone. -/
theorem exchanges_turns {ds : List Due} {os : List Outcome} {m : List Turn} (hm : m <+: turns ds os)
    (hds : ∀ d ∈ ds, d.call.asks = true) :
    exchanges Call.asks .success os (m.map (·.call)) = m.map Turn.exchange := by
  induction ds generalizing os m with
  | nil =>
    rw [List.prefix_nil.1 hm]
    rfl
  | cons d ds ih =>
    rcases List.prefix_cons_iff.1 hm with rfl | ⟨m, rfl, hrest⟩
    · rfl
    · rw [List.map_cons, List.map_cons, exchanges, if_pos (hds d (by simp)),
        ih hrest fun e he => hds e (by simp [he])]
      rfl

theorem exchanges_played {ds : List Due} (s : State) (hds : ∀ d ∈ ds, d.call.asks = true) :
    exchanges Call.asks .success s.outcomes ((played ds s).map (·.call)) =
      (played ds s).map Turn.exchange :=
  exchanges_turns (cutAfter_prefix_self _ _) hds

/-- What a list of turns comes to: the first error, or else the answer. -/
def verdict {α : Type} (m : List Turn) (a : α) : Except StepError α :=
  match m.findSome? Turn.error? with
  | some e => .error e
  | none => .ok a

section

variable {α β : Type}

theorem verdict_cons (x : Turn) (m : List Turn) (a : α) :
    verdict (x :: m) a = match x.error? with
      | some e => .error e
      | none => verdict m a := by
  rw [verdict, List.findSome?_cons]
  cases x.error? <;> rfl

theorem verdict_append {m m' : List Turn} (h : m.any Turn.ends = false) (a : α) :
    verdict (m ++ m') a = verdict m' a := by
  induction m with
  | nil => rfl
  | cons x m ih =>
    rw [List.any_cons, Bool.or_eq_false_iff] at h
    rw [List.cons_append, verdict_cons, Turn.error?_eq_none h.1]
    exact ih h.2

/-- Where only failures end the asking, the verdict is an error exactly if something did. -/
theorem verdict_cases {m : List Turn} (hm : ∀ x ∈ m, x.ends = x.error?.isSome) (a : α) (b : β) :
    (m.any Turn.ends = true ∧ ∃ e, verdict m a = .error e ∧ verdict m b = .error e) ∨
      (m.any Turn.ends = false ∧ verdict m a = .ok a) := by
  induction m with
  | nil => exact .inr ⟨rfl, rfl⟩
  | cons x m ih =>
    have hx := hm x (by simp)
    simp only [verdict_cons, List.any_cons, hx]
    cases he : x.error? with
    | some e => exact .inl ⟨by simp, e, rfl, rfl⟩
    | none => simpa using ih fun y hy => hm y (by simp [hy])

/-- The error of a failure is what played turns come to: no other turn of them failed. -/
theorem verdict_played {ds : List Due} {s : State} {x : Turn} (hx : x ∈ played ds s) {code : Status}
    (hcode : x.outcome = .failure code) (a : α) :
    verdict (played ds s) a = .error (.ofStep x.step code) := by
  induction ds generalizing s with
  | nil => exact absurd hx List.not_mem_nil
  | cons d ds ih =>
    rw [played_cons] at hx ⊢
    rcases List.mem_cons.1 hx with rfl | hx
    · rw [verdict_cons, Turn.error?, hcode]
      rfl
    · -- a later turn was made, so this one did not fail
      split at hx
      · exact absurd hx List.not_mem_nil
      · next hends =>
        have herror : Turn.error? ⟨d, s.next⟩ = none := Turn.error?_eq_none (Bool.eq_false_iff.2 hends)
        rw [verdict_cons, herror, if_neg hends]
        exact ih hx

/-- What a call comes to that fails as its outcome says, and else gives `a`. -/
def answered (c : Call) (s : State) (a : α) (s' : State) : Ran State Call (Except Status α) :=
  match s.next with
  | .failure code => ⟨.error code, [c], s'⟩
  | _ => ⟨.ok a, [c], s'⟩

@[simp] theorem answered_trace (c : Call) (s : State) (a : α) (s' : State) :
    (answered c s a s').trace = [c] := by
  unfold answered
  split <;> rfl

@[simp] theorem answered_state (c : Call) (s : State) (a : α) (s' : State) :
    (answered c s a s').state = s' := by
  unfold answered
  split <;> rfl

theorem answered_value (c : Call) (s : State) (a : α) (s' : State) :
    (answered c s a s').value = match s.next.code? with
      | some code => .error code
      | none => .ok a := by
  unfold answered
  cases s.next <;> rfl

end

/-! Every call of the service, from any state and due at any step. -/

theorem take_eq (s : State) :
    s.take = (match s.next with | .failure code => .error code | o => .ok o,
      { s with outcomes := s.outcomes.tail }) := by
  obtain ⟨os, i, n, r⟩ := s
  cases os with
  | nil => rfl
  | cons o os => cases o <;> rfl

theorem ask_apply (c : Call) (s : State) :
    ask c s = ⟨match s.next with | .failure code => .error code | o => .ok o, [c],
      { s with outcomes := s.outcomes.tail }⟩ := by
  simp only [ask, Task.bind_apply, Task.record_apply, Task.step_apply, take_eq]
  rfl

section

variable (p : Step) (s : State)

theorem resolve_apply (text : String) :
    service.resolve text s = answered (.resolve text) s (s.identifiers + 1)
      (s.after [⟨⟨p, .resolve text⟩, s.next⟩]) := by
  simp only [service, Task.bind_apply, ask_apply, newIdentifier, answered, State.after]
  cases h : s.next <;> simp [Turn.gives, Call.gives, Call.yields, Call.ends]

theorem instantiate_apply (manager interface : Nat) (context : ServerContext) :
    service.instantiate manager interface context s =
      answered (.instantiate manager interface context) s (s.sessions + 1)
        (s.after [⟨⟨p, .instantiate manager interface context⟩, s.next⟩]) := by
  simp only [service, Task.bind_apply, ask_apply, newSession, answered, State.after]
  cases h : s.next <;> simp [Turn.gives, Call.gives, Call.yields, Call.ends]

theorem create_apply (n : Nat) (volume : String) :
    service.create n volume s = answered (.create n volume) s (s.records + 1)
      (s.after [⟨⟨p, .create n volume⟩, s.next⟩]) := by
  simp only [service, Task.bind_apply, ask_apply, newRecord, answered, State.after]
  cases h : s.next <;> simp [Turn.gives, Call.gives, Call.yields, Call.ends]

theorem get_apply (n : Nat) (volume : String) :
    service.get n volume s =
      answered (.get n volume) s (if s.next = .absent then none else some (s.records + 1))
        (s.after [⟨⟨p, .get n volume⟩, s.next⟩]) := by
  simp only [service, get, Task.bind_apply, ask_apply, newRecord, answered, State.after]
  cases h : s.next <;> simp [Turn.gives, Call.gives, Call.yields, Call.ends, Task.bind_apply]

/-- A call that hands nothing out, and what is made of its outcome. -/
theorem ask_return {α : Type} {c : Call} (hc : c.yields = none) (k : Outcome → α) :
    (do return k (← ask c)) s = answered c s (k s.next) (s.after [⟨⟨p, c⟩, s.next⟩]) := by
  simp only [Task.bind_apply, ask_apply, answered, State.after]
  cases h : s.next <;> simp [Turn.gives, Call.gives, hc]

theorem openContext_apply (threading : Threading) :
    service.openContext threading s = answered (.openContext threading) s ()
      (s.after [⟨⟨p, .openContext threading⟩, s.next⟩]) :=
  ask_return p s rfl fun _ => ()

theorem setLimit_apply (n : Nat) (limit : UInt64) :
    service.setLimit n limit s = answered (.setLimit n limit) s n
      (s.after [⟨⟨p, .setLimit n limit⟩, s.next⟩]) :=
  ask_return p s rfl fun _ => n

theorem commit_apply (n : Nat) :
    service.commit n s = answered (.commit n) s () (s.after [⟨⟨p, .commit n⟩, s.next⟩]) :=
  ask_return p s rfl fun _ => ()

theorem limit_apply (n : Nat) :
    service.limit n s = answered (.limit n) s s.next.number (s.after [⟨⟨p, .limit n⟩, s.next⟩]) :=
  ask_return p s rfl Outcome.number

theorem used_apply (n : Nat) :
    service.used n s = answered (.used n) s s.next.number (s.after [⟨⟨p, .used n⟩, s.next⟩]) :=
  ask_return p s rfl Outcome.number

end

end DiskQuota.Scripted
