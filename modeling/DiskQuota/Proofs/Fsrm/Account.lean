import DiskQuota.Proofs.Fsrm.Ask
import Mathlib.Data.List.Basic

/-!
What the calls of a trace amount to. Read together with the outcomes in store, a trace tells which
contexts it opened and closed and which objects it was handed out (`tally`), and with that the state
that it leaves (`Machine.after`). Strings and tagged values are looked after by calls that take no
outcome and change nothing of this; `essential` leaves them out.
-/
namespace DiskQuota.Fsrm

/-- What the operating system can hand out. -/
inductive Object where
  | session
  | record
deriving DecidableEq

/-- The code of an outcome that is a failure: its top bit is set. -/
def Outcome.failure? : Outcome → Option Status
  | .code k => if 0x80000000 ≤ k.code then some k else none
  | _ => none

/-- Whether a call is about the context of the thread. -/
def Call.onContext : Call → Bool
  | .closeCom | .openCom _ => true
  | _ => false

/-- What a call hands out if all goes well. -/
def Call.yields : Call → Option Object
  | .coCreateInstance .. => some .session
  | .createQuota .. | .getQuota .. => some .record
  | _ => none

/-- Whether a call opens a context when it turns out so. Every success counts, whatever its code. -/
def Call.opens : Call → Outcome → Bool
  | .openCom _, o => o.failure?.isNone
  | _, _ => false

/-- Whether a call hands out an object of a kind when it turns out so. -/
def Call.gives (kind : Object) (c : Call) (o : Outcome) : Bool :=
  c.yields = some kind && o.failure?.isNone && o != .nullObject

/-- Whether a call is more than care for a string or a tagged value. -/
def Call.essential : Call → Bool
  | .sysFreeString | .sysAllocString _ | .variantClear _ => false
  | _ => true

/-- A trace without the care for strings and tagged values. -/
def essential (t : List Call) : List Call := t.filter Call.essential

/-- How many calls of a trace turned out as said, given the outcomes that were in store. -/
def tally (f : Call → Outcome → Bool) (os : List Outcome) (t : List Call) : Nat :=
  (exchanges Call.asks .success os t).countP fun x => f x.1 x.2

/-- The system that a trace leaves. -/
def System.after (s : System) (t : List Call) : System where
  outcomes := s.outcomes.drop (t.countP Call.asks)
  sessions := s.sessions + tally (Call.gives .session) s.outcomes t
  records := s.records + tally (Call.gives .record) s.outcomes t
  clearing := s.clearing

/-- The machine that a trace leaves: its count went up for every context that was opened and down for
every one that was closed. -/
def Machine.after (m : Machine) (t : List Call) : Machine where
  contexts := m.contexts + .ofNat (tally Call.opens m.store t) - .ofNat (t.count .closeCom)
  system := m.system.after t

/-- How many objects of a kind exist. -/
def System.existing (s : System) : Object → Nat
  | .session => s.sessions
  | .record => s.records

theorem failure?_code (k : Status) :
    (Outcome.code k).failure? = if k.isFailure then some k else none := by
  simp [Outcome.failure?, Status.isFailure]

theorem Call.opens_of_not_onContext {c : Call} (h : c.onContext = false) (o : Outcome) :
    c.opens o = false := by
  cases c <;> first | rfl | cases h

theorem Call.ne_closeCom {c : Call} (h : c.onContext = false) : c ≠ .closeCom := by
  rintro rfl
  cases h

@[simp] theorem essential_append (t t' : List Call) :
    essential (t ++ t') = essential t ++ essential t' := List.filter_append ..

section

variable (f : Call → Outcome → Bool) (os : List Outcome)

@[simp] theorem tally_nil : tally f os [] = 0 := rfl

theorem tally_cons (c : Call) (t : List Call) : tally f os (c :: t) =
    if c.asks then (if f c (os.headD .success) then 1 else 0) + tally f os.tail t
    else tally f os t := by
  rw [tally, exchanges]
  split
  · rw [List.countP_cons, Nat.add_comm]
    rfl
  · rfl

theorem tally_append (t t' : List Call) :
    tally f os (t ++ t') = tally f os t + tally f (os.drop (t.countP Call.asks)) t' := by
  rw [tally, exchanges_append, List.countP_append]
  rfl

theorem essential_of_asks {c : Call} (h : c.asks = true) : c.essential = true := by
  cases c <;> first | rfl | cases h

/-- What is left out takes no outcome. -/
theorem tally_essential (t : List Call) : tally f os (essential t) = tally f os t := by
  induction t generalizing os with
  | nil => rfl
  | cons c t ih =>
    by_cases hc : c.essential = true
    · rw [essential, List.filter_cons_of_pos hc, tally_cons, tally_cons]
      simp only [← ih]
      rfl
    · have hasks : c.asks = false := Bool.eq_false_iff.2 fun h => hc (essential_of_asks h)
      rw [essential, List.filter_cons_of_neg hc, tally_cons, hasks, if_neg Bool.false_ne_true, ← ih]
      rfl

theorem countP_asks_essential (t : List Call) :
    (essential t).countP Call.asks = t.countP Call.asks := by
  rw [essential, List.countP_filter]
  refine List.countP_congr fun c _ => ?_
  simp only [Bool.and_eq_true, and_iff_left_iff_imp]
  exact essential_of_asks

/-- A trace without a call of the kind that counts has a tally of zero. -/
theorem tally_eq_zero {t : List Call} (h : ∀ c ∈ t, ∀ o, f c o = false) : tally f os t = 0 := by
  induction t generalizing os with
  | nil => rfl
  | cons c t ih =>
    have hc : f c (os.headD .success) = false := h c (by simp) _
    have ht : ∀ os, tally f os t = 0 := fun os => ih os fun d hd => h d (by simp [hd])
    rw [tally_cons, hc, ht, ht]
    split <;> rfl

/-- A tally counts some of the calls of the kind. -/
theorem tally_le_countP {p : Call → Bool} (h : ∀ c o, f c o = true → p c = true) (t : List Call) :
    tally f os t ≤ t.countP p := by
  induction t generalizing os with
  | nil => exact Nat.le_refl 0
  | cons c t ih =>
    have hhead : (if f c (os.headD .success) then 1 else 0) ≤ if p c then 1 else 0 := by
      split
      · next hf => simp [h c _ hf]
      · exact Nat.zero_le _
    rw [tally_cons, List.countP_cons]
    split
    · have := ih os.tail
      omega
    · have := ih os
      omega

end

namespace System

variable (s : System) (t t' : List Call)

@[simp] theorem after_nil : s.after [] = s := rfl

theorem after_append : s.after (t ++ t') = (s.after t).after t' := by
  simp [after, tally_append, List.countP_append, Nat.add_assoc]

theorem after_essential : s.after (essential t) = s.after t := by
  simp [after, tally_essential, countP_asks_essential]

theorem existing_after (kind : Object) :
    (s.after t).existing kind = s.existing kind + tally (Call.gives kind) s.outcomes t := by
  cases kind <;> rfl

end System

namespace Machine

variable (m : Machine) (t t' : List Call)

@[simp] theorem after_nil : m.after [] = m := by
  simp [after]

theorem after_append : m.after (t ++ t') = (m.after t).after t' := by
  have hstore : (m.after t).store = m.store.drop (t.countP Call.asks) := rfl
  rw [after, after, hstore, tally_append, List.count_append, System.after_append]
  congr 1
  rw [UInt32.ofNat_add, UInt32.ofNat_add]
  show _ = m.contexts + _ - _ + _ - _
  grind

end Machine
end DiskQuota.Fsrm
