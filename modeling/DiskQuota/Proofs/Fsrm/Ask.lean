import DiskQuota.Fsrm.Service
import DiskQuota.Proofs.Exchange

/-!
The operating system call by call: which calls take an outcome, which hand out an object, and what one
call that can fail comes to and leaves.
-/
namespace DiskQuota.Fsrm

/-- Whether a call takes an outcome. -/
def Call.asks : Call → Bool
  | .closeCom | .sysAllocString _ | .sysFreeString | .variantClear _ | .releaseRecord _
  | .releaseSession _ => false
  | _ => true

/-- Whether a call hands out an object if it succeeds. -/
def Call.handsOut : Call → Bool
  | .coCreateInstance .. | .createQuota .. | .getQuota .. => true
  | _ => false

/-- What the machine has in store. -/
def Machine.store (m : Machine) : List Outcome := m.system.outcomes

/-- The outcome that falls to the next call. -/
def System.next (s : System) : Outcome := s.outcomes.headD .success

theorem ask_apply (c : Call) (s : System) :
    ask c s = ⟨match s.next with
      | .code k => if k.isFailure then .error k else .ok (.code k)
      | o => .ok o, [c], { s with outcomes := s.outcomes.tail }⟩ := by
  obtain ⟨os, n, r, k⟩ := s
  cases os with
  | nil => rfl
  | cons o os => cases o <;> rfl

theorem ne_ok_of_isFailure {k : Status} (h : k.isFailure = true) : k ≠ .ok := by
  rintro rfl
  exact absurd h (by decide)

theorem exchanges_ask {c : Call} (hc : c.asks = true) (s : System) :
    exchanges Call.asks .success s.outcomes ((ask c s).trace.filterMap some) = [(c, s.next)] := by
  rw [ask_apply, List.filterMap_some, exchanges, if_pos hc]
  rfl

theorem ask_taken {c : Call} (hc : c.asks = true) (s : System) :
    (ask c s).state.outcomes = s.outcomes.drop (((ask c s).trace.filterMap some).countP Call.asks) := by
  simp [ask_apply, hc]

end DiskQuota.Fsrm
