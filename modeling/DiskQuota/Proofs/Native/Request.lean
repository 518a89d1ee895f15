import DiskQuota.Native
import Mathlib.Logic.Basic

/-!
Calls by address as requests to the manager. A call either asks for one operation or is refused with a
status before the manager hears of it (`Call.operation`), and its reply is made from what the
operation came to (`Call.reply`); nothing else happens on the way (`Call.run_eq`).
-/
namespace DiskQuota.Native

/-- The operation that a call asks the manager for, or the status that it is refused with. -/
def Call.operation : Call → Except Status Operation
  | .setQuota volume limit => (readWide volume).map (Operation.setQuota · limit)
  | .getQuotaUsed _ none => .error .pointer
  | .getQuotaUsed volume (some _) => (readWide volume).map .getQuotaUsed

/-- Where a call finds its volume. -/
def Call.address : Call → Option (List UInt16)
  | .setQuota volume _ | .getQuotaUsed volume _ => volume

theorem readWide_of_map {address : Option (List UInt16)} {f : String → Operation} {op : Operation}
    (hf : ∀ v, (f v).volume = v) (h : (readWide address).map f = .ok op) :
    readWide address = .ok op.volume := by
  cases hv : readWide address with
  | error code =>
    rw [hv] at h
    cases h
  | ok v =>
    rw [hv] at h
    cases h
    rw [hf]

/-- An operation is on the volume that the call finds at its address. -/
theorem Call.readWide_address {call : Call} {op : Operation} (h : call.operation = .ok op) :
    readWide call.address = .ok op.volume := by
  cases call with
  | setQuota volume limit => exact readWide_of_map (fun _ => rfl) h
  | getQuotaUsed volume slot =>
    cases slot with
    | none => cases h
    | some n => exact readWide_of_map (fun _ => rfl) h

/-- The slot of a call after a success. Only a count of bytes goes into it. -/
def slotAfter (slot : Option UInt64) : Answer → Option UInt64
  | .bytes n => some n
  | _ => slot

/-- The reply to a call. -/
def Call.reply : Call → Except Status Answer → Reply
  | .setQuota .., .ok _ => .status Status.ok.signed
  | .setQuota .., .error code => .status code.signed
  | .getQuotaUsed _ slot, .ok a => .statusAndSlot Status.ok.signed (slotAfter slot a)
  | .getQuotaUsed _ slot, .error code => .statusAndSlot code.signed slot

variable {σ ε : Type} (S : Service σ ε) (settings : Settings)

/-- A call does what its operation does, and a call that is refused does nothing. -/
theorem Call.run_eq (call : Call) (s : σ) :
    call.run S settings s = match call.operation with
      | .ok op => ⟨call.reply ((op.run S settings s).value.mapError StepError.code),
        (op.run S settings s).trace, (op.run S settings s).state⟩
      | .error code => ⟨call.reply (.error code), [], s⟩ := by
  cases call with
  | setQuota volume limit =>
    cases hv : readWide volume with
    | error code => simp [run, Native.setQuota, operation, reply, hv, Except.map]
    | ok v =>
      simp only [run, Native.setQuota, operation, hv, Except.map, Operation.run, Task.bind_apply]
      generalize S.setQuota settings v limit s = r
      obtain ⟨e | _, t, s'⟩ := r
      · rfl
      · simp only [Task.pure_apply, List.append_nil]
        rfl
  | getQuotaUsed volume slot =>
    cases slot with
    | none => rfl
    | some n =>
      cases hv : readWide volume with
      | error code => simp [run, Native.getQuotaUsed, operation, reply, hv, Except.map]
      | ok v =>
        simp only [run, Native.getQuotaUsed, operation, hv, Except.map, Operation.run, Task.bind_apply]
        generalize S.getQuotaUsed settings v s = r
        obtain ⟨e | bytes, t, s'⟩ := r
        · rfl
        · simp only [Task.pure_apply, List.append_nil]
          rfl

end DiskQuota.Native
