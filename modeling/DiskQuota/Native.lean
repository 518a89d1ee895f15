import DiskQuota.Manager
import DiskQuota.Text.Utf16

/-!
The manager for callers that know volumes as addresses of UTF-16 text and results as signed status
codes. A volume is `none` for the null address, and otherwise the units found from the address on;
the first zero unit ends the text. Only a volume that reads as text reaches the manager.
-/
namespace DiskQuota.Native

/-- The text at an address: the units before the first zero, which must be well formed. -/
def readWide : Option (List UInt16) → Except Status String
  | none => .error .pointer
  | some us =>
    match Text.Utf16.decode? (us.takeWhile (· != 0)) with
    | some cs => .ok (String.ofList cs)
    | none => .error .invalidArgument

/-- A call by address. The slot of a read is `none` for the null address, and otherwise holds a
value. -/
inductive Call where
  | setQuota (volume : Option (List UInt16)) (limit : UInt64)
  | getQuotaUsed (volume : Option (List UInt16)) (slot : Option UInt64)
deriving DecidableEq, Repr

/-- The status of a call, and the slot of a read after it. -/
inductive Reply where
  | status (s : Int32)
  | statusAndSlot (s : Int32) (slot : Option UInt64)
deriving DecidableEq

variable {σ ε : Type} (S : Service σ ε) (settings : Settings)

/-- Sets a quota: the status is zero, or the code of the step that failed. -/
def setQuota (volume : Option (List UInt16)) (limit : UInt64) : σ → Ran σ (Entry ε) Int32 :=
  fun s =>
    match readWide volume with
    | .error code => ⟨code.signed, [], s⟩
    | .ok volume =>
      match S.setQuota settings volume limit s with
      | ⟨.ok _, t, s⟩ => ⟨Status.ok.signed, t, s⟩
      | ⟨.error e, t, s⟩ => ⟨e.code.signed, t, s⟩

/-- Reads a volume's use into the slot, which changes only if the read succeeds. A null slot is
noticed before the volume is looked at. -/
def getQuotaUsed (volume : Option (List UInt16)) (slot : Option UInt64) :
    σ → Ran σ (Entry ε) (Int32 × Option UInt64) := fun s =>
  if slot.isNone then ⟨(Status.pointer.signed, slot), [], s⟩
  else
    match readWide volume with
    | .error code => ⟨(code.signed, slot), [], s⟩
    | .ok volume =>
      match S.getQuotaUsed settings volume s with
      | ⟨.ok n, t, s⟩ => ⟨(Status.ok.signed, some n), t, s⟩
      | ⟨.error e, t, s⟩ => ⟨(e.code.signed, slot), t, s⟩

def Call.run : Call → σ → Ran σ (Entry ε) Reply
  | .setQuota volume limit => fun s =>
    let r := Native.setQuota S settings volume limit s
    ⟨.status r.value, r.trace, r.state⟩
  | .getQuotaUsed volume slot => fun s =>
    let r := Native.getQuotaUsed S settings volume slot s
    ⟨.statusAndSlot r.value.1 r.value.2, r.trace, r.state⟩

end DiskQuota.Native
