import DiskQuota.Fsrm.System
import DiskQuota.Native

/-!
The quota service of the file server resource manager. The service counts the contexts that it opened
and closes only those: closing when none is open does nothing, so the teardown after an attempt that
never opened a context undoes nothing. Only one management interface is known; any other is refused
before the operating system is asked. That a volume has no quota is told by one status of one call.
-/
namespace DiskQuota.Fsrm

/-- A service on its operating system. -/
structure Machine where
  /-- The contexts that the service opened and has not closed. -/
  contexts : UInt32
  system : System
deriving DecidableEq

def Machine.initial (outcomes : List Outcome) : Machine := ⟨0, .initial outcomes⟩

/-- Work of the operating system, which leaves the count of contexts alone. -/
def onSystem {φ α : Type} (task : Task System Call φ α) : Task Machine Call φ α := fun m =>
  let r := task m.system
  ⟨r.value, r.trace, { m with system := r.state }⟩

/-- The flag that asks for a threading model. -/
def threadingFlag : Threading → UInt32
  | .apartment => 2
  | .multithreaded => 0

/-- The flags of the places where an object may be hosted. -/
def contextFlags : ServerContext → UInt32
  | .localServer => 4
  | .inProcess => 1
  | .any => 23

/-- The one management interface that the service knows. -/
def managerInterface : Guid where
  digits := [4, 8, 4, 6, 12, 11, 0, 1, 13, 4, 3, 0, 4, 9, 4, 15, 10, 11, 11, 4, 11, 1, 0, 5, 4, 9,
    9, 9, 15, 11, 0, 9]
  length_digits := rfl

def openContext (threading : Threading) : Task Machine Call Status Unit := do
  let _ ← onSystem (ask (.openCom (threadingFlag threading)))
  .step fun m => (.ok (), { m with contexts := m.contexts + 1 })

def closeContext (m : Machine) : Ran Machine Call Unit :=
  if m.contexts > 0 then ⟨(), [.closeCom], { m with contexts := m.contexts - 1 }⟩
  else ⟨(), [], m⟩

def instantiate (manager interface : Guid) (context : ServerContext) :
    Task Machine Call Status Nat :=
  if interface = managerInterface then
    onSystem (coCreateInstance manager (contextFlags context) interface)
  else .fail .noInterface

/-- The record of a volume. The status "not found" of this call means that there is none. -/
def getRecord (session : Nat) (volume : String) : Task Machine Call Status (Option Nat) := fun m =>
  match onSystem (getQuota session volume) m with
  | ⟨.ok record, t, m⟩ => ⟨.ok (some record), t, m⟩
  | ⟨.error code, t, m⟩ => ⟨if code = .notFound then .ok none else .error code, t, m⟩

def service : Service Machine Call where
  Ident := Guid
  Session := Nat
  Record := Nat
  resolve text := onSystem (iidFromString text)
  openContext := openContext
  instantiate := instantiate
  create session volume := onSystem (createQuota session volume)
  get := getRecord
  setLimit record limit := do
    let _ ← onSystem (ask (.setQuotaLimit record (.ofUnsigned limit)))
    return record
  limit record := onSystem (readUnsigned (.quotaLimit record))
  used record := onSystem (readUnsigned (.quotaUsed record))
  commit record := do
    let _ ← onSystem (ask (.commit record))
  releaseRecord record m := ⟨(), [.releaseRecord record], m⟩
  releaseSession session m := ⟨(), [.releaseSession session], m⟩
  closeContext := closeContext

/-- Work on a service of its own, with no context open, which shares nothing but the operating
system with the service at hand. -/
def alone {α : Type} (work : Machine → Ran Machine (Entry Call) α) :
    Machine → Ran Machine (Entry Call) α := fun m =>
  let r := work ⟨0, m.system⟩
  ⟨r.value, r.trace, { m with system := r.state.system }⟩

/-- One operation on a service of its own, with the default settings. -/
def runAlone (op : Operation) : Machine → Ran Machine (Entry Call) (Except StepError Answer) :=
  alone (op.run service .default)

/-- One call by address on a service of its own, with the default settings. -/
def exported (call : Native.Call) : Machine → Ran Machine (Entry Call) Native.Reply :=
  alone (call.run service .default)

/-- What can be asked of the service beside the manager's operations. -/
inductive Control where
  | resolveIdentifier (text : String)
  | openContext (threading : Threading)
  | closeContext
  /-- An operation on a service of its own. -/
  | alone (op : Operation)
  /-- A call by address on a service of its own. -/
  | exported (call : Native.Call)
deriving DecidableEq

inductive Control.Reply where
  | identifier (r : Except Status Guid)
  | opened (r : Except Status Unit)
  | closed
  | answer (r : Except StepError Answer)
  | status (r : Native.Reply)

def Control.run : Control → Machine → Ran Machine (Entry Call) Control.Reply
  | resolveIdentifier text => fun m =>
    let r := service.resolve text m
    ⟨.identifier r.value, r.trace.map .call, r.state⟩
  | openContext threading => fun m =>
    let r := service.openContext threading m
    ⟨.opened r.value, r.trace.map .call, r.state⟩
  | closeContext => fun m =>
    let r := service.closeContext m
    ⟨.closed, r.trace.map .call, r.state⟩
  | alone op => fun m =>
    let r := runAlone op m
    ⟨.answer r.value, r.trace, r.state⟩
  | exported call => fun m =>
    let r := Fsrm.exported call m
    ⟨.status r.value, r.trace, r.state⟩

end DiskQuota.Fsrm
