import DiskQuota.Quotas
import DiskQuota.Service

/-!
A quota service that records every call and keeps committed limits by volume. It fails on demand: at
one step at a time, with a chosen code, and on request also where a quota is created for a volume that
has one. A call is recorded before it fails. Of the two identifiers of an attempt the first is taken
for the class and those after it for the interface; closing the context ends the attempt.
-/
namespace DiskQuota.Recording

inductive Call where
  | resolveIdentifier (text : String)
  | initializeContext (threading : Threading)
  | instantiate (context : ServerContext)
  | createQuota (volume : String)
  | getQuota (volume : String)
  | setLimit (limit : UInt64)
  | readLimit
  | readUsed
  | commit
  | releaseRecord
  | releaseSession
  | uninitializeContext
deriving DecidableEq, Repr

structure State where
  /-- The step that fails, and with which code. -/
  failure : Option (Step × Status)
  /-- Whether creating a quota is refused where there is one. -/
  rejectExisting : Bool
  /-- The identifiers asked for since the last context was closed. -/
  resolved : Nat
  quotas : Quotas
deriving DecidableEq

def State.initial : State := ⟨none, false, 0, .empty⟩

/-- A record handle: its volume and a limit that is not committed yet. -/
structure Record where
  volume : String
  pending : Option UInt64
deriving DecidableEq

/-- Fails if this is the step to fail at. -/
def check (step : Step) : Task State Call Status Unit :=
  .step fun s =>
    match s.failure with
    | some (failing, code) => (if failing = step then .error code else .ok (), s)
    | none => (.ok (), s)

/-- Records a call and then fails if its step is the one to fail at. -/
def call (c : Call) (step : Step) : Task State Call Status Unit := do
  .record c
  check step

/-- The step of the identifier asked for next. -/
def State.nextIdentifier (s : State) : Step :=
  if s.resolved = 0 then .resolveManagerClass else .resolveManagerInterface

def resolve (text : String) : Task State Call Status String := do
  .record (.resolveIdentifier text)
  let step ← .step fun s => (.ok s.nextIdentifier, { s with resolved := s.resolved + 1 })
  check step
  return text

def create (volume : String) : Task State Call Status Record := do
  call (.createQuota volume) .createRecord
  .step fun s =>
    (if s.rejectExisting && s.quotas.contains volume then .error .alreadyExists
      else .ok ⟨volume, none⟩, s)

def get (volume : String) : Task State Call Status (Option Record) := do
  call (.getQuota volume) .getRecord
  .step fun s => (.ok (if s.quotas.contains volume then some ⟨volume, none⟩ else none), s)

/-- The committed quota of a volume, nothing at all if it has none. -/
def State.stored (s : State) (volume : String) : Quota := (s.quotas.get? volume).getD ⟨0, 0⟩

def setLimit (r : Record) (limit : UInt64) : Task State Call Status Record := do
  call (.setLimit limit) .setLimit
  return { r with pending := some limit }

def limit (r : Record) : Task State Call Status UInt64 := do
  call .readLimit .readLimit
  .step fun s => (.ok (r.pending.getD (s.stored r.volume).limit), s)

def used (r : Record) : Task State Call Status UInt64 := do
  call .readUsed .readUsed
  .step fun s => (.ok (s.stored r.volume).used, s)

/-- Makes the pending limit the committed one; the use of the volume stays. -/
def commit (r : Record) : Task State Call Status Unit := do
  call .commit .commit
  .step fun s =>
    let old := s.stored r.volume
    (.ok (), { s with quotas := s.quotas.insert r.volume ⟨r.pending.getD old.limit, old.used⟩ })

def service : Service State Call where
  Ident := String
  Session := Unit
  Record := Record
  resolve := resolve
  openContext threading := call (.initializeContext threading) .initializeContext
  instantiate _ _ context := call (.instantiate context) .instantiateSession
  create _ := create
  get _ := get
  setLimit := setLimit
  limit := limit
  used := used
  commit := commit
  releaseRecord _ s := ⟨(), [.releaseRecord], s⟩
  releaseSession _ s := ⟨(), [.releaseSession], s⟩
  closeContext s := ⟨(), [.uninitializeContext], { s with resolved := 0 }⟩

/-- What can be asked of the service beside the manager's operations. -/
inductive Control where
  /-- Fail at this step from now on, and at no other. -/
  | failAt (step : Step) (code : Status)
  /-- Refuse from now on to create a quota where there is one. -/
  | rejectExisting
  /-- Give a volume a quota. -/
  | withQuota (volume : String) (quota : Quota)
  | storedLimit (volume : String)
  /-- How often a call was made so far. -/
  | count (call : Call)
deriving DecidableEq

inductive Control.Reply where
  | done
  | limit (l : Option UInt64)
  | count (n : Nat)
deriving DecidableEq

def State.storedLimit (s : State) (volume : String) : Option UInt64 :=
  (s.quotas.get? volume).map Quota.limit

/-- Answers a control, given all calls made so far. -/
def Control.run (past : List Call) : Control → State → Control.Reply × State
  | failAt step code, s => (.done, { s with failure := some (step, code) })
  | rejectExisting, s => (.done, { s with rejectExisting := true })
  | withQuota volume quota, s => (.done, { s with quotas := s.quotas.insert volume quota })
  | storedLimit volume, s => (.limit (s.storedLimit volume), s)
  | count c, s => (.count (past.count c), s)

end DiskQuota.Recording
