import DiskQuota.Service

/-!
A quota service whose every answer is scripted: each call that can fail takes the next outcome of a
list, and calls past the end of the list succeed. Identifiers, sessions and records are known by
number, in the order in which they came to be, so a trace shows which handle each call was made on.
-/
namespace DiskQuota.Scripted

inductive Call where
  | resolve (text : String)
  | openContext (threading : Threading)
  | instantiate (manager interface : Nat) (context : ServerContext)
  | create (session : Nat) (volume : String)
  | get (session : Nat) (volume : String)
  | setLimit (record : Nat) (limit : UInt64)
  | limit (record : Nat)
  | used (record : Nat)
  | commit (record : Nat)
  | releaseRecord (record : Nat)
  | releaseSession (session : Nat)
  | closeContext
deriving DecidableEq, Repr

/-- How a call turns out. An outcome that means nothing to the call it falls to is a success. -/
inductive Outcome where
  | failure (code : Status)
  /-- No quota is configured. -/
  | absent
  /-- The number that a read answers. -/
  | value (n : UInt64)
  | success
deriving DecidableEq, Repr

structure State where
  outcomes : List Outcome
  /-- The identifiers, sessions and records that exist so far. -/
  identifiers : Nat
  sessions : Nat
  records : Nat
deriving DecidableEq

def State.initial (outcomes : List Outcome) : State := ⟨outcomes, 0, 0, 0⟩

/-- Takes the next outcome, which is the answer unless it is a failure. -/
def State.take (s : State) : Except Status Outcome × State :=
  match s.outcomes with
  | [] => (.ok .success, s)
  | .failure code :: rest => (.error code, { s with outcomes := rest })
  | o :: rest => (.ok o, { s with outcomes := rest })

/-- Makes a call and takes its outcome. -/
def ask (c : Call) : Task State Call Status Outcome := do
  .record c
  .step State.take

def newIdentifier : Task State Call Status Nat :=
  .step fun s => (.ok (s.identifiers + 1), { s with identifiers := s.identifiers + 1 })

def newSession : Task State Call Status Nat :=
  .step fun s => (.ok (s.sessions + 1), { s with sessions := s.sessions + 1 })

def newRecord : Task State Call Status Nat :=
  .step fun s => (.ok (s.records + 1), { s with records := s.records + 1 })

/-- The number of an outcome, zero if it has none. -/
def Outcome.number : Outcome → UInt64
  | value n => n
  | _ => 0

def get (session : Nat) (volume : String) : Task State Call Status (Option Nat) := do
  match ← ask (.get session volume) with
  | .absent => return none
  | _ => return some (← newRecord)

def service : Service State Call where
  Ident := Nat
  Session := Nat
  Record := Nat
  resolve text := do
    let _ ← ask (.resolve text)
    newIdentifier
  openContext threading := do
    let _ ← ask (.openContext threading)
  instantiate manager interface context := do
    let _ ← ask (.instantiate manager interface context)
    newSession
  create session volume := do
    let _ ← ask (.create session volume)
    newRecord
  get := get
  setLimit record limit := do
    let _ ← ask (.setLimit record limit)
    return record
  limit record := do return (← ask (.limit record)).number
  used record := do return (← ask (.used record)).number
  commit record := do
    let _ ← ask (.commit record)
  releaseRecord record s := ⟨(), [.releaseRecord record], s⟩
  releaseSession session s := ⟨(), [.releaseSession session], s⟩
  closeContext s := ⟨(), [.closeContext], s⟩

end DiskQuota.Scripted
