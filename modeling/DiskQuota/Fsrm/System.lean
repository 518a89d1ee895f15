import DiskQuota.Guid
import DiskQuota.Status
import DiskQuota.Task

/-!
The operating system below the file server resource manager, as far as a client can see it: its
functions, each of which takes the next outcome of a list, and the objects that it has handed out. An
outcome is a status code; codes with the top bit set are failures and all others successes. What the
functions do with texts (identifiers end at the first zero character, strings are passed whole) is
fixed here too.
-/
namespace DiskQuota.Fsrm

/-- A tagged value: what kind it is said to be, and its 64 bits. -/
structure Tagged where
  tag : UInt16
  bits : UInt64
deriving DecidableEq, Repr

/-- The tag of an unsigned 64-bit number. -/
def Tagged.unsignedTag : UInt16 := 21

/-- An unsigned 64-bit number. -/
def Tagged.ofUnsigned (n : UInt64) : Tagged := ⟨unsignedTag, n⟩

/-- A call into the operating system. Sessions and records are known by number. -/
inductive Call where
  | iidFromString (text : String)
  | openCom (model : UInt32)
  | closeCom
  | coCreateInstance (manager : Guid) (context : UInt32) (interface : Guid)
  | sysAllocString (text : String)
  | sysFreeString
  | createQuota (session : Nat) (volume : String)
  | getQuota (session : Nat) (volume : String)
  | setQuotaLimit (record : Nat) (limit : Tagged)
  | quotaLimit (record : Nat)
  | quotaUsed (record : Nat)
  | variantClear (tag : UInt16)
  | commit (record : Nat)
  | releaseRecord (record : Nat)
  | releaseSession (session : Nat)
deriving DecidableEq

/-- How a call turns out. An outcome that means nothing to the call it falls to is a success. -/
inductive Outcome where
  | code (c : Status)
  /-- Success, but with no object where one was to be handed out. -/
  | nullObject
  /-- Success of a read, with the value read. -/
  | value (v : Tagged)
  | success
deriving DecidableEq

structure System where
  outcomes : List Outcome
  /-- The sessions and records handed out so far. -/
  sessions : Nat
  records : Nat
  /-- How clearing a tagged value turns out. -/
  clearing : Status
deriving DecidableEq

namespace System

def initial (outcomes : List Outcome) : System := ⟨outcomes, 0, 0, .ok⟩

/-- The next outcome, success past the end of the list. -/
def take (s : System) : Outcome × System :=
  match s.outcomes with
  | [] => (.success, s)
  | o :: rest => (o, { s with outcomes := rest })

end System

/-- Makes a call that fails if its outcome is a failing code. -/
def ask (c : Call) : Task System Call Status Outcome := do
  .record c
  .step fun s =>
    match s.take with
    | (.code c, s) => (if c.isFailure then .error c else .ok (.code c), s)
    | (o, s) => (.ok o, s)

/-- The status of a text that is no identifier. -/
def malformedIdentifier : Status := ⟨0x800401F4⟩

/-- The identifier that a text names; the text ends at the first zero character. -/
def iidFromString (text : String) : Task System Call Status Guid := do
  let text := text.toList.takeWhile (· != '\x00')
  let _ ← ask (.iidFromString (String.ofList text))
  match Guid.ofChars? text with
  | some g => return g
  | none => .fail malformedIdentifier

/-- The status of a success that hands out no object. -/
def noObject : Status := ⟨0⟩

/-- The number of the object that a call hands out. -/
def handedOut (o : Outcome) (next : System → Nat × System) : Task System Call Status Nat :=
  match o with
  | .nullObject => .fail noObject
  | _ => .step fun s => (.ok (next s).1, (next s).2)

def newSession (s : System) : Nat × System :=
  (s.sessions + 1, { s with sessions := s.sessions + 1 })

def newRecord (s : System) : Nat × System :=
  (s.records + 1, { s with records := s.records + 1 })

def coCreateInstance (manager : Guid) (context : UInt32) (interface : Guid) :
    Task System Call Status Nat := do
  handedOut (← ask (.coCreateInstance manager context interface)) newSession

/-- A call with a text as a system string, which exists around that call alone. The empty text needs
no string. -/
def withString {α : Type} (text : String) (call : Task System Call Status α) :
    Task System Call Status α :=
  if text.isEmpty then call
  else do
    .record (.sysAllocString text)
    call.ensuring fun s => ⟨(), [.sysFreeString], s⟩

def createQuota (session : Nat) (volume : String) : Task System Call Status Nat :=
  withString volume do
    handedOut (← ask (.createQuota session volume)) newRecord

def getQuota (session : Nat) (volume : String) : Task System Call Status Nat :=
  withString volume do
    handedOut (← ask (.getQuota session volume)) newRecord

/-- The value of a read that succeeded. -/
def Outcome.tagged : Outcome → Tagged
  | value v => v
  | _ => .ofUnsigned 0

/-- Clears a tagged value. Nothing is left of it, however that turned out. -/
def clear (v : Tagged) : Task System Call Status Status := do
  .record (.variantClear v.tag)
  .step fun s => (.ok s.clearing, s)

@[simp] theorem clear_apply (v : Tagged) (s : System) :
    clear v s = ⟨.ok s.clearing, [.variantClear v.tag], s⟩ := rfl

/-- Makes a read, takes the 64 bits of the value whatever its tag, and clears the value. How the clearing
turned out is not looked at. -/
def readUnsigned (c : Call) : Task System Call Status UInt64 := do
  let v := (← ask c).tagged
  let bits := v.bits
  let _ ← clear v
  return bits

end DiskQuota.Fsrm
