import DiskQuota.Step

/-!
The journal of an operation: the calls it makes of the service and, in order among them, what it
logs. A span stands around each operation and names it. Releases and the teardown are announced by
an event of their own, and so is the failure of a call.
-/
namespace DiskQuota

inductive Level where
  | trace
  | debug
  | error
deriving DecidableEq, Repr

/-- What an operation is about. Spans are logged at level `debug`. -/
inductive Span where
  | setQuota (volume : String) (limit : UInt64)
  | queryUsage (volume : String)
  | describeQuota (volume : String)
deriving DecidableEq, Repr

namespace Span

def name : Span → String
  | setQuota .. => "set_quota"
  | queryUsage _ => "query_usage"
  | describeQuota _ => "describe_quota"

/-- The named values that a span carries. -/
def fields : Span → List (String × String)
  | setQuota volume limit => [("volume", volume), ("limit", toString limit.toNat)]
  | queryUsage volume | describeQuota volume => [("volume", volume)]

def level : Span → Level := fun _ => .debug

end Span

/-- What is worth saying about the course of an operation. -/
inductive Event where
  | sessionAcquired
  | quotaCommitted
  | noQuota
  | callFailed (step : Step) (code : Status)
  | releasingRecord
  | releasingSession
  | tearingDown
deriving DecidableEq, Repr

namespace Event

def level : Event → Level
  | sessionAcquired | quotaCommitted | noQuota => .debug
  | callFailed .. => .error
  | releasingRecord | releasingSession | tearingDown => .trace

def message : Event → String
  | sessionAcquired => "quota session acquired"
  | quotaCommitted => "quota committed"
  | noQuota => "no quota configured"
  | callFailed .. => "quota subsystem call failed"
  | releasingRecord => "releasing quota record"
  | releasingSession => "releasing quota session"
  | tearingDown => "tearing down quota subsystem context"

/-- The named values that an event carries. -/
def fields : Event → List (String × String)
  | callFailed step code => [("step", step.text), ("code", code.text)]
  | _ => []

end Event

/-- An entry of a journal over the calls `ε`. -/
inductive Entry (ε : Type) where
  | call (c : ε)
  | enter (span : Span)
  | exit (span : Span)
  | log (event : Event)
deriving DecidableEq, Repr

namespace Entry

variable {ε : Type}

def call? : Entry ε → Option ε
  | call c => some c
  | _ => none

end Entry

/-- The calls of a journal, without what was logged. -/
def calls {ε : Type} (journal : List (Entry ε)) : List ε := journal.filterMap Entry.call?

section

variable {ε : Type} (journal : List (Entry ε))

@[simp] theorem calls_nil : calls ([] : List (Entry ε)) = [] := rfl

@[simp] theorem calls_cons_call (c : ε) : calls (.call c :: journal) = c :: calls journal := rfl

@[simp] theorem calls_cons_enter (s : Span) : calls (.enter s :: journal) = calls journal := rfl

@[simp] theorem calls_cons_exit (s : Span) : calls (.exit s :: journal) = calls journal := rfl

@[simp] theorem calls_cons_log (e : Event) : calls (.log e :: journal) = calls journal := rfl

end

@[simp] theorem calls_append {ε : Type} (a b : List (Entry ε)) :
    calls (a ++ b) = calls a ++ calls b := List.filterMap_append

@[simp] theorem calls_map_call {ε : Type} (cs : List ε) : calls (cs.map Entry.call) = cs := by
  induction cs with
  | nil => rfl
  | cons c cs ih => simp [ih]

end DiskQuota
