import DiskQuota.Service
import DiskQuota.Usage

/-!
The operations of a quota manager over any service. Each has a session of its own and keeps nothing
from one call to the next: what an operation does is decided by the settings and the service alone.
The steps of an operation run in order and the first that fails ends it.
-/
namespace DiskQuota

namespace Service

variable {σ ε : Type} (S : Service σ ε) (settings : Settings)

/-- Sets the limit of a volume, creating its quota if there is none. The change counts from the
commit on. -/
def setQuota (volume : String) (limit : UInt64) : Task σ (Entry ε) StepError Unit :=
  inSpan (.setQuota volume limit) <| S.withSession settings fun session => do
    let record ← attempt .createRecord (S.create session volume)
    S.withRecord record do
      let changed ← attempt .setLimit (S.setLimit record limit)
      attempt .commit (S.commit changed)
      note .quotaCommitted

/-- The use of a volume; no quota is told apart from a quota that is not used. -/
def queryUsage (volume : String) : Task σ (Entry ε) StepError Usage :=
  inSpan (.queryUsage volume) <| S.withSession settings fun session => do
    match ← attempt .getRecord (S.get session volume) with
    | none =>
      note .noQuota
      return .notConfigured
    | some record => S.withRecord record do
      return .used (← attempt .readUsed (S.used record))

/-- The bytes that a volume uses, zero if it has no quota. -/
def getQuotaUsed (volume : String) : Task σ (Entry ε) StepError UInt64 := do
  return (← S.queryUsage settings volume).bytes

/-- Limit and use of a volume's quota, if it has one. -/
def describeQuota (volume : String) : Task σ (Entry ε) StepError (Option Snapshot) :=
  inSpan (.describeQuota volume) <| S.withSession settings fun session => do
    match ← attempt .getRecord (S.get session volume) with
    | none =>
      note .noQuota
      return none
    | some record => S.withRecord record do
      let limit ← attempt .readLimit (S.limit record)
      let used ← attempt .readUsed (S.used record)
      return some ⟨volume, limit, used⟩

end Service

/-- A request to the manager. -/
inductive Operation where
  | setQuota (volume : String) (limit : UInt64)
  | getQuotaUsed (volume : String)
  | queryUsage (volume : String)
  | describeQuota (volume : String)
deriving DecidableEq, Repr

/-- What the manager answers to a request that succeeds. -/
inductive Answer where
  | done
  | bytes (n : UInt64)
  | usage (u : Usage)
  | snapshot (s : Option Snapshot)
deriving DecidableEq, Repr

namespace Operation

def volume : Operation → String
  | setQuota v _ | getQuotaUsed v | queryUsage v | describeQuota v => v

def run {σ ε : Type} (S : Service σ ε) (settings : Settings) :
    Operation → Task σ (Entry ε) StepError Answer
  | setQuota volume limit => do
    S.setQuota settings volume limit
    return .done
  | getQuotaUsed volume => do return .bytes (← S.getQuotaUsed settings volume)
  | queryUsage volume => do return .usage (← S.queryUsage settings volume)
  | describeQuota volume => do return .snapshot (← S.describeQuota settings volume)

end Operation
end DiskQuota
