/-!
What reading a quota answers: the bytes in use, or that none is configured, and the limit and use of
a configured quota together.
-/
namespace DiskQuota

/-- The answer to a usage query. -/
inductive Usage where
  /-- The service has no quota for the volume. -/
  | notConfigured
  /-- The bytes charged against the volume's quota. -/
  | used (bytes : UInt64)
deriving DecidableEq, Repr

namespace Usage

/-- The bytes in use, zero when no quota is configured. -/
def bytes : Usage → UInt64
  | notConfigured => 0
  | used n => n

def isConfigured : Usage → Bool
  | notConfigured => false
  | used _ => true

end Usage

/-- Limit and use of a configured quota. -/
structure Snapshot where
  volume : String
  limit : UInt64
  used : UInt64
deriving DecidableEq, Repr

/-- The bytes left below the limit; none when it is reached or passed. -/
def Snapshot.remaining (s : Snapshot) : UInt64 :=
  if s.used ≤ s.limit then s.limit - s.used else 0

theorem Snapshot.toNat_remaining (s : Snapshot) :
    s.remaining.toNat = s.limit.toNat - s.used.toNat := by
  unfold remaining
  split
  · next h => rw [UInt64.toNat_sub_of_le _ _ h]
  · next h =>
    have : s.limit < s.used := UInt64.not_le.mp h
    have := UInt64.lt_iff_toNat_lt.mp this
    simp; omega

end DiskQuota
