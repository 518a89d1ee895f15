/-!
Committed quotas by volume. Volumes are compared exactly. The view of a table is `get?`, and a write
shows there and nowhere else (`get?_insert`).
-/
namespace DiskQuota

/-- Limit and use of one volume. -/
structure Quota where
  limit : UInt64
  used : UInt64
deriving DecidableEq, Repr

/-- The quotas of all volumes that have one. -/
structure Quotas where
  rows : List (String × Quota)
deriving DecidableEq

namespace Quotas

def empty : Quotas := ⟨[]⟩

def get? (t : Quotas) (volume : String) : Option Quota := t.rows.lookup volume

def contains (t : Quotas) (volume : String) : Bool := (t.get? volume).isSome

/-- The table with the quota of one volume written or replaced. -/
def insert (t : Quotas) (volume : String) (q : Quota) : Quotas :=
  ⟨(volume, q) :: t.rows.filter (·.1 != volume)⟩

@[simp] theorem get?_empty (v : String) : empty.get? v = none := rfl

theorem lookup_filter_ne {rows : List (String × Quota)} {v w : String} (h : w ≠ v) :
    (rows.filter (·.1 != v)).lookup w = rows.lookup w := by
  induction rows with
  | nil => rfl
  | cons row rows ih =>
    obtain ⟨x, q⟩ := row
    by_cases hx : x = v
    · subst hx
      simp [List.lookup_cons, ih, beq_false_of_ne h]
    · simp [List.lookup_cons, hx, ih]

theorem get?_insert (t : Quotas) (v w : String) (q : Quota) :
    (t.insert v q).get? w = if w = v then some q else t.get? w := by
  by_cases h : w = v
  · simp [get?, insert, h]
  · simp [get?, insert, List.lookup_cons, beq_false_of_ne h, h, lookup_filter_ne h]

end Quotas
end DiskQuota
