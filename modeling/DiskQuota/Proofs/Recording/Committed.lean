import DiskQuota.Manager
import DiskQuota.Proofs.Triple
import DiskQuota.Recording
import Mathlib.Logic.Function.Basic

/-!
What the operations do to the committed quotas of the recording service, seen as a map from volumes.
An operation that fails, at whatever step and with whatever code, leaves them as they are, and so does
every read; setting a quota replaces the limit of one volume and keeps its use. A read that succeeds
answers what is committed (`run_committed`).
-/
namespace DiskQuota

/-- Committed quotas as a map. -/
abbrev Table := String → Option Quota

namespace Table

variable (t : Table) (volume : String)

/-- The use of a volume, zero if it has no quota. -/
def used : UInt64 := ((t volume).map Quota.used).getD 0

def usage : Usage :=
  match t volume with
  | some q => .used q.used
  | none => .notConfigured

def snapshot : Option Snapshot := (t volume).map fun q => ⟨volume, q.limit, q.used⟩

/-- The table with the limit of one volume replaced. Its use stays, or starts at zero. -/
def withLimit (limit : UInt64) : Table := Function.update t volume (some ⟨limit, t.used volume⟩)

/-- What an operation that succeeds answers. -/
def answer : Operation → Answer
  | .setQuota .. => .done
  | .getQuotaUsed volume => .bytes (t.used volume)
  | .queryUsage volume => .usage (t.usage volume)
  | .describeQuota volume => .snapshot (t.snapshot volume)

/-- What an operation that succeeds leaves. -/
def after : Operation → Table
  | .setQuota volume limit => t.withLimit volume limit
  | _ => t

/-- An answer depends on the quota of its volume alone. -/
theorem answer_congr {t t' : Table} {op : Operation} (h : t op.volume = t' op.volume) :
    t.answer op = t'.answer op := by
  cases op with
  | setQuota volume limit => rfl
  | getQuotaUsed volume | queryUsage volume | describeQuota volume =>
    rw [Operation.volume] at h
    simp only [answer, used, usage, snapshot, h]

theorem bytes_usage : (t.usage volume).bytes = t.used volume := by
  rw [usage, used]
  cases t volume <;> rfl

end Table

theorem Quotas.insert_get? (q : Quotas) (volume : String) (quota : Quota) :
    (q.insert volume quota).get? = Function.update q.get? volume (some quota) := by
  funext w
  rw [get?_insert, Function.update_apply]

namespace Recording

/-! Calls one by one. All but the commit leave the committed quotas alone, so each is given for any
predicate `p` of them. -/

section

variable (p : Quotas → Prop)

theorem check_triple (step : Step) :
    Triple (fun s => p s.quotas) (check step) (fun _ s => p s.quotas) fun _ s => p s.quotas := by
  intro s hs
  rw [check, Task.step_apply]
  cases s.failure with
  | none => exact hs
  | some f =>
    by_cases h : f.1 = step
    · simpa [h] using hs
    · simpa [h] using hs

theorem call_triple (c : Call) (step : Step) :
    Triple (fun s => p s.quotas) (call c step) (fun _ s => p s.quotas) fun _ s => p s.quotas :=
  .bind .record fun _ => check_triple p step

theorem resolve_triple (text : String) :
    Triple (fun s => p s.quotas) (resolve text) (fun _ s => p s.quotas) fun _ s => p s.quotas := by
  apply Triple.bind .record
  intro _
  refine .bind (Q := fun _ s => p s.quotas) (.step_ok fun s hs => hs) ?_
  intro step
  exact .bind (check_triple p step) fun _ => .pure fun _ hs => hs

theorem neutral : service.Neutral fun s => p s.quotas where
  resolve := resolve_triple p
  openContext _ := call_triple p _ _
  instantiate _ _ _ := call_triple p _ _
  releaseRecord _ _ hs := hs
  releaseSession _ _ hs := hs
  closeContext _ hs := hs

theorem create_triple (volume : String) :
    Triple (fun s => p s.quotas) (create volume)
      (fun r s => r = ⟨volume, none⟩ ∧ p s.quotas) fun _ s => p s.quotas := by
  apply Triple.bind (call_triple p _ _)
  intro _
  exact .step_unless (fun _ hs => hs) fun _ hs => ⟨rfl, hs⟩

end

section

variable (q : Quotas)

/-- A record is found exactly for a volume that has a quota. -/
theorem get_triple (volume : String) :
    Triple (fun s => s.quotas = q) (get volume)
      (fun r s => r = (if q.contains volume then some ⟨volume, none⟩ else none) ∧ s.quotas = q)
      fun _ s => s.quotas = q := by
  apply Triple.bind (call_triple (· = q) _ _)
  intro _
  refine .step_ok fun s hs => ?_
  rw [hs]
  exact ⟨rfl, rfl⟩

theorem setLimit_triple (r : Record) (limit : UInt64) :
    Triple (fun s => s.quotas = q) (setLimit r limit)
      (fun r' s => r' = { r with pending := some limit } ∧ s.quotas = q) fun _ s => s.quotas = q :=
  .bind (call_triple (· = q) _ _) fun _ => .pure fun _ hs => ⟨rfl, hs⟩

theorem limit_triple (volume : String) :
    Triple (fun s => s.quotas = q) (limit ⟨volume, none⟩)
      (fun n s => n = ((q.get? volume).getD ⟨0, 0⟩).limit ∧ s.quotas = q) fun _ s => s.quotas = q := by
  apply Triple.bind (call_triple (· = q) _ _)
  intro _
  refine .step_ok fun s hs => ?_
  rw [State.stored, hs]
  exact ⟨rfl, rfl⟩

theorem used_triple (r : Record) :
    Triple (fun s => s.quotas = q) (used r)
      (fun n s => n = ((q.get? r.volume).getD ⟨0, 0⟩).used ∧ s.quotas = q) fun _ s => s.quotas = q := by
  apply Triple.bind (call_triple (· = q) _ _)
  intro _
  refine .step_ok fun s hs => ?_
  rw [State.stored, hs]
  exact ⟨rfl, rfl⟩

/-- A commit that fails has committed nothing. -/
theorem commit_triple (volume : String) (limit : UInt64) :
    Triple (fun s => s.quotas = q) (commit ⟨volume, some limit⟩)
      (fun _ s => s.quotas.get? = Table.withLimit q.get? volume limit) fun _ s => s.quotas = q := by
  apply Triple.bind (call_triple (· = q) _ _)
  intro _
  refine .step_ok fun s hs => ?_
  rw [Quotas.insert_get?, State.stored, hs, Table.withLimit, Table.used]
  cases q.get? volume <;> rfl

/-! The operations. -/

theorem setQuota_triple (settings : Settings) (volume : String) (limit : UInt64) :
    Triple (fun s => s.quotas = q) (service.setQuota settings volume limit)
      (fun _ s => s.quotas.get? = Table.withLimit q.get? volume limit) fun _ s => s.quotas = q := by
  refine .inSpan (.withSession (neutral (· = q))
    (fun _ => neutral fun q' => q'.get? = Table.withLimit q.get? volume limit) fun session => ?_)
  apply Triple.bind (.attempt (create_triple (· = q) volume))
  intro r
  -- the pending limit lives in the record alone until the commit
  refine .withRecord ?_
    (fun _ => (neutral fun q' => q'.get? = Table.withLimit q.get? volume limit).releaseRecord r)
    fun _ => (neutral (· = q)).releaseRecord r
  apply Triple.of_and
  intro hr
  subst hr
  apply Triple.bind (.attempt (setLimit_triple q ⟨volume, none⟩ limit))
  intro r
  apply Triple.of_and
  intro hr
  subst hr
  exact .bind (.attempt (commit_triple q volume limit)) fun _ => .note

theorem queryUsage_triple (settings : Settings) (volume : String) :
    Triple (fun s => s.quotas = q) (service.queryUsage settings volume)
      (fun u s => u = Table.usage q.get? volume ∧ s.quotas = q) fun _ s => s.quotas = q := by
  have hneutral : ∀ u, service.Neutral fun s => u = Table.usage q.get? volume ∧ s.quotas = q :=
    fun u => neutral fun q' => u = Table.usage q.get? volume ∧ q' = q
  refine .inSpan (.withSession (neutral (· = q)) hneutral fun session => ?_)
  apply Triple.bind (.attempt (get_triple q volume))
  intro r
  apply Triple.of_and
  intro hr
  subst hr
  rw [Quotas.contains]
  cases hq : q.get? volume with
  | none =>
    refine .bind .note fun _ => .pure fun s hs => ⟨?_, hs⟩
    rw [Table.usage, hq]
  | some quota =>
    refine .withRecord ?_ (fun u => (hneutral u).releaseRecord _)
      fun _ => (neutral (· = q)).releaseRecord _
    apply Triple.bind (.attempt (used_triple q _))
    intro n
    refine .of_and fun hn => .pure fun s hs => ⟨?_, hs⟩
    rw [hn, Table.usage, hq]
    rfl

theorem getQuotaUsed_triple (settings : Settings) (volume : String) :
    Triple (fun s => s.quotas = q) (service.getQuotaUsed settings volume)
      (fun n s => n = Table.used q.get? volume ∧ s.quotas = q) fun _ s => s.quotas = q := by
  apply Triple.bind (queryUsage_triple q settings volume)
  intro u
  exact .of_and fun hu => .pure fun s hs => ⟨by rw [hu, Table.bytes_usage], hs⟩

theorem describeQuota_triple (settings : Settings) (volume : String) :
    Triple (fun s => s.quotas = q) (service.describeQuota settings volume)
      (fun d s => d = Table.snapshot q.get? volume ∧ s.quotas = q) fun _ s => s.quotas = q := by
  have hneutral : ∀ d, service.Neutral fun s => d = Table.snapshot q.get? volume ∧ s.quotas = q :=
    fun d => neutral fun q' => d = Table.snapshot q.get? volume ∧ q' = q
  refine .inSpan (.withSession (neutral (· = q)) hneutral fun session => ?_)
  apply Triple.bind (.attempt (get_triple q volume))
  intro r
  apply Triple.of_and
  intro hr
  subst hr
  rw [Quotas.contains]
  cases hq : q.get? volume with
  | none =>
    refine .bind .note fun _ => .pure fun s hs => ⟨?_, hs⟩
    rw [Table.snapshot, hq]
    rfl
  | some quota =>
    refine .withRecord ?_ (fun d => (hneutral d).releaseRecord _)
      fun _ => (neutral (· = q)).releaseRecord _
    apply Triple.bind (.attempt (limit_triple q volume))
    intro l
    apply Triple.of_and
    intro hl
    apply Triple.bind (.attempt (used_triple q _))
    intro n
    refine .of_and fun hn => .pure fun s hs => ⟨?_, hs⟩
    rw [hl, hn, Table.snapshot, hq]
    rfl

end

/-- An operation acts on the committed quotas as a whole or not at all. If it succeeds it answers from
the table and leaves what it writes; if it fails the quotas are as they were. -/
theorem run_committed (settings : Settings) (op : Operation) (q : Quotas) :
    Triple (fun s => s.quotas = q) (op.run service settings)
      (fun a s => a = Table.answer q.get? op ∧ s.quotas.get? = Table.after q.get? op)
      fun _ s => s.quotas = q := by
  cases op with
  | setQuota volume limit =>
    exact .bind (setQuota_triple q settings volume limit) fun _ => .pure fun s hs => ⟨rfl, hs⟩
  | getQuotaUsed volume =>
    apply Triple.bind (getQuotaUsed_triple q settings volume)
    intro n
    exact .of_and fun hn => .pure fun s hs => ⟨by rw [hn]; rfl, by rw [hs]; rfl⟩
  | queryUsage volume =>
    apply Triple.bind (queryUsage_triple q settings volume)
    intro u
    exact .of_and fun hu => .pure fun s hs => ⟨by rw [hu]; rfl, by rw [hs]; rfl⟩
  | describeQuota volume =>
    apply Triple.bind (describeQuota_triple q settings volume)
    intro d
    exact .of_and fun hd => .pure fun s hs => ⟨by rw [hd]; rfl, by rw [hs]; rfl⟩

end Recording
end DiskQuota
