import DiskQuota.Benches
import DiskQuota.Proofs.Native.Request
import DiskQuota.Proofs.Recording.Committed
import DiskQuota.Proofs.Script

/-!
The committed quotas of the recording service are the fold of the writes. A script writes where it gives
a volume a quota and where the manager, asked directly or by address, sets one and succeeds
(`written`); everything else in it, and every failure, is no write. The headline `fold_of_writes` says
that the table after any script is the table before with these writes applied in order, and that every
read that succeeds answers from the table of its moment.
-/
namespace DiskQuota

/-- A write to the table of committed quotas. -/
inductive Write where
  | quota (volume : String) (q : Quota)
  /-- Sets the limit of a volume; its use stays, or starts at zero. -/
  | limit (volume : String) (l : UInt64)

namespace Write

def volume : Write → String
  | quota v _ | limit v _ => v

def apply (t : Table) : Write → Table
  | quota v q => Function.update t v (some q)
  | limit v l => t.withLimit v l

/-- A write shows at its own volume only. -/
theorem apply_of_ne {w : Write} {v : String} (h : w.volume ≠ v) (t : Table) : w.apply t v = t v := by
  cases w <;> exact Function.update_of_ne h.symm _ _

theorem foldl_apply_of_ne {ws : List Write} {v : String} (h : ∀ w ∈ ws, w.volume ≠ v) (t : Table) :
    ws.foldl Write.apply t v = t v := by
  induction ws generalizing t with
  | nil => rfl
  | cons w ws ih =>
    rw [List.foldl_cons, ih (fun w' hw' => h w' (by simp [hw'])), apply_of_ne (h w (by simp))]

end Write

namespace Recording

/-- The operation that a command asks the manager for, directly or by address. -/
def asked : Command Control → Option Operation
  | .operation op => some op
  | .native call => call.operation.toOption
  | _ => none

/-- What an operation writes if it succeeds. -/
def write? : Operation → Option Write
  | .setQuota volume limit => some (.limit volume limit)
  | _ => none

/-- What a command writes: the quota that a volume is given, and the limit that the manager set if it
answered that it did. -/
def written (s : Standing State Call) (c : Command Control) : Option Write :=
  match c with
  | .control (.withQuota volume q) => some (.quota volume q)
  | c => (asked c).bind fun op =>
    match (op.run service s.settings s.state).value with
    | .ok _ => write? op
    | .error _ => none

/-- The writes of a script, in order. -/
def writes (s : Standing State Call) : List (Command Control) → List Write
  | [] => []
  | c :: cs => (written s c).toList ++ writes (bench.step s c).standing cs

theorem writes_append (s : Standing State Call) (cs cs' : List (Command Control)) :
    writes s (cs ++ cs') = writes s cs ++ writes (bench.standing s cs) cs' := by
  induction cs generalizing s with
  | nil => rfl
  | cons c cs ih => rw [List.cons_append, writes, writes, ih, List.append_assoc, bench.standing_cons]

/-- What a successful operation leaves is what it writes. -/
theorem apply_write? (t : Table) (op : Operation) : (write? op).toList.foldl Write.apply t = t.after op := by
  cases op <;> rfl

/-! Single commands. -/

theorem asked_native {call : Native.Call} {op : Operation} :
    asked (.native call) = some op ↔ call.operation = .ok op := by
  rw [asked]
  cases call.operation with
  | ok op' => exact ⟨fun h => congrArg _ (Option.some.inj h), fun h => congrArg _ (Except.ok.inj h)⟩
  | error code => exact ⟨nofun, nofun⟩

/-- A command that asks for an operation does to the service what the operation does. -/
theorem step_state_of_asked {s : Standing State Call} {c : Command Control} {op : Operation}
    (h : asked c = some op) :
    (bench.step s c).standing.state = (op.run service s.settings s.state).state := by
  cases c with
  | operation op' =>
    cases h
    rfl
  | native call =>
    rw [asked_native] at h
    show (call.run service s.settings s.state).state = _
    rw [Native.Call.run_eq, h]
  | _ => cases h

/-- A command that asks for none does nothing to the service unless it is a control of it. -/
theorem step_state_of_not_asked {s : Standing State Call} {c : Command Control} (h : asked c = none) :
    (bench.step s c).standing.state = match c with
      | .control k => (k.run s.past s.state).2
      | _ => s.state := by
  cases c with
  | operation op => cases h
  | native call =>
    show (call.run service s.settings s.state).state = _
    rw [Native.Call.run_eq]
    cases hop : call.operation with
    | ok op =>
      rw [asked_native.2 hop] at h
      cases h
    | error code => rfl
  | reconfigure document =>
    rw [Bench.step]
    split <;> rfl
  | startLogging filter => rfl
  | control k => rfl

/-- A command that asks for none and gives no quota leaves the committed quotas alone. -/
theorem step_quotas_of_not_asked {s : Standing State Call} {c : Command Control} (h : asked c = none)
    (hc : ∀ volume q, c ≠ .control (.withQuota volume q)) :
    (bench.step s c).standing.state.quotas = s.state.quotas := by
  rw [step_state_of_not_asked h]
  cases c with
  | control k =>
    cases k with
    | withQuota volume q => exact absurd rfl (hc volume q)
    | _ => rfl
  | _ => rfl

theorem written_of_asked {s : Standing State Call} {c : Command Control} {op : Operation}
    (h : asked c = some op) :
    written s c = match (op.run service s.settings s.state).value with
      | .ok _ => write? op
      | .error _ => none := by
  cases c with
  | control k => cases h
  | _ =>
    rw [written, h]
    · rfl
    · exact nofun

/-- **What one command does to the committed quotas is what it writes.** -/
theorem step_table (s : Standing State Call) (c : Command Control) :
    (bench.step s c).standing.state.quotas.get? =
      (written s c).toList.foldl Write.apply s.state.quotas.get? := by
  -- giving a volume a quota is the one write that asks for no operation
  by_cases hc : ∃ volume q, c = .control (.withQuota volume q)
  · obtain ⟨volume, q, rfl⟩ := hc
    exact Quotas.insert_get? s.state.quotas volume q
  have hc' : ∀ volume q, c ≠ .control (.withQuota volume q) := fun volume q h => hc ⟨volume, q, h⟩
  cases hop : asked c with
  | some op =>
    have hrun := run_committed s.settings op s.state.quotas
    rw [step_state_of_asked hop, written_of_asked hop]
    cases hv : (op.run service s.settings s.state).value with
    | ok a => rw [(hrun.of_ok rfl hv).2, apply_write?]
    | error e =>
      rw [hrun.of_error rfl hv]
      rfl
  | none =>
    have hnone : written s c = none := by
      unfold written
      split
      · exact absurd rfl (hc' _ _)
      · rw [hop]
        rfl
    rw [step_quotas_of_not_asked hop hc', hnone]
    rfl

/-! Scripts. -/

/-- The table after a script is the table before with the writes applied in order. -/
theorem standing_table (s : Standing State Call) (cs : List (Command Control)) :
    (bench.standing s cs).state.quotas.get? = (writes s cs).foldl Write.apply s.state.quotas.get? := by
  induction cs generalizing s with
  | nil => rfl
  | cons c cs ih =>
    rw [bench.standing_cons, ih, step_table, writes, List.foldl_append]

/-- A command that is carried out from `s` acts on the committed quotas at once, where `t` is what they
are before it. -/
structure Atomic (t : Table) (s : Standing State Call) (c : Command Control) : Prop where
  /-- An operation that fails, at whatever step, changes nothing; -/
  failed : ∀ op e, asked c = some op → (op.run service s.settings s.state).value = .error e →
    (bench.step s c).standing.state.quotas = s.state.quotas
  /-- a read changes nothing, whatever it comes to. -/
  read : ∀ op, asked c = some op → write? op = none →
    (bench.step s c).standing.state.quotas.get? = t
  /-- An operation that succeeds answers from the table, -/
  direct : ∀ op a, c = .operation op → (bench.step s c).result = .answer (.ok a) → a = t.answer op
  /-- and so does one that was asked for by address. -/
  native : ∀ call op a, c = .native call → call.operation = .ok op →
    (op.run service s.settings s.state).value = .ok a →
    (bench.step s c).result = .reply (call.reply (.ok (t.answer op)))
  stored : ∀ volume, c = .control (.storedLimit volume) →
    (bench.step s c).result = .control (.limit ((t volume).map Quota.limit))

theorem step_atomic (s : Standing State Call) (c : Command Control) :
    Atomic s.state.quotas.get? s c where
  failed op e hop he := by
    rw [step_state_of_asked hop]
    exact (run_committed s.settings op s.state.quotas).of_error rfl he
  read op hop hread := by
    have hnone : written s c = none := by
      rw [written_of_asked hop, hread]
      split <;> rfl
    rw [step_table, hnone]
    rfl
  direct op a hc ha := by
    subst hc
    have hv : (op.run service s.settings s.state).value = .ok a := by
      injection ha
    exact ((run_committed s.settings op s.state.quotas).of_ok rfl hv).1
  native call op a hc hop ha := by
    subst hc
    have hanswer := ((run_committed s.settings op s.state.quotas).of_ok rfl ha).1
    show Command.Result.reply (call.run service s.settings s.state).value = _
    rw [Native.Call.run_eq, hop, ← hanswer]
    simp only [ha]
    rfl
  stored volume hc := by
    subst hc
    rfl

/-- **The committed quotas are the fold of the writes.** From any state of the recording service and for
every script, the table at the end is the table at the beginning with the writes of the script
applied in order. On the way each command acts on the table of its moment, and a limit that was
set is the one that is stored for as long as nothing else is written for that volume. -/
theorem fold_of_writes (start : Standing State Call) (cs : List (Command Control)) :
    (bench.standing start cs).state.quotas.get? =
      (writes start cs).foldl Write.apply start.state.quotas.get? ∧
    (∀ before c rest, cs = before ++ c :: rest →
      (bench.run start cs)[before.length]? = some (bench.step (bench.standing start before) c) ∧
      Atomic ((writes start before).foldl Write.apply start.state.quotas.get?)
        (bench.standing start before) c) ∧
    ∀ before c rest, cs = before ++ c :: rest → ∀ volume limit,
      written (bench.standing start before) c = some (.limit volume limit) →
      (∀ w ∈ writes (bench.standing start (before ++ [c])) rest, w.volume ≠ volume) →
      (bench.standing start cs).state.storedLimit volume = some limit := by
  refine ⟨standing_table start cs, ?_, ?_⟩
  · rintro before c rest rfl
    refine ⟨bench.run_getElem? start before rest c, ?_⟩
    rw [← standing_table]
    exact step_atomic _ c
  · rintro before c rest rfl volume limit hc hrest
    rw [State.storedLimit, standing_table, writes_append, writes, hc, List.foldl_append,
      List.foldl_append]
    rw [bench.standing_append, bench.standing_cons, bench.standing_nil] at hrest
    rw [Write.foldl_apply_of_ne hrest]
    simp [Write.apply, Table.withLimit]

end Recording
end DiskQuota
