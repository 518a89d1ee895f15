import DiskQuota.Proofs.Fsrm.Exports
import DiskQuota.Proofs.Fsrm.Lifetimes
import DiskQuota.Proofs.Script

/-!
One manager that is used again and again, and a fresh one for each call. Every operation gives back what
it opened, so the next finds the service as if it were new; and a call by address does what its operation
does. So a script of writes and reads is the same by whichever entrance each of them comes in
(`mixed_eq`), but for the words in which the results are told.
-/
namespace DiskQuota.Fsrm

open Text.Utf16 (encode)

/-- A write or a read. -/
inductive Errand where
  | set (volume : String) (limit : UInt64)
  | get (volume : String)

/-- Where an errand comes in: at the manager of the script, at a service of its own, or by address, where
the text is followed by a zero and the rest, and the slot of a read holds some value. -/
inductive Entrance where
  | manager
  | free
  | address (rest : List UInt16) (slot : UInt64)

namespace Errand

def volume : Errand → String
  | set volume _ | get volume => volume

def operation : Errand → Operation
  | set volume limit => .setQuota volume limit
  | get volume => .getQuotaUsed volume

/-- The errand as a call by address. -/
def call (r : Errand) (rest : List UInt16) (slot : UInt64) : Native.Call :=
  let address := some (encode r.volume.toList ++ 0 :: rest)
  match r with
  | set _ limit => .setQuota address limit
  | get _ => .getQuotaUsed address (some slot)

/-- The errand as a command of a script. -/
def command (r : Errand) : Entrance → Command Control
  | .manager => .operation r.operation
  | .free => .control (.alone r.operation)
  | .address rest slot => .control (.exported (r.call rest slot))

/-- What the manager answers, told at an entrance. By address, it is the status of the result, and after
a read that succeeded the slot holds the value. -/
def tell (r : Errand) : Entrance → Command.Result Control.Reply → Command.Result Control.Reply
  | .free, .answer v => .control (.answer v)
  | .address rest slot, .answer v =>
    .control (.status ((r.call rest slot).reply (v.mapError StepError.code)))
  | _, result => result

/-- Whether an errand can come in: by address, a text ends at its first zero. -/
def Admits (r : Errand) : Entrance → Prop
  | .address .. => '\x00' ∉ r.volume.toList
  | _ => True

variable (r : Errand)

theorem call_operation (h : '\x00' ∉ r.volume.toList) (rest : List UInt16) (slot : UInt64) :
    (r.call rest slot).operation = .ok r.operation := by
  have hread : Native.readWide (some (encode r.volume.toList ++ 0 :: rest)) = .ok r.volume := by
    rw [Native.readWide_eq_ok_iff, Native.beforeZero_append,
      Native.beforeZero_of_ne (Text.Utf16.ne_zero_of_mem_encode h)]
  cases r with
  | set volume limit =>
    rw [call, Native.Call.operation, hread]
    rfl
  | get volume =>
    rw [call, Native.Call.operation, hread]
    rfl

end Errand

/-- A command that was carried out, its result told at an entrance. -/
def Errand.told (r : Errand) (e : Entrance) (d : Done Machine Call Control.Reply) :
    Done Machine Call Control.Reply :=
  { d with result := r.tell e d.result }

section

variable (s : System) (past : List Call)

/-- An operation with no context open leaves none open. -/
theorem state_of_closed (op : Operation) : (op.run service .default ⟨0, s⟩).state =
    ⟨0, (op.run service .default ⟨0, s⟩).state.system⟩ :=
  congrArg (Machine.mk · (op.run service .default ⟨0, s⟩).state.system)
    (run_contained .default op (m := ⟨0, s⟩) rfl).contexts

/-- So it makes no difference whether the service is its own. -/
theorem runAlone_eq_run (op : Operation) : runAlone op ⟨0, s⟩ = op.run service .default ⟨0, s⟩ := by
  rw [runAlone_eq]
  exact congrArg (Ran.mk _ _) (state_of_closed s op).symm

theorem standing_operation (op : Operation) :
    (bench.step ⟨.default, ⟨0, s⟩, past⟩ (.operation op)).standing =
      ⟨.default, ⟨0, (op.run service .default ⟨0, s⟩).state.system⟩,
        past ++ calls (op.run service .default ⟨0, s⟩).trace⟩ :=
  congrArg (Standing.mk .default · _) (state_of_closed s op)

/-- An errand is the same by every entrance that admits it, but for the words of its result. -/
theorem step_mixed (r : Errand) {e : Entrance} (h : r.Admits e) :
    bench.step ⟨.default, ⟨0, s⟩, past⟩ (r.command e) =
      r.told e (bench.step ⟨.default, ⟨0, s⟩, past⟩ (.operation r.operation)) := by
  cases e with
  | manager => rfl
  | free =>
    have halone := runAlone_eq_run s r.operation
    simp only [Errand.command, Bench.step, bench, Control.run, halone]
    rfl
  | address rest slot =>
    have hcall := exported_eq (r.call_operation h rest slot) ⟨0, s⟩
    rw [runAlone_eq_run] at hcall
    simp only [Errand.command, Bench.step, bench, Control.run, hcall]
    rfl

end

/-- **One manager used again and again is as good as a fresh one for each call.** A script of writes and
reads, each by an entrance that admits it, is the script at a single manager from the same system, with
every result told at its entrance: the same calls with the same results leave the same system. -/
theorem mixed_eq (errands : List (Errand × Entrance)) (h : ∀ x ∈ errands, x.1.Admits x.2)
    (s : System) (past : List Call) :
    bench.run ⟨.default, ⟨0, s⟩, past⟩ (errands.map fun x => x.1.command x.2) =
      List.zipWith (fun x d => x.1.told x.2 d) errands
        (bench.run ⟨.default, ⟨0, s⟩, past⟩ (errands.map fun x => .operation x.1.operation)) := by
  induction errands generalizing s past with
  | nil => rfl
  | cons x errands ih =>
    have hstep := step_mixed s past x.1 (h x List.mem_cons_self)
    have hstanding := standing_operation s past x.1.operation
    have hrest := ih (fun y hy => h y (List.mem_cons_of_mem x hy))
    simp only [List.map_cons, Bench.run, List.zipWith_cons_cons]
    rw [hstep]
    show _ :: bench.run (bench.step _ (.operation x.1.operation)).standing _ = _
    rw [hstanding, hrest]

/-- A write at the manager, then a read on a service of its own that no session is had for, and one by
address. -/
theorem mixed_eq_drive :
    let errands : List (Errand × Entrance) :=
      [(.set "D:" 5, .manager), (.get "D:", .free), (.get "D:", .address [65] 7)]
    let start : Standing Machine Call :=
      ⟨.default, .initial (List.replicate 10 .success ++ [.code .accessDenied]), []⟩
    (∀ x ∈ errands, x.1.Admits x.2) ∧
      bench.run start (errands.map fun x => x.1.command x.2) =
        List.zipWith (fun x d => x.1.told x.2 d) errands
          (bench.run start (errands.map fun x => .operation x.1.operation)) := by
  intro errands start
  have h : ∀ x ∈ errands, x.1.Admits x.2 := by
    simp [errands, Errand.Admits, Errand.volume]
  exact ⟨h, mixed_eq errands h _ _⟩

end DiskQuota.Fsrm
