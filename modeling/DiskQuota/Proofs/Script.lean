import DiskQuota.Script
import Mathlib.Data.List.Basic

/-!
Scripts as sequences: what a script leaves behind is a fold of its commands, a script in two parts runs
as one part after the other, and the calls on record are those of the journals in order.
-/
namespace DiskQuota

/-- The calls of a script, command after command. -/
def scriptCalls {σ ε ρ : Type} (ds : List (Done σ ε ρ)) : List ε := ds.flatMap fun d => calls d.journal

namespace Bench

variable {σ ε κ ρ : Type} (b : Bench σ ε κ ρ)

/-- What is left after all commands of a script. -/
def standing (s : Standing σ ε) (cs : List (Command κ)) : Standing σ ε :=
  cs.foldl (fun s c => (b.step s c).standing) s

variable (s : Standing σ ε) (cs cs' : List (Command κ))

@[simp] theorem standing_nil : b.standing s [] = s := rfl

@[simp] theorem standing_cons (c : Command κ) :
    b.standing s (c :: cs) = b.standing (b.step s c).standing cs := rfl

theorem standing_append : b.standing s (cs ++ cs') = b.standing (b.standing s cs) cs' :=
  List.foldl_append

/-- A script in two parts runs as one after the other. -/
theorem run_append : b.run s (cs ++ cs') = b.run s cs ++ b.run (b.standing s cs) cs' := by
  induction cs generalizing s with
  | nil => rfl
  | cons c cs ih => exact congrArg (b.step s c :: ·) (ih (b.step s c).standing)

theorem length_run : (b.run s cs).length = cs.length := by
  induction cs generalizing s with
  | nil => rfl
  | cons c cs ih => exact congrArg (· + 1) (ih (b.step s c).standing)

/-- A command of a script is carried out from what those before it leave. -/
theorem run_getElem? (c : Command κ) :
    (b.run s (cs ++ c :: cs'))[cs.length]? = some (b.step (b.standing s cs) c) := by
  have hlen := b.length_run s cs
  rw [run_append, List.getElem?_append_right (by omega), hlen, Nat.sub_self]
  rfl

/-- A command puts the calls of its journal on record. -/
theorem step_past (c : Command κ) :
    (b.step s c).standing.past = s.past ++ calls (b.step s c).journal := by
  cases c with
  | operation op => rfl
  | native call => rfl
  | control k => rfl
  | startLogging filter => exact (List.append_nil _).symm
  | reconfigure document =>
    rw [step]
    split <;> exact (List.append_nil _).symm

/-- The calls on record after a script are those before it and those of its commands. -/
theorem standing_past : (b.standing s cs).past = s.past ++ scriptCalls (b.run s cs) := by
  induction cs generalizing s with
  | nil => exact (List.append_nil _).symm
  | cons c cs ih =>
    rw [standing_cons, ih, step_past, List.append_assoc]
    rfl

end Bench
end DiskQuota
