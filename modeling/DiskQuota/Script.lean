import DiskQuota.Native
import DiskQuota.Settings.Document

/-!
Scripts: lists of commands to one manager after another over the same service. A command is an
operation, a call by address, a change of settings, or something that only the service at hand
understands. Each command has a result and the journal of what it did.
-/
namespace DiskQuota

/-- A command, where `κ` are those that only the service at hand understands. -/
inductive Command (κ : Type) where
  | operation (op : Operation)
  | native (call : Native.Call)
  /-- Go on with the settings of a document. If it is wrong, the settings stay. -/
  | reconfigure (document : String)
  /-- Start to log what passes the filter. Logging has started already, so nothing changes. -/
  | startLogging (filter : String)
  | control (k : κ)

/-- The result of a command, where `ρ` are those of the service at hand. -/
inductive Command.Result (ρ : Type) where
  | answer (r : Except StepError Answer)
  | reply (r : Native.Reply)
  | settings (r : Except Json.Error Settings)
  | nothing
  | control (r : ρ)

/-- A service with its own commands, which see the calls that were made so far. -/
structure Bench (σ ε κ ρ : Type) where
  service : Service σ ε
  control : κ → (past : List ε) → σ → Ran σ (Entry ε) ρ

/-- What one command of a script leaves to the next. -/
structure Standing (σ ε : Type) where
  settings : Settings
  state : σ
  /-- The calls made so far. -/
  past : List ε

/-- What is left after a piece of work. -/
def Standing.after {σ ε α : Type} (s : Standing σ ε) (r : Ran σ (Entry ε) α) : Standing σ ε :=
  { s with state := r.state, past := s.past ++ calls r.trace }

/-- A command that was carried out: its result, its journal, and what is left after it. -/
structure Done (σ ε ρ : Type) where
  result : Command.Result ρ
  journal : List (Entry ε)
  standing : Standing σ ε

namespace Bench

variable {σ ε κ ρ : Type} (b : Bench σ ε κ ρ)

/-- Carries out one command. -/
def step (s : Standing σ ε) : Command κ → Done σ ε ρ
  | .operation op =>
    let r := op.run b.service s.settings s.state
    ⟨.answer r.value, r.trace, s.after r⟩
  | .native call =>
    let r := call.run b.service s.settings s.state
    ⟨.reply r.value, r.trace, s.after r⟩
  | .reconfigure document =>
    match Settings.parse document with
    | .ok settings => ⟨.settings (.ok settings), [], { s with settings }⟩
    | .error e => ⟨.settings (.error e), [], s⟩
  | .startLogging _ => ⟨.nothing, [], s⟩
  | .control k =>
    let r := b.control k s.past s.state
    ⟨.control r.value, r.trace, s.after r⟩

/-- Carries out all commands in order. -/
def run (s : Standing σ ε) : List (Command κ) → List (Done σ ε ρ)
  | [] => []
  | c :: cs =>
    let d := b.step s c
    d :: run d.standing cs

end Bench
end DiskQuota
