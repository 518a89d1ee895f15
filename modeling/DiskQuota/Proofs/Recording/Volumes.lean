import DiskQuota.Proofs.Recording.Faults

/-!
Volumes do not interfere. A script may leave out the commands for other volumes (`purge`): what it shows at
the volume stays the same. Two standings that agree on a volume (`Agree`) stay in agreement under a
command that concerns it, with the same result, and under one for another volume that only the first
carries out. The headline `volumes_apart` is the induction over a script, and `resolved` never differs
in it: every operation ends its attempt, so the service is at rest between commands.
-/
namespace DiskQuota.Recording

/-- The volume that a command is for. Volumes are compared as they are written. -/
def volume? : Command Control → Option String
  | .operation op => some op.volume
  | .native call => (Native.readWide call.address).toOption
  | .control (.withQuota volume _) | .control (.storedLimit volume) => some volume
  | _ => none

/-- Whether a command is for the volume, or for none in particular. -/
def concerns (volume : String) (c : Command Control) : Bool :=
  match volume? c with
  | some w => w = volume
  | none => true

/-- The script without the commands for other volumes. -/
def purge (volume : String) (script : List (Command Control)) : List (Command Control) :=
  script.filter (concerns volume)

/-- The result of a command, unless it counts calls, which are those of all volumes. -/
def visible : Command Control → Command.Result Control.Reply →
    Option (Command.Result Control.Reply)
  | .control (.count _), _ => none
  | _, r => some r

/-- What a script shows at a volume: the results of the commands that concern it, each with the limit that
is stored after it. -/
def shown (volume : String) (start : Standing State Call) (script : List (Command Control)) :
    List (Option (Command.Result Control.Reply) × Option UInt64) :=
  ((script.zip (bench.run start script)).filter fun (c, _) => concerns volume c).map fun (c, d) =>
    (visible c d.result, d.standing.state.storedLimit volume)

/-- The states agree on all that can show at a volume: what is to fail, and the quota of the volume. -/
structure Agree (volume : String) (s t : State) : Prop where
  failure : s.failure = t.failure
  rejectExisting : s.rejectExisting = t.rejectExisting
  quota : s.quotas.get? volume = t.quotas.get? volume
  left : s.atRest = s
  right : t.atRest = t

namespace Agree

variable {volume : String} {s t : State}

theorem refl (h : s.atRest = s) : Agree volume s s := ⟨rfl, rfl, rfl, h, h⟩

theorem storedLimit (h : Agree volume s t) : s.storedLimit volume = t.storedLimit volume := by
  rw [State.storedLimit, State.storedLimit, h.quota]

theorem stored (h : Agree volume s t) : s.stored volume = t.stored volume := by
  rw [State.stored, State.stored, h.quota]

theorem contains (h : Agree volume s t) : s.quotas.contains volume = t.quotas.contains volume := by
  rw [Quotas.contains, Quotas.contains, h.quota]

theorem failsAt (h : Agree volume s t) (category : Category) (steps : List Step) :
    s.failsAt category steps = t.failsAt category steps := by
  rw [State.failsAt, State.failsAt, h.failure]

theorem rejects (h : Agree volume s t) : s.rejects volume = t.rejects volume := by
  rw [State.rejects, State.rejects, h.rejectExisting, h.contains]

/-- An operation on the volume meets the same error. -/
theorem refusal {op : Operation} (h : Agree op.volume s t) : s.refusal op = t.refusal op := by
  cases op with
  | setQuota volume limit =>
    have hrejects : s.rejects volume = t.rejects volume := h.rejects
    rw [State.refusal, State.refusal, h.failsAt, h.failsAt, h.failsAt, hrejects]
  | getQuotaUsed volume | queryUsage volume | describeQuota volume =>
    have hcontains : s.quotas.contains volume = t.quotas.contains volume := h.contains
    rw [State.refusal, State.refusal, h.failsAt, h.failsAt, h.failsAt, hcontains]

/-- A quota that both write. -/
theorem insert (h : Agree volume s t) (w : String) (q : Quota) :
    Agree volume { s with quotas := s.quotas.insert w q } { t with quotas := t.quotas.insert w q } where
  failure := h.failure
  rejectExisting := h.rejectExisting
  quota := by simp only [Quotas.get?_insert, h.quota]
  left := by rw [← h.left]; rfl
  right := by rw [← h.right]; rfl

/-- A quota of another volume, which one of them writes. -/
theorem insert_left (h : Agree volume s t) {w : String} (hw : w ≠ volume) (q : Quota) :
    Agree volume { s with quotas := s.quotas.insert w q } t where
  failure := h.failure
  rejectExisting := h.rejectExisting
  quota := by simp only [Quotas.get?_insert, if_neg hw.symm, h.quota]
  left := by rw [← h.left]; rfl
  right := h.right

theorem after {op : Operation} (h : Agree op.volume s t) : Agree op.volume (s.after op) (t.after op) := by
  cases op with
  | setQuota volume limit =>
    have hstored : s.stored volume = t.stored volume := h.stored
    rw [State.after, State.after, hstored]
    exact h.insert volume _
  | _ => exact h

theorem after_left (h : Agree volume s t) {op : Operation} (hop : op.volume ≠ volume) :
    Agree volume (s.after op) t := by
  cases op with
  | setQuota w limit => exact h.insert_left hop _
  | _ => exact h

variable (settings : Settings)

/-- An operation on the volume comes to the same on both sides. -/
theorem run_value {op : Operation} (h : Agree op.volume s t) :
    (op.run service settings s).value = (op.run service settings t).value := by
  rw [(run_attempts settings op h.left).value, (run_attempts settings op h.right).value, h.refusal,
    Table.answer_congr h.quota]

/-- Its failures leave both sides as they were, and its successes write the same. -/
theorem run {op : Operation} (h : Agree op.volume s t) :
    Agree op.volume (op.run service settings s).state (op.run service settings t).state := by
  have hs := run_attempts settings op h.left
  have ht := run_attempts settings op h.right
  cases hfault : s.refusal op with
  | some e =>
    rw [hs.failed (by simp [hfault]), ht.failed (by simp [← h.refusal, hfault])]
    exact h
  | none =>
    rw [hs.done hfault, ht.done (h.refusal ▸ hfault)]
    exact h.after

/-- An operation on another volume does not show. -/
theorem run_left (h : Agree volume s t) {op : Operation} (hop : op.volume ≠ volume) :
    Agree volume (op.run service settings s).state t := by
  have hs := run_attempts settings op h.left
  cases hfault : s.refusal op with
  | some e => rwa [hs.failed (by simp [hfault])]
  | none =>
    rw [hs.done hfault]
    exact h.after_left hop

end Agree

/-! Single commands. -/

/-- A call by address asks for an operation on the volume that it names. -/
theorem volume?_of_asked {c : Command Control} {op : Operation} (h : asked c = some op) :
    volume? c = some op.volume := by
  cases c with
  | operation op' =>
    cases h
    rfl
  | native call =>
    rw [asked_native] at h
    rw [volume?, Native.Call.readWide_address h]
    rfl
  | _ => cases h

/-- The result of a command that asks for an operation is made from what the operation comes to. -/
theorem step_result_congr {s t : Standing State Call} {c : Command Control} {op : Operation}
    (h : asked c = some op)
    (hv : (op.run service s.settings s.state).value = (op.run service t.settings t.state).value) :
    (bench.step s c).result = (bench.step t c).result := by
  cases c with
  | operation op' =>
    cases h
    exact congrArg Command.Result.answer hv
  | native call =>
    rw [asked_native] at h
    show Command.Result.reply (call.run service s.settings s.state).value =
      .reply (call.run service t.settings t.state).value
    simp only [Native.Call.run_eq, h, hv]
  | _ => cases h

/-- What a document makes of the settings is no matter of the service. -/
theorem step_settings_congr {s t : Standing State Call} (h : s.settings = t.settings)
    (c : Command Control) :
    (bench.step s c).standing.settings = (bench.step t c).standing.settings := by
  cases c with
  | reconfigure document =>
    rw [Bench.step, Bench.step]
    cases Settings.parse document with
    | ok settings => rfl
    | error e => exact h
  | _ => exact h

/-- A control does the same to both sides. -/
theorem Agree.control {volume : String} {s t : State} (h : Agree volume s t) (k : Control)
    (past past' : List Call) : Agree volume (k.run past s).2 (k.run past' t).2 := by
  have hs := h.left
  have ht := h.right
  cases k with
  | failAt step code => exact ⟨rfl, h.rejectExisting, h.quota, by rw [← hs]; rfl, by rw [← ht]; rfl⟩
  | rejectExisting => exact ⟨h.failure, rfl, h.quota, by rw [← hs]; rfl, by rw [← ht]; rfl⟩
  | withQuota w q => exact h.insert w q
  | storedLimit w | count call => exact h

/-- A command that concerns the volume shows the same on both sides. -/
theorem step_visible {volume : String} {s t : Standing State Call} (hsettings : s.settings = t.settings)
    (h : Agree volume s.state t.state) {c : Command Control} (hc : concerns volume c = true) :
    visible c (bench.step s c).result = visible c (bench.step t c).result := by
  cases hop : asked c with
  | some op =>
    obtain rfl : op.volume = volume := by simpa [concerns, volume?_of_asked hop] using hc
    refine congrArg (visible c) (step_result_congr hop ?_)
    rw [← hsettings, h.run_value]
  | none =>
    cases c with
    | operation op => cases hop
    | native call =>
      have hrefused : ∃ code, call.operation = .error code := by
        cases hcall : call.operation with
        | ok op => rw [asked_native.2 hcall] at hop; cases hop
        | error code => exact ⟨code, rfl⟩
      obtain ⟨code, hcode⟩ := hrefused
      show some (Command.Result.reply (call.run service s.settings s.state).value) =
        some (.reply (call.run service t.settings t.state).value)
      rw [Native.Call.run_eq, Native.Call.run_eq, hcode]
    | reconfigure document =>
      rw [Bench.step, Bench.step]
      cases Settings.parse document <;> rfl
    | startLogging filter => rfl
    | control k =>
      cases k with
      | storedLimit w =>
        obtain rfl : w = volume := by simpa [concerns, volume?] using hc
        exact congrArg (fun l => some (Command.Result.control (Control.Reply.limit l))) h.storedLimit
      | _ => rfl

/-- Both sides stay in agreement when both carry out a command that concerns the volume, -/
theorem Agree.step {volume : String} {s t : Standing State Call} (hsettings : s.settings = t.settings)
    (h : Agree volume s.state t.state) {c : Command Control} (hc : concerns volume c = true) :
    Agree volume (bench.step s c).standing.state (bench.step t c).standing.state := by
  cases hop : asked c with
  | some op =>
    obtain rfl : op.volume = volume := by simpa [concerns, volume?_of_asked hop] using hc
    rw [step_state_of_asked hop, step_state_of_asked hop, ← hsettings]
    exact h.run s.settings
  | none =>
    rw [step_state_of_not_asked hop, step_state_of_not_asked hop]
    cases c with
    | control k => exact h.control k _ _
    | _ => exact h

/-- and when one of them carries out a command for another volume. -/
theorem Agree.step_left {volume : String} {s t : Standing State Call}
    (h : Agree volume s.state t.state) {c : Command Control} (hc : concerns volume c = false) :
    Agree volume (bench.step s c).standing.state t.state := by
  cases hop : asked c with
  | some op =>
    have hvolume : op.volume ≠ volume := by simpa [concerns, volume?_of_asked hop] using hc
    rw [step_state_of_asked hop]
    exact h.run_left s.settings hvolume
  | none =>
    rw [step_state_of_not_asked hop]
    cases c with
    | control k =>
      cases k with
      | withQuota w q => exact h.insert_left (by simpa [concerns, volume?] using hc) q
      | storedLimit w => exact h
      | _ => cases hc
    | _ => exact h

theorem step_settings_of_not_concerns {volume : String} (s : Standing State Call) {c : Command Control}
    (hc : concerns volume c = false) : (bench.step s c).standing.settings = s.settings := by
  cases c with
  | reconfigure document => cases hc
  | _ => rfl

/-! Scripts. -/

theorem shown_cons_of_concerns {volume : String} {c : Command Control} (hc : concerns volume c = true)
    (s : Standing State Call) (script : List (Command Control)) :
    shown volume s (c :: script) =
      (visible c (bench.step s c).result, (bench.step s c).standing.state.storedLimit volume) ::
        shown volume (bench.step s c).standing script := by
  simp [shown, Bench.run, hc]

theorem shown_cons_of_not_concerns {volume : String} {c : Command Control}
    (hc : concerns volume c = false) (s : Standing State Call) (script : List (Command Control)) :
    shown volume s (c :: script) = shown volume (bench.step s c).standing script := by
  simp [shown, Bench.run, hc]

/-- From standings in agreement, a script shows at a volume what it shows without the commands for other
volumes, and ends in agreement with it; by induction on the script. -/
theorem shown_purge {volume : String} {s t : Standing State Call} (hsettings : s.settings = t.settings)
    (h : Agree volume s.state t.state) (script : List (Command Control)) :
    shown volume s script = shown volume t (purge volume script) ∧
      Agree volume (bench.standing s script).state
        (bench.standing t (purge volume script)).state := by
  induction script generalizing s t with
  | nil => exact ⟨rfl, h⟩
  | cons c script ih =>
    cases hc : concerns volume c with
    | true =>
      have hstep := h.step hsettings hc
      obtain ⟨hshown, hend⟩ := ih (step_settings_congr hsettings c) hstep
      rw [purge, List.filter_cons_of_pos hc, shown_cons_of_concerns hc, shown_cons_of_concerns hc,
        step_visible hsettings h hc, hstep.storedLimit, hshown]
      exact ⟨rfl, hend⟩
    | false =>
      -- only the left side moves
      rw [purge, List.filter_cons_of_neg (by simp [hc]), shown_cons_of_not_concerns hc]
      exact ih ((step_settings_of_not_concerns s hc).trans hsettings) (h.step_left hc)

/-- **Volumes do not interfere.** However a script mixes the commands for several volumes, and whatever fails
in it: without the commands for other volumes it shows the same at a volume, command after command, and
the limit that is stored for the volume is the same at every moment in between. -/
theorem volumes_apart (settings : Settings) (volume : String) (script : List (Command Control)) :
    shown volume ⟨settings, .initial, []⟩ (purge volume script) =
      shown volume ⟨settings, .initial, []⟩ script ∧
    ∀ before rest, script = before ++ rest →
      (reached settings (purge volume before)).state.storedLimit volume =
        (reached settings before).state.storedLimit volume := by
  have hagree : Agree volume State.initial State.initial := .refl rfl
  refine ⟨(shown_purge rfl hagree script).1.symm, ?_⟩
  rintro before rest rfl
  exact (shown_purge rfl hagree before).2.storedLimit.symm

/-- Another spelling is another volume. -/
example : concerns "D:" (.operation (.setQuota "d:" 5)) = false := by decide

end DiskQuota.Recording
