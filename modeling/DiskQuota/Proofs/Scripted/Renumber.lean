import DiskQuota.Proofs.Alike
import DiskQuota.Proofs.Scripted.Cleanup

/-!
The scripted service does not look at the numbers of its handles. From a state in which more handles exist
an operation does the same with the numbers moved on: `Renumbers` says so of two tasks, with one rule for
each way in which a task is built, and `run_renumbers` of every operation.
-/
namespace DiskQuota

namespace Scripted

/-- The call on the handles whose numbers are larger by `k`. -/
def Call.renumber (k : Handle → Nat) : Call → Call
  | .instantiate manager interface context =>
    .instantiate (manager + k .identifier) (interface + k .identifier) context
  | .create session volume => .create (session + k .session) volume
  | .get session volume => .get (session + k .session) volume
  | .setLimit record bytes => .setLimit (record + k .record) bytes
  | .limit record => .limit (record + k .record)
  | .used record => .used (record + k .record)
  | .commit record => .commit (record + k .record)
  | .releaseRecord record => .releaseRecord (record + k .record)
  | .releaseSession session => .releaseSession (session + k .session)
  | c => c

/-- The state in which `k` more handles of each kind exist. -/
def State.renumber (k : Handle → Nat) (s : State) : State where
  outcomes := s.outcomes
  identifiers := s.identifiers + k .identifier
  sessions := s.sessions + k .session
  records := s.records + k .record

section

variable (k : Handle → Nat)

@[simp] theorem Call.renumber_asks (c : Call) : (c.renumber k).asks = c.asks := by
  cases c <;> rfl

@[simp] theorem Call.renumber_gives (c : Call) (h : Handle) (o : Outcome) :
    (c.renumber k).gives h o = c.gives h o := by
  cases c <;> cases o <;> rfl

/-- A turn leaves the same, but for the numbers. -/
theorem State.renumber_after (s : State) (p : Step) (c : Call) (o : Outcome) :
    (s.renumber k).after [⟨⟨p, c.renumber k⟩, o⟩] = (s.after [⟨⟨p, c⟩, o⟩]).renumber k := by
  have hcount : ∀ h, List.countP (Turn.gives h) [⟨⟨p, c.renumber k⟩, o⟩] =
      List.countP (Turn.gives h) [⟨⟨p, c⟩, o⟩] := by
    intro h
    rw [List.countP_singleton, List.countP_singleton, Turn.gives, Turn.gives, Call.renumber_gives]
  simp only [State.after, State.renumber, hcount, Nat.add_right_comm]
  rfl

/-- Every state is that of a fresh service, but for the numbers. -/
theorem State.renumber_initial (s : State) : (State.initial s.outcomes).renumber s.existing = s := by
  simp [State.renumber, State.initial, State.existing]

end

/-- The runs `r` and `r'` are alike but for the numbers of handles, which are larger by `k` in `r`. What
they come to is related by `R`, and an error is the same. -/
structure Renumbered {α β : Type} (k : Handle → Nat) (R : α → β → Prop)
    (r : Ran State (Entry Call) (Except StepError α))
    (r' : Ran State (Entry Call) (Except StepError β)) : Prop where
  ok : ∀ b, r'.value = .ok b → ∃ a, r.value = .ok a ∧ R a b
  error : ∀ e, r'.value = .error e → r.value = .error e
  journal : r.trace = r'.trace.map (Entry.map (Call.renumber k))
  state : r.state = r'.state.renumber k

/-- From a state in which `k` more handles exist the task `x` runs as `y` does, but for the numbers. -/
def Renumbers {α β : Type} (k : Handle → Nat) (R : α → β → Prop)
    (x : Task State (Entry Call) StepError α) (y : Task State (Entry Call) StepError β) : Prop :=
  ∀ s, Renumbered k R (x (s.renumber k)) (y s)

namespace Renumbers

variable {α β α' β' : Type} {k : Handle → Nat} {R : α → β → Prop} {R' : α' → β' → Prop}
  {x : Task State (Entry Call) StepError α} {y : Task State (Entry Call) StepError β}

protected theorem pure {a : α} {b : β} (h : R a b) : Renumbers k R (pure a) (pure b) := by
  intro s
  refine ⟨fun b' hb' => ?_, nofun, rfl, rfl⟩
  cases hb'
  exact ⟨a, rfl, h⟩

protected theorem note (event : Event) : Renumbers k (· = ·) (note event) (note event) :=
  fun _ => ⟨fun b hb => ⟨b, hb, rfl⟩, nofun, rfl, rfl⟩

protected theorem bind {f : α → Task State (Entry Call) StepError α'}
    {g : β → Task State (Entry Call) StepError β'} (hx : Renumbers k R x y)
    (hf : ∀ a b, R a b → Renumbers k R' (f a) (g b)) : Renumbers k R' (x >>= f) (y >>= g) := by
  intro s
  obtain ⟨hok, herror, hjournal, hstate⟩ := hx s
  cases hy : (y s).value with
  | error e =>
    rw [Task.bind_apply_error hy, Task.bind_apply_error (herror e hy)]
    refine ⟨nofun, fun e' he' => ?_, hjournal, hstate⟩
    cases he'
    rfl
  | ok b =>
    obtain ⟨a, ha, hab⟩ := hok b hy
    obtain ⟨hok', herror', hjournal', hstate'⟩ := hf a b hab (y s).state
    rw [Task.bind_apply_ok hy, Task.bind_apply_ok ha, hstate]
    refine ⟨hok', herror', ?_, hstate'⟩
    rw [hjournal, hjournal', List.map_append]

/-- A call on handles with other numbers: its outcome is the same, and so is what it leaves. -/
protected theorem attempt {p step : Step} {call : Task State Call Status α}
    {call' : Task State Call Status β} {c : Call} {a : State → α} {b : State → β}
    (hcall : ∀ s, call s = answered (c.renumber k) s (a s) (s.after [⟨⟨p, c.renumber k⟩, s.next⟩]))
    (hcall' : ∀ s, call' s = answered c s (b s) (s.after [⟨⟨p, c⟩, s.next⟩]))
    (hR : ∀ s, R (a (s.renumber k)) (b s)) :
    Renumbers k R (attempt step call) (attempt step call') := by
  intro s
  have hnext : (s.renumber k).next = s.next := rfl
  unfold DiskQuota.attempt
  rw [hcall, hcall', answered, answered, hnext, State.renumber_after]
  cases s.next with
  | failure code =>
    refine ⟨fun b' hb' => ?_, fun e he => ?_, rfl, rfl⟩
    · cases hb'
    · cases he
      rfl
  | _ =>
    refine ⟨fun b' hb' => ?_, fun e he => ?_, rfl, rfl⟩
    · cases hb'
      exact ⟨_, rfl, hR s⟩
    · cases he

/-- A release of a handle with another number. -/
protected theorem ensuring (h : Renumbers k R x y) {event : Event}
    {release release' : State → Ran State Call Unit} {c : Call}
    (hrelease : ∀ s, release s = ⟨(), [c.renumber k], s⟩) (hrelease' : ∀ s, release' s = ⟨(), [c], s⟩) :
    Renumbers k R (x.ensuring (announced event release)) (y.ensuring (announced event release')) := by
  intro s
  obtain ⟨hok, herror, hjournal, hstate⟩ := h s
  refine ⟨hok, herror, ?_, ?_⟩
  · rw [Task.ensuring_trace, Task.ensuring_trace, hjournal, List.map_append, announced, announced,
      hrelease, hrelease']
    rfl
  · rw [Task.ensuring_state, Task.ensuring_state, announced_state, announced_state, hrelease, hrelease',
      hstate]

protected theorem inSpan (span : Span) (h : Renumbers k R x y) :
    Renumbers k R (inSpan span x) (inSpan span y) := by
  intro s
  obtain ⟨hok, herror, hjournal, hstate⟩ := h s
  refine ⟨hok, herror, ?_, hstate⟩
  simp only [DiskQuota.inSpan, hjournal, List.map_cons, List.map_append]
  rfl

theorem acquire (settings : Settings) :
    Renumbers k (fun a b => a = b + k .session) (service.acquire settings) (service.acquire settings) := by
  have hresolve : ∀ step text, Renumbers k (fun a b => a = b + k .identifier)
      (DiskQuota.attempt step (service.resolve text)) (DiskQuota.attempt step (service.resolve text)) :=
    fun step text => .attempt (c := .resolve text) (resolve_apply step · text) (resolve_apply step · text)
      fun s => Nat.add_right_comm _ _ _
  refine .bind (hresolve _ _) fun manager manager' hmanager => ?_
  refine .bind (hresolve _ _) fun interface interface' hinterface => ?_
  refine .bind (R := (· = ·)) (.attempt (c := .openContext settings.threading)
    (openContext_apply .initializeContext · _) (openContext_apply .initializeContext · _)
    fun _ => rfl) fun _ _ _ => ?_
  rw [hmanager, hinterface]
  refine .bind (R := fun a b => a = b + k .session) (.attempt
    (c := .instantiate manager' interface' settings.serverContext)
    (instantiate_apply .instantiateSession · _ _ _) (instantiate_apply .instantiateSession · _ _ _)
    fun s => Nat.add_right_comm _ _ _) fun session session' hsession => ?_
  exact .bind (.note _) fun _ _ _ => .pure hsession

end Renumbers

/-- Everything that operations are made of goes by the numbers of the handles at hand. -/
theorem service_renumbers (settings : Settings) (k : Handle → Nat) :
    service.Alike service settings settings (fun (a b : Nat) => a = b + k .session)
      (fun (a b : Nat) => a = b + k .record) (Renumbers k) (Renumbers k) where
  pure h := .pure h
  note event := .note event
  bind hx hf := .bind hx hf
  create h step volume := by
    subst h
    exact .attempt (c := .create _ volume) (create_apply step · _ _) (create_apply step · _ _)
      fun s => Nat.add_right_comm _ _ _
  get h step volume := by
    subst h
    refine .attempt (c := .get _ volume) (get_apply step · _ _) (get_apply step · _ _) fun s => ?_
    by_cases h : s.next = .absent
    · rw [if_pos h, if_pos (show (s.renumber k).next = .absent from h)]
      exact .none
    · rw [if_neg h, if_neg (show (s.renumber k).next ≠ .absent from h)]
      exact .some (Nat.add_right_comm _ _ _)
  setLimit h step limit := by
    subst h
    exact .attempt (c := .setLimit _ limit) (setLimit_apply step · _ _) (setLimit_apply step · _ _)
      fun _ => rfl
  limit h step := by
    subst h
    exact .attempt (c := .limit _) (limit_apply step · _) (limit_apply step · _) fun _ => rfl
  used h step := by
    subst h
    exact .attempt (c := .used _) (used_apply step · _) (used_apply step · _) fun _ => rfl
  commit h step := by
    subst h
    exact .attempt (c := .commit _) (commit_apply step · _) (commit_apply step · _) fun _ => rfl
  withRecord h _ _ hx := by
    subst h
    exact .ensuring (c := .releaseRecord _) hx (fun _ => rfl) fun _ => rfl
  withSession hwork := by
    refine .ensuring (c := .closeContext) ?_ (fun _ => rfl) fun _ => rfl
    refine .bind (.acquire settings) fun a b hab => ?_
    have hab' := hwork a b hab
    subst hab
    exact .ensuring (c := .releaseSession b) hab' (fun _ => rfl) fun _ => rfl
  inSpan span h := .inSpan span h
  map f h := .bind h fun _ _ hab => .pure (congrArg f hab)

/-- **Operations do not look at numbers.** From a state in which `k` more handles exist an operation comes
to the same, takes the same outcomes, and writes the same journal with the numbers moved on by `k`. -/
theorem run_renumbers (settings : Settings) (k : Handle → Nat) (op : Operation) :
    Renumbers k (· = ·) (op.run service settings) (op.run service settings) :=
  (service_renumbers settings k).run op

end Scripted
end DiskQuota
