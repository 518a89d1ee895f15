import DiskQuota.Proofs.Scripted.Plays
import DiskQuota.Proofs.Session

/-!
The journal of a task that plays a list of due calls. What is logged stands in a fixed place: a failure, a
milestone or the news that there is no quota right behind its call (`told`), and the announcement of a
release right before it (`heralded`). A task that writes its turns so (`Writes`) plays the list, and there
is one rule for each way in which such a task is built; what a task notes before its first call is
left for the call before it, and a span stands around all.
-/
namespace DiskQuota.Scripted

/-- The event that is worth logging once the call at a step has succeeded. -/
def milestone : Step → Option Event
  | .instantiateSession => some .sessionAcquired
  | .commit => some .quotaCommitted
  | _ => none

/-- What is logged of a turn. -/
def Turn.remark (x : Turn) : Option Event :=
  match x.outcome.code? with
  | some code => some (.callFailed x.step code)
  | none => if x.ends then some .noQuota else milestone x.step

/-- The event that announces a release. -/
def Call.herald : Call → Option Event
  | .releaseRecord _ => some .releasingRecord
  | .releaseSession _ => some .releasingSession
  | .closeContext => some .tearingDown
  | _ => none

/-- The entry of an event, if there is one. -/
def logged (event : Option Event) : List (Entry Call) := event.toList.map .log

/-- The entries of turns: each call, and what is logged of it. -/
def told (m : List Turn) : List (Entry Call) := m.flatMap fun x => .call x.call :: logged x.remark

/-- The entries of releases, each behind its announcement. -/
def heralded (back : List Call) : List (Entry Call) := back.flatMap fun c => logged c.herald ++ [.call c]

@[simp] theorem told_nil : told [] = [] := rfl

theorem told_cons (x : Turn) (m : List Turn) :
    told (x :: m) = .call x.call :: (logged x.remark ++ told m) := rfl

theorem told_append (m m' : List Turn) : told (m ++ m') = told m ++ told m' := List.flatMap_append

theorem heralded_append (back back' : List Call) :
    heralded (back ++ back') = heralded back ++ heralded back' := List.flatMap_append

theorem remark_of_code? {x : Turn} {code : Status} (h : x.outcome.code? = some code) :
    x.remark = some (.callFailed x.step code) := by
  rw [Turn.remark, h]

theorem remark_of_ends {x : Turn} (h : x.outcome.code? = none) (hends : x.ends = true) :
    x.remark = some .noQuota := by
  rw [Turn.remark, h]
  exact if_pos hends

theorem remark_of_not_ends {x : Turn} (hends : x.ends = false) : x.remark = milestone x.step := by
  rw [Turn.remark, Turn.code?_eq_none hends]
  exact if_neg (by simp [hends])

/-! What is logged, told by its level: a failure is an error, other remarks are for debugging, and the
announcements of releases are for tracing. -/

theorem level_milestone {p : Step} {event : Event} (h : milestone p = some event) :
    event.level = .debug := by
  cases p <;> cases h <;> rfl

theorem level_remark {x : Turn} {event : Event} (h : x.remark = some event) :
    event.level = if x.error?.isSome then .error else .debug := by
  rw [Turn.remark] at h
  rw [Turn.error?, Option.isSome_map]
  cases hcode : x.outcome.code? with
  | some code =>
    rw [hcode] at h
    cases h
    rfl
  | none =>
    rw [hcode] at h
    dsimp only at h
    split at h
    · cases h
      rfl
    · exact level_milestone h

theorem level_herald {c : Call} {event : Event} (h : c.herald = some event) : event.level = .trace := by
  cases c <;> cases h <;> rfl

theorem herald_of_asks {c : Call} (h : c.asks = true) : c.herald = none := by
  cases c <;> first | rfl | cases h

/-! What is found in a journal. -/

theorem mem_logged {event : Event} {o : Option Event} : .log event ∈ logged o ↔ o = some event := by
  cases o <;> simp [logged, eq_comm]

theorem call_not_mem_logged (c : Call) (o : Option Event) : .call c ∉ logged o := by
  cases o <;> simp [logged]

theorem mem_told {y : Entry Call} {m : List Turn} :
    y ∈ told m ↔ ∃ x ∈ m, y = .call x.call ∨ y ∈ logged x.remark := by
  simp [told]

theorem mem_heralded {y : Entry Call} {back : List Call} :
    y ∈ heralded back ↔ ∃ c ∈ back, y ∈ logged c.herald ∨ y = .call c := by
  simp [heralded]

@[simp] theorem calls_logged (o : Option Event) : calls (logged o) = [] := by
  cases o <;> rfl

@[simp] theorem calls_told (m : List Turn) : calls (told m) = m.map (·.call) := by
  induction m with
  | nil => rfl
  | cons x m ih => simp [told_cons, ih]

/-- From `s` the task plays the calls that are due. Its journal is that of the turns and then of the
releases `back`, with `before` in front and `after` behind. -/
structure Writes {α : Type} (x : Task State (Entry Call) StepError α) (s : State)
    (before : List (Entry Call)) (ds : List Due) (a : α) (back : List Call)
    (after : List (Entry Call)) : Prop extends Plays x s ds a back where
  journal : (x s).trace = before ++ (told (played ds s) ++ (heralded back ++ after))

namespace Writes

variable {α β : Type} {x : Task State (Entry Call) StepError α}
  {k : α → Task State (Entry Call) StepError β} {s : State} {ds ds' : List Due} {a : α} {b : β}
  {back : List Call} {before after : List (Entry Call)}

protected theorem pure (s : State) (a : α) : Writes (pure a) s [] [] a [] [] := ⟨.pure s a, rfl⟩

protected theorem note (e : Event) (s : State) : Writes (note e) s [.log e] [] () [] [] :=
  ⟨.note e s, rfl⟩

theorem note_bind {e : Event} {k : Unit → Task State (Entry Call) StepError β}
    (h : Writes (k ()) s before ds b back after) :
    Writes (DiskQuota.note e >>= k) s (.log e :: before) ds b back after := by
  refine ⟨.note_bind h.toPlays, ?_⟩
  show .log e :: (k () s).trace = _
  rw [h.journal]
  rfl

protected theorem inSpan {span : Span} (h : Writes x s before ds a back after) :
    Writes (inSpan span x) s (.enter span :: before) ds a back (after ++ [.exit span]) := by
  refine ⟨.inSpan h.toPlays, ?_⟩
  simp [DiskQuota.inSpan, h.journal]

/-- A release is announced, and made. -/
protected theorem ensuring (h : Writes x s before ds a back []) {release : State → Ran State Call Unit}
    {c : Call} {e : Event} (hrelease : ∀ s, release s = ⟨(), [c], s⟩) (hherald : c.herald = some e) :
    Writes (x.ensuring (announced e release)) s before ds a (back ++ [c]) [] := by
  refine ⟨.ensuring h.toPlays hrelease, ?_⟩
  have hreleased : heralded [c] = [.log e, .call c] := by simp [heralded, logged, hherald]
  rw [Task.ensuring_trace, h.journal, announced, hrelease, heralded_append, hreleased]
  simp

/-- The answer matters only where nothing failed. -/
theorem congr_answer {a' : α} (h : Writes x s before ds a back after)
    (ha : (∀ y ∈ played ds s, y.error? = none) → a = a') : Writes x s before ds a' back after :=
  ⟨h.toPlays.congr_answer ha, h.journal⟩

/-- A call that is due, and what is done with its answer. What that notes at once is what is logged of
the call: the milestone of its step, or that there is no quota. -/
theorem attempt_bind {p : Step} {c : Call} {call : Task State Call Status α}
    (hcall : call s = answered c s a (s.after [⟨⟨p, c⟩, s.next⟩]))
    (hstop : s.next.code? = none → c.ends s.next = true →
      Writes (k a) (s.after [⟨⟨p, c⟩, s.next⟩]) [.log .noQuota] [] b [] [])
    (hback : c.ends s.next = true → back = [])
    (hk : c.ends s.next = false →
      Writes (k a) (s.after [⟨⟨p, c⟩, s.next⟩]) (logged (milestone p)) ds b back []) :
    Writes (attempt p call >>= k) s [] (⟨p, c⟩ :: ds) b back [] := by
  refine ⟨.attempt_bind hcall (fun hcode hends => (hstop hcode hends).toPlays) hback
    fun hends => (hk hends).toPlays, ?_⟩
  have hstate : (attempt p call s).state = s.after [⟨⟨p, c⟩, s.next⟩] := by
    rw [attempt_state, hcall, answered_state]
  have hvalue := attempt_value p call s
  rw [hcall, answered_value] at hvalue
  cases hcode : s.next.code? with
  | some code =>
    -- the failure is logged behind the call, and nothing follows
    have hends : c.ends s.next = true := Call.ends_of_code? hcode
    have hnext : s.next = .failure code := by
      cases h : s.next <;> simp_all [Outcome.code?]
    rw [hcode] at hvalue
    rw [Task.bind_apply_error hvalue, played_cons, hends, hback hends, told_cons,
      remark_of_code? (x := ⟨⟨p, c⟩, s.next⟩) hcode, attempt, hcall, answered, hnext]
    rfl
  | none =>
    have htrace : (attempt p call s).trace = [.call c] := by
      rw [attempt, hcall, answered]
      cases h : s.next <;> simp_all [Outcome.code?]
    rw [hcode] at hvalue
    rw [Task.bind_apply_ok hvalue, hstate, htrace, played_cons, told_cons]
    cases hends : c.ends s.next with
    | true =>
      rw [(hstop hcode hends).journal, hback hends,
        remark_of_ends (x := ⟨⟨p, c⟩, s.next⟩) hcode hends]
      rfl
    | false =>
      rw [(hk hends).journal, remark_of_not_ends (x := ⟨⟨p, c⟩, s.next⟩) hends]
      simp

/-- A call that ends the asking only by failing. -/
theorem ask_bind {p : Step} {c : Call} {call : Task State Call Status α}
    (hcall : call s = answered c s a (s.after [⟨⟨p, c⟩, s.next⟩]))
    (hget : ∀ session volume, c ≠ .get session volume)
    (hback : c.ends s.next = true → back = [])
    (hk : c.ends s.next = false →
      Writes (k a) (s.after [⟨⟨p, c⟩, s.next⟩]) (logged (milestone p)) ds b back []) :
    Writes (attempt p call >>= k) s [] (⟨p, c⟩ :: ds) b back [] := by
  refine .attempt_bind hcall (fun hcode h => ?_) hback hk
  rw [Call.ends_eq hget, hcode] at h
  exact absurd h Bool.false_ne_true

/-- A call after which there is nothing to give back. -/
theorem ask_then {p : Step} {c : Call} {call : Task State Call Status α}
    (hcall : call s = answered c s a (s.after [⟨⟨p, c⟩, s.next⟩]))
    (hget : ∀ session volume, c ≠ .get session volume)
    (hk : c.ends s.next = false →
      Writes (k a) (s.after [⟨⟨p, c⟩, s.next⟩]) (logged (milestone p)) ds b [] []) :
    Writes (attempt p call >>= k) s [] (⟨p, c⟩ :: ds) b [] [] :=
  .ask_bind hcall hget (fun _ => rfl) hk

/-- One task after another, where only failures end the asking of the first. -/
protected theorem bind (hx : Writes x s before ds a [] [])
    (hends : ∀ y ∈ played ds s, y.ends = y.error?.isSome)
    (hback : (played ds s).any Turn.ends = true → back = [])
    (hk : (played ds s).any Turn.ends = false →
      Writes (k a) (s.after (played ds s)) [] ds' b back []) :
    Writes (x >>= k) s before (ds ++ ds') b back [] := by
  refine ⟨.bind hx.toPlays hends hback fun hany => (hk hany).toPlays, ?_⟩
  have hv := hx.value
  rw [played_append]
  rcases verdict_cases hends a b with ⟨hany, e, ha, -⟩ | ⟨hany, ha⟩
  · rw [ha] at hv
    rw [Task.bind_apply_error hv, hx.journal, hany, hback hany]
    rfl
  · rw [ha] at hv
    rw [Task.bind_apply_ok hv, hx.journal, hx.state, (hk hany).journal, hany,
      if_neg Bool.false_ne_true, told_append]
    simp [heralded]

/-- What is done with a value in the end is not logged. -/
theorem map (f : α → β) (h : Writes x s before ds a back after) :
    Writes (do return f (← x)) s before ds (f a) back after := by
  refine ⟨h.toPlays.map f, ?_⟩
  rw [Task.map_trace, h.journal]

end Writes
end DiskQuota.Scripted
