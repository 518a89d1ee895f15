import DiskQuota.Proofs.Scripted.Turn

/-!
What it is for a task to play a list of due calls, with one rule for each way in which a task is built:
a task that plays the list makes its calls up to the first that fails, comes to the first error or to
its answer, and leaves the state after its turns. The releases stand apart from what is due, since
they follow whatever the calls come to.
-/
namespace DiskQuota.Scripted

/-- From `s` the task plays the calls that are due. It comes to `a` if none of them fails, and the
calls `back` follow whatever they come to. -/
structure Plays {α : Type} (x : Task State (Entry Call) StepError α) (s : State) (ds : List Due)
    (a : α) (back : List Call) : Prop where
  value : (x s).value = verdict (played ds s) a
  calls : calls (x s).trace = (played ds s).map (·.call) ++ back
  state : (x s).state = s.after (played ds s)

namespace Plays

variable {α β : Type} {x : Task State (Entry Call) StepError α}
  {k : α → Task State (Entry Call) StepError β} {s : State} {ds ds' : List Due} {a : α} {b : β}
  {back : List Call}

protected theorem pure (s : State) (a : α) : Plays (pure a) s [] a [] :=
  ⟨rfl, rfl, s.after_nil.symm⟩

protected theorem note (e : Event) (s : State) : Plays (note e) s [] () [] :=
  ⟨rfl, rfl, s.after_nil.symm⟩

theorem note_bind {e : Event} {k : Unit → Task State (Entry Call) StepError β}
    (h : Plays (k ()) s ds b back) : Plays (DiskQuota.note e >>= k) s ds b back :=
  ⟨h.value, h.calls, h.state⟩

protected theorem inSpan {span : Span} (h : Plays x s ds a back) :
    Plays (inSpan span x) s ds a back :=
  ⟨h.value, by rw [calls_inSpan, h.calls], h.state⟩

/-- A release is one call more; it fails at nothing and changes nothing. -/
protected theorem ensuring (h : Plays x s ds a back) {release : State → Ran State Call Unit}
    {c : Call} {e : Event} (hrelease : ∀ s, release s = ⟨(), [c], s⟩) :
    Plays (x.ensuring (announced e release)) s ds a (back ++ [c]) := by
  constructor
  · exact h.value
  · rw [Task.ensuring_trace, calls_append, calls_announced, h.calls, h.state, hrelease,
      List.append_assoc]
  · rw [Task.ensuring_state, announced_state, h.state, hrelease]

/-- The answer matters only where nothing failed. -/
theorem congr_answer {a' : α} (h : Plays x s ds a back)
    (ha : (∀ y ∈ played ds s, y.error? = none) → a = a') : Plays x s ds a' back := by
  refine ⟨?_, h.calls, h.state⟩
  rw [h.value, verdict, verdict]
  cases he : (played ds s).findSome? Turn.error? with
  | some e => rfl
  | none => rw [ha (List.findSome?_eq_none_iff.1 he)]

/-- A call that is due, and what is done with its answer. If the call ends the asking without having
failed, what follows asks for nothing more. -/
theorem attempt_bind {p : Step} {c : Call} {call : Task State Call Status α}
    (hcall : call s = answered c s a (s.after [⟨⟨p, c⟩, s.next⟩]))
    (hstop : s.next.code? = none → c.ends s.next = true →
      Plays (k a) (s.after [⟨⟨p, c⟩, s.next⟩]) [] b [])
    (hback : c.ends s.next = true → back = [])
    (hk : c.ends s.next = false → Plays (k a) (s.after [⟨⟨p, c⟩, s.next⟩]) ds b back) :
    Plays (attempt p call >>= k) s (⟨p, c⟩ :: ds) b back := by
  have htrace : (call s).trace = [c] := by rw [hcall, answered_trace]
  have hstate : (call s).state = s.after [⟨⟨p, c⟩, s.next⟩] := by rw [hcall, answered_state]
  have hvalue := attempt_value p call s
  rw [hcall, answered_value] at hvalue
  cases hcode : s.next.code? with
  | some code =>
    -- the call fails: nothing follows
    have hends : c.ends s.next = true := Call.ends_of_code? hcode
    rw [hcode] at hvalue
    constructor <;> rw [Task.bind_apply_error hvalue, played_cons, hends]
    · simp [verdict_cons, Turn.error?, hcode]
    · simp [htrace, hback hends]
    · simp [hstate]
  | none =>
    rw [hcode] at hvalue
    cases hends : c.ends s.next with
    | true =>
      -- it ends the asking without having failed
      obtain ⟨hv, hc, hs⟩ := hstop hcode hends
      constructor <;> rw [Task.bind_apply_ok hvalue, played_cons, hends]
      · simpa [verdict_cons, Turn.error?, hcode, hstate] using hv
      · simpa [htrace, hstate, hback hends] using hc
      · simpa [hstate] using hs
    | false =>
      obtain ⟨hv, hc, hs⟩ := hk hends
      constructor <;> rw [Task.bind_apply_ok hvalue, played_cons, hends]
      · simp [verdict_cons, Turn.error?, hcode, hstate, hv]
      · simp [htrace, hstate, hc]
      · simp [hstate, hs, ← State.after_append]

/-- One task after another, where only failures end the asking of the first. -/
protected theorem bind (hx : Plays x s ds a [])
    (hends : ∀ y ∈ played ds s, y.ends = y.error?.isSome)
    (hback : (played ds s).any Turn.ends = true → back = [])
    (hk : (played ds s).any Turn.ends = false → Plays (k a) (s.after (played ds s)) ds' b back) :
    Plays (x >>= k) s (ds ++ ds') b back := by
  obtain ⟨hv, hc, hs⟩ := hx
  rcases verdict_cases hends a b with ⟨hany, e, ha, hb⟩ | ⟨hany, ha⟩
  · rw [ha] at hv
    constructor <;> rw [Task.bind_apply_error hv, played_append, hany, if_pos rfl]
    · exact hb.symm
    · rw [hc, hback hany]
    · exact hs
  · rw [ha] at hv
    obtain ⟨kv, kc, ks⟩ := hk hany
    constructor <;> rw [Task.bind_apply_ok hv, played_append, hany, if_neg Bool.false_ne_true]
    · rw [verdict_append hany, hs, kv]
    · rw [calls_append, hc, hs, kc, List.map_append, List.append_nil, List.append_assoc]
    · rw [hs, ks, State.after_append]

/-- The calls that can fail, each with the outcome that fell to it, are the turns. -/
theorem exchanges (h : Plays x s ds a back) (hds : ∀ d ∈ ds, d.call.asks = true)
    (hback : ∀ c ∈ back, c.asks = false) :
    DiskQuota.exchanges Call.asks .success s.outcomes (DiskQuota.calls (x s).trace) =
      (played ds s).map Turn.exchange := by
  rw [h.calls, exchanges_append, exchanges_played s hds, exchanges_of_not_asks _ _ _ hback,
    List.append_nil]

/-- What is done with a value in the end adds nothing to the course. -/
theorem map (f : α → β) (h : Plays x s ds a back) :
    Plays (do return f (← x)) s ds (f a) back := by
  have hv := h.value
  rw [verdict] at hv
  cases he : (played ds s).findSome? Turn.error? with
  | some e =>
    rw [he] at hv
    refine ⟨?_, ?_, ?_⟩ <;> rw [Task.bind_apply_error hv]
    · rw [verdict, he]
    · exact h.calls
    · exact h.state
  | none =>
    rw [he] at hv
    refine ⟨?_, ?_, ?_⟩ <;> rw [Task.bind_apply_ok hv]
    · rw [verdict, he]
      rfl
    · rw [Task.pure_apply, List.append_nil]
      exact h.calls
    · exact h.state

end Plays
end DiskQuota.Scripted
