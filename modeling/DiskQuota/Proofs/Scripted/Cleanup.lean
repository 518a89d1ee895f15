import DiskQuota.Benches
import DiskQuota.Proofs.Custody
import DiskQuota.Proofs.Native.Request
import DiskQuota.Proofs.Script
import DiskQuota.Proofs.Scripted.Course

/-!
Nothing is left behind. The calls of one operation are a segment (`Segment`): the calls that can fail,
and after them the releases of exactly what was obtained, the record before the session and the
session before the context. Segments one after another settle all handles (`Settled`): each handle
that was handed out is released once, and none is named after its release. The headline
`run_settles` says both of scripts of operations, of any length and over any outcomes.
-/
namespace DiskQuota.Scripted

/-- The handle that a call gives back. -/
def Call.releases : Call → Option (Handle × Nat)
  | .releaseRecord record => some (.record, record)
  | .releaseSession session => some (.session, session)
  | _ => none

/-- The handles that a call is made on. -/
def Call.names : Call → List (Handle × Nat)
  | .instantiate manager interface _ => [(.identifier, manager), (.identifier, interface)]
  | .create session _ | .get session _ | .releaseSession session => [(.session, session)]
  | .setLimit record _ | .limit record | .used record | .commit record | .releaseRecord record =>
    [(.record, record)]
  | _ => []

/-- Where a call stands in an operation: what can fail comes before all releases. -/
def Call.rank : Call → Nat
  | .releaseRecord _ => 1
  | .releaseSession _ => 2
  | .closeContext => 3
  | _ => 0

/-- How many handles of a kind exist. -/
def State.existing (s : State) : Handle → Nat
  | .identifier => s.identifiers
  | .session => s.sessions
  | .record => s.records

/-- How many handles of a kind a trace handed out, given the outcomes that were in store. -/
def handedOut (h : Handle) (os : List Outcome) (t : List Call) : Nat :=
  (exchanges Call.asks .success os t).countP fun x => x.1.gives h x.2

/-- The calls of one operation from `s`. -/
structure Segment (s : State) (t : List Call) : Prop where
  /-- The context is closed once, -/
  closed_once : t.count .closeContext = 1
  /-- as the last call. -/
  closed_last : t.getLast? = some .closeContext
  /-- The session is released once if it was obtained, and no other is. -/
  session : ∀ n, t.count (.releaseSession n) =
    if handedOut .session s.outcomes t = 1 ∧ n = s.sessions + 1 then 1 else 0
  /-- The record is released once if it was obtained, and no other is. -/
  record : ∀ n, t.count (.releaseRecord n) =
    if handedOut .record s.outcomes t = 1 ∧ n = s.records + 1 then 1 else 0
  /-- There is no more than one of either. -/
  one : ∀ h, h ≠ .identifier → handedOut h s.outcomes t ≤ 1
  /-- The releases come after all other calls: the record, the session, the context. -/
  in_order : t.Pairwise fun c d => c.rank ≤ d.rank

/-- Sessions and records are handed out by number, and have to be given back. -/
def custody : Custody Call Handle where
  releases := Call.releases
  names := Call.names
  owed h := h ≠ .identifier
  owed_of_releases := by
    rintro c ⟨_, n⟩ hx rfl
    cases c <;> simp [Call.releases] at hx

/-- The calls `t` lead from `s` to `s'` and settle the handles that came to be on the way. -/
structure Settled (s : State) (t : List Call) (s' : State) : Prop
    extends custody.Settled s.existing t s'.existing where
  taken : s'.outcomes = s.outcomes.drop (t.countP Call.asks)
  existing : ∀ h, s'.existing h = s.existing h + handedOut h s.outcomes t

/-! Settled stretches compose. -/

theorem handedOut_append (h : Handle) (os : List Outcome) (t t' : List Call) :
    handedOut h os (t ++ t') = handedOut h os t + handedOut h (os.drop (t.countP Call.asks)) t' := by
  rw [handedOut, exchanges_append, List.countP_append]
  rfl

theorem Settled.nil (s : State) : Settled s [] s where
  toSettled := .nil
  taken := rfl
  existing _ := rfl

theorem Settled.append {s s' s'' : State} {t t' : List Call} (h : Settled s t s')
    (h' : Settled s' t' s'') : Settled s (t ++ t') s'' where
  toSettled := h.toSettled.append h'.toSettled
  taken := by rw [h'.taken, h.taken, List.drop_drop, List.countP_append]
  existing kind := by rw [h'.existing, h.existing, handedOut_append, h.taken, Nat.add_assoc]

/-! One operation. -/

theorem releases_of_asks {c : Call} (h : c.asks = true) : c.releases = none := by
  cases c <;> first | rfl | cases h

theorem rank_of_asks {c : Call} (h : c.asks = true) : c.rank = 0 := by
  cases c <;> first | rfl | cases h

section

variable (s : State) (r k : Bool)

theorem count_closeContext_closing : (closing s r k).count .closeContext = 1 := by
  cases r <;> cases k <;> rfl

theorem count_releaseSession_closing (n : Nat) :
    (closing s r k).count (.releaseSession n) = if k ∧ n = s.sessions + 1 then 1 else 0 := by
  cases r <;> cases k <;> simp [closing, List.count_cons, eq_comm (a := n)]

theorem count_releaseRecord_closing (n : Nat) :
    (closing s r k).count (.releaseRecord n) = if r ∧ n = s.records + 1 then 1 else 0 := by
  cases r <;> cases k <;> simp [closing, List.count_cons, eq_comm (a := n)]

theorem countP_releases_closing (h : Handle) (n : Nat) :
    (closing s r k).countP (fun c => c.releases = some (h, n)) = match h with
      | .identifier => 0
      | .session => if k ∧ n = s.sessions + 1 then 1 else 0
      | .record => if r ∧ n = s.records + 1 then 1 else 0 := by
  cases h <;> cases r <;> cases k <;>
    simp [closing, Call.releases, List.countP_cons, eq_comm (a := n)]

theorem pairwise_rank_closing : (closing s r k).Pairwise fun c d => c.rank ≤ d.rank := by
  cases r <;> cases k <;> simp [closing, Call.rank]

theorem names_closing : ∀ c ∈ closing s r k, ∀ x ∈ c.names, s.existing x.1 < x.2 := by
  cases r <;> cases k <;> simp [closing, Call.names, State.existing]

/-- The record and the session are not mistaken for each other. -/
theorem pairwise_names_closing :
    (closing s r k).Pairwise fun c d => ∀ x, c.releases = some x → x ∉ d.names := by
  cases r <;> cases k <;> simp [closing, Call.releases, Call.names]

end

theorem due_names (settings : Settings) (s : State) (op : Operation) :
    ∀ d ∈ due settings s op, ∀ x ∈ d.call.names, s.existing x.1 < x.2 := by
  have hall : (due settings s op).all
      (fun d => d.call.names.all fun x => s.existing x.1 < x.2) = true := by
    cases op <;> simp [due, acquisition, inSession, opening, onRecord, Call.names, State.existing, List.all_cons]
  intro d hd x hx
  exact of_decide_eq_true (List.all_eq_true.1 (List.all_eq_true.1 hall d hd) x hx)

/-- No operation obtains more than one session or record. -/
theorem countP_due_yields (settings : Settings) (s : State) (op : Operation) {h : Handle}
    (hh : h ≠ .identifier) : (due settings s op).countP (fun d => d.call.yields = some h) ≤ 1 := by
  cases h with
  | identifier => exact absurd rfl hh
  | session => cases op <;> exact Nat.le_refl 1
  | record => cases op <;> exact Nat.le_refl 1

section

variable (settings : Settings) (s : State) (op : Operation)

theorem countP_gives (h : Handle) :
    handedOut h s.outcomes (calls (op.run service settings s).trace) =
      (played (due settings s op) s).countP (Turn.gives h) := by
  rw [handedOut, run_exchanges, List.countP_map]
  rfl

theorem handedOut_run {h : Handle} (hh : h ≠ .identifier) :
    handedOut h s.outcomes (calls (op.run service settings s).trace) =
      if (played (due settings s op) s).any (Turn.gives h) then 1 else 0 := by
  have hyields : (played (due settings s op) s).countP (Turn.gives h) ≤
      ((played (due settings s op) s).map (·.toDue)).countP (fun d => d.call.yields = some h) := by
    rw [List.countP_map]
    refine List.countP_mono_left fun x _ hx => ?_
    simp only [Turn.gives, Call.gives, Bool.and_eq_true] at hx
    exact hx.1
  have hone := Nat.le_trans hyields
    (Nat.le_trans (toDue_played _ s).sublist.countP_le (countP_due_yields settings s op hh))
  rw [countP_gives]
  split
  · next hany =>
    obtain ⟨x, hx, hgives⟩ := List.any_eq_true.1 hany
    have hpos := List.countP_pos_iff.2 ⟨x, hx, hgives⟩
    omega
  · next hany =>
    exact List.countP_eq_zero.2 fun x hx hgives => hany (List.any_eq_true.2 ⟨x, hx, hgives⟩)

/-- The calls of an operation: those that can fail, on fresh handles, and then the releases of what
was obtained. -/
theorem run_calls : ∃ asked,
    (∀ c ∈ asked, c.asks = true ∧ ∀ x ∈ c.names, s.existing x.1 < x.2) ∧
    calls (op.run service settings s).trace = asked ++ closing s
      (handedOut .record s.outcomes (calls (op.run service settings s).trace) = 1)
      (handedOut .session s.outcomes (calls (op.run service settings s).trace) = 1) := by
  refine ⟨(played (due settings s op) s).map (·.call), ?_, ?_⟩
  · intro c hc
    obtain ⟨x, hx, rfl⟩ := List.mem_map.1 hc
    have hd := mem_of_mem_played hx
    exact ⟨due_asks settings s op _ hd, due_names settings s op _ hd⟩
  · have hflag : ∀ h, h ≠ .identifier →
        decide (handedOut h s.outcomes (calls (op.run service settings s).trace) = 1) =
          (played (due settings s op) s).any (Turn.gives h) := by
      intro h hh
      rw [handedOut_run settings s op hh]
      cases (played (due settings s op) s).any (Turn.gives h) <;> rfl
    rw [hflag .record Handle.noConfusion, hflag .session Handle.noConfusion]
    exact (run_plays settings op s).calls

/-- The calls of an operation form a segment, whatever it came to. -/
theorem run_segment : Segment s (calls (op.run service settings s).trace) := by
  obtain ⟨asked, hasked, hcalls⟩ := run_calls settings s op
  generalize hr : handedOut .record s.outcomes (calls (op.run service settings s).trace) = r at hcalls
  generalize hk : handedOut .session s.outcomes (calls (op.run service settings s).trace) = k at hcalls
  have hcount : ∀ c, c.asks = false → asked.count c = 0 := fun c hc =>
    List.count_eq_zero.2 fun hmem => by simp [(hasked c hmem).1] at hc
  have hrank : ∀ c ∈ asked, c.rank = 0 := fun c hc => rank_of_asks (hasked c hc).1
  constructor
  · rw [hcalls, List.count_append, hcount _ rfl, count_closeContext_closing]
  · rw [hcalls, closing, ← List.append_assoc, List.getLast?_concat]
  · intro n
    rw [hk, hcalls, List.count_append, hcount _ rfl, count_releaseSession_closing]
    simp
  · intro n
    rw [hr, hcalls, List.count_append, hcount _ rfl, count_releaseRecord_closing]
    simp
  · intro h hh
    rw [handedOut_run settings s op hh]
    split <;> omega
  · rw [hcalls]
    refine List.pairwise_append.2 ⟨?_, pairwise_rank_closing s _ _, fun c hc d _ => ?_⟩
    · refine List.pairwise_of_forall_mem_list fun c hc d _ => ?_
      rw [hrank c hc]
      exact Nat.zero_le _
    · rw [hrank c hc]
      exact Nat.zero_le _

/-- What exists after an operation is what existed before and what its calls handed out. -/
theorem run_existing (h : Handle) :
    (op.run service settings s).state.existing h = s.existing h +
      handedOut h s.outcomes (calls (op.run service settings s).trace) := by
  rw [(run_plays settings op s).state, countP_gives]
  cases h <;> rfl

/-- An operation takes one outcome for each call that can fail. -/
theorem run_taken : (op.run service settings s).state.outcomes =
    s.outcomes.drop ((calls (op.run service settings s).trace).countP Call.asks) := by
  have hlength : (played (due settings s op) s).length =
      (calls (op.run service settings s).trace).countP Call.asks := by
    rw [List.countP_eq_length_filter, ← fst_exchanges Call.asks .success s.outcomes, run_exchanges,
      List.length_map, List.length_map]
  rw [(run_plays settings op s).state, ← hlength]
  rfl

/-- What an operation handed out is released once, and nothing else is. -/
theorem run_released (h : Handle) (n : Nat) (hh : h ≠ .identifier) :
    (calls (op.run service settings s).trace).countP (fun c => c.releases = some (h, n)) =
      if s.existing h < n ∧ n ≤ (op.run service settings s).state.existing h then 1 else 0 := by
  have hle := (run_segment settings s op).one h hh
  obtain ⟨asked, hasked, hcalls⟩ := run_calls settings s op
  have hzero : asked.countP (fun c => c.releases = some (h, n)) = 0 :=
    List.countP_eq_zero.2 fun c hc => by simp [releases_of_asks (hasked c hc).1]
  have hclosing := congrArg (List.countP fun c => decide (c.releases = some (h, n))) hcalls
  rw [List.countP_append, hzero, Nat.zero_add, countP_releases_closing] at hclosing
  rw [run_existing, hclosing]
  cases h with
  | identifier => exact absurd rfl hh
  | session =>
    simp only [decide_eq_true_eq, State.existing]
    exact if_congr (by omega) rfl rfl
  | record =>
    simp only [decide_eq_true_eq, State.existing]
    exact if_congr (by omega) rfl rfl

/-- An operation settles what it obtains. -/
theorem run_settled :
    Settled s (calls (op.run service settings s).trace) (op.run service settings s).state := by
  obtain ⟨asked, hasked, hcalls⟩ := run_calls settings s op
  have hnone : ∀ c ∈ asked, c.releases = none := fun c hc => releases_of_asks (hasked c hc).1
  constructor
  · constructor
    · intro h
      rw [run_existing]
      exact Nat.le_add_right _ _
    · intro h n hh
      exact run_released settings s op h n hh
    · rw [hcalls]
      intro c hc
      rcases List.mem_append.1 hc with hc | hc
      · exact (hasked c hc).2
      · exact names_closing s _ _ c hc
    · rw [hcalls]
      -- only the releases give anything back, and nothing but releases comes after them
      refine List.pairwise_append.2 ⟨?_, pairwise_names_closing s _ _, ?_⟩
      · refine List.pairwise_of_forall_mem_list ?_
        intro c hc d _ x hx
        rw [show custody.releases c = none from hnone c hc] at hx
        cases hx
      · intro c hc d _ x hx
        rw [show custody.releases c = none from hnone c hc] at hx
        cases hx
  · exact run_taken settings s op
  · exact run_existing settings s op

end

/-! Scripts. -/

/-- Whatever a command asks for, it settles what it obtains. -/
theorem step_settled (start : Standing State Call) (c : Command Empty) :
    Settled start.state (calls (bench.step start c).journal) (bench.step start c).standing.state := by
  cases c with
  | operation op => exact run_settled start.settings start.state op
  | native call =>
    show Settled start.state (calls (call.run service start.settings start.state).trace)
      (call.run service start.settings start.state).state
    rw [Native.Call.run_eq]
    cases call.operation with
    | ok op => exact run_settled start.settings start.state op
    | error code => exact .nil start.state
  | reconfigure document =>
    rw [Bench.step]
    split <;> exact .nil start.state
  | startLogging filter => exact .nil start.state
  | control k => cases k

/-- A script settles what it obtains, by induction on its length. -/
theorem commands_settled (start : Standing State Call) (cs : List (Command Empty)) :
    Settled start.state (scriptCalls (bench.run start cs)) (bench.standing start cs).state := by
  induction cs generalizing start with
  | nil => exact .nil start.state
  | cons c cs ih => exact (step_settled start c).append (ih (bench.step start c).standing)

theorem script_settled (start : Standing State Call) (ops : List Operation) :
    Settled start.state (scriptCalls (bench.run start (ops.map .operation)))
      (bench.standing start (ops.map .operation)).state :=
  commands_settled start (ops.map .operation)

/-- **Nothing is left behind.** Under all settings and whatever outcomes the service has in store, the
calls it receives from a script of operations are one segment for each, in order, and together they
settle all handles: what was handed out is released once, nothing else is, and nothing is used after
its release. -/
theorem run_settles (start : Standing State Call) (ops : List Operation) :
    (bench.run start (ops.map .operation)).length = ops.length ∧
    (bench.standing start (ops.map .operation)).past =
      start.past ++ scriptCalls (bench.run start (ops.map .operation)) ∧
    (∀ before op rest, ops = before ++ op :: rest →
      ∃ d, (bench.run start (ops.map .operation))[before.length]? = some d ∧
        Segment (bench.standing start (before.map .operation)).state (calls d.journal)) ∧
    Settled start.state (scriptCalls (bench.run start (ops.map .operation)))
      (bench.standing start (ops.map .operation)).state := by
  refine ⟨?_, bench.standing_past _ _, ?_, script_settled start ops⟩
  · rw [bench.length_run, List.length_map]
  · intro before op rest hops
    have hget := bench.run_getElem? start (before.map .operation) (rest.map .operation) (.operation op)
    rw [List.length_map] at hget
    refine ⟨bench.step (bench.standing start (before.map .operation)) (.operation op), ?_, ?_⟩
    · rw [hops, List.map_append, List.map_cons, hget]
    · exact run_segment _ _ op

end DiskQuota.Scripted
