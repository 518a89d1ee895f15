import DiskQuota.Proofs.Scripted.Renumber
import DiskQuota.Proofs.Scripted.Shape
import Mathlib.Data.List.Induction

/-!
Operations are independent of each other. Nothing crosses from one to the next but the outcomes that are
left: after any history an operation goes as it goes on a fresh service with these outcomes, except that
the numbers of its handles start behind those that exist (`Independent`), and every handle that it works
with was handed out to itself, each in its place (`OwnHandles`). The headline is `history_independent`.
-/
namespace DiskQuota.Scripted

/-- After the calls `past` of an operation from `s`, the call `c` hands out the handle `x`: it succeeds,
and the number is the next of its kind. -/
structure HandsOut (s : State) (past : List Call) (c : Call) (x : Handle × Nat) : Prop where
  gives : c.gives x.1 ((s.outcomes.drop (past.countP Call.asks)).headD .success) = true
  number : x.2 = s.existing x.1 + handedOut x.1 s.outcomes past + 1

theorem handedOut_singleton (h : Handle) (os : List Outcome) (c : Call) :
    handedOut h os [c] = if c.gives h (os.headD .success) then 1 else 0 := by
  cases c <;> simp [handedOut, exchanges, Call.asks, Call.gives, Call.yields, List.countP_cons]

/-- A number beyond those that existed, and not beyond those that came to be, was handed out. -/
theorem exists_handsOut {s : State} {t : List Call} {h : Handle} {n : Nat} (hlt : s.existing h < n)
    (hle : n ≤ s.existing h + handedOut h s.outcomes t) :
    ∃ p d q, t = p ++ d :: q ∧ HandsOut s p d (h, n) := by
  induction t using List.reverseRecOn with
  | nil =>
    rw [handedOut, exchanges] at hle
    simp only [List.countP_nil] at hle
    omega
  | append_singleton t d ih =>
    by_cases hearlier : n ≤ s.existing h + handedOut h s.outcomes t
    · obtain ⟨p, e, q, rfl, he⟩ := ih hearlier
      exact ⟨p, e, q ++ [d], by simp, he⟩
    · -- it was not there before the last call, so that call handed it out
      rw [handedOut_append, handedOut_singleton] at hle
      split at hle
      · next hgives => exact ⟨t, d, [], rfl, hgives, by simp only; omega⟩
      · omega

/-- Each of the calls is due on handles that are there by then, if `known` are there at first and every
call before hands out what it can. -/
def Known (known : Handle → Nat) : List Due → Prop
  | [] => True
  | d :: ds => (∀ x ∈ d.call.names, x.2 ≤ known x.1) ∧
    Known (fun h => known h + if d.call.yields = some h then 1 else 0) ds

theorem due_known (settings : Settings) (s : State) (op : Operation) :
    Known s.existing (due settings s op) := by
  cases op <;>
    simp [due, acquisition, inSession, opening, onRecord, Known, Call.names, Call.yields,
      State.existing]

theorem existing_after (s : State) (x : Turn) (hx : x.ends = false) (h : Handle) :
    (s.after [x]).existing h = s.existing h + if x.call.yields = some h then 1 else 0 := by
  have hgives : x.gives h = decide (x.call.yields = some h) := by
    rw [Turn.ends] at hx
    rw [Turn.gives, Call.gives, hx, Bool.not_false, Bool.and_true]
  cases h <;> simp [State.existing, State.after, List.countP_singleton, hgives]

/-- A call among those played is the first that is due, or the first did not end the asking and the call
is among those played after it. -/
theorem played_cons_split {d : Due} {ds : List Due} {s : State} {past rest : List Call} {c : Call}
    (h : (played (d :: ds) s).map (·.call) = past ++ c :: rest) :
    (past = [] ∧ d.call = c) ∨ (d.call.ends s.next = false ∧ ∃ past', past = d.call :: past' ∧
      (played ds (s.after [⟨d, s.next⟩])).map (·.call) = past' ++ c :: rest) := by
  rw [played_cons, List.map_cons] at h
  cases past with
  | nil => exact .inl ⟨rfl, (List.cons_eq_cons.1 h).1⟩
  | cons e past' =>
    obtain ⟨rfl, htail⟩ := List.cons_eq_cons.1 h
    split at htail
    · simp at htail
    · next hends => exact .inr ⟨by simpa using hends, past', rfl, htail⟩

/-- The calls that are played are made on handles that are there. -/
theorem played_known {ds : List Due} {s : State} (hds : Known s.existing ds)
    (hasks : ∀ d ∈ ds, d.call.asks = true) {past rest : List Call} {c : Call}
    (h : (played ds s).map (·.call) = past ++ c :: rest) {x : Handle × Nat} (hx : x ∈ c.names) :
    x.2 ≤ s.existing x.1 + handedOut x.1 s.outcomes past := by
  -- along the due calls; the state moves with them
  induction ds generalizing s past with
  | nil => simp at h
  | cons d ds ih =>
    rcases played_cons_split h with ⟨rfl, rfl⟩ | ⟨hends, past', rfl, htail⟩
    · exact Nat.le_trans (hds.1 x hx) (Nat.le_add_right _ _)
    · have hexisting := existing_after s ⟨d, s.next⟩ hends
      have hlater := ih (s := s.after [⟨d, s.next⟩]) ((funext hexisting : _ = _) ▸ hds.2)
        (fun e he => hasks e (by simp [he])) htail
      have hcount : [d.call].countP Call.asks = 1 := by simp [hasks d]
      have hgives : handedOut x.1 s.outcomes [d.call] =
          if d.call.yields = some x.1 then 1 else 0 := by
        rw [handedOut_singleton]
        show (if (decide (d.call.yields = some x.1) && !d.call.ends s.next) = true then 1 else 0) = _
        simp [hends]
      rw [hexisting, ← hgives] at hlater
      rw [← List.singleton_append, handedOut_append, hcount, ← Nat.add_assoc]
      exact hlater

variable (settings : Settings) (s : State) (op : Operation)

/-- A handle that is released was obtained. -/
theorem released_known {m : List Turn} {c : Call} (hc : c ∈ released s m) {x : Handle × Nat}
    (hx : x ∈ c.names) : x.2 = s.existing x.1 + 1 ∧ m.any (Turn.gives x.1) = true := by
  simp only [released, closing, List.mem_append, List.mem_ite_nil_right, List.mem_singleton] at hc
  rcases hc with (⟨hany, rfl⟩ | ⟨hany, rfl⟩) | rfl
  · rw [List.mem_singleton.1 hx]
    exact ⟨rfl, hany⟩
  · rw [List.mem_singleton.1 hx]
    exact ⟨rfl, hany⟩
  · cases hx

/-- Every call of an operation is made on handles that are there. -/
theorem run_known {past rest : List Call} {c : Call}
    (h : calls (op.run service settings s).trace = past ++ c :: rest) {x : Handle × Nat}
    (hx : x ∈ c.names) : x.2 ≤ s.existing x.1 + handedOut x.1 s.outcomes past := by
  rw [(run_plays settings op s).calls] at h
  cases hasks : c.asks with
  | true =>
    have hnot : c ∉ released s (played (due settings s op) s) := fun hmem => by
      rw [released_asks s _ c hmem] at hasks
      cases hasks
    obtain ⟨rest', -, hplayed⟩ := split_of_not_mem_right h hnot
    exact played_known (due_known settings s op) (due_asks settings s op) hplayed hx
  | false =>
    have hnot : c ∉ (played (due settings s op) s).map (·.call) := fun hmem => by
      obtain ⟨y, hy, rfl⟩ := List.mem_map.1 hmem
      rw [due_asks settings s op _ (mem_of_mem_played hy)] at hasks
      cases hasks
    obtain ⟨past', rfl, hreleased⟩ := split_of_not_mem_left h hnot
    have hmem : c ∈ released s (played (due settings s op) s) := by simp [hreleased]
    obtain ⟨hnumber, hany⟩ := released_known s hmem hx
    obtain ⟨y, hy, hgives⟩ := List.any_eq_true.1 hany
    have hcount : handedOut x.1 s.outcomes ((played (due settings s op) s).map (·.call)) =
        (played (due settings s op) s).countP (Turn.gives x.1) := by
      rw [handedOut, exchanges_played s (due_asks settings s op), List.countP_map]
      rfl
    have hpos : 0 < (played (due settings s op) s).countP (Turn.gives x.1) :=
      List.countP_pos_iff.2 ⟨y, hy, hgives⟩
    rw [handedOut_append, hcount]
    omega

/-- The calls `t` of an operation from `s` are made on its own handles. -/
structure OwnHandles (settings : Settings) (s : State) (t : List Call) : Prop where
  /-- Whatever a call is made on was handed out by an earlier call of the same operation. -/
  obtained : ∀ past c rest, t = past ++ c :: rest → ∀ x ∈ c.names,
    ∃ p d q, past = p ++ d :: q ∧ HandsOut s p d x
  /-- A session is asked for through the identifier that the class was resolved to and the one that the
  interface was resolved to, in this order. -/
  identified : ∀ past a b context rest, t = past ++ .instantiate a b context :: rest →
    ∃ more, past = .resolve settings.managerClass :: .resolve settings.managerInterface :: more ∧
      HandsOut s [] (.resolve settings.managerClass) (.identifier, a) ∧
      HandsOut s [.resolve settings.managerClass] (.resolve settings.managerInterface) (.identifier, b)

/-- When a session is asked for, the class and the interface were resolved, in this order. -/
theorem run_identified {past rest : List Call} {a b : Nat} {context : ServerContext}
    (h : calls (op.run service settings s).trace = past ++ .instantiate a b context :: rest) :
    ∃ more, past = .resolve settings.managerClass :: .resolve settings.managerInterface :: more ∧
      HandsOut s [] (.resolve settings.managerClass) (.identifier, a) ∧
      HandsOut s [.resolve settings.managerClass] (.resolve settings.managerInterface)
        (.identifier, b) := by
  have hmem : .instantiate a b context ∈ calls (op.run service settings s).trace := by simp [h]
  obtain ⟨rfl, rfl⟩ := run_instantiate settings op s hmem
  rw [(run_plays settings op s).calls] at h
  have hnot : Call.instantiate (s.identifiers + 1) (s.identifiers + 2) context ∉
      released s (played (due settings s op) s) := fun hin => by
    have hasks := released_asks s _ _ hin
    cases hasks
  obtain ⟨rest', -, hplayed⟩ := split_of_not_mem_right h hnot
  -- it comes after the two resolutions, and neither of them failed
  rw [due, acquisition, List.cons_append] at hplayed
  obtain ⟨-, hcall⟩ | ⟨hclass, more, rfl, hsecond⟩ := played_cons_split hplayed
  · cases hcall
  rw [List.cons_append] at hsecond
  obtain ⟨-, hcall⟩ | ⟨hinterface, more, rfl, -⟩ := played_cons_split hsecond
  · cases hcall
  have hgives : ∀ text o, (Call.resolve text).ends o = false →
      (Call.resolve text).gives .identifier o = true := fun text o ho => by
    rw [Call.gives, ho]
    rfl
  refine ⟨more, rfl, ⟨hgives _ _ hclass, rfl⟩, ⟨hgives _ _ hinterface, ?_⟩⟩
  have hone : handedOut .identifier s.outcomes [.resolve settings.managerClass] = 1 := by
    rw [handedOut_singleton]
    exact if_pos (hgives _ _ hclass)
  rw [hone]
  rfl

/-- An operation works with what it obtained itself, and asks for its session through the identifiers that
it resolved. -/
theorem run_ownHandles : OwnHandles settings s (calls (op.run service settings s).trace) where
  obtained past c rest h x hx := by
    have hmem : c ∈ calls (op.run service settings s).trace := by simp [h]
    exact exists_handsOut ((run_settled settings s op).fresh c hmem x hx) (run_known settings s op h hx)
  identified past a b context rest h := run_identified settings s op h

/-! Histories. -/

/-- The operation goes as on a fresh service with the outcomes that are left: it comes to the same, takes
the same outcomes, and its journal is the same with the numbers of its handles behind those that exist. -/
structure Independent (settings : Settings) (s : State) (op : Operation) : Prop where
  value : (op.run service settings s).value =
    (op.run service settings (.initial s.outcomes)).value
  journal : (op.run service settings s).trace =
    (op.run service settings (.initial s.outcomes)).trace.map (Entry.map (Call.renumber s.existing))
  taken : (calls (op.run service settings s).trace).countP Call.asks =
    (calls (op.run service settings (.initial s.outcomes)).trace).countP Call.asks
  left : (op.run service settings s).state.outcomes =
    (op.run service settings (.initial s.outcomes)).state.outcomes

theorem run_independent : Independent settings s op := by
  have hrun := run_renumbers settings s.existing op (.initial s.outcomes)
  rw [State.renumber_initial] at hrun
  refine ⟨?_, hrun.journal, ?_, ?_⟩
  · cases hv : (op.run service settings (.initial s.outcomes)).value with
    | error e => exact hrun.error e hv
    | ok a =>
      obtain ⟨a', ha', rfl⟩ := hrun.ok a hv
      exact ha'
  · rw [hrun.journal, calls_map, List.countP_map]
    exact List.countP_congr fun c _ => by simp
  · rw [hrun.state]
    rfl

/-- **Operations are independent.** After any history of commands to managers over the scripted service,
whatever failed in it, the outcomes that are left are those it did not take, and the handles that exist
are those it was handed. The next operation goes as on a fresh service with these outcomes and the same
settings, with the numbers of its handles behind those that exist; and it works with no handle but those
that it obtains itself, each in its place. -/
theorem history_independent (settings : Settings) (outcomes : List Outcome)
    (history : List (Command Empty)) (op : Operation) :
    ∃ now past, now = bench.standing ⟨settings, .initial outcomes, []⟩ history ∧
      past = scriptCalls (bench.run ⟨settings, .initial outcomes, []⟩ history) ∧
      now.state.outcomes = outcomes.drop (past.countP Call.asks) ∧
      (∀ h, now.state.existing h = handedOut h outcomes past) ∧
      Independent now.settings now.state op ∧
      OwnHandles now.settings now.state (calls (op.run service now.settings now.state).trace) := by
  have hsettled := commands_settled ⟨settings, .initial outcomes, []⟩ history
  refine ⟨_, _, rfl, rfl, hsettled.taken, fun h => ?_, run_independent _ _ op, run_ownHandles _ _ op⟩
  rw [hsettled.existing]
  cases h <;> exact Nat.zero_add _

end DiskQuota.Scripted
