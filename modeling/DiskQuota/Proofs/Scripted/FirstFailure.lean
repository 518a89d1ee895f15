import DiskQuota.Proofs.Scripted.Course

/-!
The first failure of an operation ends it and is its result. The headline `stops_at_first` says so of
every operation, under all settings and whatever list of outcomes the service has; it is read off from
the closed form of the course.
-/
namespace DiskQuota.Scripted

def Call.isCommit : Call → Bool
  | .commit _ => true
  | _ => false

/-- What a call is part of, if it can fail. -/
def Call.category? : Call → Option Category
  | .resolve _ | .openContext _ | .instantiate .. => some .acquisition
  | .create .. | .get .. => some .recordResolution
  | .setLimit .. | .commit _ => some .mutation
  | .limit _ | .used _ => some .read
  | .releaseRecord _ | .releaseSession _ | .closeContext => none

/-- How an operation that came to `r` went, told by the turns `m`: what the service was asked that can
fail, and what became of it. -/
structure StopsAtFirst (settings : Settings) (s : State) (op : Operation)
    (r : Ran State (Entry Call) (Except StepError Answer)) (m : List Turn) : Prop where
  /-- The turns are the calls that can fail, each with the outcome that the list has for it. -/
  asked : exchanges Call.asks .success s.outcomes (calls r.trace) = m.map Turn.exchange
  /-- They are the first of the calls that are due, each at its step. -/
  canonical : m.map (·.toDue) <+: due settings s op
  /-- None but the last failed or found no quota, -/
  before : ∀ x ∈ m.dropLast, x.ends = false
  /-- and the last did if it was not the last that was due. -/
  cut : m.map (·.toDue) ≠ due settings s op → ∃ x, m.getLast? = some x ∧ x.ends = true
  /-- A failure is the result, filed under what its call is part of, with its step and its code unchanged. -/
  failed : ∀ x ∈ m, ∀ code, x.outcome = .failure code → ∃ category,
    x.call.category? = some category ∧ r.value = .error ⟨category, x.step, code⟩
  /-- Without one the result is made of what the service returned. -/
  succeeded : (∀ x ∈ m, ∀ code, x.outcome ≠ .failure code) → r.value = .ok (answer m op)
  /-- A commit is made at most once, -/
  commits : (calls r.trace).countP Call.isCommit ≤ 1
  /-- only to set a quota, and after every other call of the operation succeeded. -/
  committed : ∀ c ∈ calls r.trace, c.isCommit = true →
    (∃ volume limit, op = .setQuota volume limit) ∧ ∀ x ∈ m, x.call ≠ c → x.ends = false

/-- Calls are due at steps of their category. -/
theorem due_category (settings : Settings) (s : State) (op : Operation) :
    ∀ d ∈ due settings s op, d.call.category? = some d.step.category := by
  cases op <;>
    simp [due, acquisition, inSession, opening, onRecord, Call.category?, Step.category]

theorem played_cut {ds : List Due} {s : State} (h : (played ds s).map (·.toDue) ≠ ds) :
    ∃ x, (played ds s).getLast? = some x ∧ x.ends = true := by
  refine ends_getLast_of_cutAfter_ne fun heq => h ?_
  rw [played, heq, toDue_turns]

/-- Where nothing ends the asking, every due call is made. -/
theorem toDue_played_eq {ds : List Due} {s : State} (h : (played ds s).any Turn.ends = false) :
    (played ds s).map (·.toDue) = ds := by
  by_contra hcut
  obtain ⟨x, hlast, hends⟩ := played_cut hcut
  exact List.any_eq_false.1 h x (List.mem_of_getLast? hlast) hends

theorem released_isCommit (s : State) (m : List Turn) : ∀ c ∈ released s m, c.isCommit = false := by
  intro c hc
  have hasks := released_asks s m c hc
  cases c <;> first | rfl | cases hasks

/-- What is due before the last call of setting a quota. -/
def beforeCommit (settings : Settings) (s : State) (volume : String) (limit : UInt64) : List Due :=
  acquisition settings s ++ [opening (s.sessions + 1) (.setQuota volume limit),
    ⟨.setLimit, .setLimit (s.records + 1) limit⟩]

theorem due_setQuota (settings : Settings) (s : State) (volume : String) (limit : UInt64) :
    due settings s (.setQuota volume limit) =
      beforeCommit settings s volume limit ++ [⟨.commit, .commit (s.records + 1)⟩] := rfl

theorem beforeCommit_isCommit {settings : Settings} {s : State} {volume : String} {limit : UInt64} :
    ∀ d ∈ beforeCommit settings s volume limit, d.call.isCommit = false := by
  simp [beforeCommit, acquisition, opening, Call.isCommit]

/-- Only setting a quota has a commit due, and no more than one. -/
theorem due_isCommit (settings : Settings) (s : State) (op : Operation) :
    (∃ volume limit, op = .setQuota volume limit) ∨
      ∀ d ∈ due settings s op, d.call.isCommit = false := by
  cases op with
  | setQuota volume limit => exact .inl ⟨volume, limit, rfl⟩
  | _ => exact .inr (by simp [due, acquisition, inSession, opening, onRecord, Call.isCommit])

theorem countP_due_isCommit (settings : Settings) (s : State) (op : Operation) :
    ((due settings s op).map (·.call)).countP Call.isCommit ≤ 1 := by
  rw [List.countP_map]
  rcases due_isCommit settings s op with ⟨volume, limit, rfl⟩ | h
  · have hbefore : (beforeCommit settings s volume limit).countP
        (Call.isCommit ∘ fun d => d.call) = 0 :=
      List.countP_eq_zero.2 fun d hd => by simp [beforeCommit_isCommit d hd]
    rw [due_setQuota, List.countP_append, hbefore]
    exact Nat.le_refl 1
  · rw [List.countP_eq_zero.2 fun d hd => by simp [h d hd]]
    exact Nat.zero_le 1

/-- A commit is the last call to be made, and nothing before it ended the asking. -/
theorem played_of_commit {settings : Settings} {s : State} {volume : String} {limit : UInt64}
    {x : Turn} (hx : x ∈ played (due settings s (.setQuota volume limit)) s)
    (hcommit : x.call.isCommit = true) :
    played (due settings s (.setQuota volume limit)) s =
        played (beforeCommit settings s volume limit) s ++ [x] ∧
      (played (beforeCommit settings s volume limit) s).any Turn.ends = false := by
  have hnot : x ∉ played (beforeCommit settings s volume limit) s := by
    intro hmem
    rw [beforeCommit_isCommit _ (mem_of_mem_played hmem)] at hcommit
    exact Bool.false_ne_true hcommit
  rw [due_setQuota, played_append] at hx ⊢
  split at hx
  · exact absurd hx hnot
  · next hany =>
    rw [played_cons, played_nil, ite_self, List.mem_append, List.mem_singleton] at hx
    rw [if_neg hany, played_cons, played_nil, ite_self, ← hx.resolve_left hnot]
    exact ⟨rfl, Bool.eq_false_iff.2 hany⟩

/-- Once a commit was made, nothing before it had failed. -/
theorem played_before_commit {settings : Settings} {s : State} {volume : String} {limit : UInt64}
    {x y : Turn} (hx : x ∈ played (due settings s (.setQuota volume limit)) s)
    (hcommit : x.call.isCommit = true)
    (hy : y ∈ played (due settings s (.setQuota volume limit)) s) (hne : y.call ≠ x.call) :
    y.ends = false := by
  obtain ⟨hplayed, hany⟩ := played_of_commit hx hcommit
  rw [hplayed] at hy
  rcases List.mem_append.1 hy with hy | hy
  · exact Bool.eq_false_iff.2 (List.any_eq_false.1 hany y hy)
  · rw [List.mem_singleton.1 hy] at hne
    exact absurd rfl hne

theorem run_commits (settings : Settings) (op : Operation) (s : State) :
    (calls (op.run service settings s).trace).countP Call.isCommit ≤ 1 := by
  have hreleased : (released s (played (due settings s op) s)).countP Call.isCommit = 0 :=
    List.countP_eq_zero.2 fun c hc => by simp [released_isCommit s _ c hc]
  have hsub := map_played_sublist (·.call) (due settings s op) s
  rw [(run_plays settings op s).calls, List.countP_append, hreleased]
  exact Nat.le_trans hsub.countP_le (countP_due_isCommit settings s op)

/-- A commit is made only to set a quota, and only after every other call of the operation succeeded. -/
theorem run_before_commit (settings : Settings) (op : Operation) (s : State) {c : Call}
    (hc : c ∈ calls (op.run service settings s).trace) (hcommit : c.isCommit = true) :
    (∃ volume limit, op = .setQuota volume limit) ∧
      ∀ x ∈ played (due settings s op) s, x.call ≠ c → x.ends = false := by
  rw [(run_plays settings op s).calls, List.mem_append] at hc
  rcases hc with hc | hc
  · obtain ⟨x, hx, rfl⟩ := List.mem_map.1 hc
    rcases due_isCommit settings s op with ⟨volume, limit, rfl⟩ | hnone
    · exact ⟨⟨volume, limit, rfl⟩, fun y hy hne => played_before_commit hx hcommit hy hne⟩
    · rw [hnone _ (mem_of_mem_played hx)] at hcommit
      exact absurd hcommit Bool.false_ne_true
  · rw [released_isCommit s _ c hc] at hcommit
    exact absurd hcommit Bool.false_ne_true

/-- Without a failure an operation succeeds, with what its outcomes say. -/
theorem run_succeeds (settings : Settings) (op : Operation) (s : State)
    (hok : ∀ x ∈ played (due settings s op) s, ∀ code, x.outcome ≠ .failure code) :
    (op.run service settings s).value = .ok (answer (played (due settings s op) s) op) := by
  rw [(run_plays settings op s).value, verdict, List.findSome?_eq_none_iff.2]
  intro x hx
  cases ho : x.outcome with
  | failure code => exact absurd ho (hok x hx code)
  | _ => simp [Turn.error?, ho, Outcome.code?]

/-- **The first failure wins and stops the sequence.** Whatever the settings, the operation and the
outcomes that the service has in store, the calls of one operation are the first of those that are
due, up to and with the first that fails or finds no quota; that failure is the result, with its own
step and code, and without one the result holds what the service returned. -/
theorem stops_at_first (settings : Settings) (op : Operation) (s : State) :
    ∃ m, StopsAtFirst settings s op (op.run service settings s) m := by
  refine ⟨played (due settings s op) s, ?_⟩
  constructor
  · exact run_exchanges settings op s
  · exact toDue_played _ s
  · intro x hx
    exact ends_of_mem_dropLast_cutAfter hx
  · exact played_cut
  · intro x hx code hcode
    refine ⟨x.step.category, due_category settings s op _ (mem_of_mem_played hx), ?_⟩
    rw [(run_plays settings op s).value]
    exact verdict_played hx hcode _
  · exact run_succeeds settings op s
  · exact run_commits settings op s
  · intro c hc hcommit
    exact run_before_commit settings op s hc hcommit

/-- A commit that fails with zero is a failure of the commit like any other. -/
example : (Operation.run service .default (.setQuota "D:" 5)
    (.initial (List.replicate 6 .success ++ [.failure .ok]))).value = .error ⟨.mutation, .commit, ⟨0⟩⟩ := by
  decide

end DiskQuota.Scripted
