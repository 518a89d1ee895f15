import DiskQuota.Proofs.Scripted.Writes
import DiskQuota.Proofs.Work

/-!
The course of an operation over the scripted service, in closed form. `due` lists the calls that an
operation makes if nothing goes wrong, each with its step, and an operation plays that list
(`run_plays`): its calls are those played and then the releases of what they handed out, and its value
is the first error or the answer that the outcomes give. Its journal is told by the same turns and
releases (`run_journal`).
-/
namespace DiskQuota.Scripted

/-- The calls that are due to acquire a session. -/
def acquisition (settings : Settings) (s : State) : List Due :=
  [⟨.resolveManagerClass, .resolve settings.managerClass⟩,
    ⟨.resolveManagerInterface, .resolve settings.managerInterface⟩,
    ⟨.initializeContext, .openContext settings.threading⟩,
    ⟨.instantiateSession,
      .instantiate (s.identifiers + 1) (s.identifiers + 2) settings.serverContext⟩]

/-- The call that an operation opens its work in a session with. -/
def opening (session : Nat) : Operation → Due
  | .setQuota volume _ => ⟨.createRecord, .create session volume⟩
  | .getQuotaUsed volume | .queryUsage volume | .describeQuota volume =>
    ⟨.getRecord, .get session volume⟩

/-- The calls that an operation makes on its record. -/
def onRecord (record : Nat) : Operation → List Due
  | .setQuota _ limit => [⟨.setLimit, .setLimit record limit⟩, ⟨.commit, .commit record⟩]
  | .getQuotaUsed _ | .queryUsage _ => [⟨.readUsed, .used record⟩]
  | .describeQuota _ => [⟨.readLimit, .limit record⟩, ⟨.readUsed, .used record⟩]

/-- The calls that an operation makes in its session. -/
def inSession (session record : Nat) (op : Operation) : List Due :=
  opening session op :: onRecord record op

/-- The calls of an operation from `s` if nothing goes wrong, each with its step. -/
def due (settings : Settings) (s : State) (op : Operation) : List Due :=
  acquisition settings s ++ inSession (s.sessions + 1) (s.records + 1) op

/-- Whether the service answered that it has no quota. -/
def noQuota (m : List Turn) : Bool := m.any fun x => x.step = .getRecord && x.outcome = .absent

/-- The number that a turn read, zero if its outcome has none. -/
def Turn.read (x : Turn) : UInt64 :=
  match x.outcome with
  | .value n => n
  | _ => 0

theorem Turn.read_eq (x : Turn) : x.read = x.outcome.number := by
  rw [read]
  cases x.outcome <;> rfl

/-- The number that was read at a step. -/
def numberAt (step : Step) (m : List Turn) : UInt64 :=
  ((m.find? fun x => x.step = step).map Turn.read).getD 0

/-- What an operation answers after turns that did not fail. -/
def answer (m : List Turn) : Operation → Answer
  | .setQuota .. => .done
  | .getQuotaUsed _ => .bytes (if noQuota m then 0 else numberAt .readUsed m)
  | .queryUsage _ => .usage (if noQuota m then .notConfigured else .used (numberAt .readUsed m))
  | .describeQuota volume =>
    .snapshot (if noQuota m then none
      else some ⟨volume, numberAt .readLimit m, numberAt .readUsed m⟩)

/-- The calls that close an operation from `s`: the releases of the record and the session if there are
any, and always that of the context. -/
def closing (s : State) (record session : Bool) : List Call :=
  (if record then [.releaseRecord (s.records + 1)] else []) ++
  (if session then [.releaseSession (s.sessions + 1)] else []) ++ [.closeContext]

/-- The releases of what the turns handed out. -/
def released (s : State) (m : List Turn) : List Call :=
  closing s (m.any (Turn.gives .record)) (m.any (Turn.gives .session))

/-- The state that acquiring a session leaves, also if it fails. -/
def acquired (settings : Settings) (s : State) : State := s.after (played (acquisition settings s) s)

/-! What the due calls hand out. -/

theorem gives_of_yields_ne {h : Handle} {x : Turn} (hx : x.call.yields ≠ some h) :
    x.gives h = false := by
  simp [Turn.gives, Call.gives, hx]

theorem any_gives_played {h : Handle} {ds : List Due} {s : State}
    (hds : ∀ d ∈ ds, d.call.yields ≠ some h) : (played ds s).any (Turn.gives h) = false := by
  refine List.any_eq_false.2 fun x hx => ?_
  rw [gives_of_yields_ne (hds _ (mem_of_mem_played hx))]
  exact Bool.false_ne_true

theorem opening_yields (n : Nat) (op : Operation) : (opening n op).call.yields = some .record := by
  cases op <;> rfl

theorem onRecord_yields (n : Nat) (op : Operation) :
    ∀ d ∈ onRecord n op, d.call.yields = none := by
  cases op <;> simp [onRecord, Call.yields]

theorem acquisition_yields (settings : Settings) (s : State) :
    ∀ d ∈ acquisition settings s, d.call.yields ≠ some .record := by
  simp [acquisition, Call.yields]

/-- A session is obtained exactly if nothing ended its acquisition. -/
theorem acquisition_session (settings : Settings) (s : State) :
    (played (acquisition settings s) s).any (Turn.gives .session) =
      !(played (acquisition settings s) s).any Turn.ends := by
  simp only [acquisition, played_cons, played_nil]
  split_ifs <;> simp [Turn.gives, Call.gives, Call.yields, Turn.ends, *]

/-- Acquiring a session creates no record. -/
theorem acquired_records (settings : Settings) (s : State) :
    (acquired settings s).records = s.records := by
  have h := any_gives_played (s := s) (acquisition_yields settings s)
  rw [acquired, State.after, List.countP_eq_zero.2 (List.any_eq_false.1 h), Nat.add_zero]

/-- A record is obtained exactly if the opening call does not end the asking. -/
theorem opened_record (n r : Nat) (op : Operation) (s : State) :
    (played (inSession n r op) s).any (Turn.gives .record) =
      !(opening n op).call.ends s.next := by
  rw [inSession, played_cons, List.any_cons]
  have hopen : Turn.gives .record ⟨opening n op, s.next⟩ = !(opening n op).call.ends s.next := by
    simp [Turn.gives, Call.gives, opening_yields]
  rw [hopen]
  split
  · next h => rw [List.any_nil, Bool.or_false]
  · rw [any_gives_played fun d hd => by simp [onRecord_yields r op d hd], Bool.or_false]

/-- Only failures end the acquisition of a session. -/
theorem acquisition_ends (settings : Settings) (s : State) :
    ∀ x ∈ played (acquisition settings s) s, x.ends = x.error?.isSome := by
  intro x hx
  have hd := mem_of_mem_played hx
  obtain ⟨⟨p, c⟩, o⟩ := x
  simp only [acquisition, List.mem_cons, Due.mk.injEq, List.not_mem_nil, or_false] at hd
  rcases hd with ⟨-, rfl⟩ | ⟨-, rfl⟩ | ⟨-, rfl⟩ | ⟨-, rfl⟩ <;> cases o <;> rfl

namespace Writes

variable {α : Type} {s : State} {ds : List Due} {a : α} {back : List Call}
  {before : List (Entry Call)}

theorem acquire (settings : Settings) (s : State) :
    Writes (service.acquire settings) s [] (acquisition settings s) (s.sessions + 1) [] [] := by
  apply Writes.ask_then (resolve_apply _ _ _) (by simp)
  intro h
  have hident : (s.after [⟨⟨.resolveManagerClass, .resolve settings.managerClass⟩,
      s.next⟩]).identifiers + 1 = s.identifiers + 2 := by
    simp [State.after, Turn.gives, Call.gives, Call.yields, h]
  apply Writes.ask_then (resolve_apply _ _ _) (by simp)
  intro _
  apply Writes.ask_then (openContext_apply _ _ _) (by simp)
  intro _
  rw [hident]
  apply Writes.ask_then (instantiate_apply _ _ _ _ _) (by simp)
  intro _
  exact .note_bind (.pure _ _)

theorem withRecord {record : Nat} {work : Task State (Entry Call) StepError α}
    (h : Writes work s before ds a [] []) :
    Writes (service.withRecord record work) s before ds a [.releaseRecord record] [] :=
  h.ensuring (fun _ => rfl) rfl

theorem withSession {settings : Settings} {work : Nat → Task State (Entry Call) StepError α}
    (hwork : Writes (work (s.sessions + 1)) (acquired settings s) [] ds a back []) :
    Writes (service.withSession settings work) s [] (acquisition settings s ++ ds) a
      ((if (played (acquisition settings s) s).any Turn.ends then []
        else back ++ [.releaseSession (s.sessions + 1)]) ++ [.closeContext]) [] := by
  refine .ensuring ?_ (fun _ => rfl) rfl
  apply Writes.bind (acquire settings s) (acquisition_ends settings s) (fun h => if_pos h)
  intro h
  -- there is a session to work in and to release
  rw [if_neg (by simp [h])]
  exact hwork.ensuring (fun _ => rfl) rfl

end Writes

/-- What is released around an operation, told by its turns as a whole. -/
theorem released_due (settings : Settings) (s : State) (op : Operation) :
    ((if (played (acquisition settings s) s).any Turn.ends then []
        else (if (played (inSession (s.sessions + 1) (s.records + 1) op)
            (acquired settings s)).any (Turn.gives .record)
          then [.releaseRecord (s.records + 1)] else []) ++ [.releaseSession (s.sessions + 1)]) ++
      [Call.closeContext]) = released s (played (due settings s op) s) := by
  have hrecord := any_gives_played (s := s) (acquisition_yields settings s)
  have hsession := acquisition_session settings s
  rw [acquired, due, played_append, released, closing]
  cases h : (played (acquisition settings s) s).any Turn.ends with
  | true =>
    rw [h] at hsession
    simp [hrecord, hsession]
  | false =>
    rw [h] at hsession
    simp [hrecord, hsession]

/-- What `queryUsage` answers after turns that did not fail. -/
def usageOf (m : List Turn) : Usage :=
  if noQuota m then .notConfigured else .used (numberAt .readUsed m)

/-- What `describeQuota` answers after turns that did not fail. -/
def snapshotOf (volume : String) (m : List Turn) : Option Snapshot :=
  if noQuota m then none else some ⟨volume, numberAt .readLimit m, numberAt .readUsed m⟩

/-- The turns of an operation in which nothing failed: those to the session, then those in it. -/
theorem played_due {settings : Settings} {s : State} {op : Operation}
    (h : ∀ x ∈ played (due settings s op) s, x.error? = none) :
    played (due settings s op) s = played (acquisition settings s) s ++
      played (inSession (s.sessions + 1) (s.records + 1) op) (acquired settings s) := by
  rw [due, played_append] at h ⊢
  split
  · next hany =>
    rw [if_pos hany] at h
    obtain ⟨x, hx, hends⟩ := List.any_eq_true.1 hany
    rw [acquisition_ends settings s x hx, h x hx] at hends
    exact absurd hends Bool.false_ne_true
  · rfl

theorem acquisition_steps {settings : Settings} {s : State} {x : Turn}
    (h : x ∈ played (acquisition settings s) s) :
    x.step ≠ .getRecord ∧ x.step ≠ .readLimit ∧ x.step ≠ .readUsed := by
  have hd := mem_of_mem_played h
  obtain ⟨⟨p, c⟩, o⟩ := x
  simp only [acquisition, List.mem_cons, Due.mk.injEq, List.not_mem_nil, or_false] at hd
  rcases hd with ⟨rfl, -⟩ | ⟨rfl, -⟩ | ⟨rfl, -⟩ | ⟨rfl, -⟩ <;> simp

theorem numberAt_append {p : Step} {m m' : List Turn} (h : ∀ x ∈ m, x.step ≠ p) :
    numberAt p (m ++ m') = numberAt p m' := by
  rw [numberAt, numberAt, List.find?_append, List.find?_eq_none.2, Option.none_or]
  intro x hx
  simpa using h x hx

theorem noQuota_append {m m' : List Turn} (h : ∀ x ∈ m, x.step ≠ .getRecord) :
    noQuota (m ++ m') = noQuota m' := by
  rw [noQuota, noQuota, List.any_append, Bool.or_eq_right_iff_imp]
  intro hany
  obtain ⟨x, hx, hstep⟩ := List.any_eq_true.1 hany
  simp [h x hx] at hstep

/-- What was read before there was a session does not show in the answer. -/
theorem usageOf_due {settings : Settings} {s : State} {op : Operation}
    (h : ∀ x ∈ played (due settings s op) s, x.error? = none) :
    usageOf (played (inSession (s.sessions + 1) (s.records + 1) op) (acquired settings s)) =
      usageOf (played (due settings s op) s) := by
  rw [played_due h, usageOf, usageOf, noQuota_append fun x hx => (acquisition_steps hx).1,
    numberAt_append fun x hx => (acquisition_steps hx).2.2]

theorem snapshotOf_due {settings : Settings} {s : State} {op : Operation} (volume : String)
    (h : ∀ x ∈ played (due settings s op) s, x.error? = none) :
    snapshotOf volume
        (played (inSession (s.sessions + 1) (s.records + 1) op) (acquired settings s)) =
      snapshotOf volume (played (due settings s op) s) := by
  rw [played_due h, snapshotOf, snapshotOf, noQuota_append fun x hx => (acquisition_steps hx).1,
    numberAt_append fun x hx => (acquisition_steps hx).2.1,
    numberAt_append fun x hx => (acquisition_steps hx).2.2]

/-! The answers, read off from the state in which the record is asked for. -/

theorem get_present {session : Nat} {volume : String} {t : State}
    (h : (Call.get session volume).ends t.next = false) : t.next ≠ .absent := by
  intro habsent
  simp [habsent, Call.ends] at h

theorem noQuota_absent {session : Nat} {volume : String} {t : State} {ds : List Due}
    (h : t.next = .absent) : noQuota (played (⟨.getRecord, .get session volume⟩ :: ds) t) = true := by
  simp [played_cons, noQuota, h]

theorem usageOf_present {session record : Nat} {volume : String} {t : State}
    (h : (Call.get session volume).ends t.next = false) :
    usageOf (played (inSession session record (.queryUsage volume)) t) =
      .used (t.after [⟨⟨.getRecord, .get session volume⟩, t.next⟩]).next.number := by
  simp [inSession, opening, onRecord, played_cons, h, usageOf, noQuota, numberAt, Turn.read_eq,
    get_present h]

theorem snapshotOf_present {session record : Nat} {volume : String} {t t' t'' : State}
    (h : (Call.get session volume).ends t.next = false)
    (h' : (Call.limit record).ends t'.next = false)
    (ht' : t' = t.after [⟨⟨.getRecord, .get session volume⟩, t.next⟩])
    (ht'' : t'' = t'.after [⟨⟨.readLimit, .limit record⟩, t'.next⟩]) :
    snapshotOf volume (played (inSession session record (.describeQuota volume)) t) =
      some ⟨volume, t'.next.number, t''.next.number⟩ := by
  subst ht' ht''
  simp [inSession, opening, onRecord, played_cons, h, h', snapshotOf, noQuota, numberAt,
    Turn.read_eq, get_present h]

namespace Writes

theorem setQuota (settings : Settings) (volume : String) (limit : UInt64) (s : State) :
    Writes (service.setQuota settings volume limit) s [.enter (.setQuota volume limit)]
      (due settings s (.setQuota volume limit)) ()
      (released s (played (due settings s (.setQuota volume limit)) s))
      [.exit (.setQuota volume limit)] := by
  rw [← released_due]
  refine .inSpan (.withSession ?_)
  rw [← acquired_records settings s, opened_record]
  refine .ask_bind (create_apply _ _ _ _) (by simp)
    (fun h => if_neg (by simp [opening, h])) fun h => ?_
  rw [if_pos (by simp [opening, h])]
  refine .withRecord ?_
  apply Writes.ask_then (setLimit_apply _ _ _ _) (by simp)
  intro _
  apply Writes.ask_then (commit_apply _ _ _) (by simp)
  intro _
  exact .note _ _

/-- Asking for a record, and what is done with the answer. -/
theorem get_bind {t : State} {session : Nat} {volume : String}
    {work : Option Nat → Task State (Entry Call) StepError α}
    (hnone : t.next = .absent → Writes (work none)
      (t.after [⟨⟨.getRecord, .get session volume⟩, t.next⟩]) [.log .noQuota] [] a [] [])
    (hback : (Call.get session volume).ends t.next = true → back = [])
    (hsome : (Call.get session volume).ends t.next = false →
      Writes (work (some (t.records + 1)))
        (t.after [⟨⟨.getRecord, .get session volume⟩, t.next⟩]) [] ds a back []) :
    Writes (attempt .getRecord (service.get session volume) >>= work) t []
      (⟨.getRecord, .get session volume⟩ :: ds) a back [] := by
  refine .attempt_bind (get_apply _ _ _ _) (fun hcode hends => ?_) hback fun hends => ?_
  · have habsent : t.next = .absent := by
      cases h : t.next <;> simp_all [Call.ends, Outcome.code?]
    rw [if_pos habsent]
    exact hnone habsent
  · rw [if_neg (get_present hends)]
    exact hsome hends

theorem queryUsage (settings : Settings) (volume : String) (s : State) :
    Writes (service.queryUsage settings volume) s [.enter (.queryUsage volume)]
      (due settings s (.queryUsage volume))
      (usageOf (played (due settings s (.queryUsage volume)) s))
      (released s (played (due settings s (.queryUsage volume)) s)) [.exit (.queryUsage volume)] := by
  refine .congr_answer ?_ usageOf_due
  rw [← released_due]
  refine .inSpan (.withSession ?_)
  rw [← acquired_records settings s, opened_record]
  refine .get_bind (fun habsent => ?_) (fun h => if_neg (by simp [opening, h])) fun h => ?_
  · rw [usageOf, inSession, opening, noQuota_absent habsent, if_pos rfl]
    exact .note_bind (.pure _ _)
  · rw [if_pos (by simp [opening, h])]
    refine .withRecord ?_
    apply Writes.ask_then (used_apply _ _ _) (by simp)
    intro _
    rw [usageOf_present h]
    exact .pure _ _

theorem getQuotaUsed (settings : Settings) (volume : String) (s : State) :
    Writes (service.getQuotaUsed settings volume) s [.enter (.queryUsage volume)]
      (due settings s (.queryUsage volume))
      (usageOf (played (due settings s (.queryUsage volume)) s)).bytes
      (released s (played (due settings s (.queryUsage volume)) s)) [.exit (.queryUsage volume)] :=
  (queryUsage settings volume s).map Usage.bytes

theorem describeQuota (settings : Settings) (volume : String) (s : State) :
    Writes (service.describeQuota settings volume) s [.enter (.describeQuota volume)]
      (due settings s (.describeQuota volume))
      (snapshotOf volume (played (due settings s (.describeQuota volume)) s))
      (released s (played (due settings s (.describeQuota volume)) s))
      [.exit (.describeQuota volume)] := by
  refine .congr_answer ?_ (snapshotOf_due volume)
  rw [← released_due]
  refine .inSpan (.withSession ?_)
  rw [← acquired_records settings s, opened_record]
  refine .get_bind (fun habsent => ?_) (fun h => if_neg (by simp [opening, h])) fun h => ?_
  · rw [snapshotOf, inSession, opening, noQuota_absent habsent, if_pos rfl]
    exact .note_bind (.pure _ _)
  · rw [if_pos (by simp [opening, h])]
    refine .withRecord ?_
    apply Writes.ask_then (limit_apply _ _ _) (by simp)
    intro h'
    apply Writes.ask_then (used_apply _ _ _) (by simp)
    intro _
    rw [snapshotOf_present h h' rfl rfl]
    exact .pure _ _

end Writes

/-- An operation writes its turns and releases into the journal, within its span. -/
theorem run_writes (settings : Settings) (op : Operation) (s : State) :
    Writes (op.run service settings) s [.enter op.span] (due settings s op)
      (answer (played (due settings s op) s) op) (released s (played (due settings s op) s))
      [.exit op.span] := by
  cases op with
  | setQuota volume limit => exact (Writes.setQuota settings volume limit s).map fun _ => Answer.done
  | getQuotaUsed volume =>
    have h := (Writes.getQuotaUsed settings volume s).map Answer.bytes
    rw [usageOf, apply_ite Usage.bytes] at h
    exact h
  | queryUsage volume => exact (Writes.queryUsage settings volume s).map Answer.usage
  | describeQuota volume => exact (Writes.describeQuota settings volume s).map Answer.snapshot

/-- **An operation plays the calls that are due.** It makes them up to and with the first that fails or
finds no quota, gives back what they handed out, and comes to the first error or its answer. -/
theorem run_plays (settings : Settings) (op : Operation) (s : State) :
    Plays (op.run service settings) s (due settings s op)
      (answer (played (due settings s op) s) op) (released s (played (due settings s op) s)) :=
  (run_writes settings op s).toPlays

/-- The journal of an operation: within its span its turns, and then the releases of what they handed
out. -/
theorem run_journal (settings : Settings) (op : Operation) (s : State) :
    (op.run service settings s).trace = .enter op.span ::
      (told (played (due settings s op) s) ++
        (heralded (released s (played (due settings s op) s)) ++ [.exit op.span])) :=
  (run_writes settings op s).journal

theorem due_asks (settings : Settings) (s : State) (op : Operation) :
    ∀ d ∈ due settings s op, d.call.asks = true := by
  cases op <;> simp [due, acquisition, inSession, opening, onRecord, Call.asks]

theorem released_asks (s : State) (m : List Turn) : ∀ c ∈ released s m, c.asks = false := by
  intro c hc
  simp only [released, closing, List.mem_append, List.mem_ite_nil_right, List.mem_singleton] at hc
  rcases hc with (⟨-, rfl⟩ | ⟨-, rfl⟩) | rfl <;> rfl

/-- The calls of an operation that can fail, each with the outcome that fell to it, are its turns. -/
theorem run_exchanges (settings : Settings) (op : Operation) (s : State) :
    exchanges Call.asks .success s.outcomes (calls (op.run service settings s).trace) =
      (played (due settings s op) s).map Turn.exchange :=
  (run_plays settings op s).exchanges (due_asks settings s op) (released_asks s _)

end DiskQuota.Scripted
