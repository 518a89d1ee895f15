import DiskQuota.Proofs.Scripted.FirstFailure
import Mathlib.Data.List.Nodup

/-!
The journal of an operation mirrors the lifecycle of its handles. A span stands around all that is done in
it, every release has its announcement right before it, and the milestones are there exactly if they were
reached. The headline `log_mirrors_lifecycle` is read off from the closed form of the journal.
-/
namespace DiskQuota.Scripted

/-- The name of the span that an operation stands in, and what the span carries. -/
def heading : Operation → String × List (String × String)
  | .setQuota volume limit => ("set_quota", [("volume", volume), ("limit", toString limit.toNat)])
  | .getQuotaUsed volume | .queryUsage volume => ("query_usage", [("volume", volume)])
  | .describeQuota volume => ("describe_quota", [("volume", volume)])

/-- What is told of the session and the quota of an operation. -/
def milestones : List String := ["quota session acquired", "quota committed", "no quota configured"]

/-- Whether an entry logs the message. -/
def tells (message : String) : Entry Call → Bool
  | .log event => event.message = message
  | _ => false

/-- The message with which an entry announces a release: that of an event at level `trace`. -/
def announces : Entry Call → Option String
  | .log event => if event.level = .trace then some event.message else none
  | _ => none

/-- The message that has to announce an entry: that of the release it is. -/
def announcement : Entry Call → Option String
  | .call (.releaseRecord _) => some "releasing quota record"
  | .call (.releaseSession _) => some "releasing quota session"
  | .call .closeContext => some "tearing down quota subsystem context"
  | _ => none

/-- In the journal of an operation that came to `r` is told what became of its session and its quota. -/
structure Mirrors (settings : Settings) (s : State) (op : Operation)
    (r : Ran State (Entry Call) (Except StepError Answer)) : Prop where
  /-- The span of the operation stands around all that it did and logged. -/
  span : ∃ body, r.trace = .enter op.span :: (body ++ [.exit op.span]) ∧
    ∀ y ∈ body, (∃ c, y = .call c) ∨ ∃ event, y = .log event
  headed : (op.span.name, op.span.fields) = heading op
  /-- An entry announces what the next one releases: no release goes unannounced, and nothing else is
  announced. -/
  announced : r.trace.IsChain fun x y => announces x = announcement y
  /-- A session is reported acquired if and only if every step to it succeeded, -/
  acquired : (∃ y ∈ r.trace, tells "quota session acquired" y = true) ↔ ∀ d ∈ acquisition settings s,
    ∃ o, (d.call, o) ∈ exchanges Call.asks .success s.outcomes (calls r.trace) ∧ o.code? = none
  /-- a quota committed if and only if it was to be set and the operation succeeded, -/
  committed : (∃ y ∈ r.trace, tells "quota committed" y = true) ↔
    (∃ volume limit, op = .setQuota volume limit) ∧ ∃ a, r.value = .ok a
  /-- and missing if and only if a record was asked for and there is none. -/
  noQuota : (∃ y ∈ r.trace, tells "no quota configured" y = true) ↔ ∃ session volume,
    (.get session volume, .absent) ∈ exchanges Call.asks .success s.outcomes (calls r.trace)
  /-- Each is reported at most once, for debugging. -/
  once : ∀ message ∈ milestones, r.trace.countP (tells message) ≤ 1
  debug : ∀ event, .log event ∈ r.trace → event.message ∈ milestones → event.level = .debug

/-! Events by their messages. -/

/-- An event for debugging is known by its message. -/
theorem tells_message_iff {event : Event} (h : event.level = .debug) (y : Entry Call) :
    tells event.message y = true ↔ y = .log event := by
  cases y with
  | log other =>
    have hmessage : other.message = event.message ↔ other = event := by
      cases event <;> cases other <;> simp_all [Event.level, Event.message]
    simp only [tells, decide_eq_true_eq, hmessage, Entry.log.injEq]
  | _ => simp [tells]

theorem exists_tells_iff (event : Event) (h : event.level = .debug) (t : List (Entry Call)) :
    (∃ y ∈ t, tells event.message y = true) ↔ .log event ∈ t := by
  simp [tells_message_iff h]

theorem countP_tells {event : Event} (h : event.level = .debug) (t : List (Entry Call)) :
    t.countP (tells event.message) = t.count (.log event) := by
  refine List.countP_congr fun y _ => ?_
  rw [tells_message_iff h, beq_iff_eq]

/-- A release is announced by the message of its herald. -/
theorem announcement_call (c : Call) : announcement (.call c) = c.herald.map Event.message := by
  cases c <;> rfl

/-! Announcements and releases. -/

theorem herald_of_not_asks {c : Call} (h : c.asks = false) : ∃ event, c.herald = some event := by
  cases c <;> first | exact ⟨_, rfl⟩ | cases h

theorem isChain_heralded {back : List Call} (hback : ∀ c ∈ back, c.asks = false) (span : Span)
    {x : Entry Call} (hx : announces x = none) :
    (x :: (heralded back ++ [.exit span])).IsChain fun x y => announces x = announcement y := by
  induction back generalizing x with
  | nil => exact .cons_cons hx (.singleton _)
  | cons c back ih =>
    obtain ⟨event, hevent⟩ := herald_of_not_asks (hback c (by simp))
    have hcons : heralded (c :: back) = .log event :: .call c :: heralded back := by
      simp [heralded, logged, hevent]
    have hannounces : announces (.log event) = announcement (.call c) := by
      rw [announcement_call, hevent]
      exact if_pos (level_herald hevent)
    rw [hcons]
    exact .cons_cons hx (.cons_cons hannounces (ih (fun d hd => hback d (by simp [hd])) rfl))

/-- Entries that neither announce nor release anything may stand before any that begin with no release. -/
theorem isChain_append {l rest : List (Entry Call)}
    (hl : ∀ y ∈ l, announces y = none ∧ announcement y = none)
    (hrest : ∀ x, announces x = none →
      (x :: rest).IsChain fun x y => announces x = announcement y)
    {x : Entry Call} (hx : announces x = none) :
    (x :: (l ++ rest)).IsChain fun x y => announces x = announcement y := by
  induction l generalizing x with
  | nil => exact hrest x hx
  | cons y l ih =>
    obtain ⟨hy, hy'⟩ := hl y (by simp)
    exact .cons_cons (hx.trans hy'.symm) (ih (fun z hz => hl z (by simp [hz])) hy)

theorem announces_told {m : List Turn} (hm : ∀ x ∈ m, x.call.asks = true) :
    ∀ y ∈ told m, announces y = none ∧ announcement y = none := by
  intro y hy
  obtain ⟨x, hx, rfl | hy⟩ := mem_told.1 hy
  · refine ⟨rfl, ?_⟩
    rw [announcement_call, herald_of_asks (hm x hx), Option.map_none]
  · cases y with
    | log event =>
      have hlevel := level_remark (mem_logged.1 hy)
      refine ⟨if_neg ?_, rfl⟩
      rw [hlevel]
      split <;> simp
    | call c => exact absurd hy (call_not_mem_logged c _)
    | _ => exact ⟨rfl, rfl⟩

/-! What is logged of a turn. -/

theorem milestone_eq {p : Step} {event : Event} : milestone p = some event ↔
    (p = .instantiateSession ∧ event = .sessionAcquired) ∨ (p = .commit ∧ event = .quotaCommitted) := by
  cases p <;> simp [milestone, eq_comm]

theorem remark_eq_milestone {x : Turn} {event : Event} (hlevel : event.level = .debug)
    (hne : event ≠ .noQuota) :
    x.remark = some event ↔ x.ends = false ∧ milestone x.step = some event := by
  cases hends : x.ends with
  | false => simp [remark_of_not_ends hends]
  | true =>
    cases hcode : x.outcome.code? with
    | some code =>
      rw [remark_of_code? hcode]
      have : event ≠ .callFailed x.step code := by
        rintro rfl
        cases hlevel
      simp [this.symm]
    | none => simp [remark_of_ends hcode hends, hne.symm]

theorem remark_eq_noQuota {x : Turn} :
    x.remark = some .noQuota ↔ x.outcome.code? = none ∧ x.ends = true := by
  cases hends : x.ends with
  | false => simp [remark_of_not_ends hends, milestone_eq]
  | true =>
    cases hcode : x.outcome.code? with
    | some code => simp [remark_of_code? hcode]
    | none => simp [remark_of_ends hcode hends]

theorem count_told (event : Event) (m : List Turn) :
    (told m).count (.log event) = m.countP fun x => x.remark = some event := by
  induction m with
  | nil => rfl
  | cons x m ih =>
    have hlogged : (logged x.remark).count (.log event) = if x.remark = some event then 1 else 0 := by
      cases x.remark <;> simp [logged, List.count_singleton]
    rw [told_cons, List.count_cons_of_ne (by simp), List.count_append, hlogged, ih, List.countP_cons]
    simp [Nat.add_comm]

theorem log_not_mem_heralded {event : Event} (h : event.level = .debug) (back : List Call) :
    .log event ∉ heralded back := by
  intro hmem
  obtain ⟨c, -, hc | hc⟩ := mem_heralded.1 hmem
  · rw [level_herald (mem_logged.1 hc)] at h
    cases h
  · cases hc

theorem exists_of_mem_due {ds : List Due} {s : State} (h : (played ds s).any Turn.ends = false) {d : Due}
    (hd : d ∈ ds) : ∃ x ∈ played ds s, x.toDue = d ∧ x.ends = false := by
  rw [← toDue_played_eq h] at hd
  obtain ⟨x, hx, rfl⟩ := List.mem_map.1 hd
  exact ⟨x, hx, rfl, Bool.eq_false_iff.2 (List.any_eq_false.1 h x hx)⟩

/-- The step whose call an event for debugging is logged behind. -/
def stepOf : Event → Step
  | .sessionAcquired => .instantiateSession
  | .quotaCommitted => .commit
  | _ => .getRecord

variable (settings : Settings) (op : Operation) (s : State)

/-- The steps that a milestone or the news of no quota belongs to are known by their calls. -/
theorem due_steps : ∀ d ∈ due settings s op,
    (d.step = .instantiateSession ↔ d.call.yields = some .session) ∧
    (d.step = .commit ↔ d.call.isCommit = true) ∧
    ((∃ session volume, d.call = .get session volume) → d.step = .getRecord) := by
  cases op <;>
    simp [due, acquisition, inSession, opening, onRecord, Call.yields, Call.isCommit]

theorem nodup_due_steps : ((due settings s op).map (·.step)).Nodup := by
  cases op <;> simp [due, acquisition, inSession, opening, onRecord]

/-- A turn that ends the asking without having failed is a search for a record, and there is none. -/
theorem get_of_ends {x : Turn} (hcode : x.outcome.code? = none) (hends : x.ends = true) :
    (∃ session volume, x.call = .get session volume) ∧ x.outcome = .absent := by
  by_cases hget : ∃ session volume, x.call = .get session volume
  · obtain ⟨session, volume, hcall⟩ := hget
    refine ⟨⟨session, volume, hcall⟩, ?_⟩
    rw [Turn.ends, hcall] at hends
    cases ho : x.outcome <;> simp_all [Outcome.code?, Call.ends]
  · rw [Turn.ends, Call.ends_eq fun session volume h => hget ⟨session, volume, h⟩, hcode] at hends
    cases hends

theorem step_of_remark {x : Turn} (hx : x.toDue ∈ due settings s op) {event : Event}
    (hevent : x.remark = some event) (hlevel : event.level = .debug) : x.step = stepOf event := by
  by_cases hne : event = .noQuota
  · subst hne
    obtain ⟨hcode, hends⟩ := remark_eq_noQuota.1 hevent
    exact (due_steps settings op s _ hx).2.2 (get_of_ends hcode hends).1
  · rcases milestone_eq.1 ((remark_eq_milestone hlevel hne).1 hevent).2 with ⟨hstep, rfl⟩ | ⟨hstep, rfl⟩
    · exact hstep
    · exact hstep

/-- What is logged for debugging is logged of a turn. -/
theorem mem_run_log {event : Event} (h : event.level = .debug) :
    .log event ∈ (op.run service settings s).trace ↔
      ∃ x ∈ played (due settings s op) s, x.remark = some event := by
  rw [run_journal]
  simp [log_not_mem_heralded h, mem_told, mem_logged]

theorem run_once {event : Event} (h : event.level = .debug) :
    (op.run service settings s).trace.count (.log event) ≤ 1 := by
  have hback : (heralded (released s (played (due settings s op) s))).count (.log event) = 0 :=
    List.count_eq_zero.2 (log_not_mem_heralded h _)
  have hsteps : ((played (due settings s op) s).map (·.step)).Nodup :=
    (nodup_due_steps settings op s).sublist (map_played_sublist (·.step) (due settings s op) s)
  calc (op.run service settings s).trace.count (.log event)
      = (played (due settings s op) s).countP fun x => x.remark = some event := by
        rw [run_journal]
        simp [hback, count_told]
    _ ≤ (played (due settings s op) s).countP fun x => x.step = stepOf event := by
        refine List.countP_mono_left fun x hx hremark => decide_eq_true ?_
        exact step_of_remark settings op s (mem_of_mem_played hx) (of_decide_eq_true hremark) h
    _ = ((played (due settings s op) s).map (·.step)).count (stepOf event) := by
        rw [List.count, List.countP_map]
        rfl
    _ ≤ 1 := List.nodup_iff_count_le_one.1 hsteps _

theorem run_span : ∃ body,
    (op.run service settings s).trace = .enter op.span :: (body ++ [.exit op.span]) ∧
      ∀ y ∈ body, (∃ c, y = .call c) ∨ ∃ event, y = .log event := by
  refine ⟨told (played (due settings s op) s) ++
    heralded (released s (played (due settings s op) s)), ?_, ?_⟩
  · rw [run_journal, List.append_assoc]
  · have hlogged : ∀ (o : Option Event) (y : Entry Call), y ∈ logged o → ∃ event, y = .log event := by
      intro o y hy
      obtain ⟨event, -, rfl⟩ := List.mem_map.1 hy
      exact ⟨event, rfl⟩
    intro y hy
    rcases List.mem_append.1 hy with hy | hy
    · obtain ⟨x, -, rfl | hy⟩ := mem_told.1 hy
      · exact .inl ⟨x.call, rfl⟩
      · exact .inr (hlogged _ y hy)
    · obtain ⟨c, -, hy | rfl⟩ := mem_heralded.1 hy
      · exact .inr (hlogged _ y hy)
      · exact .inl ⟨c, rfl⟩

theorem run_announced :
    (op.run service settings s).trace.IsChain fun x y => announces x = announcement y := by
  rw [run_journal]
  refine isChain_append (announces_told fun x hx => ?_) (fun x hx => ?_) rfl
  · exact due_asks settings s op _ (mem_of_mem_played hx)
  · exact isChain_heralded (released_asks s _) op.span hx

/-! The milestones. -/

/-- The turns to the session are among those of the operation. -/
theorem played_acquisition_subset :
    played (acquisition settings s) s ⊆ played (due settings s op) s := by
  rw [due, played_append]
  split
  · exact List.Subset.refl _
  · exact List.subset_append_left _ _

/-- What obtains the session is among the turns to it. -/
theorem mem_played_acquisition {x : Turn} (hx : x ∈ played (due settings s op) s)
    (hyields : x.call.yields = some .session) : x ∈ played (acquisition settings s) s := by
  have hnot : ∀ t, x ∉ played (inSession (s.sessions + 1) (s.records + 1) op) t := by
    intro t ht
    rcases List.mem_cons.1 (mem_of_mem_played ht) with hd | hd
    · have hopening := opening_yields (s.sessions + 1) op
      rw [← hd, hyields] at hopening
      cases hopening
    · rw [onRecord_yields _ op _ hd] at hyields
      cases hyields
  rw [due, played_append] at hx
  split at hx
  · exact hx
  · exact (List.mem_append.1 hx).resolve_right (hnot _)

/-- A session was obtained if and only if every step to it succeeded. -/
theorem session_iff : (∃ x ∈ played (due settings s op) s, x.gives .session = true) ↔
    ∀ d ∈ acquisition settings s, ∃ x ∈ played (due settings s op) s,
      x.call = d.call ∧ x.outcome.code? = none := by
  constructor
  · rintro ⟨x, hx, hgives⟩ d hd
    have hyields : x.call.yields = some .session := by
      by_contra hne
      rw [gives_of_yields_ne hne] at hgives
      cases hgives
    -- nothing ended the acquisition, so every call of it was made
    have hany : (played (acquisition settings s) s).any Turn.ends = false := by
      have h := acquisition_session settings s
      rw [List.any_eq_true.2 ⟨x, mem_played_acquisition settings op s hx hyields, hgives⟩] at h
      simpa using h.symm
    obtain ⟨y, hy, rfl, hends⟩ := exists_of_mem_due hany hd
    exact ⟨y, played_acquisition_subset settings op s hy, rfl, Turn.code?_eq_none hends⟩
  · intro h
    obtain ⟨x, hx, hcall, hcode⟩ := h ⟨.instantiateSession,
      .instantiate (s.identifiers + 1) (s.identifiers + 2) settings.serverContext⟩ (by simp [acquisition])
    refine ⟨x, hx, ?_⟩
    rw [Turn.gives, hcall, Call.gives, Call.ends_eq (by simp), hcode]
    rfl

theorem run_acquired : .log .sessionAcquired ∈ (op.run service settings s).trace ↔
    ∀ d ∈ acquisition settings s, ∃ o, (d.call, o) ∈
      exchanges Call.asks .success s.outcomes (calls (op.run service settings s).trace) ∧
        o.code? = none := by
  rw [mem_run_log settings op s rfl, run_exchanges]
  have hremark : ∀ x ∈ played (due settings s op) s,
      x.remark = some .sessionAcquired ↔ x.gives .session = true := by
    intro x hx
    have hstep := (due_steps settings op s _ (mem_of_mem_played hx)).1
    rw [remark_eq_milestone rfl (by simp), milestone_eq, Turn.gives, Call.gives]
    simp [hstep, and_comm, Turn.ends]
  have hexchange : ∀ d : Due, (∃ o, (d.call, o) ∈ (played (due settings s op) s).map Turn.exchange ∧
      o.code? = none) ↔ ∃ x ∈ played (due settings s op) s, x.call = d.call ∧ x.outcome.code? = none := by
    intro d
    simp only [List.mem_map, Turn.exchange, Prod.mk.injEq]
    constructor
    · rintro ⟨o, ⟨x, hx, hcall, rfl⟩, hcode⟩
      exact ⟨x, hx, hcall, hcode⟩
    · rintro ⟨x, hx, hcall, hcode⟩
      exact ⟨_, ⟨x, hx, hcall, rfl⟩, hcode⟩
  simp only [hexchange, ← session_iff settings op s]
  exact exists_congr fun x => and_congr_right (hremark x)

/-- Setting a quota searches for no record, so only failures end it. -/
theorem ends_setQuota (volume : String) (limit : UInt64) :
    ∀ x ∈ played (due settings s (.setQuota volume limit)) s, x.ends = x.error?.isSome := by
  have hget : ∀ d ∈ due settings s (.setQuota volume limit),
      ∀ session volume, d.call ≠ .get session volume := by
    simp [due, acquisition, inSession, opening, onRecord]
  intro x hx
  rw [Turn.ends, Turn.error?, Option.isSome_map]
  exact Call.ends_eq (hget _ (mem_of_mem_played hx)) x.outcome

theorem run_committed : .log .quotaCommitted ∈ (op.run service settings s).trace ↔
    (∃ volume limit, op = .setQuota volume limit) ∧
      ∃ a, (op.run service settings s).value = .ok a := by
  rw [mem_run_log settings op s rfl]
  constructor
  · rintro ⟨x, hx, hremark⟩
    obtain ⟨hends, hmilestone⟩ := (remark_eq_milestone rfl (by simp)).1 hremark
    obtain ⟨hstep, -⟩ := (milestone_eq.1 hmilestone).resolve_left (by simp)
    have hcommit : x.call.isCommit = true :=
      (due_steps settings op s _ (mem_of_mem_played hx)).2.1.1 hstep
    rcases due_isCommit settings s op with ⟨volume, limit, rfl⟩ | hnone
    · obtain ⟨hplayed, hany⟩ := played_of_commit hx hcommit
      refine ⟨⟨volume, limit, rfl⟩, _, run_succeeds settings _ s fun y hy code hcode => ?_⟩
      have hy : y.ends = false := by
        rw [hplayed, List.mem_append, List.mem_singleton] at hy
        rcases hy with hy | rfl
        · exact Bool.eq_false_iff.2 (List.any_eq_false.1 hany y hy)
        · exact hends
      have hnone := Turn.code?_eq_none hy
      rw [hcode] at hnone
      cases hnone
    · rw [hnone _ (mem_of_mem_played hx)] at hcommit
      cases hcommit
  · rintro ⟨⟨volume, limit, rfl⟩, a, ha⟩
    rw [(run_plays settings _ s).value] at ha
    rcases verdict_cases (ends_setQuota settings s volume limit) _ a with ⟨-, e, he, -⟩ | ⟨hany, -⟩
    · rw [ha] at he
      cases he
    · obtain ⟨x, hx, hdue, hends⟩ := exists_of_mem_due hany
        (d := ⟨.commit, .commit (s.records + 1)⟩) (by simp [due_setQuota])
      have hstep : x.step = .commit := congrArg Due.step hdue
      exact ⟨x, hx, (remark_eq_milestone rfl (by simp)).2 ⟨hends, milestone_eq.2 (.inr ⟨hstep, rfl⟩)⟩⟩

theorem run_noQuota : .log .noQuota ∈ (op.run service settings s).trace ↔ ∃ session volume,
    (.get session volume, .absent) ∈
      exchanges Call.asks .success s.outcomes (calls (op.run service settings s).trace) := by
  rw [mem_run_log settings op s rfl, run_exchanges]
  simp only [List.mem_map, Turn.exchange, Prod.mk.injEq]
  constructor
  · rintro ⟨x, hx, hremark⟩
    obtain ⟨hcode, hends⟩ := remark_eq_noQuota.1 hremark
    obtain ⟨⟨session, volume, hcall⟩, habsent⟩ := get_of_ends hcode hends
    exact ⟨session, volume, x, hx, hcall, habsent⟩
  · rintro ⟨session, volume, x, hx, hcall, habsent⟩
    refine ⟨x, hx, remark_eq_noQuota.2 ⟨?_, ?_⟩⟩
    · rw [habsent]
      rfl
    · rw [Turn.ends, hcall, habsent]
      rfl

/-- **The journal mirrors the lifecycle.** Whatever the settings, the operation and the outcomes that the
service has in store: the span of the operation stands around its journal, with its name and with the volume
and the limit; a release of a record or of a session and the teardown of the context each stand right behind
their own announcement, and there is no other; and that a session was acquired, a quota committed or no
quota found is logged in these words exactly if it is so, and no more than once. -/
theorem log_mirrors_lifecycle : Mirrors settings s op (op.run service settings s) where
  span := run_span settings op s
  headed := by cases op <;> rfl
  announced := run_announced settings op s
  acquired := (exists_tells_iff .sessionAcquired rfl _).trans (run_acquired settings op s)
  committed := (exists_tells_iff .quotaCommitted rfl _).trans (run_committed settings op s)
  noQuota := (exists_tells_iff .noQuota rfl _).trans (run_noQuota settings op s)
  once := by
    have honce : ∀ event : Event, event.level = .debug →
        (op.run service settings s).trace.countP (tells event.message) ≤ 1 := by
      intro event h
      rw [countP_tells h]
      exact run_once settings op s h
    simp only [milestones, List.forall_mem_cons]
    exact ⟨honce .sessionAcquired rfl, honce .quotaCommitted rfl, honce .noQuota rfl, by simp⟩
  debug := by
    intro event _ h
    cases event <;> first | rfl | simp [milestones, Event.message] at h

end DiskQuota.Scripted
