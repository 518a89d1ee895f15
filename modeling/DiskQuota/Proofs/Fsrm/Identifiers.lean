import DiskQuota.Benches
import DiskQuota.Proofs.Alike
import DiskQuota.Proofs.Fsrm.Course
import DiskQuota.Proofs.Guid

/-!
Identifiers matter by what they denote. A session is asked for exactly where both texts named an
identifier, a context was opened and the interface is the one that is known; any other interface is
refused before the operating system hears of it. Two spellings of the same identifiers are not told
apart but by the texts on record (`identifiers_by_value`).
-/
namespace DiskQuota.Fsrm

/-- The calls before a session were made and went well: the texts of the settings named these identifiers,
and a context was opened. -/
def WentWell (settings : Settings) (op : Operation) (m : Machine) (manager interface : Guid) : Prop :=
  ∃ first second third,
    (asked settings op m).take 3 =
      [(.iidFromString (String.ofList (upToZero settings.managerClass)), first),
        (.iidFromString (String.ofList (upToZero settings.managerInterface)), second),
        (.openCom (threadingFlag settings.threading), third)] ∧
    first.identify settings.managerClass = .ok manager ∧
    second.identify settings.managerInterface = .ok interface ∧ third.failure? = none

section

variable {settings : Settings} {op : Operation} {m : Machine} {manager interface : Guid}
  {context : UInt32} {t : List Call}

theorem Prepared.unique {manager' interface' : Guid} (h : Prepared settings m manager interface)
    (h' : Prepared settings m manager' interface') : manager = manager' ∧ interface = interface' := by
  constructor
  · exact Except.ok.inj (h.manager.symm.trans h'.manager)
  · exact Except.ok.inj (h.interface.symm.trans h'.interface)

/-- A session is asked for exactly where all before it went well and the interface is known. -/
theorem Acquires.instantiates {v : Except StepError Nat} (h : Acquires settings m v t) :
    .coCreateInstance manager context interface ∈ t ↔
      Prepared settings m manager interface ∧ interface = managerInterface ∧
        context = contextFlags settings.serverContext := by
  cases h with
  | noClass h =>
    constructor
    · intro hmem
      simp at hmem
    · rintro ⟨hprepared, -⟩
      cases h.symm.trans hprepared.manager
  | noInterface hmanager h =>
    constructor
    · intro hmem
      simp at hmem
    · rintro ⟨hprepared, -⟩
      cases h.symm.trans hprepared.interface
  | noContext hmanager hinterface h =>
    constructor
    · intro hmem
      simp [preparation] at hmem
    · rintro ⟨hprepared, -⟩
      cases h.symm.trans hprepared.opened
  | unknown hother h =>
    constructor
    · intro hmem
      simp [preparation] at hmem
    · rintro ⟨hprepared, rfl, -⟩
      exact absurd (hother.unique hprepared).2 h
  | noSession hknown | obtained hknown =>
    constructor
    · intro hmem
      simp only [acquisition, preparation, List.cons_append, List.nil_append, List.mem_cons, reduceCtorEq, Call.coCreateInstance.injEq,
        List.not_mem_nil, false_or, or_false] at hmem
      obtain ⟨rfl, rfl, rfl⟩ := hmem
      exact ⟨hknown, rfl, rfl⟩
    · rintro ⟨hprepared, rfl, rfl⟩
      rw [(hprepared.unique hknown).1]
      simp [acquisition]

theorem Course.instantiates {v : Except StepError Answer} (h : Course settings op m v t) :
    .coCreateInstance manager context interface ∈ t ↔
      Prepared settings m manager interface ∧ interface = managerInterface ∧
        context = contextFlags settings.serverContext := by
  have hclosing : ∀ n, .coCreateInstance manager context interface ∉ closing n := by
    intro n
    rw [closing]
    split <;> simp
  cases h with
  | unacquired hacquires => simp [hclosing, hacquires.instantiates]
  | acquired hacquires hworks =>
    have hwork : ∀ {u : List Call}, (∀ c ∈ u, Call.onTheWay c = false) →
        Call.coCreateInstance manager context interface ∉ u := by
      intro u hu hmem
      cases hu _ hmem
    simp [hclosing, hacquires.instantiates, hwork hworks.atWork]

/-! What comes before a session. -/

theorem eq_outcome_of_answers {i : Nat} {c : Call} {o : Outcome} (h : (m.answers t)[i]? = some (c, o)) :
    o = m.outcome i := by
  rw [Machine.answers_eq, List.getElem?_mapIdx] at h
  obtain ⟨d, -, hd⟩ := Option.map_eq_some_iff.1 h
  exact (congrArg Prod.snd hd).symm

theorem Acquires.prepared_prefix {v : Except StepError Nat} (h : Acquires settings m v t)
    (hprepared : Prepared settings m manager interface) : ∃ u, t = preparation settings ++ u := by
  cases h with
  | noClass h => cases h.symm.trans hprepared.manager
  | noInterface hmanager h => cases h.symm.trans hprepared.interface
  | noContext hmanager hinterface h => cases h.symm.trans hprepared.opened
  | unknown => exact ⟨[], (List.append_nil _).symm⟩
  | noSession | obtained => exact ⟨[_], rfl⟩

theorem Course.prepared_prefix {v : Except StepError Answer} (h : Course settings op m v t)
    (hprepared : Prepared settings m manager interface) : ∃ u, t = preparation settings ++ u := by
  cases h with
  | unacquired hacquires =>
    obtain ⟨u, rfl⟩ := hacquires.prepared_prefix hprepared
    exact ⟨_, List.append_assoc ..⟩
  | acquired hacquires hworks =>
    obtain ⟨u, rfl⟩ := hacquires.prepared_prefix hprepared
    exact ⟨_, List.append_assoc ..⟩

theorem wentWell_iff :
    WentWell settings op m manager interface ↔ Prepared settings m manager interface := by
  obtain ⟨v, t, hruns, hcourse⟩ := run_course settings op m
  rw [WentWell, hruns.asked]
  constructor
  · rintro ⟨first, second, third, htake, hmanager, hinterface, hopened⟩
    have hnth : ∀ (i : Nat) (c : Call) (o : Outcome),
        ((m.answers t).take 3)[i]? = some (c, o) → o = m.outcome i := by
      intro i c o h
      rw [List.getElem?_take] at h
      split at h
      · exact eq_outcome_of_answers h
      · cases h
    rw [htake] at hnth
    obtain rfl := hnth 0 _ _ rfl
    obtain rfl := hnth 1 _ _ rfl
    obtain rfl := hnth 2 _ _ rfl
    exact ⟨hmanager, hinterface, hopened⟩
  · intro hprepared
    obtain ⟨u, rfl⟩ := hcourse.prepared_prefix hprepared
    have hfirst : m.answers (preparation settings) =
        [(.iidFromString (String.ofList (upToZero settings.managerClass)), m.outcome 0),
          (.iidFromString (String.ofList (upToZero settings.managerInterface)), m.outcome 1),
          (.openCom (threadingFlag settings.threading), m.outcome 2)] := by
      rw [Machine.answers_eq]
      rfl
    refine ⟨_, _, _, ?_, hprepared.manager, hprepared.interface, hprepared.opened⟩
    rw [Machine.answers_append, hfirst]
    rfl

/-- How an operation is refused whose interface is not known. -/
structure Refused (settings : Settings) (op : Operation) (m : Machine) : Prop where
  value : (op.run service settings m).value = .error ⟨.acquisition, .instantiateSession, ⟨0x80004002⟩⟩
  /-- No outcome is taken beyond those of the calls before, -/
  store : (op.run service settings m).state.store = m.store.drop 3
  /-- and what was opened is closed, as long as contexts can be counted. -/
  closed : m.contexts + 1 ≠ 0 →
    calls (op.run service settings m).trace = preparation settings ++ [.closeCom] ∧
      (op.run service settings m).state.contexts = m.contexts

theorem contexts_of_closed (m : Machine) : (m.after [.closeCom]).contexts = m.contexts - 1 := by
  simp [Machine.after, tally_cons, Call.asks]

theorem refused_of_unknown (h : Prepared settings m manager interface)
    (hne : interface ≠ managerInterface) : Refused settings op m := by
  obtain ⟨v, t, hruns, hcourse⟩ := run_course settings op m
  have hknown : ∀ {manager'}, Prepared settings m manager' managerInterface → False :=
    fun h' => hne (h.unique h').2
  cases hcourse with
  | acquired hacquires =>
    cases hacquires with
    | obtained h' => exact (hknown h').elim
  | unacquired hacquires =>
    cases hacquires with
    | noClass hfails => cases hfails.symm.trans h.manager
    | noInterface _ hfails => cases hfails.symm.trans h.interface
    | noContext _ _ hfails => cases hfails.symm.trans h.opened
    | noSession h' => exact (hknown h').elim
    | unknown =>
      have hstore : ∀ n, ((preparation settings) ++ closing n).countP Call.asks = 3 := by
        intro n
        rw [closing]
        split <;> rfl
      refine ⟨hruns.value, ?_, fun hcount => ?_⟩
      · rw [hruns.state]
        show m.store.drop _ = _
        rw [hstore]
      · have hpositive : 0 < m.contexts + 1 := UInt32.pos_iff_ne_zero.2 hcount
        have hcalls := hruns.calls
        have hstate := hruns.state
        rw [contexts_of_prepared h, closing, if_pos hpositive] at hcalls hstate
        refine ⟨hcalls, ?_⟩
        rw [hstate, Machine.after_append, contexts_of_closed, contexts_of_prepared h]
        grind

end

/-! Two spellings of the same identifiers. -/

/-- The call without the text that it resolves. -/
def Call.unspelled : Call → Call
  | .iidFromString _ => .iidFromString ""
  | c => c

/-- Two runs that differ in the spelling of identifiers alone. -/
structure SameButSpelling {α : Type} (r r' : Ran Machine (Entry Call) α) : Prop where
  value : r.value = r'.value
  journal : r.trace.map (Entry.map Call.unspelled) = r'.trace.map (Entry.map Call.unspelled)
  state : r.state = r'.state

namespace SameButSpelling

variable {α β : Type}

protected theorem refl (r : Ran Machine (Entry Call) α) : SameButSpelling r r := ⟨rfl, rfl, rfl⟩

variable {x y : Task Machine (Entry Call) StepError α} {m : Machine}

protected theorem bind {f g : α → Task Machine (Entry Call) StepError β}
    (hx : SameButSpelling (x m) (y m)) (hf : ∀ a m, SameButSpelling (f a m) (g a m)) :
    SameButSpelling ((x >>= f) m) ((y >>= g) m) := by
  have hvalue := hx.value
  cases hv : (y m).value with
  | error e =>
    rw [hv] at hvalue
    rw [Task.bind_apply_error hvalue, Task.bind_apply_error hv]
    exact ⟨rfl, hx.journal, hx.state⟩
  | ok a =>
    rw [hv] at hvalue
    rw [Task.bind_apply_ok hvalue, Task.bind_apply_ok hv, hx.state]
    have hrest := hf a (y m).state
    refine ⟨hrest.value, ?_, hrest.state⟩
    rw [List.map_append, List.map_append, hx.journal, hrest.journal]

protected theorem ensuring (hx : SameButSpelling (x m) (y m))
    (cleanup : Machine → Ran Machine (Entry Call) Unit) :
    SameButSpelling (x.ensuring cleanup m) (y.ensuring cleanup m) where
  value := hx.value
  journal := by
    rw [Task.ensuring_trace, Task.ensuring_trace, List.map_append, List.map_append, hx.journal, hx.state]
  state := by rw [Task.ensuring_state, Task.ensuring_state, hx.state]

protected theorem inSpan (span : Span) (hx : SameButSpelling (x m) (y m)) :
    SameButSpelling (inSpan span x m) (inSpan span y m) where
  value := hx.value
  journal := by
    rw [DiskQuota.inSpan, DiskQuota.inSpan]
    simp only [List.map_cons, List.map_append, hx.journal]
  state := hx.state

end SameButSpelling

/-- The texts of the settings denote the same, and all else is the same. -/
structure Synonymous (settings settings' : Settings) : Prop where
  manager : identifier? settings.managerClass = identifier? settings'.managerClass
  interface : identifier? settings.managerInterface = identifier? settings'.managerInterface
  threading : settings.threading = settings'.threading
  serverContext : settings.serverContext = settings'.serverContext

protected theorem Synonymous.refl (settings : Settings) : Synonymous settings settings :=
  ⟨rfl, rfl, rfl, rfl⟩

/-- Two texts that denote the same are resolved to the same. -/
theorem resolve_same {text text' : String} (h : identifier? text = identifier? text') (p : Step)
    (m : Machine) : SameButSpelling (attempt p (service.resolve text) m)
      (attempt p (service.resolve text') m) := by
  have hidentify : m.next.identify text = m.next.identify text' := by
    rw [Outcome.identify, Outcome.identify, h]
  rw [attempt, attempt, resolve_apply, resolve_apply, hidentify, Machine.ran, Machine.ran]
  cases m.next.identify text' <;> exact ⟨rfl, rfl, rfl⟩

section

variable {settings settings' : Settings} (h : Synonymous settings settings')

include h

theorem acquire_same (m : Machine) :
    SameButSpelling (service.acquire settings m) (service.acquire settings' m) := by
  rw [Service.acquire, Service.acquire, h.threading, h.serverContext]
  refine .bind (resolve_same h.manager _ m) fun manager m => ?_
  exact .bind (resolve_same h.interface _ m) fun interface m => .refl _

theorem run_same (op : Operation) (m : Machine) :
    SameButSpelling (op.run service settings m) (op.run service settings' m) := by
  rw [op.run_eq, op.run_eq]
  exact .inSpan _ (.ensuring (.bind (acquire_same h m) fun session m => .refl _) _)

theorem native_same (call : Native.Call) (m : Machine) :
    SameButSpelling (call.run service settings m) (call.run service settings' m) := by
  rw [Native.Call.run_eq, Native.Call.run_eq]
  cases call.operation with
  | error code => exact .refl _
  | ok op =>
    have hrun := run_same h op m
    exact ⟨congrArg (fun v => call.reply (v.mapError StepError.code)) hrun.value, hrun.journal,
      hrun.state⟩

end

/-- Two commands that were carried out and differ in the spelling of identifiers alone: they have the same
result and leave the same state. -/
structure SameDone (d d' : Done Machine Call Control.Reply) : Prop where
  result : d.result = d'.result
  journal : d.journal.map (Entry.map Call.unspelled) = d'.journal.map (Entry.map Call.unspelled)
  state : d.standing.state = d'.standing.state

section

variable {s s' : Standing Machine Call}

/-- A command leaves settings that denote the same if it found such. -/
theorem step_same (hsettings : Synonymous s.settings s'.settings) (hstate : s.state = s'.state)
    (c : Command Control) : SameDone (bench.step s c) (bench.step s' c) ∧
      Synonymous (bench.step s c).standing.settings (bench.step s' c).standing.settings := by
  obtain ⟨settings, m, past⟩ := s
  obtain ⟨settings', m', past'⟩ := s'
  obtain rfl : m = m' := hstate
  cases c with
  | operation op =>
    have hrun := run_same hsettings op m
    exact ⟨⟨congrArg Command.Result.answer hrun.value, hrun.journal, hrun.state⟩, hsettings⟩
  | native call =>
    have hrun := native_same hsettings call m
    exact ⟨⟨congrArg Command.Result.reply hrun.value, hrun.journal, hrun.state⟩, hsettings⟩
  | startLogging filter => exact ⟨⟨rfl, rfl, rfl⟩, hsettings⟩
  | control k => exact ⟨⟨rfl, rfl, rfl⟩, hsettings⟩
  | reconfigure document =>
    simp only [Bench.step]
    cases Settings.parse document with
    | ok settings => exact ⟨⟨rfl, rfl, rfl⟩, .refl settings⟩
    | error e => exact ⟨⟨rfl, rfl, rfl⟩, hsettings⟩

theorem script_same (hsettings : Synonymous s.settings s'.settings) (hstate : s.state = s'.state)
    (cs : List (Command Control)) : List.Forall₂ SameDone (bench.run s cs) (bench.run s' cs) := by
  induction cs generalizing s s' with
  | nil => exact .nil
  | cons c cs ih =>
    obtain ⟨hdone, hafter⟩ := step_same hsettings hstate c
    exact .cons hdone (ih hafter hdone.state)

end

/-- **Identifiers matter by what they denote.** A text denotes the identifier whose written form it is in
lower case, up to the first zero. The operating system is asked for a session exactly where all calls
before it went well and the interface is the known one; with any other, the operation fails before
that, takes nothing more and closes what it opened. Settings that denote the same do the same: every
script over the same outcomes gives the same results by the same calls, the texts to resolve excepted. -/
theorem identifiers_by_value (settings settings' : Settings) (op : Operation) (m : Machine)
    (manager interface : Guid) :
    (∀ (text : String) (g : Guid),
      identifier? text = some g ↔ (upToZero text).map Char.toLower = g.chars) ∧
    (∀ context, .coCreateInstance manager context interface ∈ calls (op.run service settings m).trace ↔
      WentWell settings op m manager interface ∧
        identifier? "\x7b4846cb01-d430-494f-abb4-b1054999fb09\x7d" = some interface ∧
        context = contextFlags settings.serverContext) ∧
    (WentWell settings op m manager interface →
      identifier? "\x7b4846cb01-d430-494f-abb4-b1054999fb09\x7d" ≠ some interface →
      Refused settings op m) ∧
    (Synonymous settings settings' → ∀ past past' cs,
      List.Forall₂ SameDone (bench.run ⟨settings, m, past⟩ cs) (bench.run ⟨settings', m, past'⟩ cs)) := by
  have hknown : identifier? "\x7b4846cb01-d430-494f-abb4-b1054999fb09\x7d" = some interface ↔
      interface = managerInterface := by
    rw [identifier?_known, Option.some.injEq]
    exact eq_comm
  refine ⟨fun text g => Guid.ofChars?_eq_some_iff, fun context => ?_, fun h hne => ?_, ?_⟩
  · obtain ⟨v, t, hruns, hcourse⟩ := run_course settings op m
    rw [hruns.calls, wentWell_iff, hknown]
    exact hcourse.instantiates
  · exact refused_of_unknown (wentWell_iff.1 h) fun heq => hne (hknown.2 heq)
  · intro h past past' cs
    exact @script_same ⟨settings, m, past⟩ ⟨settings', m, past'⟩ h rfl cs

/-- Another spelling of the default. -/
example : Synonymous { Settings.default with
    managerClass := "\x7b90DCAB7F-347C-4BFC-B543-540326305fbe\x7d\x00and more" } .default :=
  ⟨by decide, rfl, rfl, rfl⟩

end DiskQuota.Fsrm
