import DiskQuota.Proofs.Messages
import DiskQuota.Proofs.Scripted.Course
import Mathlib.Data.List.Basic

/-!
The failure of an operation is in its journal, once: right behind the call that failed, with the step and
the code of the error, and before anything is given back (`Diagnosis`). A journal without a failure has no
entry at level `error`. The headline `failure_diagnosed` says both of every operation.
-/
namespace DiskQuota

/-- Whether an entry is an event at level `error`. -/
def Entry.reports {ε : Type} : Entry ε → Bool
  | .log event => event.level = .error
  | _ => false

namespace Scripted

/-- Whether an entry belongs to the cleanup: an event at level `trace`, a release, the teardown of the
context, or the end of the span. -/
def cleansUp : Entry Call → Bool
  | .log event => event.level = .trace
  | .call c => !c.asks
  | .exit _ => true
  | .enter _ => false

/-- In a journal of `op` from `s`, made of `before`, the call `c`, the event and `after`, the event tells
of the error `e`. -/
structure Diagnosis (settings : Settings) (s : State) (op : Operation) (e : StepError)
    (before : List (Entry Call)) (c : Call) (event : Event) (after : List (Entry Call)) : Prop where
  /-- The call is the one that is due at the step of the error, -/
  due : ⟨e.step, c⟩ ∈ due settings s op
  /-- and it failed with the code of the error. -/
  failed : (exchanges Call.asks .success s.outcomes (calls before ++ [c])).getLast? =
    some (c, .failure e.code)
  /-- The event is an error that names step and code, the code by its digits and its name. -/
  level : event.level = .error
  fields : ∃ digits, e.code.Shown digits ∧
    event.fields = [("step", e.step.wording), ("code", e.code.text)]
  /-- It is the only one, -/
  once : (before ++ .call c :: .log event :: after).filter Entry.reports = [.log event]
  /-- and nothing but the cleanup follows. -/
  cleanup : ∀ x ∈ after, cleansUp x = true

/-- Where only the last turn can end the asking, an error is that of the last turn. -/
theorem exists_of_verdict_error {α : Type} {m : List Turn} (hm : ∀ x ∈ m.dropLast, x.ends = false)
    {a : α} {e : StepError} (h : verdict m a = .error e) :
    ∃ p x code, m = p ++ [x] ∧ x.outcome = .failure code ∧ e = .ofStep x.step code := by
  rcases List.eq_nil_or_concat' m with rfl | ⟨p, x, rfl⟩
  · cases h
  · rw [List.dropLast_concat] at hm
    have hp : p.any Turn.ends = false := List.any_eq_false.2 fun y hy => by simp [hm y hy]
    rw [verdict_append hp, verdict_cons] at h
    cases ho : x.outcome with
    | failure code =>
      simp only [Turn.error?, ho, Outcome.code?, Option.map_some] at h
      exact ⟨p, x, code, rfl, ho, (Except.error.inj h).symm⟩
    | _ =>
      simp only [Turn.error?, ho, Outcome.code?, Option.map_none] at h
      cases h

theorem reports_told {m : List Turn} (hm : ∀ x ∈ m, x.error? = none) :
    ∀ y ∈ told m, y.reports = false := by
  intro y hy
  obtain ⟨x, hx, rfl | hy⟩ := mem_told.1 hy
  · rfl
  · cases y with
    | log event =>
      have hlevel := level_remark (mem_logged.1 hy)
      rw [hm x hx] at hlevel
      simp [Entry.reports, hlevel]
    | _ => rfl

theorem reports_of_cleansUp {y : Entry Call} (h : cleansUp y = true) : y.reports = false := by
  cases y with
  | log event =>
    have hlevel : event.level = .trace := of_decide_eq_true h
    simp [Entry.reports, hlevel]
  | _ => rfl

/-- Behind the turns of an operation its journal has nothing but the cleanup. -/
theorem cleansUp_closing (s : State) (m : List Turn) (span : Span) :
    ∀ y ∈ heralded (released s m) ++ [.exit span], cleansUp y = true := by
  intro y hy
  rcases List.mem_append.1 hy with hy | hy
  · obtain ⟨c, hc, hy | rfl⟩ := mem_heralded.1 hy
    · cases y with
      | log event => exact decide_eq_true (level_herald (mem_logged.1 hy))
      | call d => exact absurd hy (call_not_mem_logged d _)
      | enter span => simp [logged] at hy
      | exit span => rfl
    · simp [cleansUp, released_asks s m c hc]
  · rw [List.mem_singleton.1 hy]
    rfl

variable (settings : Settings) (op : Operation) (s : State)

/-- The failure of an operation is diagnosed. -/
theorem run_diagnosis {e : StepError} (h : (op.run service settings s).value = .error e) :
    ∃ before c event after,
      (op.run service settings s).trace = before ++ .call c :: .log event :: after ∧
        Diagnosis settings s op e before c event after := by
  rw [(run_plays settings op s).value] at h
  have hlast : ∀ y ∈ (played (due settings s op) s).dropLast, y.ends = false :=
    fun y hy => ends_of_mem_dropLast_cutAfter hy
  obtain ⟨p, x, code, hm, ho, rfl⟩ := exists_of_verdict_error hlast h
  have hx : x ∈ played (due settings s op) s := by simp [hm]
  have hp : ∀ y ∈ p, y.error? = none :=
    fun y hy => Turn.error?_eq_none (hlast y (by rwa [hm, List.dropLast_concat]))
  -- the journal before the call, and the cleanup behind the event
  let before := Entry.enter op.span :: told p
  let after := heralded (released s (p ++ [x])) ++ [Entry.exit op.span]
  have hcleanup : ∀ y ∈ after, cleansUp y = true := cleansUp_closing s (p ++ [x]) op.span
  have htrace : (op.run service settings s).trace =
      before ++ .call x.call :: .log (.callFailed x.step code) :: after := by
    have hremark : x.remark = some (.callFailed x.step code) :=
      remark_of_code? (by rw [ho]; rfl)
    rw [run_journal, hm, told_append, told_cons, hremark]
    simp [before, after, logged]
  refine ⟨before, x.call, .callFailed x.step code, after, htrace, ?_⟩
  have hbefore : before.filter Entry.reports = [] := by
    refine List.filter_eq_nil_iff.2 fun y hy => ?_
    rcases List.mem_cons.1 hy with rfl | hy
    · exact Bool.false_ne_true
    · simp [reports_told hp y hy]
  have hafter : after.filter Entry.reports = [] :=
    List.filter_eq_nil_iff.2 fun y hy => by simp [reports_of_cleansUp (hcleanup y hy)]
  constructor
  · exact mem_of_mem_played hx
  · have hexchanges := exchanges_played s (due_asks settings s op)
    rw [hm, List.map_append, List.map_append] at hexchanges
    have hcalls : calls before = p.map (·.call) := calls_told p
    rw [hcalls]
    show (exchanges Call.asks .success s.outcomes (p.map (·.call) ++ [x].map (·.call))).getLast? = _
    rw [hexchanges, List.map_singleton, List.getLast?_concat, Turn.exchange, ho]
    rfl
  · rfl
  · refine ⟨code.digits, code.shown_digits, ?_⟩
    rw [← Step.text_eq]
    rfl
  · rw [List.filter_append, hbefore, List.nil_append, List.filter_cons_of_neg (by exact Bool.false_ne_true),
      List.filter_cons_of_pos rfl, hafter]
  · exact hcleanup

/-- Nothing is reported where nothing failed. -/
theorem run_silent {a : Answer} (h : (op.run service settings s).value = .ok a) :
    (op.run service settings s).trace.filter Entry.reports = [] := by
  have hm : ∀ x ∈ played (due settings s op) s, x.error? = none := by
    rw [(run_plays settings op s).value, verdict] at h
    cases hfind : (played (due settings s op) s).findSome? Turn.error? with
    | none => exact List.findSome?_eq_none_iff.1 hfind
    | some e =>
      rw [hfind] at h
      cases h
  rw [run_journal]
  refine List.filter_eq_nil_iff.2 fun y hy => ?_
  rcases List.mem_cons.1 hy with rfl | hy
  · exact Bool.false_ne_true
  · rcases List.mem_append.1 hy with hy | hy
    · simp [reports_told hm y hy]
    · simp [reports_of_cleansUp (cleansUp_closing s _ op.span y hy)]

/-- **The diagnostic names the failure and precedes the cleanup.** Whatever the settings, the operation and
the outcomes that the service has in store: if the operation fails, its journal has one entry at level
`error`; it stands right behind the call that failed, carries the texts of the step and the code of the
error, and nothing follows it but the cleanup. If the operation succeeds, there is no such entry. -/
theorem failure_diagnosed :
    match (op.run service settings s).value with
    | .error e => ∃ before c event after,
        (op.run service settings s).trace = before ++ .call c :: .log event :: after ∧
          Diagnosis settings s op e before c event after
    | .ok _ => (op.run service settings s).trace.filter Entry.reports = [] := by
  cases hv : (op.run service settings s).value with
  | error e => exact run_diagnosis settings op s hv
  | ok a => exact run_silent settings op s hv

end Scripted
end DiskQuota
