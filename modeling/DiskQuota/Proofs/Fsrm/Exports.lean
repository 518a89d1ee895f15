import DiskQuota.Proofs.Fsrm.Course
import DiskQuota.Proofs.Native.Delivery

/-!
The status of an exported call is that of the operating system. The first call that failed gives its code,
bit for bit, and codes of success give nothing, whichever they are (`exports_exact`). A failed operation
is to blame on a call that failed or handed out nothing (`run_blame`), as long as the settings name
identifiers, and the interface that is known.
-/
namespace DiskQuota.Fsrm

open Native (beforeZero isFailure_iff)
open Text.Utf16 (Paired encode)

/-- The first call that failed, with its code. -/
def firstFailure (xs : List (Call × Outcome)) : Option (Call × Status) :=
  xs.findSome? fun x => x.2.failure?.map fun k => (x.1, k)

theorem code_of_failure {o : Outcome} {k : Status} (h : o.failure? = some k) :
    o = .code k ∧ k.isFailure = true := by
  cases o with
  | code c =>
    rw [failure?_code] at h
    split at h
    · next hc =>
      cases h
      exact ⟨rfl, hc⟩
    · cases h
  | nullObject | value | success => cases h

theorem firstFailure_eq_none {xs : List (Call × Outcome)} (h : firstFailure xs = none) :
    ∀ x ∈ xs, x.2.failure? = none := by
  intro x hx
  simpa using List.findSome?_eq_none_iff.1 h x hx

theorem firstFailure_eq_some {xs : List (Call × Outcome)} {c : Call} {k : Status}
    (h : firstFailure xs = some (c, k)) : (c, .code k) ∈ xs ∧ k.isFailure = true := by
  obtain ⟨⟨d, o⟩, hmem, hfails⟩ := List.exists_of_findSome?_eq_some h
  obtain ⟨j, hj, hd⟩ := Option.map_eq_some_iff.1 hfails
  cases hd
  obtain ⟨rfl, hk⟩ := code_of_failure hj
  exact ⟨hmem, hk⟩

/-! Whom a failure is to blame on. -/

/-- A call failed with the code, or succeeded without an object where the code is zero. -/
def Blamed (k : Status) (xs : List (Call × Outcome)) : Prop :=
  ∃ x ∈ xs, x.2.failure? = some k ∨ NoObject x ∧ k = noObject

section

variable {m : Machine} {x : Call × Outcome} {k : Status} {t u : List Call}

theorem mem_answers_left (h : x ∈ m.answers t) (u : List Call) : x ∈ m.answers (t ++ u) := by
  rw [Machine.answers_append]
  exact List.mem_append_left _ h

theorem mem_answers_right (h : x ∈ (m.after t).answers u) : x ∈ m.answers (t ++ u) := by
  rw [Machine.answers_append]
  exact List.mem_append_right _ h

theorem Blamed.append_left (h : Blamed k (m.answers t)) (u : List Call) :
    Blamed k (m.answers (t ++ u)) := by
  obtain ⟨x, hx, hblame⟩ := h
  exact ⟨x, mem_answers_left hx u, hblame⟩

theorem Blamed.append_right (h : Blamed k ((m.after t).answers u)) : Blamed k (m.answers (t ++ u)) := by
  obtain ⟨x, hx, hblame⟩ := h
  exact ⟨x, mem_answers_right hx, hblame⟩

end

section

variable {o : Outcome} {k : Status}

theorem failure?_of_settle {α : Type} {a : α} (h : o.settle a = .error k) : o.failure? = some k := by
  rw [Outcome.settle] at h
  split at h
  · next hfails =>
    cases h
    exact hfails
  · cases h

theorem failure?_of_identify {text : String} {g : Guid} (hnamed : identifier? text = some g)
    (h : o.identify text = .error k) : o.failure? = some k := by
  rw [Outcome.identify, hnamed] at h
  cases hfails : o.failure? with
  | none =>
    rw [hfails] at h
    cases h
  | some j =>
    rw [hfails] at h
    cases h
    rfl

theorem identifier?_of_identify {text : String} {g : Guid} (h : o.identify text = .ok g) :
    o.failure? = none ∧ identifier? text = some g := by
  rw [Outcome.identify] at h
  split at h
  · cases h
  · next hfails hnamed =>
    cases h
    exact ⟨hfails, hnamed⟩
  · cases h

theorem object_of_found_error {n : Nat} (h : o.found n = .error k) : o.object n = .error k := by
  rw [Outcome.found] at h
  cases hobject : o.object n with
  | ok j =>
    rw [hobject] at h
    cases h
  | error j =>
    rw [hobject] at h
    dsimp only at h
    split at h <;> cases h
    rfl

end

/-- The settings name identifiers, and the interface that is known. -/
structure Known (settings : Settings) : Prop where
  manager : ∃ g, identifier? settings.managerClass = some g
  interface : identifier? settings.managerInterface = some managerInterface

theorem known_default : Known .default where
  manager := Option.isSome_iff_exists.1 (by decide)
  interface := by decide

section

variable {settings : Settings} {op : Operation} {m : Machine} {session record : Nat} {e : StepError}
  {k : Status} {t cs : List Call} {c : Call} {i : Nat}

theorem mem_answers (ht : t.filter Call.asks = cs) (hc : cs[i]? = some c) :
    (c, m.outcome i) ∈ m.answers t := by
  rw [Machine.answers_eq, ht]
  exact List.mem_of_getElem? (i := i) (by simp [hc])

theorem blamed_of_failure (ht : t.filter Call.asks = cs) (hc : cs[i]? = some c)
    (h : (m.outcome i).failure? = some k) : Blamed k (m.answers t) :=
  ⟨_, mem_answers ht hc, .inl h⟩

/-- An object that is not handed out. -/
theorem blamed_of_object (ht : t.filter Call.asks = cs) (hc : cs[i]? = some c)
    (hobject : c.handsOut = true) {n : Nat} (h : (m.outcome i).object n = .error k) :
    Blamed k (m.answers t) := by
  refine ⟨_, mem_answers ht hc, ?_⟩
  rw [Outcome.object] at h
  split at h
  · next hnull =>
    cases h
    exact .inr ⟨⟨hobject, hnull⟩, rfl⟩
  · exact .inl (failure?_of_settle h)

theorem Acquires.blame (h : Acquires settings m (.error e) t) (hknown : Known settings) :
    Blamed e.code (m.answers t) := by
  obtain ⟨g, hg⟩ := hknown.manager
  cases h with
  | noClass h => exact blamed_of_failure (i := 0) rfl rfl (failure?_of_identify hg h)
  | noInterface hmanager h =>
    exact blamed_of_failure (i := 1) rfl rfl (failure?_of_identify hknown.interface h)
  | noContext hmanager hinterface h => exact blamed_of_failure (i := 2) rfl rfl h
  | unknown hprepared h =>
    have hnamed := (identifier?_of_identify hprepared.interface).2
    rw [hknown.interface] at hnamed
    exact absurd (Option.some.inj hnamed).symm h
  | noSession hprepared h => exact blamed_of_object (i := 3) rfl rfl rfl h

/-- What a trace that begins with a call with a string asks. -/
theorem filter_asks_quoted_append (text : String) (hc : c.asks = true) (t : List Call) :
    (quoted text c ++ t).filter Call.asks = c :: t.filter Call.asks := by
  rw [List.filter_append, filter_asks_quoted text hc]
  rfl

theorem settle_mapError {α : Type} {o : Outcome} {a : α} {p : Step}
    (h : (o.settle a).mapError (.ofStep p) = .error e) : o.failure? = some e.code := by
  cases hsettle : o.settle a with
  | ok b =>
    rw [hsettle] at h
    cases h
  | error k =>
    rw [hsettle] at h
    cases h
    exact failure?_of_settle hsettle

theorem Consults.blame {v : Except StepError Answer} (h : Consults record m op v t)
    (hv : v = .error e) : Blamed e.code (m.answers t) := by
  cases h with
  | bytes | usage =>
    exact blamed_of_failure (i := 0) (filter_asks_readAs _ rfl) rfl (settle_mapError hv)
  | noLimit volume h =>
    cases hv
    exact blamed_of_failure (i := 0) (filter_asks_readAs _ rfl) rfl h
  | snapshot volume h =>
    have hfilter : ∀ o, (readAs (m.outcome 0) (.quotaLimit record) ++
        readAs o (.quotaUsed record)).filter Call.asks = [.quotaLimit record, .quotaUsed record] := by
      intro o
      rw [List.filter_append, filter_asks_readAs _ rfl, filter_asks_readAs _ rfl]
      rfl
    exact blamed_of_failure (i := 1) (hfilter _) rfl (settle_mapError hv)

theorem Works.blame {v : Except StepError Answer} (h : Works session m op v t)
    (hv : v = .error e) : Blamed e.code (m.answers t) := by
  cases h with
  | notCreated h =>
    cases hv
    exact blamed_of_object (i := 0) (filter_asks_quoted _ rfl) rfl rfl h
  | notSet hrecord h =>
    cases hv
    exact blamed_of_failure (i := 1) (filter_asks_quoted_append _ rfl _) rfl h
  | set hrecord h =>
    exact blamed_of_failure (i := 2) (filter_asks_quoted_append _ rfl _) rfl (settle_mapError hv)
  | refused hop h =>
    cases hv
    exact blamed_of_object (i := 0) (filter_asks_quoted _ rfl) rfl rfl (object_of_found_error h)
  | missing hop h => cases hv
  | found hrecord hconsults =>
    have hread := hconsults.blame hv
    exact (hread.append_left _).append_right

/-- An operation with settings that name what is known fails only where a call does. -/
theorem run_blame (hknown : Known settings) (h : (op.run service settings m).value = .error e) :
    Blamed e.code (asked settings op m) := by
  obtain ⟨v, t, hruns, hcourse⟩ := run_course settings op m
  have hv := hruns.value.symm.trans h
  rw [hruns.asked]
  cases hcourse with
  | unacquired hacquires =>
    cases hv
    exact (hacquires.blame hknown).append_left _
  | acquired hacquires hworks =>
    exact ((hworks.blame hv).append_left _).append_right

/-! What fails, and what does not. -/

theorem run_of_firstFailure (h : firstFailure (asked settings op m) = some (c, k))
    (hmissing : c.gets = true → k ≠ .notFound) :
    ∃ e, (op.run service settings m).value = .error e ∧ e.code = k := by
  obtain ⟨hmem, hk⟩ := firstFailure_eq_some h
  obtain ⟨i, hi⟩ := List.getElem?_of_mem hmem
  obtain ⟨category, p, -, -, hvalue⟩ := run_error_of_asked settings m hi (of_decide_eq_true hk) hmissing
  exact ⟨_, hvalue, rfl⟩

theorem run_ok_of_no_failure (hknown : Known settings) (h : firstFailure (asked settings op m) = none)
    (hobjects : ∀ x ∈ asked settings op m, ¬NoObject x) :
    ∃ a, (op.run service settings m).value = .ok a := by
  cases hv : (op.run service settings m).value with
  | ok a => exact ⟨a, rfl⟩
  | error e =>
    obtain ⟨x, hx, hfails | ⟨hnone, -⟩⟩ := run_blame hknown hv
    · rw [firstFailure_eq_none h x hx] at hfails
      cases hfails
    · exact absurd hnone (hobjects x hx)

theorem Consults.gets {v : Except StepError Answer} (h : Consults record m op v t) :
    ∀ c ∈ t, c.gets = false := by
  cases h with
  | bytes | usage | noLimit => exact readAs_gets rfl
  | snapshot => exact List.forall_mem_append.2 ⟨readAs_gets rfl, readAs_gets rfl⟩

/-- Where looking for a record is answered with "not found", there is none, and that is the answer. -/
theorem Works.of_notFound {v : Except StepError Answer} (h : Works session m op v t)
    (hc : c.gets = true) (hmem : (c, .code .notFound) ∈ m.answers t) :
    ∃ a, absence op = some a ∧ v = .ok a := by
  have hnext : ∀ {volume : String} {d : Call}, d.asks = true →
      (c, .code .notFound) ∈ m.answers (quoted volume d) → m.outcome 0 = .code .notFound := by
    intro volume d hd hmem
    rw [answers_quoted m volume hd, List.mem_singleton] at hmem
    exact (congrArg Prod.snd hmem).symm
  cases h with
  | notCreated => exact absurd hmem (not_mem_answers hc (forall_mem_quoted rfl rfl rfl) m _)
  | notSet | set =>
    refine absurd hmem (not_mem_answers hc ?_ m _)
    exact List.forall_mem_append.2 ⟨forall_mem_quoted rfl rfl rfl, by simp [Call.gets]⟩
  | @refused op record a k hop h =>
    rw [hnext rfl hmem] at h
    cases h
  | missing hop h => exact ⟨_, hop, rfl⟩
  | found h hconsults =>
    rw [Machine.answers_append] at hmem
    rcases List.mem_append.1 hmem with hmem | hmem
    · rw [hnext rfl hmem] at h
      cases h
    · refine absurd hmem (not_mem_answers hc ?_ _ _)
      exact List.forall_mem_append.2 ⟨hconsults.gets, by simp [Call.gets]⟩

theorem run_of_notFound (hc : c.gets = true) (hmem : (c, .code .notFound) ∈ asked settings op m) :
    ∃ a, absence op = some a ∧ (op.run service settings m).value = .ok a := by
  obtain ⟨v, t, hruns, hcourse⟩ := run_course settings op m
  rw [hruns.asked] at hmem
  rw [hruns.value]
  have hwork : c.onTheWay = false := by
    cases c <;> first | rfl | cases hc
  obtain ⟨session, m', u, hworks, hmem⟩ := hcourse.work_of_mem hmem hwork
  exact hworks.of_notFound hc hmem

/-! The courses of success. -/

theorem ok_of_settle_mapError {α : Type} {o : Outcome} {a b : α} {p : Step}
    (h : (o.settle a).mapError (StepError.ofStep p) = .ok b) : o.failure? = none ∧ b = a := by
  cases hfails : o.failure? with
  | some k =>
    rw [settle_of_failure hfails] at h
    cases h
  | none =>
    rw [settle_of_none hfails] at h
    cases h
    exact ⟨rfl, rfl⟩

theorem set_of_ok {volume : String} {limit : UInt64} {a : Answer}
    (h : ((Operation.setQuota volume limit).run service settings m).value = .ok a) :
    ∃ manager session record,
      calls ((Operation.setQuota volume limit).run service settings m).trace =
        acquisition settings manager ++ (quoted volume (.createQuota session volume) ++
          [.setQuotaLimit record (.ofUnsigned limit), .commit record, .releaseRecord record] ++
          .releaseSession session :: closing (m.contexts + 1)) := by
  obtain ⟨v, t, hruns, hcourse⟩ := run_course settings (.setQuota volume limit) m
  have hv := hruns.value.symm.trans h
  rw [hruns.calls]
  cases hcourse with
  | unacquired hacquires => cases hv
  | acquired hacquires hworks =>
    cases hacquires
    cases hworks with
    | notCreated => cases hv
    | notSet => cases hv
    | set => exact ⟨_, _, _, rfl⟩
    | refused hop => cases hop
    | missing hop => cases hop
    | found hrecord hconsults => cases hconsults

theorem get_of_ok {volume : String} {a : Answer}
    (h : ((Operation.getQuotaUsed volume).run service settings m).value = .ok a)
    (hfails : firstFailure (asked settings (.getQuotaUsed volume) m) = none) :
    ∃ manager session record o, (.quotaUsed record, o) ∈ asked settings (.getQuotaUsed volume) m ∧
      a = .bytes o.variant.bits ∧
      calls ((Operation.getQuotaUsed volume).run service settings m).trace =
        acquisition settings manager ++ (quoted volume (.getQuota session volume) ++
          [.quotaUsed record, .variantClear o.variant.tag, .releaseRecord record] ++
          .releaseSession session :: closing (m.contexts + 1)) := by
  obtain ⟨v, t, hruns, hcourse⟩ := run_course settings (.getQuotaUsed volume) m
  have hv := hruns.value.symm.trans h
  have hclean := firstFailure_eq_none hfails
  rw [hruns.asked] at hclean ⊢
  rw [hruns.calls]
  cases hcourse with
  | unacquired hacquires => cases hv
  | @acquired session v t u hacquires hworks =>
    cases hacquires with | @obtained manager session =>
    cases hworks with
    | refused => cases hv
    | missing hop hmissing =>
      have hgot : (.getQuota session volume, .code .notFound) ∈
          (m.after (acquisition settings manager)).answers
            (quoted volume (.getQuota session volume)) := by
        rw [answers_quoted _ volume rfl, hmissing]
        exact List.mem_singleton_self _
      cases hclean _ (mem_answers_right (mem_answers_left hgot _))
    | @found op record v t hrecord hconsults =>
      cases hconsults
      obtain ⟨hread, rfl⟩ := ok_of_settle_mapError hv
      let found := (m.after (acquisition settings manager)).after
        (quoted volume (.getQuota session volume))
      have hused : (.quotaUsed record, found.outcome 0) ∈
          found.answers (readAs (found.outcome 0) (.quotaUsed record)) := by
        rw [answers_readAs _ _ rfl]
        exact List.mem_singleton_self _
      refine ⟨manager, session, record, found.outcome 0, ?_, rfl, ?_⟩
      · exact mem_answers_right (mem_answers_left (mem_answers_right (mem_answers_left hused _)) _)
      · rw [readAs, hread]
        rfl

end

/-! The exports. -/

theorem runAlone_eq (op : Operation) (m : Machine) : runAlone op m =
    ⟨(op.run service .default ⟨0, m.system⟩).value, (op.run service .default ⟨0, m.system⟩).trace,
      { m with system := (op.run service .default ⟨0, m.system⟩).state.system }⟩ := rfl

/-- An exported call does what its operation does on a service of its own. -/
theorem exported_eq {call : Native.Call} {op : Operation} (h : call.operation = .ok op) (m : Machine) :
    exported call m = ⟨call.reply ((runAlone op m).value.mapError StepError.code),
      (runAlone op m).trace, (runAlone op m).state⟩ := by
  rw [exported, alone, Native.Call.run_eq, h]
  rfl

/-- The calls of an exported call that can fail, each with the outcome that fell to it. -/
def exportAsked (call : Native.Call) (m : Machine) : List (Call × Outcome) :=
  m.answers (calls (exported call m).trace)

/-- What setting the limit of `v` comes to. -/
structure SetsExactly (v : String) (call : Native.Call) (limit : UInt64) (m : Machine) : Prop where
  /-- The first code of a failure is the status, bit for bit. -/
  failed : ∀ c k, firstFailure (exportAsked call m) = some (c, k) →
    (exported call m).value = .status k.code.toInt32 ∧ k.code.toInt32 < 0
  /-- Where nothing fails and no object is missing, the limit is set and committed. -/
  succeeded : firstFailure (exportAsked call m) = none → (∀ x ∈ exportAsked call m, ¬NoObject x) →
    (exported call m).value = .status 0 ∧ ∃ manager session record,
      calls (exported call m).trace = acquisition .default manager ++
        (quoted v (.createQuota session v) ++
          [.setQuotaLimit record ⟨21, limit⟩, .commit record, .releaseRecord record] ++
          [.releaseSession session, .closeCom])

/-- What reading the use of `v` into a slot that holds `n` comes to. -/
structure ReadsExactly (v : String) (call : Native.Call) (n : UInt64) (m : Machine) : Prop where
  /-- The first code of a failure is the status, and the slot stays, -/
  failed : ∀ c k, firstFailure (exportAsked call m) = some (c, k) →
    ¬(c.gets = true ∧ k = ⟨0x80045301⟩) →
    (exported call m).value = .statusAndSlot k.code.toInt32 (some n) ∧ k.code.toInt32 < 0
  /-- unless it says that there is no quota. -/
  missing : ∀ c, firstFailure (exportAsked call m) = some (c, ⟨0x80045301⟩) → c.gets = true →
    (exported call m).value = .statusAndSlot 0 (some 0)
  /-- Where nothing fails and no object is missing, the slot has the bits that were read. -/
  succeeded : firstFailure (exportAsked call m) = none → (∀ x ∈ exportAsked call m, ¬NoObject x) →
    ∃ manager session record o, (.quotaUsed record, o) ∈ exportAsked call m ∧
      (exported call m).value = .statusAndSlot 0 (some o.variant.bits) ∧
      calls (exported call m).trace = acquisition .default manager ++
        (quoted v (.getQuota session v) ++
          [.quotaUsed record, .variantClear o.variant.tag, .releaseRecord record] ++
          [.releaseSession session, .closeCom])

section

variable {v : String} {us : List UInt16} (hus : encode v.toList = beforeZero us) (m : Machine)

include hus

theorem setsExactly (limit : UInt64) : SetsExactly v (.setQuota (some us) limit) limit m := by
  have hop : Native.Call.operation (.setQuota (some us) limit) = .ok (.setQuota v limit) := by
    rw [Native.Call.operation, Native.readWide_eq_ok_iff.2 hus]
    rfl
  have hasked : exportAsked (.setQuota (some us) limit) m =
      asked .default (.setQuota v limit) ⟨0, m.system⟩ := by
    rw [exportAsked, exported_eq hop]
    rfl
  constructor
  · intro c k h
    rw [hasked] at h
    obtain ⟨hmem, hk⟩ := firstFailure_eq_some h
    -- a write does not look for a record
    have hmissing : c.gets = true → k ≠ .notFound := by
      rintro hc rfl
      obtain ⟨a, ha, -⟩ := run_of_notFound hc hmem
      cases ha
    obtain ⟨e, hvalue, rfl⟩ := run_of_firstFailure h hmissing
    rw [exported_eq hop, runAlone_eq, hvalue]
    exact ⟨rfl, (isFailure_iff e.code).1 hk⟩
  · intro h hobjects
    rw [hasked] at h hobjects
    obtain ⟨a, hvalue⟩ := run_ok_of_no_failure known_default h hobjects
    obtain ⟨manager, session, record, hcalls⟩ := set_of_ok hvalue
    rw [exported_eq hop, runAlone_eq, hvalue, hcalls]
    exact ⟨rfl, manager, session, record, rfl⟩

theorem readsExactly (n : UInt64) : ReadsExactly v (.getQuotaUsed (some us) (some n)) n m := by
  have hop : Native.Call.operation (.getQuotaUsed (some us) (some n)) = .ok (.getQuotaUsed v) := by
    rw [Native.Call.operation, Native.readWide_eq_ok_iff.2 hus]
    rfl
  have hasked : exportAsked (.getQuotaUsed (some us) (some n)) m =
      asked .default (.getQuotaUsed v) ⟨0, m.system⟩ := by
    rw [exportAsked, exported_eq hop]
    rfl
  constructor
  · intro c k h hne
    rw [hasked] at h
    have hmissing : c.gets = true → k ≠ .notFound := fun hc hk => hne ⟨hc, hk⟩
    obtain ⟨e, hvalue, rfl⟩ := run_of_firstFailure h hmissing
    rw [exported_eq hop, runAlone_eq, hvalue]
    exact ⟨rfl, (isFailure_iff e.code).1 (firstFailure_eq_some h).2⟩
  · intro c h hc
    rw [hasked] at h
    obtain ⟨a, ha, hvalue⟩ := run_of_notFound hc (firstFailure_eq_some h).1
    cases ha
    rw [exported_eq hop, runAlone_eq, hvalue]
    rfl
  · intro h hobjects
    rw [hasked] at h hobjects ⊢
    obtain ⟨a, hvalue⟩ := run_ok_of_no_failure known_default h hobjects
    obtain ⟨manager, session, record, o, hread, rfl, hcalls⟩ := get_of_ok hvalue h
    rw [exported_eq hop, runAlone_eq, hvalue, hcalls]
    exact ⟨manager, session, record, o, hread, rfl, rfl⟩

end

/-- **The exports return the status of the operating system bit for bit.** At an address with a text that
is well formed, and whatever the outcomes: the first call that failed gives the status, the one
code for "no quota" of looking for a record excepted. Codes of success play no part, not even
those that are not zero. Where nothing fails, the limit was committed as an unsigned number of 64 bits,
and the slot holds the 64 bits that were read. -/
theorem exports_exact {us : List UInt16} (hus : Paired (beforeZero us)) (rest : List UInt16)
    (limit n : UInt64) (m : Machine) :
    ∃ v : String, encode v.toList = beforeZero us ∧
      SetsExactly v (.setQuota (some (us ++ 0 :: rest)) limit) limit m ∧
      ReadsExactly v (.getQuotaUsed (some (us ++ 0 :: rest)) (some n)) n m := by
  obtain ⟨v, hv⟩ := Native.exists_readWide_iff.2 hus
  have hencode := Native.readWide_eq_ok_iff.1 hv
  have haddress : encode v.toList = beforeZero (us ++ 0 :: rest) := by
    rw [hencode, Native.beforeZero_append]
  exact ⟨v, hencode, setsExactly haddress m limit, readsExactly haddress m n⟩

/-- Codes of success that are not zero, and a session that is not had. -/
theorem exports_exact_drive : Paired (beforeZero [68, 58]) ∧
    (exported (.setQuota (some [68, 58, 0, 65]) 5)
      (.initial [.code ⟨1⟩, .success, .code ⟨1⟩, .success, .code ⟨0x40001⟩])).value = .status 0 ∧
    (exported (.getQuotaUsed (some [68, 58, 0, 65]) (some 7))
      (.initial [.code ⟨1⟩, .success, .success, .code .accessDenied])).value =
        .statusAndSlot (-2147024891) (some 7) := by
  have hus : Paired (beforeZero [68, 58]) := Native.exists_readWide_iff.1 ⟨"D:", by decide⟩
  obtain ⟨v, -, hset, -⟩ := exports_exact hus [65] 5 7
    (.initial [.code ⟨1⟩, .success, .code ⟨1⟩, .success, .code ⟨0x40001⟩])
  obtain ⟨w, -, -, hget⟩ := exports_exact hus [65] 5 7
    (.initial [.code ⟨1⟩, .success, .success, .code .accessDenied])
  refine ⟨hus, (hset.succeeded (by decide) ?_).1, (hget.failed _ .accessDenied (by rfl) ?_).1⟩
  · unfold NoObject
    decide
  · decide

end DiskQuota.Fsrm
