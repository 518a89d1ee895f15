import DiskQuota.Proofs.Fsrm.Course

/-!
Native values and their care. A volume goes to the operating system as a string that exists around one
call alone, a limit as a tagged number of 64 bits, and what is read comes back tagged and is cleared
once its bits are taken. The trace of an operation is made of phrases that keep to this (`Phrased`), so
whatever stands in a trace stands in a phrase, and its neighbours are known (`values_scoped`).
-/
namespace DiskQuota.Fsrm

/-- The volume of a call that takes one, as a string. -/
def Call.volume? : Call → Option String
  | .createQuota _ volume | .getQuota _ volume => some volume
  | _ => none

/-- Whether a call reads a tagged value. -/
def Call.reads : Call → Bool
  | .quotaLimit _ | .quotaUsed _ => true
  | _ => false

/-- Whether a call has to do with neither strings nor tagged values. -/
def Call.plain : Call → Bool
  | .iidFromString _ | .openCom _ | .closeCom | .coCreateInstance .. | .commit _ | .releaseRecord _
  | .releaseSession _ => true
  | .sysAllocString _ | .sysFreeString | .createQuota .. | .getQuota .. | .setQuotaLimit ..
  | .quotaLimit _ | .quotaUsed _ | .variantClear _ => false

section

variable {c : Call}

theorem volume?_of_reads (h : c.reads = true) : c.volume? = none := by
  cases c <;> first | rfl | cases h

theorem volume?_of_plain (h : c.plain = true) : c.volume? = none := by
  cases c <;> first | rfl | cases h

theorem plain_of_onTheWay (h : c.onTheWay = true) : c.plain = true := by
  cases c <;> first | rfl | cases h

theorem reads_of_plain (h : c.plain = true) : c.reads = false := by
  cases c <;> first | rfl | cases h

end

/-- A call together with its care. -/
inductive Phrase (op : Operation) (m : Machine) : List Call → Prop where
  | volume {c : Call} (hc : c.volume? = some op.volume) : Phrase op m (quoted op.volume c)
  | read {c : Call} (hc : c.reads = true) : Phrase op m (readAs (m.outcome 0) c)
  | limit {volume : String} {limit : UInt64} (hop : op = .setQuota volume limit) (record : Nat) :
      Phrase op m [.setQuotaLimit record (.ofUnsigned limit)]
  | plain {c : Call} (hc : c.plain = true) : Phrase op m [c]

/-- A trace of phrases, one after the other. -/
inductive Phrased (op : Operation) : Machine → List Call → Prop where
  | nil (m : Machine) : Phrased op m []
  | cons {m : Machine} {u t : List Call} (hu : Phrase op m u) (ht : Phrased op (m.after u) t) :
      Phrased op m (u ++ t)

section

variable {op : Operation} {m : Machine} {t u : List Call}

theorem Phrase.phrased (h : Phrase op m t) : Phrased op m t := by
  have hphrased := Phrased.cons h (.nil _)
  rwa [List.append_nil] at hphrased

theorem Phrased.append (h : Phrased op m t) (h' : Phrased op (m.after t) u) :
    Phrased op m (t ++ u) := by
  induction h with
  | nil m => rwa [m.after_nil] at h'
  | cons hu ht ih =>
    rw [Machine.after_append] at h'
    rw [List.append_assoc]
    exact .cons hu (ih h')

theorem Phrased.of_plain (h : ∀ c ∈ t, c.plain = true) : Phrased op m t := by
  induction t generalizing m with
  | nil => exact .nil m
  | cons c t ih =>
    exact .cons (.plain (h c List.mem_cons_self)) (ih fun d hd => h d (List.mem_cons_of_mem c hd))

/-- A call stands in a phrase. -/
theorem Phrased.phrase {p q : List Call} {c : Call} (h : Phrased op m t) (ht : t = p ++ c :: q) :
    ∃ a p' q' b, p = a ++ p' ∧ q = q' ++ b ∧ Phrase op (m.after a) (p' ++ c :: q') := by
  induction h generalizing p with
  | nil m => simp at ht
  | @cons m u t hu _ ih =>
    have hlater : ∀ {p'}, t = p' ++ c :: q → ∃ a p'' q' b, u ++ p' = a ++ p'' ∧ q = q' ++ b ∧
        Phrase op (m.after a) (p'' ++ c :: q') := by
      intro p' hrest
      obtain ⟨a, p'', q', b, rfl, hq, hphrase⟩ := ih hrest
      rw [← Machine.after_append] at hphrase
      exact ⟨u ++ a, p'', q', b, (List.append_assoc u a p'').symm, hq, hphrase⟩
    rcases List.append_eq_append_iff.1 ht with ⟨p', rfl, hrest⟩ | ⟨r, rfl, hr⟩
    · exact hlater hrest
    · cases r with
      | nil => simpa using @hlater [] hr.symm
      | cons d r =>
        obtain ⟨rfl, rfl⟩ := List.cons.inj hr
        rw [← m.after_nil] at hu
        exact ⟨[], p, r, t, rfl, rfl, hu⟩

end

/-! The courses of an operation, phrase by phrase. -/

section

variable {settings : Settings} {op : Operation} {m : Machine} {session record : Nat}
  {v : Except StepError Answer} {t : List Call}

theorem Consults.phrased (h : Consults record m op v t) : Phrased op m t := by
  cases h with
  | bytes | usage | noLimit => exact (Phrase.read rfl).phrased
  | snapshot =>
    refine (Phrase.read rfl).phrased.append ?_
    have hnext := outcome_after_readAs m (m.outcome 0) (c := .quotaLimit record) rfl 0
    rw [Nat.add_zero] at hnext
    rw [← hnext]
    exact (Phrase.read rfl).phrased

theorem Works.phrased (h : Works session m op v t) : Phrased op m t := by
  cases h with
  | notCreated | refused | missing => exact (Phrase.volume rfl).phrased
  | @notSet volume limit record k =>
    refine .append (Phrase.volume rfl).phrased (.cons (u := [_]) (.limit rfl record) ?_)
    exact .of_plain (by simp [Call.plain])
  | @set volume limit record =>
    refine .append (Phrase.volume rfl).phrased (.cons (u := [_]) (.limit rfl record) ?_)
    exact .of_plain (by simp [Call.plain])
  | found hrecord hconsults =>
    refine .append (Phrase.volume rfl).phrased (hconsults.phrased.append ?_)
    exact .of_plain (by simp [Call.plain])

theorem Phrased.of_onTheWay (h : ∀ c ∈ t, c.onTheWay = true) : Phrased op m t :=
  .of_plain fun c hc => plain_of_onTheWay (h c hc)

theorem Course.phrased (h : Course settings op m v t) : Phrased op m t := by
  cases h with
  | unacquired hacquires =>
    exact .append (.of_onTheWay hacquires.onTheWay) (.of_onTheWay (closing_onTheWay _))
  | acquired hacquires hworks =>
    refine .append (.of_onTheWay hacquires.onTheWay) (hworks.phrased.append ?_)
    exact .of_onTheWay (List.forall_mem_cons.2 ⟨rfl, closing_onTheWay _⟩)

end

/-! The places of a phrase. -/

/-- Where a call can stand in a phrase, with what stands before it and after it there. -/
inductive Place (op : Operation) (m : Machine) : List Call → Call → List Call → Prop where
  | bare {c : Call} (hvolume : op.volume = "") (hc : c.volume? = some op.volume) : Place op m [] c []
  | alloc {c : Call} (hvolume : op.volume ≠ "") (hc : c.volume? = some op.volume) :
      Place op m [] (.sysAllocString op.volume) [c, .sysFreeString]
  | volume {c : Call} (hvolume : op.volume ≠ "") (hc : c.volume? = some op.volume) :
      Place op m [.sysAllocString op.volume] c [.sysFreeString]
  | free {c : Call} (hvolume : op.volume ≠ "") (hc : c.volume? = some op.volume) :
      Place op m [.sysAllocString op.volume, c] .sysFreeString []
  | unread {c : Call} {k : Status} (h : (m.outcome 0).failure? = some k) (hc : c.reads = true) :
      Place op m [] c []
  | read {c : Call} (h : (m.outcome 0).failure? = none) (hc : c.reads = true) :
      Place op m [] c [.variantClear (m.outcome 0).variant.tag]
  | clear {c : Call} (h : (m.outcome 0).failure? = none) (hc : c.reads = true) :
      Place op m [c] (.variantClear (m.outcome 0).variant.tag) []
  | limit {volume : String} {limit : UInt64} (hop : op = .setQuota volume limit) (record : Nat) :
      Place op m [] (.setQuotaLimit record (.ofUnsigned limit)) []
  | plain {c : Call} (hc : c.plain = true) : Place op m [] c []

section

variable {α : Type} {a b c x : α} {p q : List α}

theorem split_one (h : [a] = p ++ x :: q) : p = [] ∧ x = a ∧ q = [] := by
  rcases p with _ | ⟨d, p⟩
  · cases h
    exact ⟨rfl, rfl, rfl⟩
  · simp at h

theorem split_two (h : [a, b] = p ++ x :: q) :
    p = [] ∧ x = a ∧ q = [b] ∨ p = [a] ∧ x = b ∧ q = [] := by
  rcases p with _ | ⟨d, p⟩
  · cases h
    exact .inl ⟨rfl, rfl, rfl⟩
  · obtain ⟨rfl, hrest⟩ := List.cons.inj h
    obtain ⟨rfl, rfl, rfl⟩ := split_one hrest
    exact .inr ⟨rfl, rfl, rfl⟩

theorem split_three (h : [a, b, c] = p ++ x :: q) : p = [] ∧ x = a ∧ q = [b, c] ∨
    p = [a] ∧ x = b ∧ q = [c] ∨ p = [a, b] ∧ x = c ∧ q = [] := by
  rcases p with _ | ⟨d, p⟩
  · cases h
    exact .inl ⟨rfl, rfl, rfl⟩
  · obtain ⟨rfl, hrest⟩ := List.cons.inj h
    rcases split_two hrest with ⟨rfl, rfl, rfl⟩ | ⟨rfl, rfl, rfl⟩
    · exact .inr (.inl ⟨rfl, rfl, rfl⟩)
    · exact .inr (.inr ⟨rfl, rfl, rfl⟩)

end

section

variable {op : Operation} {m : Machine} {p q t : List Call} {c : Call}

theorem Phrase.place (h : Phrase op m t) (ht : t = p ++ c :: q) : Place op m p c q := by
  cases h with
  | @volume d hd =>
    rw [quoted] at ht
    split at ht
    · next hempty =>
      obtain ⟨rfl, rfl, rfl⟩ := split_one ht
      exact .bare (String.isEmpty_iff.1 hempty) hd
    · next hempty =>
      have hvolume : op.volume ≠ "" := fun h => hempty (String.isEmpty_iff.2 h)
      rcases split_three ht with ⟨rfl, rfl, rfl⟩ | ⟨rfl, rfl, rfl⟩ | ⟨rfl, rfl, rfl⟩
      · exact .alloc hvolume hd
      · exact .volume hvolume hd
      · exact .free hvolume hd
  | @read d hd =>
    rw [readAs] at ht
    split at ht
    · next k hfails =>
      obtain ⟨rfl, rfl, rfl⟩ := split_one ht
      exact .unread hfails hd
    · next hread =>
      rcases split_two ht with ⟨rfl, rfl, rfl⟩ | ⟨rfl, rfl, rfl⟩
      · exact .read hread hd
      · exact .clear hread hd
  | limit hop record =>
    obtain ⟨rfl, rfl, rfl⟩ := split_one ht
    exact .limit hop record
  | plain hd =>
    obtain ⟨rfl, rfl, rfl⟩ := split_one ht
    exact .plain hd

/-- What a call finds around it is what its place in a phrase says. -/
theorem Phrased.place (h : Phrased op m t) (ht : t = p ++ c :: q) :
    ∃ a p' q' b, p = a ++ p' ∧ q = q' ++ b ∧ Place op (m.after a) p' c q' := by
  obtain ⟨a, p', q', b, hp, hq, hphrase⟩ := h.phrase ht
  exact ⟨a, p', q', b, hp, hq, hphrase.place rfl⟩

end

/-- How a trace treats the volume, the limit and the values read of an operation from `m`. -/
structure Scoped (op : Operation) (m : Machine) (t : List Call) : Prop where
  /-- A volume is that of the operation, whole. -/
  whole : ∀ c ∈ t, ∀ volume, c.volume? = some volume → volume = op.volume
  /-- A call that takes it stands between the making of the string and its end. The empty text needs
  no string. -/
  volume : ∀ p c q, t = p ++ c :: q → c.volume?.isSome → op.volume ≠ "" →
    ∃ p' q', p = p' ++ [.sysAllocString op.volume] ∧ q = .sysFreeString :: q'
  /-- No other string is made -/
  alloc : ∀ p text q, t = p ++ .sysAllocString text :: q → op.volume ≠ "" ∧ text = op.volume ∧
    ∃ c q', q = c :: .sysFreeString :: q' ∧ c.volume? = some op.volume
  /-- or ended. -/
  free : ∀ p q, t = p ++ .sysFreeString :: q → op.volume ≠ "" ∧
    ∃ c p', p = p' ++ [.sysAllocString op.volume, c] ∧ c.volume? = some op.volume
  /-- A limit is that of the operation, as an unsigned number of 64 bits. -/
  limit : ∀ record v, .setQuotaLimit record v ∈ t →
    ∃ volume limit, op = .setQuota volume limit ∧ v = ⟨21, limit⟩
  /-- What is read is cleared at once, under its tag; -/
  read : ∀ p c q, t = p ++ c :: q → c.reads = true →
    (m.outcome (p.countP Call.asks)).failure? = none →
    ∃ q', q = .variantClear (m.outcome (p.countP Call.asks)).variant.tag :: q'
  /-- what could not be read is not cleared, -/
  unread : ∀ p c q, t = p ++ c :: q → c.reads = true →
    (m.outcome (p.countP Call.asks)).failure? ≠ none → ∀ tag q', q ≠ .variantClear tag :: q'
  /-- and nothing else is. -/
  clear : ∀ p tag q, t = p ++ .variantClear tag :: q → ∃ c p', p = p' ++ [c] ∧ c.reads = true ∧
    (m.outcome (p'.countP Call.asks)).failure? = none ∧
    tag = (m.outcome (p'.countP Call.asks)).variant.tag

theorem Phrased.clear {op : Operation} {m : Machine} {t p q : List Call} {tag : UInt16}
    (h : Phrased op m t) (ht : t = p ++ .variantClear tag :: q) : ∃ c p', p = p' ++ [c] ∧
      c.reads = true ∧ (m.outcome (p'.countP Call.asks)).failure? = none ∧
      tag = (m.outcome (p'.countP Call.asks)).variant.tag := by
  obtain ⟨a, p', q', b, rfl, -, hplace⟩ := h.place ht
  cases hplace with
  | @clear c hread hc =>
    rw [Machine.outcome_after, Nat.add_zero] at hread ⊢
    exact ⟨c, a, rfl, hc, hread, rfl⟩
  | bare _ hc | volume _ hc | unread _ hc | read _ hc | plain hc => cases hc

theorem Phrased.scoped {op : Operation} {m : Machine} {t : List Call} (h : Phrased op m t) :
    Scoped op m t where
  whole c hmem volume hvolume := by
    obtain ⟨p, q, ht⟩ := List.append_of_mem hmem
    obtain ⟨a, p', q', b, -, -, hplace⟩ := h.place ht
    cases hplace with
    | bare _ hc | volume _ hc =>
      rw [hc] at hvolume
      exact (Option.some.inj hvolume).symm
    | alloc | free | clear | limit => cases hvolume
    | unread _ hc | read _ hc =>
      rw [volume?_of_reads hc] at hvolume
      cases hvolume
    | plain hc =>
      rw [volume?_of_plain hc] at hvolume
      cases hvolume
  volume p c q ht hc hvolume := by
    obtain ⟨a, p', q', b, rfl, rfl, hplace⟩ := h.place ht
    cases hplace with
    | bare hempty => exact absurd hempty hvolume
    | volume _ _ => exact ⟨a, b, rfl, rfl⟩
    | alloc | free | clear | limit => cases hc
    | unread _ hreads | read _ hreads =>
      rw [volume?_of_reads hreads] at hc
      cases hc
    | plain hplain =>
      rw [volume?_of_plain hplain] at hc
      cases hc
  alloc p text q ht := by
    obtain ⟨a, p', q', b, -, rfl, hplace⟩ := h.place ht
    cases hplace with
    | alloc hvolume hc => exact ⟨hvolume, rfl, _, b, rfl, hc⟩
    | bare _ hc | volume _ hc | unread _ hc | read _ hc | plain hc => cases hc
  free p q ht := by
    obtain ⟨a, p', q', b, rfl, -, hplace⟩ := h.place ht
    cases hplace with
    | free hvolume hc => exact ⟨hvolume, _, a, rfl, hc⟩
    | bare _ hc | volume _ hc | unread _ hc | read _ hc | plain hc => cases hc
  limit record v hmem := by
    obtain ⟨p, q, ht⟩ := List.append_of_mem hmem
    obtain ⟨a, p', q', b, -, -, hplace⟩ := h.place ht
    cases hplace with
    | limit hop => exact ⟨_, _, hop, rfl⟩
    | bare _ hc | volume _ hc | unread _ hc | read _ hc | plain hc => cases hc
  read p c q ht hc hread := by
    obtain ⟨a, p', q', b, rfl, rfl, hplace⟩ := h.place ht
    rw [List.countP_append, ← Machine.outcome_after] at hread ⊢
    cases hplace with
    | read => exact ⟨b, rfl⟩
    | unread hfails => cases hread.symm.trans hfails
    | alloc | free | clear | limit => cases hc
    | bare _ hvolume | volume _ hvolume =>
      rw [volume?_of_reads hc] at hvolume
      cases hvolume
    | plain hplain =>
      rw [reads_of_plain hplain] at hc
      cases hc
  unread p c q ht hc hfails tag q' hq := by
    have hsplit : t = (p ++ [c]) ++ .variantClear tag :: q' := by simp [ht, hq]
    obtain ⟨d, p', hp, -, hread, -⟩ := h.clear hsplit
    rw [(List.append_inj_left' hp rfl)] at hfails
    exact hfails hread
  clear p tag q ht := h.clear ht

/-! The values that are returned. -/

/-- The use that an answer tells. -/
def used? : Answer → Option UInt64
  | .bytes n | .usage (.used n) => some n
  | .snapshot (some s) => some s.used
  | _ => none

/-- The limit that an answer tells. -/
def limit? : Answer → Option UInt64
  | .snapshot (some s) => some s.limit
  | _ => none

/-- A value that was read is returned: its 64 bits, whatever its tag. -/
structure Returned (settings : Settings) (op : Operation) (m : Machine) : Prop where
  used : ∀ record o, (.quotaUsed record, o) ∈ asked settings op m → o.failure? = none →
    ∃ a, (op.run service settings m).value = .ok a ∧ used? a = some o.variant.bits
  limit : ∀ record o, (.quotaLimit record, o) ∈ asked settings op m → o.failure? = none →
    ∀ a, (op.run service settings m).value = .ok a → limit? a = some o.variant.bits

section

variable {settings : Settings} {op : Operation} {m : Machine} {session record : Nat}
  {v : Except StepError Answer} {t : List Call} {c : Call} {o : Outcome}

/-- What is read is read from a record that was found. -/
theorem Works.consults_of_mem (h : Works session m op v t) (hmem : (c, o) ∈ m.answers t)
    (hc : c.reads = true) :
    ∃ record m' u, Consults record m' op v u ∧ (c, o) ∈ m'.answers u := by
  have hquoted : ∀ {text : String} {d : Call}, d.reads = false → ∀ e ∈ quoted text d, e.reads = false :=
    fun hd => forall_mem_quoted rfl hd rfl
  have hnot : ∀ {m : Machine} {t : List Call}, (∀ d ∈ t, d.reads = false) → (c, o) ∉ m.answers t :=
    fun ht => not_mem_answers hc ht _ o
  cases h with
  | notCreated | refused | missing => exact absurd hmem (hnot (hquoted rfl))
  | notSet | set =>
    exact absurd hmem (hnot (List.forall_mem_append.2 ⟨hquoted rfl, by simp [Call.reads]⟩))
  | @found op record v t hrecord hconsults =>
    rw [Machine.answers_append, Machine.answers_append, List.mem_append, List.mem_append] at hmem
    rcases hmem with hmem | hmem | hmem
    · exact absurd hmem (hnot (hquoted rfl))
    · exact ⟨record, _, t, hconsults, hmem⟩
    · exact absurd hmem (hnot (by simp [Call.reads]))

theorem ok_of_settle {α : Type} (h : o.failure? = none) (a : α) (p : Step) :
    (o.settle a).mapError (StepError.ofStep p) = .ok a := by
  rw [settle_of_none h]
  rfl

theorem Consults.used (h : Consults record m op v t) {r : Nat} (hmem : (.quotaUsed r, o) ∈ m.answers t)
    (hread : o.failure? = none) : ∃ a, v = .ok a ∧ used? a = some o.variant.bits := by
  cases h with
  | bytes | usage =>
    rw [answers_readAs m _ rfl, List.mem_singleton] at hmem
    cases hmem
    exact ⟨_, ok_of_settle hread _ _, rfl⟩
  | noLimit =>
    rw [answers_readAs m _ rfl, List.mem_singleton] at hmem
    cases hmem
  | snapshot =>
    rw [Machine.answers_append, answers_readAs m _ rfl, answers_readAs _ _ rfl,
      outcome_after_readAs m _ rfl] at hmem
    simp only [List.cons_append, List.nil_append, List.mem_cons, List.not_mem_nil, or_false] at hmem
    rcases hmem with hmem | hmem
    · cases hmem
    · cases hmem
      exact ⟨_, ok_of_settle hread _ _, rfl⟩

theorem Consults.limit (h : Consults record m op v t) {r : Nat} (hmem : (.quotaLimit r, o) ∈ m.answers t)
    {a : Answer} (hv : v = .ok a) : limit? a = some o.variant.bits := by
  cases h with
  | bytes | usage =>
    rw [answers_readAs m _ rfl, List.mem_singleton] at hmem
    cases hmem
  | noLimit => cases hv
  | snapshot =>
    rw [Machine.answers_append, answers_readAs m _ rfl, answers_readAs _ _ rfl] at hmem
    simp only [List.cons_append, List.nil_append, List.mem_cons, List.not_mem_nil, or_false] at hmem
    rcases hmem with hmem | hmem
    · cases hmem
      cases hsettle : (m.outcome 1).failure? with
      | none =>
        rw [ok_of_settle hsettle] at hv
        cases hv
        rfl
      | some k =>
        rw [settle_of_failure hsettle] at hv
        cases hv
    · cases hmem

theorem returned (settings : Settings) (op : Operation) (m : Machine) : Returned settings op m := by
  obtain ⟨v, t, hruns, hcourse⟩ := run_course settings op m
  constructor
  · intro record o hmem hread
    rw [hruns.asked] at hmem
    rw [hruns.value]
    obtain ⟨session, m', u, hworks, hmem⟩ := hcourse.work_of_mem hmem rfl
    obtain ⟨found, m'', w, hconsults, hmem⟩ := hworks.consults_of_mem hmem rfl
    exact hconsults.used hmem hread
  · intro record o hmem hread a hv
    rw [hruns.asked] at hmem
    rw [hruns.value] at hv
    obtain ⟨session, m', u, hworks, hmem⟩ := hcourse.work_of_mem hmem rfl
    obtain ⟨found, m'', w, hconsults, hmem⟩ := hworks.consults_of_mem hmem rfl
    exact hconsults.limit hmem hv

end

/-! How clearing turns out. -/

/-- The machine on a system where clearing turns out so. -/
def Machine.clears (m : Machine) (k : Status) : Machine :=
  { m with system := { m.system with clearing := k } }

/-- A task that goes on in the same way however clearing turns out. -/
def Blind {ε α : Type} (x : Machine → Ran Machine ε α) : Prop :=
  ∀ m k, x (m.clears k) = ⟨(x m).value, (x m).trace, (x m).state.clears k⟩

namespace Blind

variable {ε φ α β : Type}

protected theorem pure (a : α) : Blind (pure a : Task Machine ε φ α) := fun _ _ => rfl

protected theorem note (event : Event) :
    Blind (note event : Task Machine (Entry Call) StepError Unit) := fun _ _ => rfl

protected theorem bind {x : Task Machine ε φ α} {f : α → Task Machine ε φ β} (hx : Blind x)
    (hf : ∀ a, Blind (f a)) : Blind (x >>= f) := by
  intro m k
  have hrun := hx m k
  cases hv : (x m).value with
  | error e =>
    have herror : (x (m.clears k)).value = .error e := by rw [hrun, hv]
    rw [Task.bind_apply_error herror, Task.bind_apply_error hv, hrun]
  | ok a =>
    have hok : (x (m.clears k)).value = .ok a := by rw [hrun, hv]
    rw [Task.bind_apply_ok hok, Task.bind_apply_ok hv, hrun, hf a]

protected theorem ensuring {x : Task Machine ε φ α} {cleanup : Machine → Ran Machine ε Unit}
    (hx : Blind x) (hcleanup : Blind cleanup) : Blind (x.ensuring cleanup) := by
  intro m k
  rw [Task.ensuring, Task.ensuring, hx m k, hcleanup]

protected theorem announced {release : Machine → Ran Machine Call Unit} (h : Blind release)
    (event : Event) : Blind (announced event release) := by
  intro m k
  rw [announced, announced, h m k]

protected theorem attempt {call : Task Machine Call Status α} (h : Blind call) (p : Step) :
    Blind (attempt p call) := by
  intro m k
  rw [attempt, attempt, h m k]
  generalize call m = r
  obtain ⟨e | a, t, s⟩ := r <;> rfl

protected theorem inSpan {x : Task Machine (Entry Call) StepError α} (span : Span) (hx : Blind x) :
    Blind (inSpan span x) := by
  intro m k
  rw [inSpan, inSpan, hx m k]

/-- A call that is told by what the machine has next. -/
theorem of_ran {x : Machine → Ran Machine Call α} {v : Machine → α} {t : Machine → List Call}
    (h : ∀ m, x m = m.ran (v m) (t m)) (hv : ∀ m k, v (m.clears k) = v m)
    (ht : ∀ m k, t (m.clears k) = t m) : Blind x := by
  intro m k
  rw [h, h, hv, ht]
  rfl

end Blind

theorem instantiate_blind (manager interface : Guid) (context : ServerContext) :
    Blind (service.instantiate manager interface context) := by
  by_cases h : interface = managerInterface
  · subst h
    exact .of_ran (instantiate_apply · manager context) (fun _ _ => rfl) fun _ _ => rfl
  · exact .of_ran (instantiate_of_ne · h manager context) (fun _ _ => rfl) fun _ _ => rfl

theorem service_blind : service.Closed fun x => Blind x where
  pure := .pure
  note := .note
  bind := .bind
  inSpan := .inSpan
  resolve p text :=
    (Blind.of_ran (resolve_apply · text) (fun _ _ => rfl) fun _ _ => rfl).attempt p
  openContext p threading :=
    (Blind.of_ran (openContext_apply · threading) (fun _ _ => rfl) fun _ _ => rfl).attempt p
  instantiate p manager interface context := (instantiate_blind manager interface context).attempt p
  create p session volume :=
    (Blind.of_ran (create_apply · session volume) (fun _ _ => rfl) fun _ _ => rfl).attempt p
  get p session volume :=
    (Blind.of_ran (get_apply · session volume) (fun _ _ => rfl) fun _ _ => rfl).attempt p
  setLimit p record limit :=
    (Blind.of_ran (setLimit_apply · record limit) (fun _ _ => rfl) fun _ _ => rfl).attempt p
  limit p record := (Blind.of_ran (limit_apply · record) (fun _ _ => rfl) fun _ _ => rfl).attempt p
  used p record := (Blind.of_ran (used_apply · record) (fun _ _ => rfl) fun _ _ => rfl).attempt p
  commit p record := (Blind.of_ran (commit_apply · record) (fun _ _ => rfl) fun _ _ => rfl).attempt p
  withRecord record hx := hx.ensuring
    ((Blind.of_ran (releaseRecord_apply · record) (fun _ _ => rfl) fun _ _ => rfl).announced _)
  withSession session hx := hx.ensuring
    ((Blind.of_ran (releaseSession_apply · session) (fun _ _ => rfl) fun _ _ => rfl).announced _)
  withContext hx := hx.ensuring
    ((Blind.of_ran closeContext_apply (fun _ _ => rfl) fun _ _ => rfl).announced _)

/-- **Native values are scoped and typed exactly**, whatever the settings, the state and the outcomes. The
volume goes whole to the calls that take it, each between the making and the end of a string of its
own; the limit goes as an unsigned number of 64 bits; a value that is read is cleared at once under its
tag, and nothing else is. The bits that were read are returned, whatever the tag and however clearing
turns out. -/
theorem values_scoped (settings : Settings) (op : Operation) (m : Machine) :
    Scoped op m (calls (op.run service settings m).trace) ∧ Returned settings op m ∧
      ∀ k, (op.run service settings (m.clears k)).value = (op.run service settings m).value ∧
        (op.run service settings (m.clears k)).trace = (op.run service settings m).trace := by
  obtain ⟨v, t, hruns, hcourse⟩ := run_course settings op m
  refine ⟨?_, returned settings op m, fun k => ?_⟩
  · rw [hruns.calls]
    exact hcourse.phrased.scoped
  · rw [service_blind.run settings op m k]
    exact ⟨rfl, rfl⟩

/-- A volume with a zero in it, and a value with the tag of a text. -/
example : (calls ((Operation.getQuotaUsed "D\x00x").run service .default
    (.initial [.success, .success, .success, .success, .success, .value ⟨8, 7⟩])).trace).drop 4 =
      [.sysAllocString "D\x00x", .getQuota 1 "D\x00x", .sysFreeString, .quotaUsed 1, .variantClear 8,
        .releaseRecord 1, .releaseSession 1, .closeCom] := by decide

end DiskQuota.Fsrm
