import DiskQuota.Proofs.Fsrm.Contexts
import DiskQuota.Proofs.Fsrm.Refinement
import DiskQuota.Proofs.Scripted.Cleanup

/-!
What an operation does to the contexts that were open before it. The service counts its contexts and does
not know who opened them, and an operation that never got to its own asks to close one all the same. So
an operation is neutral exactly if it opened its context or there was none to close
(`neutral_iff`); otherwise it closes one that somebody else opened.
-/
namespace DiskQuota.Fsrm

/-- An operation closes a context exactly if it opened one, and leaves as many open as there were. -/
structure Neutral (settings : Settings) (op : Operation) (m : Machine) : Prop where
  closes_iff : .closeCom ∈ calls (op.run service settings m).trace ↔
    0 < tally Call.opens m.store (calls (op.run service settings m).trace)
  contexts : (op.run service settings m).state.contexts = m.contexts

/-- Each closing of a context stands for one by the double, if there is a context. -/
theorem count_closeCom_image (guid : Nat → Option Guid) (closes : Bool) (t : List Scripted.Call) :
    (t.filterMap (image guid closes)).count .closeCom =
      if closes then t.count .closeContext else 0 := by
  induction t with
  | nil => simp
  | cons c t ih =>
    by_cases h : image guid closes c = some .closeCom
    · obtain ⟨rfl, rfl⟩ := image_eq_closeCom_iff.1 h
      rw [List.filterMap_cons_some h, List.count_cons_self, ih, List.count_cons_self]
      rfl
    · have hskip : ((c :: t).filterMap (image guid closes)).count .closeCom =
          (t.filterMap (image guid closes)).count .closeCom := by
        cases hc : image guid closes c with
        | none => rw [List.filterMap_cons_none hc]
        | some d =>
          have hd : d ≠ .closeCom := by
            rintro rfl
            exact h hc
          rw [List.filterMap_cons_some hc, List.count_cons_of_ne hd]
      rw [hskip, ih]
      cases closes with
      | false => rfl
      | true =>
        have hc : c ≠ .closeContext := fun hc => h (image_eq_closeCom_iff.2 ⟨hc, rfl⟩)
        rw [List.count_cons_of_ne hc]

variable (settings : Settings) (op : Operation) {m : Machine}

/-- An operation closes one context if there is one, be it its own or not. -/
theorem run_closes (m : Machine) : (calls (op.run service settings m).trace).count .closeCom =
    if leavesOpen m (calls (op.run service settings m).trace) then 1 else 0 := by
  obtain ⟨os, h⟩ := exists_reflection settings op m 0
  have hessential : (essential (calls (op.run service settings m).trace)).count .closeCom =
      (calls (op.run service settings m).trace).count .closeCom := List.count_filter rfl
  rw [← hessential, h.trace, count_closeCom_image,
    (Scripted.run_segment settings (double os 0 m.system) op).closed_once]

/-- The contexts after an operation. -/
theorem run_contexts (hm : m.contexts.toNat + 1 < UInt32.size) :
    (op.run service settings m).state.contexts.toNat +
        (calls (op.run service settings m).trace).count .closeCom =
      m.contexts.toNat + tally Call.opens m.store (calls (op.run service settings m).trace) := by
  have hone := run_opened settings op m
  have hcloses := run_closes settings op m
  rw [leavesOpen_eq (by omega)] at hcloses
  simp only [decide_eq_true_eq] at hcloses
  rw [(run_accounts settings op m).after]
  refine toNat_add_sub ?_ (by omega)
  split at hcloses <;> omega

/-- To be neutral is to close as many contexts as were opened. -/
theorem neutral_iff_count (hm : m.contexts.toNat + 1 < UInt32.size) : Neutral settings op m ↔
    (calls (op.run service settings m).trace).count .closeCom =
      tally Call.opens m.store (calls (op.run service settings m).trace) := by
  have hone := run_opened settings op m
  have hcloses := run_closes settings op m
  have hcontexts := run_contexts settings op hm
  have hmem : .closeCom ∈ calls (op.run service settings m).trace ↔
      0 < (calls (op.run service settings m).trace).count .closeCom := List.count_pos_iff.symm
  constructor
  · rintro ⟨-, heq⟩
    rw [heq] at hcontexts
    omega
  · intro heq
    refine ⟨by rw [hmem, heq], UInt32.toNat_inj.1 ?_⟩
    omega

/-- **When an operation is neutral.** Exactly if it opened its context, or if none was open before. It
opens one at most and closes one if there is any by then, its own or not; so where it is not neutral,
it leaves one fewer than there were. -/
theorem neutral_iff (hm : m.contexts.toNat + 1 < UInt32.size) :
    (Neutral settings op m ↔
      0 < tally Call.opens m.store (calls (op.run service settings m).trace) ∨ m.contexts = 0) ∧
    (¬Neutral settings op m → .closeCom ∈ calls (op.run service settings m).trace ∧
      tally Call.opens m.store (calls (op.run service settings m).trace) = 0 ∧
      (op.run service settings m).state.contexts.toNat + 1 = m.contexts.toNat) := by
  have hone := run_opened settings op m
  have hcontexts := run_contexts settings op hm
  have hcloses := run_closes settings op m
  rw [leavesOpen_eq (by omega)] at hcloses
  simp only [decide_eq_true_eq] at hcloses
  have hzero : m.contexts = 0 ↔ m.contexts.toNat = 0 := by
    rw [← UInt32.toNat_inj]
    rfl
  rw [neutral_iff_count settings op hm, hzero, ← List.count_pos_iff]
  by_cases hopen : 0 < m.contexts.toNat +
      tally Call.opens m.store (calls (op.run service settings m).trace)
  · rw [if_pos hopen] at hcloses
    omega
  · rw [if_neg hopen] at hcloses
    omega

/-- Two contexts are open when an operation opens its own, which is then the one that it closes. -/
theorem neutral_opened :
    (2 : UInt32).toNat + 1 < UInt32.size ∧
    0 < tally Call.opens [.success, .success, .code ⟨1⟩, .code .accessDenied] (calls
      ((Operation.setQuota "D:\\" 5).run service .default
        ⟨2, .initial [.success, .success, .code ⟨1⟩, .code .accessDenied]⟩).trace) ∧
    Neutral .default (.setQuota "D:\\" 5)
      ⟨2, .initial [.success, .success, .code ⟨1⟩, .code .accessDenied]⟩ :=
  ⟨by decide, by decide, (neutral_iff .default (.setQuota "D:\\" 5) (by decide)).1.2 (.inl (by decide))⟩

/-- An operation whose context is refused closes the one that was open before it. -/
theorem refused_closes_another :
    ((Operation.setQuota "D:\\" 5).run service .default
      ⟨1, .initial [.success, .success, .code ⟨0x80010106⟩]⟩).value =
        .error (.ofStep .initializeContext ⟨0x80010106⟩) ∧
    calls ((Operation.setQuota "D:\\" 5).run service .default
      ⟨1, .initial [.success, .success, .code ⟨0x80010106⟩]⟩).trace =
        [.iidFromString Settings.default.managerClass,
          .iidFromString Settings.default.managerInterface, .openCom 2, .closeCom] ∧
    ¬Neutral .default (.setQuota "D:\\" 5) ⟨1, .initial [.success, .success, .code ⟨0x80010106⟩]⟩ := by
  refine ⟨by decide, by decide, fun h => ?_⟩
  have hcontexts : ((Operation.setQuota "D:\\" 5).run service .default
      ⟨1, .initial [.success, .success, .code ⟨0x80010106⟩]⟩).state.contexts = 0 := by decide
  rw [h.contexts] at hcontexts
  cases hcontexts

end DiskQuota.Fsrm
