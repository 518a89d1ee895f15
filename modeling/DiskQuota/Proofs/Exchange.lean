import Mathlib.Data.List.Basic

/-!
Calls and the outcomes that fall to them. A world that is given as a list of outcomes answers the calls
that can fail in order, one outcome each; `exchanges` reads a trace and such a list together, so
that what came of every call can be told from outside. `cutAfter` cuts a list just after the first
element that ends it.
-/
namespace DiskQuota

variable {ε ω α : Type}

section

variable (asks : ε → Bool) (past : ω)

/-- The calls of a trace that take an outcome, each with the outcome that falls to it: the next of the
list, and `past` beyond its end. -/
def exchanges : List ω → List ε → List (ε × ω)
  | _, [] => []
  | os, c :: cs =>
    if asks c then (c, os.headD past) :: exchanges os.tail cs else exchanges os cs

/-- A later part of a trace goes on where the earlier part left the list. -/
theorem exchanges_append (os : List ω) (cs cs' : List ε) :
    exchanges asks past os (cs ++ cs') =
      exchanges asks past os cs ++ exchanges asks past (os.drop (cs.countP asks)) cs' := by
  -- along the earlier part; the list of outcomes moves with it
  induction cs generalizing os with
  | nil => simp [exchanges]
  | cons c cs ih => by_cases hc : asks c <;> simp [exchanges, hc, ih]

theorem fst_exchanges (os : List ω) (cs : List ε) :
    (exchanges asks past os cs).map (·.1) = cs.filter asks := by
  induction cs generalizing os with
  | nil => rfl
  | cons c cs ih => by_cases hc : asks c <;> simp [exchanges, hc, ih]

/-- Calls that take no outcome leave no exchange behind. -/
theorem exchanges_of_not_asks (os : List ω) {cs : List ε} (h : ∀ c ∈ cs, asks c = false) :
    exchanges asks past os cs = [] := by
  induction cs with
  | nil => rfl
  | cons c cs ih =>
    have hc : asks c = false := h c (by simp)
    have hcs : ∀ d ∈ cs, asks d = false := fun d hd => h d (by simp [hd])
    simp [exchanges, hc, ih hcs]

end

/-- A list up to and with the first element that ends it. -/
def cutAfter (ends : α → Bool) : List α → List α
  | [] => []
  | a :: l => if ends a then [a] else a :: cutAfter ends l

variable {ends : α → Bool} {l : List α}

theorem cutAfter_prefix_self (ends : α → Bool) (l : List α) : cutAfter ends l <+: l := by
  induction l with
  | nil => exact List.prefix_refl _
  | cons a l ih =>
    rw [cutAfter]
    split
    · exact (List.prefix_cons_inj a).2 List.nil_prefix
    · exact (List.prefix_cons_inj a).2 ih

theorem cutAfter_append (ends : α → Bool) (l l' : List α) :
    cutAfter ends (l ++ l') = if (cutAfter ends l).any ends then cutAfter ends l
      else cutAfter ends l ++ cutAfter ends l' := by
  induction l with
  | nil => rfl
  | cons a l ih =>
    rw [List.cons_append, cutAfter, cutAfter]
    by_cases h : ends a = true
    · simp [h]
    · rw [if_neg h, if_neg h, ih, List.any_cons, Bool.eq_false_iff.2 h, Bool.false_or,
        apply_ite (List.cons a)]
      rfl

/-- Nothing before the last element ends the list. -/
theorem ends_of_mem_dropLast_cutAfter {a : α} (h : a ∈ (cutAfter ends l).dropLast) :
    ends a = false := by
  induction l with
  | nil => simp [cutAfter] at h
  | cons b l ih =>
    rw [cutAfter] at h
    split at h
    · simp at h
    · next hb =>
      cases hl : cutAfter ends l with
      | nil => simp [hl] at h
      | cons c m =>
        rw [hl, List.dropLast_cons_cons, List.mem_cons, ← hl] at h
        rcases h with rfl | h
        · simpa using hb
        · exact ih h

/-- A list that was cut short ends with the element that ends it. -/
theorem ends_getLast_of_cutAfter_ne (h : cutAfter ends l ≠ l) :
    ∃ a, (cutAfter ends l).getLast? = some a ∧ ends a = true := by
  induction l with
  | nil => exact absurd rfl h
  | cons b l ih =>
    rw [cutAfter] at h ⊢
    split
    · next hb => exact ⟨b, rfl, hb⟩
    · next hb =>
      rw [if_neg hb] at h
      -- the head is not the last, so the end lies in the tail
      obtain ⟨a, hlast, ha⟩ := ih fun hl => h (by rw [hl])
      refine ⟨a, ?_, ha⟩
      rw [List.getLast?_cons, hlast]
      rfl

/-! Where a call stands in a trace that is made of parts. -/

section

variable {a b p q : List α} {c : α}

/-- A call that is not in the first part stands in the second. -/
theorem split_of_not_mem_left (h : a ++ b = p ++ c :: q) (hc : c ∉ a) :
    ∃ p', p = a ++ p' ∧ b = p' ++ c :: q := by
  rcases List.append_eq_append_iff.1 h with hfirst | ⟨r, rfl, hr⟩
  · exact hfirst
  · cases r with
    | nil => exact ⟨[], by simp, hr.symm⟩
    | cons d r =>
      cases hr
      exact absurd (by simp) hc

/-- A call that is not in the second part stands in the first. -/
theorem split_of_not_mem_right (h : a ++ b = p ++ c :: q) (hc : c ∉ b) :
    ∃ q', q = q' ++ b ∧ a = p ++ c :: q' := by
  rcases List.append_eq_append_iff.1 h with ⟨r, -, rfl⟩ | ⟨r, rfl, hr⟩
  · exact absurd (by simp) hc
  · cases r with
    | nil =>
      rw [List.nil_append] at hr
      exact absurd (hr ▸ List.mem_cons_self) hc
    | cons d r =>
      cases hr
      exact ⟨r, rfl, rfl⟩

end

end DiskQuota
