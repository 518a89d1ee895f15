import Mathlib.Data.List.Pairwise

/-!
Custody of what is handed out. Things of a kind are handed out by number, one after the other, and given
back by calls. A stretch of calls settles what it is handed out if each of that is given back once, and none
is named after it was given back (`Custody.Settled`). Stretches one after another settle what all of them
are handed out (`Custody.Settled.append`).
-/
namespace DiskQuota

/-- How calls `ε` deal with what is handed out, by its kind and its number. -/
structure Custody (ε κ : Type) where
  /-- What a call gives back. -/
  releases : ε → Option (κ × Nat)
  /-- What a call is made on. -/
  names : ε → List (κ × Nat)
  /-- The kinds that have to be given back. -/
  owed : κ → Prop
  owed_of_releases : ∀ {c x}, releases c = some x → owed x.1

namespace Custody

variable {ε κ : Type} [DecidableEq κ]

/-- The calls `t` settle what is handed out on the way: all that comes after the numbers `a` and up to the
numbers `b`. -/
structure Settled (C : Custody ε κ) (a : κ → Nat) (t : List ε) (b : κ → Nat) : Prop where
  le : ∀ kind, a kind ≤ b kind
  /-- What was handed out is released once, and nothing else is. -/
  released : ∀ kind n, C.owed kind → t.countP (fun c => C.releases c = some (kind, n)) =
    if a kind < n ∧ n ≤ b kind then 1 else 0
  /-- Calls are made on what was handed out on the way, -/
  fresh : ∀ c ∈ t, ∀ x ∈ C.names c, a x.1 < x.2
  /-- and on none of it that was given back. -/
  apart : t.Pairwise fun c d => ∀ x, C.releases c = some x → x ∉ C.names d

namespace Settled

variable {C : Custody ε κ} {a b b' : κ → Nat} {t t' : List ε}

/-- Calls that give nothing back and are made on nothing, while nothing is handed out. -/
theorem of_idle (h : ∀ c ∈ t, C.releases c = none ∧ C.names c = []) : C.Settled a t a where
  le kind := Nat.le_refl (a kind)
  released kind n _ := by
    rw [if_neg (by omega), List.countP_eq_zero]
    intro c hc
    simp [(h c hc).1]
  fresh := by
    intro c hc x hx
    rw [(h c hc).2] at hx
    exact absurd hx List.not_mem_nil
  apart := by
    refine List.pairwise_of_forall_mem_list ?_
    intro c hc d _ x hx
    rw [(h c hc).1] at hx
    cases hx

theorem nil : C.Settled a [] a := of_idle fun _ hc => absurd hc List.not_mem_nil

/-- What is released on a stretch exists when it ends. -/
theorem le_of_releases (h : C.Settled a t b) {c : ε} (hc : c ∈ t) {x : κ × Nat}
    (hx : C.releases c = some x) : x.2 ≤ b x.1 := by
  obtain ⟨kind, n⟩ := x
  -- otherwise it would have been counted among the releases, of which there are none past the end
  by_contra hgt
  have hzero := h.released kind n (C.owed_of_releases hx)
  rw [if_neg (by simp only at hgt; omega), List.countP_eq_zero] at hzero
  exact hzero c hc (by simp [hx])

theorem append (h : C.Settled a t b) (h' : C.Settled b t' b') : C.Settled a (t ++ t') b' where
  le kind := Nat.le_trans (h.le kind) (h'.le kind)
  released kind n hkind := by
    have hle := h.le kind
    have hle' := h'.le kind
    rw [List.countP_append, h.released kind n hkind, h'.released kind n hkind]
    split <;> split <;> split <;> omega
  fresh := by
    intro c hc x hx
    rcases List.mem_append.1 hc with hc | hc
    · exact h.fresh c hc x hx
    · exact Nat.lt_of_le_of_lt (h.le x.1) (h'.fresh c hc x hx)
  apart := by
    refine List.pairwise_append.2 ⟨h.apart, h'.apart, ?_⟩
    intro c hc d hd x hx hname
    -- the later stretch names only what was handed out after this was released
    have hle := h.le_of_releases hc hx
    have hlt := h'.fresh d hd x hname
    omega

end Settled
end Custody
end DiskQuota
