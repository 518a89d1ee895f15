import DiskQuota.Text.Utf16
import Mathlib.Data.List.Basic

/-!
Reading and writing UTF-16. What the first unit is decides how reading goes on (`decode?_single`,
`decode?_pair`, `decode?_low`, `decode?_high`), and everything else is an induction over these cases.
Reading undoes writing (`decode?_encode`), writing undoes reading (`encode_of_decode?`), and units can be
read exactly if every surrogate among them has its partner beside it (`isSome_decode?_iff`).
-/
namespace DiskQuota.Text.Utf16

/-- Every unit that opens a pair stands directly before one that closes a pair, and every unit that closes
one directly after a unit that opens one. -/
structure Paired (us : List UInt16) : Prop where
  opened : ∀ i u, us[i]? = some u → 0xD800 ≤ u.toNat ∧ u.toNat ≤ 0xDBFF →
    ∃ v, us[i + 1]? = some v ∧ 0xDC00 ≤ v.toNat ∧ v.toNat ≤ 0xDFFF
  closed : ∀ i v, us[i]? = some v → 0xDC00 ≤ v.toNat ∧ v.toNat ≤ 0xDFFF →
    ∃ j u, i = j + 1 ∧ us[j]? = some u ∧ 0xD800 ≤ u.toNat ∧ u.toNat ≤ 0xDBFF

theorem isHigh_iff {u : UInt16} : isHigh u = true ↔ 0xD800 ≤ u.toNat ∧ u.toNat ≤ 0xDBFF := by
  simp [isHigh, UInt16.le_iff_toNat_le]

theorem isLow_iff {u : UInt16} : isLow u = true ↔ 0xDC00 ≤ u.toNat ∧ u.toNat ≤ 0xDFFF := by
  simp [isLow, UInt16.le_iff_toNat_le]

theorem paired_iff {us : List UInt16} : Paired us ↔
    (∀ i u, us[i]? = some u → isHigh u = true → ∃ v, us[i + 1]? = some v ∧ isLow v = true) ∧
    ∀ i v, us[i]? = some v → isLow v = true →
      ∃ j u, i = j + 1 ∧ us[j]? = some u ∧ isHigh u = true := by
  simp only [isHigh_iff, isLow_iff]
  exact ⟨fun h => ⟨h.opened, h.closed⟩, fun h => ⟨h.1, h.2⟩⟩

theorem isLow_of_isHigh {u : UInt16} (h : isHigh u = true) : isLow u = false := by
  rw [isHigh_iff] at h
  rw [Bool.eq_false_iff, ne_eq, isLow_iff]
  omega

/-! Reading, by the first unit. -/

section

variable {u v : UInt16} {us : List UInt16}

theorem decode?_single (hhigh : isHigh u = false) (hlow : isLow u = false) :
    decode? (u :: us) = (decode? us).map (Char.ofNat u.toNat :: ·) := by
  cases us <;> simp [decode?, hhigh, hlow]

theorem decode?_pair (hu : isHigh u = true) (hv : isLow v = true) :
    decode? (u :: v :: us) = (decode? us).map (ofPair u v :: ·) := by
  simp [decode?, hu, hv]

theorem decode?_low (h : isLow u = true) : decode? (u :: us) = none := by
  have hhigh : isHigh u = false := Bool.eq_false_iff.2 fun hu => by simp [isLow_of_isHigh hu] at h
  cases us <;> simp [decode?, h, hhigh]

theorem decode?_high (h : isHigh u = true) (hnext : ∀ v ∈ us.head?, isLow v = false) :
    decode? (u :: us) = none := by
  cases us with
  | nil => simp [decode?, h]
  | cons v us => simp [decode?, h, hnext v rfl]

end

/-! Writing, character by character. -/

/-- No character is a surrogate. -/
theorem toNat_range (c : Char) : c.toNat < 0xD800 ∨ 0xDFFF < c.toNat ∧ c.toNat < 0x110000 := c.valid

theorem toNat_ofNat {n : Nat} (h : n < 0xD800 ∨ 0xDFFF < n ∧ n < 0x110000) :
    (Char.ofNat n).toNat = n := by
  rw [Char.ofNat, dif_pos h]
  rfl

theorem toNat_ofPair {u v : UInt16} (hu : isHigh u = true) (hv : isLow v = true) :
    (ofPair u v).toNat = 0x10000 + (u.toNat - 0xD800) * 0x400 + (v.toNat - 0xDC00) := by
  rw [isHigh_iff] at hu
  rw [isLow_iff] at hv
  rw [ofPair, toNat_ofNat (.inr (by omega))]

theorem units_ofNat {u : UInt16} (hhigh : isHigh u = false) (hlow : isLow u = false) :
    units (Char.ofNat u.toNat) = [u] := by
  have hu : u.toNat < 0x10000 := u.toNat_lt
  rw [Bool.eq_false_iff, ne_eq, isHigh_iff] at hhigh
  rw [Bool.eq_false_iff, ne_eq, isLow_iff] at hlow
  rw [units, toNat_ofNat (by omega), if_pos hu]
  simp

theorem units_ofPair {u v : UInt16} (hu : isHigh u = true) (hv : isLow v = true) :
    units (ofPair u v) = [u, v] := by
  have hc := toNat_ofPair hu hv
  rw [isHigh_iff] at hu
  rw [isLow_iff] at hv
  rw [units, if_neg (by omega), List.cons.injEq, List.cons.injEq, ← UInt16.toNat_inj,
    ← UInt16.toNat_inj, hc]
  simp only [Nat.toUInt16_eq, UInt16.toNat_ofNat', and_true]
  omega

/-- A character is read from its units, whatever follows them. -/
theorem decode?_units_append (c : Char) (us : List UInt16) :
    decode? (units c ++ us) = (decode? us).map (c :: ·) := by
  have hrange := toNat_range c
  rw [units]
  split
  · next hc =>
    have hu : c.toNat.toUInt16.toNat = c.toNat := by simp; omega
    rw [List.singleton_append, decode?_single]
    · rw [hu, Char.ofNat_toNat]
    · rw [Bool.eq_false_iff, ne_eq, isHigh_iff]
      omega
    · rw [Bool.eq_false_iff, ne_eq, isLow_iff]
      omega
  · next hc =>
    have hu : (0xD800 + (c.toNat - 0x10000) / 0x400).toUInt16.toNat =
        0xD800 + (c.toNat - 0x10000) / 0x400 := by simp; omega
    have hv : (0xDC00 + (c.toNat - 0x10000) % 0x400).toUInt16.toNat =
        0xDC00 + (c.toNat - 0x10000) % 0x400 := by simp; omega
    have hhigh : isHigh (0xD800 + (c.toNat - 0x10000) / 0x400).toUInt16 = true := by
      rw [isHigh_iff]
      omega
    have hlow : isLow (0xDC00 + (c.toNat - 0x10000) % 0x400).toUInt16 = true := by
      rw [isLow_iff]
      omega
    have hpair := toNat_ofPair hhigh hlow
    rw [List.cons_append, List.singleton_append, decode?_pair hhigh hlow]
    have hofPair : ofPair (0xD800 + (c.toNat - 0x10000) / 0x400).toUInt16
        (0xDC00 + (c.toNat - 0x10000) % 0x400).toUInt16 = c := by
      rw [← Char.toNat_inj, hpair, hu, hv]
      omega
    rw [hofPair]

/-- What is written reads back. -/
theorem decode?_encode (cs : List Char) : decode? (encode cs) = some cs := by
  induction cs with
  | nil => rfl
  | cons c cs ih =>
    rw [encode, List.flatMap_cons, decode?_units_append, ← encode, ih]
    rfl

/-- What was read writes the same units. -/
theorem encode_of_decode? {us : List UInt16} {cs : List Char} (h : decode? us = some cs) :
    encode cs = us := by
  fun_induction decode? us generalizing cs with
  | case1 =>
    cases h
    rfl
  | case2 => cases h
  | case3 u hu =>
    cases h
    rw [Bool.not_eq_true, Bool.or_eq_false_iff] at hu
    simp [encode, units_ofNat hu.1 hu.2]
  | case4 u v us hu hv ih =>
    obtain ⟨cs, hcs, rfl⟩ := Option.map_eq_some_iff.1 h
    rw [encode, List.flatMap_cons, units_ofPair hu hv, ← encode, ih hcs]
    rfl
  | case5 => cases h
  | case6 => cases h
  | case7 u v us hhigh hlow ih =>
    obtain ⟨cs, hcs, rfl⟩ := Option.map_eq_some_iff.1 h
    rw [Bool.not_eq_true] at hhigh hlow
    rw [encode, List.flatMap_cons, units_ofNat hhigh hlow, ← encode, ih hcs]
    rfl

theorem decode?_eq_some_iff {us : List UInt16} {cs : List Char} :
    decode? us = some cs ↔ encode cs = us :=
  ⟨encode_of_decode?, fun h => h ▸ decode?_encode cs⟩

/-- Only the zero character writes a zero. -/
theorem ne_zero_of_mem_units {c : Char} (hc : c ≠ '\x00') {u : UInt16} (h : u ∈ units c) : u ≠ 0 := by
  rintro rfl
  have hne : c.toNat ≠ 0 := fun h0 => hc (Char.toNat_inj.1 h0)
  have hrange := toNat_range c
  -- each unit is a number below 2^16 that is not zero
  rw [units] at h
  split at h
  · have hunit := congrArg UInt16.toNat (List.mem_singleton.1 h)
    simp at hunit
    omega
  · rcases List.mem_pair.1 h with h | h
    · have hunit := congrArg UInt16.toNat h
      simp at hunit
      omega
    · have hunit := congrArg UInt16.toNat h
      simp at hunit
      omega

theorem ne_zero_of_mem_encode {cs : List Char} (h : '\x00' ∉ cs) : ∀ u ∈ encode cs, u ≠ 0 := by
  intro u hu
  obtain ⟨c, hc, hunit⟩ := List.mem_flatMap.1 hu
  refine ne_zero_of_mem_units ?_ hunit
  rintro rfl
  exact h hc

/-! Surrogates in pairs, by the first unit as well. -/

namespace Paired

variable {u v : UInt16} {us : List UInt16}

theorem nil : Paired [] := ⟨nofun, nofun⟩

theorem cons_single (hhigh : isHigh u = false) (hlow : isLow u = false) :
    Paired (u :: us) ↔ Paired us := by
  rw [paired_iff, paired_iff]
  constructor
  · rintro ⟨hopened, hclosed⟩
    refine ⟨fun i w hw => hopened (i + 1) w hw, fun i w hw hwlow => ?_⟩
    obtain ⟨j, x, hj, hx, hxhigh⟩ := hclosed (i + 1) w hw hwlow
    cases j with
    | zero =>
      cases hx
      rw [hhigh] at hxhigh
      cases hxhigh
    | succ j => exact ⟨j, x, by omega, hx, hxhigh⟩
  · rintro ⟨hopened, hclosed⟩
    constructor
    · rintro (_ | i) w hw hwhigh
      · cases hw
        rw [hhigh] at hwhigh
        cases hwhigh
      · exact hopened i w hw hwhigh
    · rintro (_ | i) w hw hwlow
      · cases hw
        rw [hlow] at hwlow
        cases hwlow
      · obtain ⟨j, x, rfl, hx, hxhigh⟩ := hclosed i w hw hwlow
        exact ⟨j + 1, x, rfl, hx, hxhigh⟩

theorem cons_pair (hu : isHigh u = true) (hv : isLow v = true) :
    Paired (u :: v :: us) ↔ Paired us := by
  have hvhigh : isHigh v = false := Bool.eq_false_iff.2 fun h => by simp [isLow_of_isHigh h] at hv
  rw [paired_iff, paired_iff]
  constructor
  · rintro ⟨hopened, hclosed⟩
    refine ⟨fun i w hw => hopened (i + 2) w hw, fun i w hw hwlow => ?_⟩
    obtain ⟨j, x, hj, hx, hxhigh⟩ := hclosed (i + 2) w hw hwlow
    rcases j with _ | _ | j
    · omega
    · cases hx
      rw [hvhigh] at hxhigh
      cases hxhigh
    · exact ⟨j, x, by omega, hx, hxhigh⟩
  · rintro ⟨hopened, hclosed⟩
    constructor
    · rintro (_ | _ | i) w hw hwhigh
      · exact ⟨v, rfl, hv⟩
      · cases hw
        rw [hvhigh] at hwhigh
        cases hwhigh
      · exact hopened i w hw hwhigh
    · rintro (_ | _ | i) w hw hwlow
      · cases hw
        rw [isLow_of_isHigh hu] at hwlow
        cases hwlow
      · exact ⟨0, u, rfl, rfl, hu⟩
      · obtain ⟨j, x, rfl, hx, hxhigh⟩ := hclosed i w hw hwlow
        exact ⟨j + 2, x, rfl, hx, hxhigh⟩

theorem not_cons_low (h : isLow u = true) : ¬Paired (u :: us) := by
  rw [paired_iff]
  rintro ⟨-, hclosed⟩
  obtain ⟨j, x, hj, -⟩ := hclosed 0 u rfl h
  omega

theorem not_cons_high (h : isHigh u = true) (hnext : ∀ v ∈ us.head?, isLow v = false) :
    ¬Paired (u :: us) := by
  rw [paired_iff]
  rintro ⟨hopened, -⟩
  obtain ⟨v, hv, hlow⟩ := hopened 0 u rfl h
  rw [hnext v (by simpa [List.head?_eq_getElem?] using hv)] at hlow
  cases hlow

end Paired

/-- Units can be read exactly if their surrogates are paired. -/
theorem isSome_decode?_iff (us : List UInt16) : (decode? us).isSome = true ↔ Paired us := by
  -- along the recursion of the reading: it goes on exactly where pairing is left to the rest
  fun_induction decode? us with
  | case1 => simp [Paired.nil]
  | case2 u hu =>
    rcases Bool.or_eq_true_iff.1 hu with hu | hu
    · have hnot : ¬Paired [u] := Paired.not_cons_high hu (by simp)
      simp [hnot]
    · have hnot : ¬Paired [u] := Paired.not_cons_low hu
      simp [hnot]
  | case3 u hu =>
    rw [Bool.not_eq_true, Bool.or_eq_false_iff] at hu
    simp [Paired.cons_single hu.1 hu.2, Paired.nil]
  | case4 u v us hu hv ih => rw [Option.isSome_map, ih, Paired.cons_pair hu hv]
  | case5 u v us hu hv =>
    have hnot : ¬Paired (u :: v :: us) := Paired.not_cons_high hu (by simpa using hv)
    simp [hnot]
  | case6 u v us _ hu =>
    have hnot : ¬Paired (u :: v :: us) := Paired.not_cons_low hu
    simp [hnot]
  | case7 u v us hhigh hlow ih =>
    rw [Bool.not_eq_true] at hhigh hlow
    rw [Option.isSome_map, ih, Paired.cons_single hhigh hlow]

theorem decode?_eq_none_iff (us : List UInt16) : decode? us = none ↔ ¬Paired us := by
  rw [← isSome_decode?_iff, Option.isSome_iff_ne_none, ne_eq, not_not]

end DiskQuota.Text.Utf16
