import DiskQuota.Proofs.Json.Skipping
import DiskQuota.Json.Structure

/-!
Whole numbers, read back. Digits are taken as long as the number that they write stays below 2^64, and
none is left over exactly if the whole number does (`absorb_of_lt`). The decimal digits of a number have
no zero in front and write that number, so an unsigned number reads back from its digits
(`Reads.unsigned`), and so does a choice that carries one (`Reads.carrying`).
-/
namespace DiskQuota.Json

/-! ## Decimal digits -/

/-- The number that digits write. -/
def decimalValue (ds : List Char) : Nat := Nat.ofDigitChars 10 ds 0

theorem decimalValue_toDigits (n : Nat) : decimalValue (Nat.toDigits 10 n) = n :=
  Nat.ofDigitChars_ten_toDigits

/-- Only zero has a zero in front. -/
theorem toDigits_of_head?_zero {n : Nat} (h : (Nat.toDigits 10 n).head? = some '0') :
    Nat.toDigits 10 n = ['0'] := by
  -- along the digits from the last on: those before it write a tenth of the number
  induction n using Nat.strongRecOn with
  | ind n ih =>
    rw [Nat.toDigits_eq_if (by decide)] at h ⊢
    split at h
    · next hlt =>
      rw [if_pos hlt]
      exact congrArg (fun c => [c]) (Option.some.inj h)
    · next hle =>
      have hfront : (Nat.toDigits 10 (n / 10)).head? = some '0' := by
        rwa [List.head?_append_of_ne_nil _ Nat.toDigits_ne_nil] at h
      have htenth := decimalValue_toDigits (n / 10)
      rw [ih (n / 10) (by omega) hfront] at htenth
      have hzero : n / 10 = 0 := htenth.symm
      omega

/-- The decimal digits of a number. -/
def digitsOf (n : Nat) : Digits where
  chars := Nat.toDigits 10 n
  ne_nil := Nat.toDigits_ne_nil
  digits _ hc := Nat.isDigit_of_mem_toDigits (by decide) (by decide) hc

namespace Number

/-- More digits write no smaller number. -/
theorem le_ofDigitChars (ds : List Char) (n : Nat) : n ≤ Nat.ofDigitChars 10 ds n := by
  induction ds generalizing n with
  | nil => exact Nat.le_refl n
  | cons c ds ih =>
    rw [Nat.ofDigitChars_cons]
    exact Nat.le_trans (by omega) (ih _)

/-- Digits are all taken if the number that they go on to stays below 2^64. -/
theorem absorb_of_lt {ds : List Char} {n : Nat} (h : Nat.ofDigitChars 10 ds n < 2 ^ 64) :
    absorb n ds = (Nat.ofDigitChars 10 ds n, []) := by
  induction ds generalizing n with
  | nil => rfl
  | cons c ds ih =>
    rw [Nat.ofDigitChars_cons] at h ⊢
    -- what is taken so far is no more than the whole
    have hsofar : 10 * n + digitValue c < 2 ^ 64 := Nat.lt_of_le_of_lt (le_ofDigitChars ds _) h
    show (if 10 * n + digitValue c < 2 ^ 64 then absorb (10 * n + digitValue c) ds else (n, c :: ds)) = _
    rw [if_pos hsofar]
    exact ih h

end Number

namespace Reader

/-! ## Reading -/

variable {cs rest : List Char}

/-- The digits in front of a number are taken whole, where a zero in front stands alone. -/
theorem whole_run (ds : Digits) (halone : ds.chars.head? = some '0' → ds.chars = ['0'])
    (h : NoDigit cs) : whole.run (ds.chars ++ cs) = .ok (ds.chars, cs) := by
  have htake := ds.takeWhile h
  have hdrop := ds.dropWhile h
  obtain ⟨c, front, hfront, hdigit⟩ := ds.exists_cons
  by_cases hzero : c = '0'
  · subst hzero
    have hone := halone (by rw [hfront]; rfl)
    rw [hone]
    cases cs with
    | nil => rfl
    | cons d cs =>
      have hd : isDigit d = false := h d rfl
      simp [whole, run_bind, hd]
  · have hhead : (ds.chars ++ cs).head? = some c := by rw [hfront]; rfl
    simp [whole, run_bind, hhead, hzero, hdigit, htake, hdrop]

/-- A number without fraction and exponent that stays below 2^64 is read exactly. -/
theorem number_run (ds : Digits) (halone : ds.chars.head? = some '0' → ds.chars = ['0'])
    (hlt : decimalValue ds.chars < 2 ^ 64) (h : EndsNumber rest) :
    (number false).run (ds.chars ++ rest) =
      .ok (.unsigned (decimalValue ds.chars).toUInt64, rest) := by
  have habsorb : Number.absorb 0 ds.chars = (decimalValue ds.chars, []) := Number.absorb_of_lt hlt
  simp [number, run_bind, whole_run ds halone h.noDigit, habsorb, h.no_point, h.no_exponent,
    Number.ofWhole]

namespace Reads

variable {α : Type}

protected theorem unsigned (n : UInt64) : Reads Reader.unsigned (unsignedChars n) n := by
  intro rest hrest
  have hvalue : decimalValue (digitsOf n.toNat).chars = n.toNat := decimalValue_toDigits n.toNat
  have hnumber := number_run (digitsOf n.toNat) toDigits_of_head?_zero
    (by rw [hvalue]; exact n.toNat_lt) hrest.endsNumber
  have hback : n.toNat.toUInt64 = n := UInt64.ofNat_toNat
  rw [hvalue, hback] at hnumber
  obtain ⟨c, front, hfront, hdigit⟩ := (digitsOf n.toNat).exists_cons
  show Reader.unsigned.run ((digitsOf n.toNat).chars ++ rest) = _
  have hstart := valueStart_run (isSpace_of_isDigit hdigit) (front ++ rest)
  have hminus : c ≠ '-' := ne_of_isDigit hdigit rfl
  rw [hfront, List.cons_append] at hnumber ⊢
  simp [Reader.unsigned, run_bind, hstart, hminus, hdigit, hnumber, unsignedOf]

/-- A choice that carries a number is read from an object with its name as the only key. -/
protected theorem carrying {choices : Choices α} {name : String} {f : UInt64 → α}
    (h : choices.lookup name = some (.unsigned f)) (n : UInt64) :
    Reads (Reader.choice choices) (objectChars [(name, unsignedChars n)]) (f n) := by
  intro rest _
  have hchars : objectChars [(name, unsignedChars n)] ++ rest = '\x7b' :: '\x22' ::
      (name.toList.flatMap quotedChar ++ '\x22' :: ':' :: (unsignedChars n ++ '\x7d' :: rest)) := by
    rw [objectChars_cons]
    rfl
  have hnumber := Reads.unsigned n ('\x7d' :: rest) (by simp [EndsValue])
  have hbrace := valueStart_run (c := '\x7b') rfl ('\x22' ::
    (name.toList.flatMap quotedChar ++ '\x22' :: ':' :: (unsignedChars n ++ '\x7d' :: rest)))
  have hcolon : isSpace ':' = false := rfl
  have hclose : isSpace '\x7d' = false := rfl
  simp [Reader.choice, keyed, choose, colon, carried, run_bind, hchars, hbrace, nextKey_first, text_run, h,
    hcolon, hnumber, hclose]

end Reads
end Reader
end DiskQuota.Json
