import DiskQuota.Native
import DiskQuota.Proofs.Text.Utf16
import Mathlib.Data.List.TakeWhile

/-!
The text at an address. It is what the units before the first zero write, so an address gives a text
exactly if these units are one, and no two addresses with different units give the same
(`readWide_exact`). What stands behind the zero plays no part.
-/
namespace DiskQuota.Native

open Text.Utf16 (Paired encode)

/-- The units of a text at an address: those before the first zero. -/
def beforeZero (us : List UInt16) : List UInt16 := us.takeWhile (· != 0)

theorem beforeZero_append (us rest : List UInt16) : beforeZero (us ++ 0 :: rest) = beforeZero us := by
  induction us with
  | nil => rfl
  | cons u us ih =>
    rw [List.cons_append, beforeZero, beforeZero, List.takeWhile_cons, List.takeWhile_cons]
    split
    · exact congrArg (u :: ·) ih
    · rfl

theorem beforeZero_of_ne {us : List UInt16} (h : ∀ u ∈ us, u ≠ 0) : beforeZero us = us :=
  List.takeWhile_eq_self_iff.2 fun u hu => by simpa using h u hu

theorem beforeZero_idem (us : List UInt16) : beforeZero (beforeZero us) = beforeZero us :=
  List.takeWhile_idem

theorem readWide_eq_ok_iff {us : List UInt16} {s : String} :
    readWide (some us) = .ok s ↔ encode s.toList = beforeZero us := by
  rw [readWide, ← Text.Utf16.decode?_eq_some_iff, beforeZero]
  constructor
  · intro h
    split at h
    · next cs hcs =>
      cases h
      rw [hcs, String.toList_ofList]
    · cases h
  · intro h
    rw [h]
    simp

theorem readWide_of_not_paired {us : List UInt16} (h : ¬Paired (beforeZero us)) :
    readWide (some us) = .error ⟨0x80070057⟩ := by
  rw [readWide, ← beforeZero, (Text.Utf16.decode?_eq_none_iff _).2 h]
  rfl

theorem exists_readWide_iff {us : List UInt16} :
    (∃ s, readWide (some us) = .ok s) ↔ Paired (beforeZero us) := by
  rw [← Text.Utf16.isSome_decode?_iff]
  constructor
  · rintro ⟨s, hs⟩
    rw [readWide_eq_ok_iff, ← Text.Utf16.decode?_eq_some_iff] at hs
    rw [hs]
    rfl
  · intro h
    obtain ⟨cs, hcs⟩ := Option.isSome_iff_exists.1 h
    exact ⟨String.ofList cs, by rw [readWide_eq_ok_iff, String.toList_ofList,
      ← Text.Utf16.decode?_eq_some_iff, hcs]⟩

/-- **The text at an address is what the units before the first zero write.** There is one exactly if
their surrogates are paired, and it writes these very units; otherwise the argument is invalid
(`E_INVALIDARG`). What follows the zero makes no difference. Every text without a zero character is
found again where its units are stored, and different units are never the same text. -/
theorem readWide_exact (us rest : List UInt16) :
    ((∃ s, readWide (some (us ++ 0 :: rest)) = .ok s) ↔ Paired (beforeZero us)) ∧
    (∀ s, readWide (some (us ++ 0 :: rest)) = .ok s → encode s.toList = beforeZero us) ∧
    (¬Paired (beforeZero us) → readWide (some (us ++ 0 :: rest)) = .error ⟨0x80070057⟩) ∧
    (∀ rest', readWide (some (beforeZero us ++ 0 :: rest')) = readWide (some (us ++ 0 :: rest))) ∧
    (∀ s : String, '\x00' ∉ s.toList → readWide (some (encode s.toList ++ 0 :: rest)) = .ok s) ∧
    ∀ us' rest' s, readWide (some (us ++ 0 :: rest)) = .ok s →
      readWide (some (us' ++ 0 :: rest')) = .ok s → beforeZero us = beforeZero us' := by
  refine ⟨?_, ?_, ?_, ?_, ?_, ?_⟩
  · rw [exists_readWide_iff, beforeZero_append]
  · intro s hs
    rwa [readWide_eq_ok_iff, beforeZero_append] at hs
  · intro h
    rw [← beforeZero_append us rest] at h
    exact readWide_of_not_paired h
  · intro rest'
    show readWide (some _) = readWide (some _)
    rw [readWide, readWide, ← beforeZero, ← beforeZero, beforeZero_append, beforeZero_append,
      beforeZero_idem]
  · intro s hs
    rw [readWide_eq_ok_iff, beforeZero_append, beforeZero_of_ne (Text.Utf16.ne_zero_of_mem_encode hs)]
  · intro us' rest' s hs hs'
    rw [readWide_eq_ok_iff, beforeZero_append] at hs hs'
    rw [← hs, hs']

end DiskQuota.Native
