import DiskQuota.Proofs.Native.Wide
import Mathlib.Data.Int.Basic

/-!
What a call by address adds to the operation that it asks for: the text at the address, and the status.
A call whose slot or volume is missing, or whose volume is no text, is refused and the service never
hears of it; every other call goes through as the operation on that text, and its reply tells what the
operation came to (`transparent`). A status has the bits of the code that it stands for.
-/
namespace DiskQuota.Native

open Text.Utf16 (Paired encode)

theorem toInt_signed (code : Status) : code.signed.toInt = Int.bmod code.code.toNat UInt32.size := by
  rw [← Int32.toInt_toBitVec, Status.signed, UInt32.toBitVec_toInt32, BitVec.toInt_eq_toNat_bmod,
    UInt32.toNat_toBitVec]

/-- A status read as an unsigned number is the code. -/
theorem toInt_signed_emod (code : Status) : code.signed.toInt % UInt32.size = code.code.toNat := by
  rw [toInt_signed, Int.bmod_emod]
  exact Int.emod_eq_of_lt (Int.natCast_nonneg _) (Int.ofNat_lt.2 code.code.toNat_lt_size)

/-- A code is a failure exactly if the status is negative. -/
theorem isFailure_iff (code : Status) : code.isFailure = true ↔ code.signed < 0 := by
  have hlt := code.code.toNat_lt
  have hzero : (0 : Int32).toInt = 0 := rfl
  have htop : (0x80000000 : UInt32).toNat = 2147483648 := rfl
  have hsize : (UInt32.size : Int) = 4294967296 := rfl
  rw [Status.isFailure, decide_eq_true_iff, ge_iff_le, UInt32.le_iff_toNat_le, htop,
    Int32.lt_iff_toInt_lt, toInt_signed, hzero, Int.bmod_def, hsize]
  omega

/-- The status that tells what an operation came to. -/
def statusOf {α : Type} : Except StepError α → Int32
  | .ok _ => 0
  | .error e => e.code.code.toInt32

/-- What a slot that held `n` holds after a read. -/
def slotWith (n : UInt64) : Except StepError UInt64 → UInt64
  | .ok bytes => bytes
  | .error _ => n

variable {σ ε : Type} (S : Service σ ε) (settings : Settings) (s : σ)

/-- What calls by address come to from `s`. -/
structure Transparent : Prop where
  /-- A null slot is noticed whatever the volume (`E_POINTER`), -/
  slot_null : ∀ volume, (Call.getQuotaUsed volume none).run S settings s =
    ⟨.statusAndSlot (0x80004003 : UInt32).toInt32 none, [], s⟩
  /-- a null volume after it, -/
  volume_null : ∀ limit n,
    (Call.setQuota none limit).run S settings s =
      ⟨.status (0x80004003 : UInt32).toInt32, [], s⟩ ∧
    (Call.getQuotaUsed none (some n)).run S settings s =
      ⟨.statusAndSlot (0x80004003 : UInt32).toInt32 (some n), [], s⟩
  /-- and then a volume that is no text (`E_INVALIDARG`). Nothing is asked of the service, and the
  slot stays. -/
  volume_unpaired : ∀ us, ¬Paired (beforeZero us) → ∀ limit n,
    (Call.setQuota (some us) limit).run S settings s =
      ⟨.status (0x80070057 : UInt32).toInt32, [], s⟩ ∧
    (Call.getQuotaUsed (some us) (some n)).run S settings s =
      ⟨.statusAndSlot (0x80070057 : UInt32).toInt32 (some n), [], s⟩
  /-- All others are texts. -/
  volume_paired : ∀ us, Paired (beforeZero us) → ∃ v : String, encode v.toList = beforeZero us
  /-- A text is passed on, and what is done is what the manager does. -/
  set : ∀ us v, encode v.toList = beforeZero us → ∀ limit,
    (Call.setQuota (some us) limit).run S settings s =
      ⟨.status (statusOf (S.setQuota settings v limit s).value),
        (S.setQuota settings v limit s).trace, (S.setQuota settings v limit s).state⟩
  get : ∀ us v, encode v.toList = beforeZero us → ∀ n,
    (Call.getQuotaUsed (some us) (some n)).run S settings s =
      ⟨.statusAndSlot (statusOf (S.getQuotaUsed settings v s).value)
          (some (slotWith n (S.getQuotaUsed settings v s).value)),
        (S.getQuotaUsed settings v s).trace, (S.getQuotaUsed settings v s).state⟩
  /-- The status of a failure is its code, bit for bit. -/
  bits : ∀ code : Status, code.signed.toInt % UInt32.size = code.code.toNat

/-- **Calls by address add nothing but the reading of the volume and the telling of the result**, over
any service and from any state of it. -/
theorem transparent : Transparent S settings s where
  slot_null _ := rfl
  volume_null _ _ := ⟨rfl, rfl⟩
  volume_unpaired us hus limit n := by
    have hread := readWide_of_not_paired hus
    constructor <;> simp [Call.run, setQuota, getQuotaUsed, hread, Status.signed]
  volume_paired us hus := by
    obtain ⟨v, hv⟩ := exists_readWide_iff.2 hus
    exact ⟨v, readWide_eq_ok_iff.1 hv⟩
  set us v hv limit := by
    have hread := readWide_eq_ok_iff.2 hv
    simp only [Call.run, setQuota, hread]
    generalize S.setQuota settings v limit s = r
    obtain ⟨e | u, t, s'⟩ := r <;> rfl
  get us v hv n := by
    have hread := readWide_eq_ok_iff.2 hv
    simp only [Call.run, getQuotaUsed, hread]
    generalize S.getQuotaUsed settings v s = r
    obtain ⟨e | bytes, t, s'⟩ := r <;> rfl
  bits := toInt_signed_emod

end DiskQuota.Native
