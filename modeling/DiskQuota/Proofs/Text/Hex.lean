import DiskQuota.Text.Hex
import Mathlib.Algebra.Group.Nat.Defs

/-!
Hexadecimal digits read back as the number that they write, where the width is enough for it. A character
is read as a digit exactly if it is written so in lower case (`digit?_eq_some_iff`).
-/
namespace DiskQuota.Text.Hex

theorem toNat_digit : ∀ d : Fin 16,
    (digit d).toNat = if d.val < 10 then 48 + d.val else 87 + d.val := by decide

theorem toNat_toLower (c : Char) :
    c.toLower.toNat = if 65 ≤ c.toNat ∧ c.toNat ≤ 90 then c.toNat + 32 else c.toNat := by
  have hge : c.val ≥ 'A'.val ↔ 65 ≤ c.toNat := UInt32.le_iff_toNat_le
  have hle : c.val ≤ 'Z'.val ↔ c.toNat ≤ 90 := UInt32.le_iff_toNat_le
  unfold Char.toLower
  simp only [hge, hle]
  split
  · next h =>
    show (c.val + 32).toNat = c.val.toNat + 32
    have hupper : c.val.toNat ≤ 90 := h.2
    rw [UInt32.toNat_add]
    simp
    omega
  · rfl

theorem digit?_eq_some_iff {c : Char} {d : Fin 16} : digit? c = some d ↔ c.toLower = digit d := by
  rw [← Char.toNat_inj, toNat_toLower, toNat_digit, digit?]
  constructor
  · intro h
    split at h
    · cases h
      grind
    · grind
  · grind

theorem value_append (ds : List (Fin 16)) (d : Fin 16) : value (ds ++ [d]) = 16 * value ds + d.val := by
  simp [value]

/-- A number that is written at a width that is enough for it reads back. -/
theorem read_fixed {w n : Nat} (h : n < 16 ^ w) : ((fixed w n).mapM digit?).map value = some n := by
  -- on the width; the last digit is split off and the rest writes what is left of the number
  induction w generalizing n with
  | zero =>
    obtain rfl : n = 0 := by simpa using h
    rfl
  | succ w ih =>
    have hhigh : ((fixed w (n / 16)).mapM digit?).map value = some (n / 16) := ih (by omega)
    obtain ⟨ds, hds, hvalue⟩ := Option.map_eq_some_iff.1 hhigh
    let d : Fin 16 := ⟨n % 16, Nat.mod_lt _ (by decide)⟩
    have hlow : [digit d].mapM digit? = some [d] := by simp [digit?_digit]
    have hsum : 16 * (n / 16) + n % 16 = n := by omega
    rw [fixed, List.mapM_append, hds, hlow]
    simp [value_append, hvalue, d, hsum]

/-! Numbers in digits of either case. -/

/-- The digits in lower case, each at its place. -/
def places : List Char :=
  ['0', '1', '2', '3', '4', '5', '6', '7', '8', '9', 'a', 'b', 'c', 'd', 'e', 'f']

/-- The number that digits of either case write, most significant digit first. -/
def number? (cs : List Char) : Option Nat :=
  cs.foldlM (fun n c => (places.idxOf? c.toLower).map (16 * n + ·)) 0

theorem places_eq : places = List.ofFn digit := by decide

theorem idxOf?_toLower (c : Char) : places.idxOf? c.toLower = (digit? c).map Fin.val := by
  cases hc : digit? c with
  | some d =>
    have hplace : ∀ d : Fin 16, places.idxOf? (digit d) = some d.val := by decide
    rw [digit?_eq_some_iff.1 hc]
    exact hplace d
  | none =>
    rw [Option.map_none, List.idxOf?_eq_none_iff, places_eq, List.mem_ofFn]
    rintro ⟨d, hd⟩
    rw [digit?_eq_some_iff.2 hd.symm] at hc
    cases hc

/-- Digits are read one by one. -/
theorem number?_eq (cs : List Char) : number? cs = (cs.mapM digit?).map value := by
  suffices h : ∀ n, cs.foldlM (fun n c => (places.idxOf? c.toLower).map (16 * n + ·)) n =
      (cs.mapM digit?).map (List.foldl (fun n d => 16 * n + d.val) n) from h 0
  induction cs with
  | nil => simp
  | cons c cs ih =>
    intro n
    rw [List.foldlM_cons, List.mapM_cons, idxOf?_toLower]
    cases digit? c with
    | none => rfl
    | some d =>
      have hrest := ih (16 * n + d.val)
      simp only [Option.map_some, Option.bind_eq_bind, Option.bind_some, hrest]
      cases cs.mapM digit? <;> rfl

theorem number?_fixed {w n : Nat} (h : n < 16 ^ w) : number? (fixed w n) = some n := by
  rw [number?_eq, read_fixed h]

/-- The digits in lower case. -/
def isLower (c : Char) : Bool := ('0' ≤ c && c ≤ '9') || ('a' ≤ c && c ≤ 'f')

/-- A number is written in lower case. -/
theorem isLower_of_mem_fixed {w n : Nat} {c : Char} (h : c ∈ fixed w n) : isLower c = true := by
  have hdigit : ∀ d : Fin 16, isLower (digit d) = true := by decide
  induction w generalizing n with
  | zero => cases h
  | succ w ih =>
    rw [fixed, List.mem_append, List.mem_singleton] at h
    rcases h with h | rfl
    · exact ih h
    · exact hdigit _

end DiskQuota.Text.Hex
