/-!
Hexadecimal digits as characters. Digits are written in lower case and read in either case, so that
what is written reads back (`digit?_digit`), and a number written at a fixed width has exactly that
many digits (`length_fixed`).
-/
namespace DiskQuota.Text.Hex

/-- The lower-case character of a digit. -/
def digit (d : Fin 16) : Char :=
  if d.val < 10 then Char.ofNat (48 + d.val) else Char.ofNat (87 + d.val)

/-- The digit that a character of either case stands for. -/
def digit? (c : Char) : Option (Fin 16) :=
  if h : 48 ≤ c.toNat ∧ c.toNat ≤ 57 then some ⟨c.toNat - 48, by omega⟩
  else if h : 97 ≤ c.toNat ∧ c.toNat ≤ 102 then some ⟨c.toNat - 87, by omega⟩
  else if h : 65 ≤ c.toNat ∧ c.toNat ≤ 70 then some ⟨c.toNat - 55, by omega⟩
  else none

theorem digit?_digit : ∀ d : Fin 16, digit? (digit d) = some d := by decide

/-- The number that a list of digits writes, most significant digit first. -/
def value (ds : List (Fin 16)) : Nat := ds.foldl (fun n d => 16 * n + d.val) 0

/-- The last `width` digits of `n`, zeros in front. -/
def fixed : (width : Nat) → (n : Nat) → List Char
  | 0, _ => []
  | w + 1, n => fixed w (n / 16) ++ [digit ⟨n % 16, Nat.mod_lt _ (by decide)⟩]

@[simp] theorem length_fixed (w n : Nat) : (fixed w n).length = w := by
  induction w generalizing n with
  | zero => rfl
  | succ w ih => simp [fixed, ih]

/-- The digits of `n` without zeros in front. -/
def minimal (n : Nat) : List Char := Nat.toDigits 16 n

end DiskQuota.Text.Hex
