import DiskQuota.Text.Hex

/-!
Globally unique identifiers: 32 hexadecimal digits, written in braces with dashes between groups of
8, 4, 4, 4 and 12. Reading and writing follow one layout. Reading takes digits of either case and
writing gives lower case, so texts that differ in case alone name the same identifier, and what is
written reads back (`ofChars?_chars`).
-/
namespace DiskQuota

/-- A 128-bit identifier, as its hexadecimal digits. -/
structure Guid where
  digits : List (Fin 16)
  length_digits : digits.length = 32
deriving DecidableEq

namespace Guid

/-- One place of the written form. -/
inductive Cell where
  | digit
  | mark (c : Char)
deriving DecidableEq

/-- The written form: a brace, groups of 8, 4, 4, 4 and 12 digits with dashes between, a brace. -/
def layout : List Cell :=
  .mark '\x7b' ::
    ((List.intersperse [.mark '-'] ([8, 4, 4, 4, 12].map (List.replicate · .digit))).flatten ++
      [.mark '\x7d'])

/-- The digits at the digit places of a text that fits the cells exactly. -/
def match? : List Cell → List Char → Option (List (Fin 16))
  | [], [] => some []
  | .digit :: cells, c :: cs => do return (← Text.Hex.digit? c) :: (← match? cells cs)
  | .mark m :: cells, c :: cs => if c = m then match? cells cs else none
  | _, _ => none

/-- The text that fits the cells, with the given digits at the digit places. -/
def fill : List Cell → List (Fin 16) → List Char
  | .digit :: cells, d :: ds => Text.Hex.digit d :: fill cells ds
  | .mark m :: cells, ds => m :: fill cells ds
  | _, _ => []

theorem length_of_match? {cells : List Cell} {cs : List Char} {ds : List (Fin 16)}
    (h : match? cells cs = some ds) : ds.length = cells.count .digit := by
  induction cells, cs using match?.induct generalizing ds with
  | case1 => simp_all [match?]
  | case2 cells c cs ih =>
    simp only [match?, bind, Option.bind_eq_some_iff] at h
    obtain ⟨d, _, rest, hrest, h⟩ := h
    cases h
    simp [ih hrest]
  | case3 cells m cs ih => simp [match?] at h; simp [ih h]
  | case4 m cells c cs hne => simp [match?, hne] at h
  | case5 => simp_all [match?]

theorem match?_fill {cells : List Cell} {ds : List (Fin 16)}
    (h : ds.length = cells.count .digit) : match? cells (fill cells ds) = some ds := by
  induction cells generalizing ds with
  | nil => simp_all [match?, fill]
  | cons cell cells ih =>
    cases cell with
    | digit =>
      cases ds with
      | nil => simp at h
      | cons d ds =>
        simp at h
        simp [match?, fill, Text.Hex.digit?_digit, ih h]
    | mark m =>
      simp at h
      simp [match?, fill, ih h]

theorem count_layout : layout.count .digit = 32 := by decide

/-- Reads the written form, hexadecimal digits in either case. -/
def ofChars? (cs : List Char) : Option Guid :=
  match h : match? layout cs with
  | some ds => some ⟨ds, (length_of_match? h).trans count_layout⟩
  | none => none

/-- The written form, in lower case. -/
def chars (g : Guid) : List Char := fill layout g.digits

theorem ofChars?_chars (g : Guid) : ofChars? g.chars = some g := by
  have h : match? layout g.chars = some g.digits :=
    match?_fill (g.length_digits.trans count_layout.symm)
  unfold ofChars?
  split
  · next ds hds =>
    rw [h] at hds
    cases hds
    rfl
  · next hds => rw [h] at hds; cases hds

def text (g : Guid) : String := String.ofList g.chars

end Guid
end DiskQuota
