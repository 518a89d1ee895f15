import DiskQuota.Guid
import DiskQuota.Proofs.Text.Hex
import Mathlib.Data.List.Basic

/-!
What names an identifier. A text is read as an identifier exactly if it is the written form of that
identifier with some digits in upper case (`ofChars?_eq_some_iff`); so nothing else about a text matters,
and two texts name the same identifier exactly if they differ in case alone.
-/
namespace DiskQuota.Guid

open Text.Hex

theorem mark_of_mem_layout {m : Char} (h : .mark m ∈ layout) : m = '-' ∨ m = '\x7b' ∨ m = '\x7d' := by
  simp only [layout] at h
  simpa [or_left_comm] using h

/-- A mark is written in one way. -/
theorem toLower_eq_mark_iff {m : Char} (h : .mark m ∈ layout) {c : Char} : c.toLower = m ↔ c = m := by
  have hmark : m.toNat = 45 ∨ m.toNat = 123 ∨ m.toNat = 125 := by
    rcases mark_of_mem_layout h with rfl | rfl | rfl <;> decide
  rw [← Char.toNat_inj, ← Char.toNat_inj, toNat_toLower]
  split <;> omega

/-- Cells are matched by what fills them, in either case. -/
theorem match?_eq_some_iff {cells : List Cell} (hcells : cells ⊆ layout) {cs : List Char}
    {ds : List (Fin 16)} (hds : ds.length = cells.count .digit) :
    match? cells cs = some ds ↔ cs.map Char.toLower = fill cells ds := by
  -- along the cells; a cell for a digit takes one digit with it
  induction cells generalizing cs ds with
  | nil =>
    obtain rfl : ds = [] := by simpa using hds
    cases cs <;> simp [match?, fill]
  | cons cell cells ih =>
    have hrest : cells ⊆ layout := fun _ h => hcells (List.mem_cons_of_mem _ h)
    cases cell with
    | digit =>
      cases ds with
      | nil => simp at hds
      | cons d ds =>
        have hds : ds.length = cells.count .digit := by simpa using hds
        cases cs with
        | nil => simp [match?, fill]
        | cons c cs => simp [match?, fill, ← ih hrest hds, ← digit?_eq_some_iff, Option.bind_eq_some_iff]
    | mark m =>
      have hds : ds.length = cells.count .digit := by simpa using hds
      have hmark : .mark m ∈ layout := hcells List.mem_cons_self
      cases cs with
      | nil => simp [match?, fill]
      | cons c cs => simp [match?, fill, ← ih hrest hds, toLower_eq_mark_iff hmark]

/-- A text names the identifier whose written form it is in lower case. -/
theorem ofChars?_eq_some_iff {cs : List Char} {g : Guid} :
    ofChars? cs = some g ↔ cs.map Char.toLower = g.chars := by
  have hlayout : match? layout cs = some g.digits ↔ cs.map Char.toLower = fill layout g.digits :=
    match?_eq_some_iff (List.Subset.refl layout) (g.length_digits.trans count_layout.symm)
  rw [chars, ← hlayout, ofChars?]
  split
  · next ds hds =>
    simp only [hds, Option.some.injEq]
    constructor
    · rintro rfl
      rfl
    · rintro rfl
      rfl
  · next hds => simp [hds]

end DiskQuota.Guid
