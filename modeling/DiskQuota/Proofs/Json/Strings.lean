import DiskQuota.Proofs.Json.Source
import DiskQuota.Proofs.Json.Written
import DiskQuota.Proofs.Text.Utf16

/-!
Strings in every spelling. A string is read exactly if its units are a text (`text_run?`), however each of
them is spelled; a string that is passed over need not be a text (`skipText_run`). What a reader takes
off a text, its faults aside, is `run?`.
-/
namespace DiskQuota.Json

namespace Reader

variable {α β : Type}

/-- What a reader takes, if it takes anything. -/
def run? (x : Reader α) (cs : List Char) : Option (α × List Char) := (x.run cs).toOption

section

variable {x : Reader α} {cs : List Char}

theorem run?_eq_some_iff {r : α × List Char} : x.run? cs = some r ↔ x.run cs = .ok r := by
  rw [run?]
  cases x.run cs <;> simp [Except.toOption]

theorem run?_of_run {r : α × List Char} (h : x.run cs = .ok r) : x.run? cs = some r :=
  run?_eq_some_iff.2 h

theorem run?_bind (x : Reader α) (f : α → Reader β) (cs : List Char) :
    (x >>= f).run? cs = (x.run? cs).bind fun r => (f r.1).run? r.2 := by
  rw [run?, run?, run_bind]
  cases x.run cs <;> rfl

@[simp] theorem run?_pure (a : α) (cs : List Char) :
    (pure a : Reader α).run? cs = some (a, cs) := rfl

@[simp] theorem run?_fail (fault : List Char → Fault) (cs : List Char) :
    (fail fault : Reader α).run? cs = none := rfl

@[simp] theorem run?_look (cs : List Char) : look.run? cs = some (cs.head?, cs) := rfl

@[simp] theorem run?_skip (c : Char) (cs : List Char) : skip.run? (c :: cs) = some ((), cs) := rfl

@[simp] theorem run?_space (cs : List Char) :
    space.run? cs = some ((), cs.dropWhile isSpace) := rfl

@[simp] theorem run?_takeWhile (p : Char → Bool) (cs : List Char) :
    (takeWhile p).run? cs = some (cs.takeWhile p, cs.dropWhile p) := rfl

end

/-! Escapes of units. -/

/-- What has to follow the escape of a unit that opens a pair. -/
def partner (u : UInt16) : Reader Char := do
  goOn '\x5c'
  goOn 'u'
  let v ← hexUnit
  if Text.Utf16.isLow v then pure (Text.Utf16.ofPair u v) else fail (.here .loneSurrogate)

section

variable {digits : List Char} {n : Nat} (four : digits.length = 4)
  (reads : Text.Hex.number? digits = some n)

include four reads

theorem hexUnit_run? (rest : List Char) :
    hexUnit.run? (digits ++ rest) = some (n.toUInt16, rest) :=
  run?_of_run (hexUnit_run four reads rest)

/-- The escape of a unit, after its letter. -/
theorem escape_unit (rest : List Char) : escape.run? ('u' :: (digits ++ rest)) =
    if Text.Utf16.isLow n.toUInt16 then none
    else if Text.Utf16.isHigh n.toUInt16 then (partner n.toUInt16).run? rest
    else some (Char.ofNat n.toUInt16.toNat, rest) := by
  have hescape : escape.run? ('u' :: (digits ++ rest)) = unicodeEscape.run? (digits ++ rest) := by
    simp [escape, run?_bind]
  rw [hescape, unicodeEscape, run?_bind, hexUnit_run? four reads, Option.bind_some]
  split
  · rfl
  · split <;> rfl

/-- A unit closes the pair that a unit before it opens if it can. -/
theorem partner_unit (u : UInt16) (rest : List Char) :
    (partner u).run? ('\x5c' :: 'u' :: (digits ++ rest)) =
      if Text.Utf16.isLow n.toUInt16 then some (Text.Utf16.ofPair u n.toUInt16, rest) else none := by
  have hgoOn : ∀ (c : Char) (cs : List Char), (goOn c).run? (c :: cs) = some ((), cs) := by
    intro c cs
    simp [goOn, run?_bind]
  rw [partner, run?_bind, hgoOn, Option.bind_some, run?_bind, hgoOn, Option.bind_some, run?_bind,
    hexUnit_run? four reads, Option.bind_some]
  split <;> rfl

end

/-- Nothing but another escape of a unit closes a pair. -/
theorem partner_of_ne {c : Char} (h : c ≠ '\x5c') (u : UInt16) (rest : List Char) :
    (partner u).run? (c :: rest) = none := by
  simp [partner, goOn, run?_bind, h]

/-- The escape of a unit is none of one letter. -/
theorem ne_unit_of_mem {letter c : Char} (h : (letter, c) ∈ shortEscapes) : letter ≠ 'u' := by
  rintro rfl
  cases shortEscape?_of_mem h

theorem partner_short {letter c : Char} (h : (letter, c) ∈ shortEscapes) (u : UInt16)
    (rest : List Char) : (partner u).run? ('\x5c' :: letter :: rest) = none := by
  have hu := ne_unit_of_mem h
  simp [partner, goOn, run?_bind, hu]

/-! The units of a character stand for it alone. -/

theorem units_head_not_low (c : Char) (us : List UInt16) :
    ∀ v ∈ (Text.Utf16.units c ++ us).head?, Text.Utf16.isLow v = false := by
  have hread : Text.Utf16.decode? (Text.Utf16.units c) = some [c] := by
    simpa [Text.Utf16.decode?] using Text.Utf16.decode?_units_append c []
  cases hunits : Text.Utf16.units c with
  | nil =>
    rw [hunits] at hread
    cases hread
  | cons u rest =>
    intro v hv
    cases hv
    by_contra hlow
    rw [hunits, Text.Utf16.decode?_low (Bool.not_eq_false _ ▸ hlow)] at hread
    cases hread

/-! Strings that are read. -/

/-- What closes a pair among the pieces of a string: the escape of a unit that can. -/
def Closes (n : Nat) (ps qs : Pieces) : Prop :=
  ∃ digits four reads, ps = .unit digits n four reads :: qs ∧ Text.Utf16.isLow n.toUInt16 = true

theorem closes_or (u : UInt16) (ps : Pieces) (rest : List Char) :
    (∃ n qs, Closes n ps qs) ∨
      (partner u).run? (ps.inside ++ '\x22' :: rest) = none ∧
        ∀ v ∈ (ps.flatMap Piece.units).head?, Text.Utf16.isLow v = false := by
  match ps with
  | [] => exact .inr ⟨partner_of_ne (by decide) u rest, by simp⟩
  | .plain c _ backslash _ :: ps => exact .inr ⟨partner_of_ne backslash u _, units_head_not_low c _⟩
  | .short letter c stands :: ps => exact .inr ⟨partner_short stands u _, units_head_not_low c _⟩
  | .unit digits n four reads :: ps =>
    by_cases hlow : Text.Utf16.isLow n.toUInt16 = true
    · exact .inl ⟨n, ps, digits, four, reads, rfl, hlow⟩
    · refine .inr ⟨?_, fun v hv => ?_⟩
      · rw [Pieces.inside_unit, List.cons_append, List.cons_append, List.append_assoc,
          partner_unit four reads, if_neg hlow]
      · cases hv
        simpa using hlow

theorem charsFrom_of_escape {acc rest : List Char} {r : Option (Char × List Char)}
    (h : escape.run? rest = r) : (charsFrom acc ('\x5c' :: rest)).toOption =
      r.bind fun r => (charsFrom (r.1 :: acc) r.2).toOption := by
  cases r with
  | some r => rw [charsFrom_escape (run?_eq_some_iff.1 h)]; rfl
  | none =>
    rw [charsFrom]
    simp only [Char.reduceEq, if_false, if_true]
    split
    · next h' => rw [run?_of_run h'] at h; cases h
    · rfl

/-- The characters of a string, piece by piece; a pair of units takes two. -/
theorem charsFrom_pieces (ps : Pieces) (acc rest : List Char) :
    (charsFrom acc (ps.inside ++ '\x22' :: rest)).toOption =
      (Text.Utf16.decode? (ps.flatMap Piece.units)).map fun cs => (acc.reverse ++ cs, rest) := by
  match ps with
  | [] => simp [Pieces.inside, charsFrom, Text.Utf16.decode?, Except.toOption]
  | .plain c quote backslash control :: ps =>
    have ih := charsFrom_pieces ps (c :: acc) rest
    rw [Pieces.inside_plain, List.cons_append, charsFrom_verbatim quote backslash control, ih,
      List.flatMap_cons, Piece.units, Text.Utf16.decode?_units_append, Option.map_map]
    simp [Function.comp_def]
  | .short letter c stands :: ps =>
    have ih := charsFrom_pieces ps (c :: acc) rest
    rw [Pieces.inside_short, List.cons_append, List.cons_append, charsFrom_escape
      (escape_short (shortEscape?_of_mem stands) _),
      ih, List.flatMap_cons, Piece.units, Text.Utf16.decode?_units_append, Option.map_map]
    simp [Function.comp_def]
  | .unit digits n four reads :: ps =>
    rw [Pieces.inside_unit, List.cons_append, List.cons_append, List.append_assoc,
      charsFrom_of_escape (escape_unit four reads _), List.flatMap_cons, Piece.units,
      List.singleton_append]
    by_cases hlow : Text.Utf16.isLow n.toUInt16 = true
    · rw [if_pos hlow, Text.Utf16.decode?_low hlow]
      rfl
    rw [if_neg hlow]
    by_cases hhigh : Text.Utf16.isHigh n.toUInt16 = true
    · rw [if_pos hhigh]
      rcases closes_or n.toUInt16 ps rest with
        ⟨n', qs, digits', four', reads', rfl, hlow'⟩ | ⟨hrun, hunits⟩
      · have ih := charsFrom_pieces qs (Text.Utf16.ofPair n.toUInt16 n'.toUInt16 :: acc) rest
        rw [Pieces.inside_unit, List.cons_append, List.cons_append, List.append_assoc,
          partner_unit four' reads', if_pos hlow', Option.bind_some, ih, List.flatMap_cons, Piece.units,
          List.singleton_append, Text.Utf16.decode?_pair hhigh hlow', Option.map_map]
        simp [Function.comp_def]
      · rw [hrun, Text.Utf16.decode?_high hhigh hunits]
        rfl
    · have ih := charsFrom_pieces ps (Char.ofNat n.toUInt16.toNat :: acc) rest
      rw [if_neg hhigh, Text.Utf16.decode?_single (by simpa using hhigh) (by simpa using hlow),
        Option.bind_some, ih, Option.map_map]
      simp [Function.comp_def]
  termination_by ps.length

/-- A string after its opening quote. -/
theorem text_run? (ps : Pieces) (rest : List Char) :
    text.run? (ps.inside ++ '\x22' :: rest) = ps.text?.map (·, rest) := by
  have hchars : chars.run? (ps.inside ++ '\x22' :: rest) = _ := charsFrom_pieces ps [] rest
  rw [text, run?_bind, hchars, Pieces.text?]
  cases Text.Utf16.decode? (ps.flatMap Piece.units) <;> rfl

/-! Strings that are passed over. -/

theorem skipCharsFrom_of_escape {rest rest' : List Char} (h : skipEscape.run rest = .ok ((), rest')) :
    skipCharsFrom ('\x5c' :: rest) = skipCharsFrom rest' := by
  rw [skipCharsFrom]
  simp only [Char.reduceEq, if_false, if_true]
  split
  · next h' =>
    rw [h] at h'
    cases h'
    rfl
  · next h' =>
    rw [h] at h'
    cases h'

theorem skipText_run (ps : Pieces) (rest : List Char) :
    skipText.run (ps.inside ++ '\x22' :: rest) = .ok ((), rest) := by
  show skipCharsFrom _ = _
  induction ps with
  | nil => simp [Pieces.inside, skipCharsFrom]
  | cons p ps ih =>
    cases p with
    | plain c quote backslash control =>
      rw [Pieces.inside_plain, List.cons_append, skipCharsFrom, if_neg quote, if_neg backslash,
        if_neg control, ih]
    | short letter c stands =>
      have hu := ne_unit_of_mem stands
      have hskip : ∀ cs, skipEscape.run (letter :: cs) = .ok ((), cs) := by
        intro cs
        simp [skipEscape, run_bind, hu, shortEscape?_of_mem stands]
      rw [Pieces.inside_short, List.cons_append, List.cons_append, skipCharsFrom_of_escape (hskip _), ih]
    | unit digits n four reads =>
      have hskip : ∀ cs, skipEscape.run ('u' :: (digits ++ cs)) = .ok ((), cs) := by
        intro cs
        simp [skipEscape, run_bind, hexUnit_run four reads]
      rw [Pieces.inside_unit, List.cons_append, List.cons_append, List.append_assoc,
        skipCharsFrom_of_escape (hskip _), ih]

end Reader

/-- The text of a string is the one whose units its pieces stand for. -/
theorem Pieces.text?_eq_some_iff {ps : Pieces} {s : String} :
    ps.text? = some s ↔ ps.flatMap Piece.units = Text.Utf16.encode s.toList := by
  rw [text?, Option.map_eq_some_iff]
  simp only [Text.Utf16.decode?_eq_some_iff]
  constructor
  · rintro ⟨cs, hcs, rfl⟩
    rw [String.toList_ofList, hcs]
  · intro h
    exact ⟨s.toList, h.symm, String.ofList_toList⟩

/-! Every text has a spelling. -/

/-- A character as it stands in a string, escaped where it has to be. -/
def Piece.ofChar (c : Char) : Piece :=
  if quote : c = '\x22' then .short '\x22' '\x22' List.mem_cons_self
  else if backslash : c = '\x5c' then .short '\x5c' '\x5c' (List.mem_cons_of_mem _ List.mem_cons_self)
  else if control : c.toNat < 0x20 then
    .unit (Text.Hex.fixed 4 c.toNat) c.toNat (Text.Hex.length_fixed 4 _)
      (Text.Hex.number?_fixed (by omega))
  else .plain c quote backslash control

theorem Piece.units_ofChar (c : Char) : (ofChar c).units = Text.Utf16.units c := by
  unfold ofChar
  split
  · next h => rw [h]; rfl
  · split
    · next h => rw [h]; rfl
    · split
      · next h => rw [Text.Utf16.units, if_pos (by omega)]; rfl
      · rfl

/-- A text, character by character. -/
def Pieces.ofText (s : String) : Pieces := s.toList.map Piece.ofChar

theorem Pieces.text?_ofText (s : String) : (ofText s).text? = some s := by
  rw [text?_eq_some_iff]
  simp only [ofText, List.flatMap_map, Piece.units_ofChar, Text.Utf16.encode]

/-- The string of a text. -/
def Source.text (s : String) : Source := .string (.ofText s)

end DiskQuota.Json
