import DiskQuota.Json.Structure
import DiskQuota.Proofs.Text.Hex

/-!
What is written reads back. A text that reads as a value (`Reads`) does so before anything that may stand
behind a value. Strings do: every way in which a character is written is an escape that names it, or
the character itself (`charsFrom_quotedChar`). So do choices by name, and structures, whose members
fill in the fields one after the other (`Fills`).
-/
namespace DiskQuota.Json.Reader

/-! Escapes. -/

/-- Four hexadecimal digits are the unit that they write. -/
theorem hexUnit_run {us : List Char} (hlen : us.length = 4) {n : Nat}
    (h : Text.Hex.number? us = some n) (rest : List Char) :
    hexUnit.run (us ++ rest) = .ok (n.toUInt16, rest) := by
  obtain ⟨ds, hds, rfl⟩ := Option.map_eq_some_iff.1 ((Text.Hex.number?_eq us).symm.trans h)
  match us, hlen with
  | [a, b, c, d], _ =>
    simp only [hexUnit, List.cons_append, List.nil_append, hds]

/-- The unit of a control character is no surrogate and names it. -/
theorem escape_control {c : Char} (h : c.toNat < 0x20) (rest : List Char) :
    escape.run ('u' :: (Text.Hex.fixed 4 c.toNat ++ rest)) = .ok (c, rest) := by
  have hunit := hexUnit_run (Text.Hex.length_fixed 4 c.toNat)
    (Text.Hex.number?_fixed (show c.toNat < 16 ^ 4 by omega)) rest
  have hu : c.toNat.toUInt16.toNat = c.toNat := by simp; omega
  have hlow : Text.Utf16.isLow c.toNat.toUInt16 = false := by
    simp [Text.Utf16.isLow, UInt16.le_iff_toNat_le]
    omega
  have hhigh : Text.Utf16.isHigh c.toNat.toUInt16 = false := by
    simp [Text.Utf16.isHigh, UInt16.le_iff_toNat_le]
    omega
  simp [escape, unicodeEscape, run_bind, hunit, hlow, hhigh, hu]

theorem escape_short {e c : Char} (h : shortEscape? e = some c) (rest : List Char) :
    escape.run (e :: rest) = .ok (c, rest) := by
  have hu : e ≠ 'u' := by
    rintro rfl
    cases h
  simp [escape, run_bind, hu, h]

/-! Strings. -/

theorem charsFrom_escape {rest rest' acc : List Char} {c : Char} (h : escape.run rest = .ok (c, rest')) :
    charsFrom acc ('\x5c' :: rest) = charsFrom (c :: acc) rest' := by
  rw [charsFrom]
  simp only [Char.reduceEq, if_false, if_true]
  split
  · next h' =>
    rw [h] at h'
    cases h'
    rfl
  · next h' =>
    rw [h] at h'
    cases h'

theorem charsFrom_verbatim {c : Char} (hquote : c ≠ '\x22') (hbackslash : c ≠ '\x5c')
    (hcontrol : ¬ c.toNat < 0x20) (acc rest : List Char) :
    charsFrom acc (c :: rest) = charsFrom (c :: acc) rest := by
  rw [charsFrom, if_neg hquote, if_neg hbackslash, if_neg hcontrol]

/-- **A character is read from what is written for it**, whichever escape that is, or none. -/
theorem charsFrom_quotedChar (c : Char) (acc rest : List Char) :
    charsFrom acc (quotedChar c ++ rest) = charsFrom (c :: acc) rest := by
  unfold quotedChar
  split
  -- seven characters have escapes of their own
  iterate 7 exact charsFrom_escape (escape_short rfl rest)
  · next hquote hbackslash _ _ _ _ _ =>
    split
    · next hcontrol => exact charsFrom_escape (escape_control hcontrol rest)
    · next hcontrol => exact charsFrom_verbatim hquote hbackslash hcontrol acc rest

/-- The characters of a string, by induction on the text that it writes. -/
theorem charsFrom_quoted (cs acc rest : List Char) :
    charsFrom acc (cs.flatMap quotedChar ++ '\x22' :: rest) = .ok (acc.reverse ++ cs, rest) := by
  induction cs generalizing acc with
  | nil => simp [charsFrom]
  | cons c cs ih =>
    rw [List.flatMap_cons, List.append_assoc, charsFrom_quotedChar, ih]
    simp

/-- A text after its opening quote. -/
theorem text_run (s : String) (rest : List Char) :
    text.run (s.toList.flatMap quotedChar ++ '\x22' :: rest) = .ok (s, rest) := by
  have hchars : chars.run (s.toList.flatMap quotedChar ++ '\x22' :: rest) = .ok (s.toList, rest) :=
    charsFrom_quoted s.toList [] rest
  simp [text, run_bind, hchars]

/-! Values. -/

/-- What may stand behind a value: space, or what separates or ends, or nothing. -/
def EndsValue (rest : List Char) : Prop :=
  ∀ c ∈ rest.head?, isSpace c ∨ c = ',' ∨ c = ']' ∨ c = '\x7d'

/-- The text reads as the value. -/
def Reads {α : Type} (x : Reader α) (text : List Char) (a : α) : Prop :=
  ∀ rest, EndsValue rest → x.run (text ++ rest) = .ok (a, rest)

theorem valueStart_run {c : Char} (hc : isSpace c = false) (cs : List Char) :
    valueStart.run (c :: cs) = .ok (c, c :: cs) := by
  simp [valueStart, run_bind, hc]

namespace Reads

variable {α β : Type} {x : Reader α} {text : List Char} {a : α}

protected theorem map (h : Reads x text a) (f : α → β) : Reads (do return f (← x)) text (f a) := by
  intro rest hrest
  simp [run_bind, h rest hrest]

protected theorem string (s : String) : Reads Reader.string (quoteChars s.toList) s := by
  intro rest _
  have hstart := valueStart_run (c := '\x22') rfl (s.toList.flatMap quotedChar ++ '\x22' :: rest)
  simp [Reader.string, quoteChars, run_bind, hstart, text_run]

/-- A choice that carries nothing is read from its name. -/
protected theorem choice {choices : Choices α} {name : String}
    (h : choices.lookup name = some (.nothing a)) :
    Reads (Reader.choice choices) (quoteChars name.toList) a := by
  intro rest _
  have hstart := valueStart_run (c := '\x22') rfl (name.toList.flatMap quotedChar ++ '\x22' :: rest)
  simp [Reader.choice, choose, bare, quoteChars, run_bind, hstart, text_run, h]

/-- The value of a field that has not come before, after its key. -/
protected theorem once (h : Reads x text a) (name : String) :
    Reads (once name none x) (':' :: text) a := by
  intro rest hrest
  have hspace : isSpace ':' = false := rfl
  simp [Reader.once, colon, run_bind, hspace, h rest hrest]

/-- A document that is written without space around it. -/
protected theorem document (h : Reads x text a) : x.document (String.ofList text) = .ok a := by
  have hrun : x.run text = .ok (a, []) := by
    have := h [] (by simp [EndsValue])
    rwa [List.append_nil] at this
  simp [Reader.document, run_bind, hrun]

end Reads

/-! Structures. -/

section

variable {α β : Type} {field : β → String → Reader β} {key : String} {value rest : List Char}
  {members : List (String × List Char)} {b b' : β}

/-- The members, in order, take what was read so far from `b` on. -/
inductive Fills (field : β → String → Reader β) : β → List (String × List Char) → β → Prop where
  | nil (b : β) : Fills field b [] b
  | cons {b b' b'' : β} {key : String} {value : List Char} {members : List (String × List Char)}
    (hfield : Reads (field b key) (':' :: value) b') (hrest : Fills field b' members b'') :
    Fills field b ((key, value) :: members) b''

theorem membersFrom_of_end {first : Bool} {cs : List Char}
    (h : (nextKey first).run cs = .ok (false, rest)) :
    membersFrom field first b cs = .ok (b, rest) := by
  rw [membersFrom]
  split
  · next h' => rw [h] at h'; cases h'
  · next h' => rw [h] at h'; cases h'; rfl
  · next h' => rw [h] at h'; cases h'

theorem membersFrom_of_key {first : Bool} {cs mid : List Char}
    (h : (nextKey first).run cs = .ok (true, mid))
    (hfield : (text >>= field b).run mid = .ok (b', rest)) :
    membersFrom field first b cs = membersFrom field false b' rest := by
  rw [membersFrom]
  split
  · next h' => rw [h] at h'; cases h'
  · next h' => rw [h] at h'; cases h'
  · next h' =>
    rw [h] at h'
    cases h'
    split
    · next hfield' => rw [hfield] at hfield'; cases hfield'
    · next hfield' => rw [hfield] at hfield'; cases hfield'; rfl

theorem nextKey_end (first : Bool) (cs : List Char) :
    (nextKey first).run ('\x7d' :: cs) = .ok (false, '\x7d' :: cs) := by
  have hspace : isSpace '\x7d' = false := rfl
  simp [nextKey, run_bind, hspace]

theorem nextKey_first (cs : List Char) : (nextKey true).run ('\x22' :: cs) = .ok (true, cs) := by
  have hspace : isSpace '\x22' = false := rfl
  simp [nextKey, openKey, run_bind, hspace]

theorem nextKey_later (cs : List Char) : (nextKey false).run (',' :: '\x22' :: cs) = .ok (true, cs) := by
  have hcomma : isSpace ',' = false := rfl
  have hquote : isSpace '\x22' = false := rfl
  simp [nextKey, openKey, run_bind, hcomma, hquote]

/-- A member after the opening quote of its key. -/
theorem member_run (h : Reads (field b key) (':' :: value) b') (hrest : EndsValue rest) :
    (text >>= field b).run (key.toList.flatMap quotedChar ++ '\x22' :: (':' :: value ++ rest)) =
      .ok (b', rest) := by
  rw [run_bind, text_run]
  exact h rest hrest

/-- Members behind others, each after its comma, and the brace that ends the object. -/
def laterChars (members : List (String × List Char)) (rest : List Char) : List Char :=
  (members.flatMap fun m => ',' :: memberChars m.1 m.2) ++ '\x7d' :: rest

theorem laterChars_cons (key : String) (value : List Char) (members : List (String × List Char))
    (rest : List Char) :
    laterChars ((key, value) :: members) rest =
      ',' :: '\x22' :: (key.toList.flatMap quotedChar ++
        '\x22' :: (':' :: value ++ laterChars members rest)) := by
  simp [laterChars, memberChars, quoteChars]

theorem intercalate_cons {α : Type} (sep l : List α) (ls : List (List α)) :
    sep.intercalate (l :: ls) = l ++ ls.flatMap (sep ++ ·) := by
  induction ls generalizing l with
  | nil => simp
  | cons l' ls ih =>
    rw [List.intercalate_cons_cons, ih, List.flatMap_cons, List.append_assoc, List.append_assoc]

theorem objectChars_cons (key : String) (value : List Char) (members : List (String × List Char))
    (rest : List Char) :
    objectChars ((key, value) :: members) ++ rest =
      '\x7b' :: '\x22' :: (key.toList.flatMap quotedChar ++
        '\x22' :: (':' :: value ++ laterChars members rest)) := by
  rw [objectChars, List.map_cons, intercalate_cons, List.flatMap_map]
  simp [laterChars, memberChars, quoteChars]

theorem endsValue_laterChars (members : List (String × List Char)) (rest : List Char) :
    EndsValue (laterChars members rest) := by
  cases members with
  | nil => simp [EndsValue, laterChars]
  | cons m members => simp [EndsValue, laterChars]

/-- The members behind others, by induction on them. -/
theorem Fills.later (h : Fills field b members b') (rest : List Char) :
    membersFrom field false b (laterChars members rest) = .ok (b', '\x7d' :: rest) := by
  induction h with
  | nil b => exact membersFrom_of_end (nextKey_end false rest)
  | cons hfield hmembers ih =>
    rw [laterChars_cons, membersFrom_of_key (nextKey_later _)
      (member_run hfield (endsValue_laterChars _ rest)), ih]

/-- The members of an object, after its opening brace. -/
theorem Fills.run (h : Fills field b members b') (rest : List Char) :
    ∃ cs, objectChars members ++ rest = '\x7b' :: cs ∧
      (Reader.members field b).run cs = .ok (b', '\x7d' :: rest) := by
  cases h with
  | nil b => exact ⟨'\x7d' :: rest, rfl, membersFrom_of_end (nextKey_end true rest)⟩
  | @cons _ b'' _ key value members hfield hmembers =>
    refine ⟨_, objectChars_cons key value members rest, ?_⟩
    show membersFrom field true b _ = _
    rw [membersFrom_of_key (nextKey_first _) (member_run hfield (endsValue_laterChars _ rest)),
      hmembers.later]

/-- A structure is read from an object with fields that are filled in one after the other. -/
theorem Fills.structured (h : Fills field b members b') {a : α} {finish : β → Reader α}
    (hfinish : ∀ rest, (finish b').run rest = .ok (a, rest)) (wanted : String) (listed : Reader α) :
    Reads
      (Reader.structured wanted listed do
        let g ← Reader.members field b
        skip
        finish g)
      (objectChars members) a := by
  intro rest _
  obtain ⟨cs, hcs, hmembers⟩ := h.run rest
  have hstart := valueStart_run (c := '\x7b') rfl cs
  simp [Reader.structured, hcs, run_bind, hstart, hmembers, hfinish]

end

end DiskQuota.Json.Reader
