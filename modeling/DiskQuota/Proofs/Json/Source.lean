import DiskQuota.Json.Values
import DiskQuota.Proofs.Text.Hex

/-!
The source of JSON values, as data: every way in which a value can be written, with the space between its
tokens and the spelling of its strings and numbers. What cannot be built here is no JSON. What a reader
makes of a value can then be told for all spellings at once.
-/
namespace DiskQuota.Json

/-- The characters that may stand between tokens. -/
def whitespace : List Char := [' ', '\t', '\n', '\r']

theorem Reader.isSpace_iff {c : Char} : isSpace c = true ↔ c ∈ whitespace := by
  simp [isSpace, whitespace, or_assoc]

theorem Reader.isSpace_eq_false_iff {c : Char} : isSpace c = false ↔ c ∉ whitespace := by
  rw [← isSpace_iff, Bool.not_eq_true]

/-- Space between tokens. -/
structure Space where
  chars : List Char
  space : ∀ c ∈ chars, c ∈ whitespace

/-- No space. -/
def Space.none : Space := ⟨[], nofun⟩

def Space.blank : Space := ⟨[' '], List.forall_mem_singleton.2 List.mem_cons_self⟩

theorem Space.isSpace (ws : Space) : ∀ c ∈ ws.chars, Reader.isSpace c = true :=
  fun c hc => Reader.isSpace_iff.2 (ws.space c hc)

/-- One digit or more. -/
structure Digits where
  chars : List Char
  ne_nil : chars ≠ []
  digits : ∀ c ∈ chars, c.isDigit = true

theorem Digits.decimal (ds : Digits) : ∀ c ∈ ds.chars, isDigit c = true := ds.digits

/-- The one-letter escapes, each with the character that it stands for. -/
def shortEscapes : List (Char × Char) :=
  [('\x22', '\x22'), ('\x5c', '\x5c'), ('/', '/'), ('b', '\x08'), ('f', '\x0c'), ('n', '\n'),
    ('r', '\r'), ('t', '\t')]

theorem shortEscape?_of_mem {letter c : Char} (h : (letter, c) ∈ shortEscapes) :
    shortEscape? letter = some c := by
  simp only [shortEscapes, List.mem_cons, Prod.mk.injEq, List.not_mem_nil, or_false] at h
  rcases h with ⟨rfl, rfl⟩ | ⟨rfl, rfl⟩ | ⟨rfl, rfl⟩ | ⟨rfl, rfl⟩ | ⟨rfl, rfl⟩ | ⟨rfl, rfl⟩ |
    ⟨rfl, rfl⟩ | ⟨rfl, rfl⟩ <;> rfl

/-- What follows the digits of a number: a power of ten. -/
structure Exponent where
  capital : Bool
  /-- Whether it is a minus, if there is a sign. -/
  sign : Option Bool
  digits : Digits

structure Numeral where
  minus : Bool
  whole : Digits
  /-- A zero in front stands alone. -/
  zero_alone : whole.chars.head? = some '0' → whole.chars = ['0']
  fraction : Option Digits
  exponent : Option Exponent

/-- A piece of a string: a character that stands for itself, a one-letter escape, or the escape of a
unit by its hexadecimal digits, which need not be a character of its own. -/
inductive Piece where
  | plain (c : Char) (quote : c ≠ '\x22') (backslash : c ≠ '\x5c') (control : ¬c.toNat < 0x20)
  | short (letter c : Char) (stands : (letter, c) ∈ shortEscapes)
  | unit (digits : List Char) (n : Nat) (four : digits.length = 4)
    (reads : Text.Hex.number? digits = some n)

/-- The inside of a string, piece by piece. -/
abbrev Pieces := List Piece

mutual

/-- A value as it is written. -/
inductive Source where
  | null
  | boolean (b : Bool)
  | number (n : Numeral)
  | string (ps : Pieces)
  | emptyList (inside : Space)
  | list (es : Elements)
  | emptyObject (inside : Space)
  | object (ms : Members)

/-- The elements of a list, of which there is at least one. -/
inductive Elements where
  | last (before : Space) (value : Source) (after : Space)
  | more (before : Space) (value : Source) (after : Space) (rest : Elements)

/-- The members of an object, of which there is at least one. -/
inductive Members where
  | last (before : Space) (key : Pieces) (colon : Space) (between : Space) (value : Source)
    (after : Space)
  | more (before : Space) (key : Pieces) (colon : Space) (between : Space) (value : Source)
    (after : Space) (rest : Members)

end

/-- An object as it is written. -/
inductive Object where
  | empty (inside : Space)
  | full (ms : Members)

/-! ## Spelling -/

def Exponent.chars (e : Exponent) : List Char :=
  (if e.capital then 'E' else 'e') ::
    ((e.sign.elim [] fun minus => [if minus then '-' else '+']) ++ e.digits.chars)

/-- What follows the digits before the point. -/
def Numeral.tail (n : Numeral) : List Char :=
  (n.fraction.elim [] fun ds => '.' :: ds.chars) ++ n.exponent.elim [] Exponent.chars

def Numeral.chars (n : Numeral) : List Char :=
  (if n.minus then ['-'] else []) ++ (n.whole.chars ++ n.tail)

def Piece.chars : Piece → List Char
  | plain c .. => [c]
  | short letter .. => ['\x5c', letter]
  | unit digits .. => '\x5c' :: 'u' :: digits

def Pieces.inside (ps : Pieces) : List Char := ps.flatMap Piece.chars

theorem Pieces.inside_plain {c : Char} {quote backslash control} {ps : Pieces} :
    Pieces.inside (.plain c quote backslash control :: ps) = c :: ps.inside := rfl

theorem Pieces.inside_short {letter c : Char} {stands} {ps : Pieces} :
    Pieces.inside (.short letter c stands :: ps) = '\x5c' :: letter :: ps.inside := rfl

theorem Pieces.inside_unit {digits : List Char} {n : Nat} {four reads} {ps : Pieces} :
    Pieces.inside (.unit digits n four reads :: ps) = '\x5c' :: 'u' :: (digits ++ ps.inside) := rfl

/-- A string with its quotes. -/
def Pieces.chars (ps : Pieces) : List Char := '\x22' :: (Pieces.inside ps ++ ['\x22'])

theorem Pieces.chars_append (ps : Pieces) (cs : List Char) :
    ps.chars ++ cs = '\x22' :: (ps.inside ++ '\x22' :: cs) := by
  simp [Pieces.chars]

mutual

def Source.chars : Source → List Char
  | .null => ['n', 'u', 'l', 'l']
  | .boolean b => if b then ['t', 'r', 'u', 'e'] else ['f', 'a', 'l', 's', 'e']
  | .number n => n.chars
  | .string ps => Pieces.chars ps
  | .emptyList inside => '[' :: (inside.chars ++ [']'])
  | .list es => '[' :: (es.chars ++ [']'])
  | .emptyObject inside => '\x7b' :: (inside.chars ++ ['\x7d'])
  | .object ms => '\x7b' :: (ms.chars ++ ['\x7d'])

def Elements.chars : Elements → List Char
  | .last before value after => before.chars ++ (value.chars ++ after.chars)
  | .more before value after rest =>
    before.chars ++ (value.chars ++ (after.chars ++ ',' :: rest.chars))

def Members.chars : Members → List Char
  | .last before key colon between value after =>
    before.chars ++ (Pieces.chars key ++ (colon.chars ++
      ':' :: (between.chars ++ (value.chars ++ after.chars))))
  | .more before key colon between value after rest =>
    before.chars ++ (Pieces.chars key ++ (colon.chars ++
      ':' :: (between.chars ++ (value.chars ++ (after.chars ++ ',' :: rest.chars)))))

end

def Object.chars : Object → List Char
  | empty inside => (Source.emptyObject inside).chars
  | full ms => (Source.object ms).chars

/-! What the parts of a value start with. -/

theorem Digits.exists_cons (ds : Digits) : ∃ c cs, ds.chars = c :: cs ∧ isDigit c = true := by
  cases h : ds.chars with
  | nil => exact absurd h ds.ne_nil
  | cons c cs => exact ⟨c, cs, rfl, ds.digits c (by simp [h])⟩

theorem Exponent.exists_cons (e : Exponent) :
    ∃ c, Reader.isExponent (some c) = true ∧ isDigit c = false ∧ c ≠ '.' ∧
      ∀ cs, e.chars ++ cs =
        c :: ((e.sign.elim [] fun minus => [if minus then '-' else '+']) ++ (e.digits.chars ++ cs)) := by
  cases hcapital : e.capital with
  | true => exact ⟨'E', rfl, rfl, by decide, fun cs => by simp [Exponent.chars, hcapital]⟩
  | false => exact ⟨'e', rfl, rfl, by decide, fun cs => by simp [Exponent.chars, hcapital]⟩

/-- The first character of a numeral. -/
def Numeral.first (n : Numeral) : Char := if n.minus then '-' else n.whole.chars.head n.whole.ne_nil

/-- The first character of a value, which tells its kind. -/
def Source.first : Source → Char
  | .null => 'n'
  | .boolean b => if b then 't' else 'f'
  | .number n => n.first
  | .string _ => '\x22'
  | .emptyList _ | .list _ => '['
  | .emptyObject _ | .object _ => '\x7b'

theorem Numeral.exists_cons (n : Numeral) : ∃ cs, n.chars = n.first :: cs := by
  cases hminus : n.minus with
  | true => exact ⟨n.whole.chars ++ n.tail, by simp [Numeral.chars, Numeral.first, hminus]⟩
  | false =>
    obtain ⟨c, cs, hc, -⟩ := n.whole.exists_cons
    exact ⟨cs ++ n.tail, by simp [Numeral.chars, Numeral.first, hminus, hc]⟩

theorem Numeral.first_cases (n : Numeral) : n.first = '-' ∨ isDigit n.first = true := by
  rw [Numeral.first]
  split
  · exact .inl rfl
  · exact .inr (n.whole.digits _ (List.head_mem _))

theorem Source.exists_cons (v : Source) : ∃ cs, v.chars = v.first :: cs := by
  cases v with
  | boolean b => cases b <;> exact ⟨_, rfl⟩
  | number n => exact n.exists_cons
  | _ => exact ⟨_, rfl⟩

theorem Source.startsValue_first (v : Source) : Reader.startsValue v.first = true := by
  cases v with
  | boolean b => cases b <;> rfl
  | number n =>
    rcases n.first_cases with h | h
    · rw [Source.first, h]
      rfl
    · rw [Source.first, Reader.startsValue, h]
      rfl
  | _ => rfl

theorem Elements.exists_cons (es : Elements) :
    ∃ (ws : Space) (c : Char) (cs : List Char), es.chars = ws.chars ++ c :: cs ∧
      Reader.startsValue c = true := by
  cases es with
  | last before value after =>
    obtain ⟨cs, hcs⟩ := value.exists_cons
    exact ⟨before, value.first, _, by rw [Elements.chars, hcs, List.cons_append],
      value.startsValue_first⟩
  | more before value after rest =>
    obtain ⟨cs, hcs⟩ := value.exists_cons
    exact ⟨before, value.first, _, by rw [Elements.chars, hcs, List.cons_append],
      value.startsValue_first⟩

/-! The first character tells strings, objects and nulls from all else. -/

theorem Numeral.first_ne {n : Numeral} {c : Char} (hminus : c ≠ '-') (hdigit : isDigit c = false) :
    n.first ≠ c := by
  rintro rfl
  rcases n.first_cases with h | h
  · exact hminus h
  · rw [h] at hdigit
    cases hdigit

theorem Source.eq_string_of_first {v : Source} (h : v.first = '\x22') : ∃ ps, v = .string ps := by
  cases v with
  | string ps => exact ⟨ps, rfl⟩
  | boolean b => cases b <;> cases h
  | number n => exact absurd h (Numeral.first_ne (by decide) rfl)
  | _ => cases h

theorem Source.eq_null_of_first {v : Source} (h : v.first = 'n') : v = .null := by
  cases v with
  | null => rfl
  | boolean b => cases b <;> cases h
  | number n => exact absurd h (Numeral.first_ne (by decide) rfl)
  | _ => cases h

theorem Source.eq_object_of_first {v : Source} (h : v.first = '\x7b') :
    (∃ inside, v = .emptyObject inside) ∨ ∃ ms, v = .object ms := by
  cases v with
  | emptyObject inside => exact .inl ⟨inside, rfl⟩
  | object ms => exact .inr ⟨ms, rfl⟩
  | boolean b => cases b <;> cases h
  | number n => exact absurd h (Numeral.first_ne (by decide) rfl)
  | _ => cases h

/-! ## Meaning -/

/-- The units that a piece stands for. -/
def Piece.units : Piece → List UInt16
  | plain c .. => Text.Utf16.units c
  | short _ c _ => Text.Utf16.units c
  | unit _ n .. => [n.toUInt16]

/-- The text of a string, if its units are one. -/
def Pieces.text? (ps : Pieces) : Option String :=
  (Text.Utf16.decode? (ps.flatMap Piece.units)).map String.ofList

/-- The text that a value is, if it is a string of one. -/
def Source.text? : Source → Option String
  | .string ps => Pieces.text? ps
  | _ => none

/-- The members, in order. -/
def Members.list : Members → List (Pieces × Source)
  | .last _ key _ _ value _ => [(key, value)]
  | .more _ key _ _ value _ rest => (key, value) :: rest.list

def Object.members : Object → List (Pieces × Source)
  | empty _ => []
  | full ms => ms.list

/-- The members whose keys are texts, by those. -/
def byText (ms : List (Pieces × Source)) : List (String × Source) :=
  ms.filterMap fun m => m.1.text?.map (·, m.2)

/-- A document that holds an object, with space around it. -/
structure ObjectDocument where
  before : Space
  object : Object
  after : Space

namespace ObjectDocument

variable (d : ObjectDocument)

def chars : List Char := d.before.chars ++ (d.object.chars ++ d.after.chars)

def text : String := String.ofList d.chars

/-- The keys are texts. -/
def Keyed : Prop := ∀ m ∈ d.object.members, m.1.text?.isSome = true

def named : List (String × Source) := byText d.object.members

end ObjectDocument

end DiskQuota.Json
