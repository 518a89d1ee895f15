import DiskQuota.Json.Error

/-!
Readers of JSON text. A reader takes characters off the front of the text and answers with a value and
the text that is left, or with a fault. That the text left is no longer than the text given is part of
the type (`Reader.rest_le`), so loops over readers end with the text. A fault says where reading
stopped by the text still to come and the bytes of it that lie before the place.
-/
namespace DiskQuota.Json

/-- A place in a text: the bytes of `rest` from the place on, less the first `past`. -/
structure Mark where
  rest : List Char
  past : Nat

structure Fault where
  cause : Cause
  mark : Option Mark

namespace Fault

/-- A fault where reading stopped. -/
def here (cause : Cause) (rest : List Char) : Fault := ⟨cause, some ⟨rest, 0⟩⟩

/-- A fault at the byte to come. -/
def next (cause : Cause) (rest : List Char) : Fault := ⟨cause, some ⟨rest, 1⟩⟩

/-- A fault that concerns no place in particular. -/
def unplaced (cause : Cause) (_rest : List Char) : Fault := ⟨cause, none⟩

end Fault

def byteCount (cs : List Char) : Nat := cs.foldr (fun c n => c.utf8Size + n) 0

/-- The place of a mark in the text it was made in; no place lies past the end. -/
def Mark.place (m : Mark) (text : List Char) : Place :=
  Place.start.advance text (byteCount text - byteCount m.rest + m.past)

def Fault.error (f : Fault) (text : List Char) : Error :=
  ⟨f.cause, f.mark.map fun m => m.place text⟩

/-- Takes a value off the front of a text. -/
structure Reader (α : Type) where
  run : List Char → Except Fault (α × List Char)
  rest_le : ∀ {cs a rest}, run cs = .ok (a, rest) → rest.length ≤ cs.length

namespace Reader

variable {α β : Type}

protected def pure (a : α) : Reader α where
  run cs := .ok (a, cs)
  rest_le h := by cases h; exact Nat.le_refl _

protected def bind (x : Reader α) (f : α → Reader β) : Reader β where
  run cs :=
    match x.run cs with
    | .ok (a, rest) => (f a).run rest
    | .error e => .error e
  rest_le {cs b rest} h := by
    split at h
    · next a mid hx => exact Nat.le_trans ((f a).rest_le h) (x.rest_le hx)
    · cases h

instance : Monad Reader where
  pure := Reader.pure
  bind := Reader.bind

@[simp] theorem run_pure (a : α) (cs : List Char) :
    (pure a : Reader α).run cs = .ok (a, cs) := rfl

theorem run_bind (x : Reader α) (f : α → Reader β) (cs : List Char) :
    (x >>= f).run cs = match x.run cs with
      | .ok (a, rest) => (f a).run rest
      | .error e => .error e := rfl

/-- Takes nothing and fails. -/
def fail (fault : List Char → Fault) : Reader α where
  run cs := .error (fault cs)
  rest_le h := by cases h

/-- The character to come, which is not taken. -/
def look : Reader (Option Char) where
  run cs := .ok (cs.head?, cs)
  rest_le h := by cases h; exact Nat.le_refl _

/-- Takes one character. -/
def skip : Reader Unit where
  run cs := .ok ((), cs.tail)
  rest_le {cs a rest} h := by cases h; simp

@[simp] theorem run_fail (fault : List Char → Fault) (cs : List Char) :
    (fail fault : Reader α).run cs = .error (fault cs) := rfl

@[simp] theorem run_look (cs : List Char) : look.run cs = .ok (cs.head?, cs) := rfl

@[simp] theorem run_skip (c : Char) (cs : List Char) : skip.run (c :: cs) = .ok ((), cs) := rfl

/-- The characters that JSON allows between tokens. -/
def isSpace (c : Char) : Bool := c = ' ' || c = '\t' || c = '\n' || c = '\r'

/-- Takes all space there is. -/
def space : Reader Unit where
  run cs := .ok ((), cs.dropWhile isSpace)
  rest_le {cs a rest} h := by cases h; exact (List.dropWhile_sublist _).length_le

@[simp] theorem run_space (cs : List Char) : space.run cs = .ok ((), cs.dropWhile isSpace) := rfl

/-- Takes all characters of a kind that there are. -/
def takeWhile (p : Char → Bool) : Reader (List Char) where
  run cs := .ok (cs.takeWhile p, cs.dropWhile p)
  rest_le {cs a rest} h := by cases h; exact (List.dropWhile_sublist _).length_le

@[simp] theorem run_takeWhile (p : Char → Bool) (cs : List Char) :
    (takeWhile p).run cs = .ok (cs.takeWhile p, cs.dropWhile p) := rfl

/-- Takes the characters of a word. The first that differs is the place of the fault. -/
def word : List Char → Reader Unit
  | [] => pure ()
  | w :: ws => do
    match ← look with
    | none => fail (.here .endInValue)
    | some c =>
      if c = w then do
        skip
        word ws
      else fail (.next .expectedWord)

/-- Reads a whole document: the value, and nothing after it but space. -/
def document (x : Reader α) (text : String) : Except Error α :=
  let whole : Reader α := do
    let a ← x
    space
    match ← look with
    | none => pure a
    | some _ => fail (.next .trailingCharacters)
  match whole.run text.toList with
  | .ok (a, _) => .ok a
  | .error f => .error (f.error text.toList)

end Reader
end DiskQuota.Json
