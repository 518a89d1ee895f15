import DiskQuota.Json.Ignored

/-!
Values of a known type: strings, unsigned numbers, and choices by name. A value of another type is
read as far as it takes to say what it is, except that lists and objects are named at their opening
bracket. A choice is written as its name, or as an object with the name as its only key; beside the
key stands what the choice carries, or null if it carries nothing.
-/
namespace DiskQuota.Json

/-- What a choice carries. -/
inductive Content (α : Type) where
  | nothing (a : α)
  | unsigned (f : UInt64 → α)

/-- The choices of a type, by name. -/
abbrev Choices (α : Type) := List (String × Content α)

namespace Reader

variable {α : Type}

/-- Fails after a value that is not of the wanted type. -/
def invalidType (found : Found) (wanted : String) : Reader α :=
  fail (.here (.invalidType found wanted))

def Number.found : Number → Found
  | .unsigned n => .integer n.toNat
  | .negative i => .integer i
  | .float x => .float x

/-- Reads a value that is not of the wanted type and fails. -/
def mismatch (wanted : String) : Reader α := do
  match ← look with
  | none => fail (.next .expectedValue)
  | some c =>
    if c = 'n' then do
      skip
      word ['u', 'l', 'l']
      invalidType .null wanted
    else if c = 't' then do
      skip
      word ['r', 'u', 'e']
      invalidType (.boolean true) wanted
    else if c = 'f' then do
      skip
      word ['a', 'l', 's', 'e']
      invalidType (.boolean false) wanted
    else if c = '-' then do
      skip
      let n ← number true
      invalidType (Number.found n) wanted
    else if isDigit c then do
      let n ← number false
      invalidType (Number.found n) wanted
    else if c = '\x22' then do
      skip
      let s ← text
      invalidType (.string s) wanted
    else if c = '[' then invalidType .sequence wanted
    else if c = '\x7b' then invalidType .map wanted
    else fail (.next .expectedValue)

/-- Goes to the first character of a value. -/
def valueStart : Reader Char := do
  space
  match ← look with
  | none => fail (.next .endInValue)
  | some c => pure c

/-- Takes a string. -/
def string : Reader String := do
  if (← valueStart) = '\x22' then
    skip
    text
  else mismatch "a string"

/-- The number, if it is unsigned and whole. -/
def unsignedOf : Number → Reader UInt64
  | .unsigned n => pure n
  | .negative i => fail (.here (.invalidValue (.integer i) "u64"))
  | .float x => invalidType (.float x) "u64"

/-- Takes an unsigned whole number below 2^64. -/
def unsigned : Reader UInt64 := do
  let c ← valueStart
  if c = '-' then
    skip
    unsignedOf (← number true)
  else if isDigit c then unsignedOf (← number false)
  else mismatch "u64"

/-- Takes a null. -/
def null : Reader Unit := do
  if (← valueStart) = 'n' then
    skip
    word ['u', 'l', 'l']
  else mismatch "unit"

/-- The choice of a name. -/
def choose (choices : Choices α) (name : String) : Reader (Content α) :=
  match choices.lookup name with
  | some content => pure content
  | none => fail (.here (.unknownVariant name (choices.map Prod.fst)))

/-- A choice by its bare name, which cannot carry anything. -/
def bare : Content α → Reader α
  | .nothing a => pure a
  | .unsigned _ => fail (.unplaced (.invalidType .unitVariant "newtype variant"))

/-- Takes what a choice carries, after the colon. -/
def carried : Content α → Reader α
  | .nothing a => do
    null
    pure a
  | .unsigned f => do return f (← unsigned)

/-- Takes a choice that is written as an object, after the opening brace. -/
def keyed (choices : Choices α) : Reader α := do
  if ← nextKey true then
    let content ← choose choices (← text)
    colon
    let a ← carried content
    space
    match ← look with
    | none => fail (.here .endInObject)
    | some c =>
      if c = '\x7d' then
        skip
        pure a
      else fail (.here .expectedValue)
  else fail (.next .expectedValue)

/-- Takes a choice. -/
def choice (choices : Choices α) : Reader α := do
  let c ← valueStart
  if c = '\x7b' then
    skip
    keyed choices
  else if c = '\x22' then
    skip
    bare (← choose choices (← text))
  else fail (.next .expectedValue)

end Reader
end DiskQuota.Json
