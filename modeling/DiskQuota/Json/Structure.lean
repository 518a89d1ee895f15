import DiskQuota.Json.Values

/-!
Structures with named fields. A structure is written as an object with its fields in order. It is read
from an object, whose members may come in any order and among others, which are passed over; or from a
list, whose elements are the fields in order. No field may come twice.
-/
namespace DiskQuota.Json

/-! ## Writing -/

/-- One member of an object. -/
def memberChars (key : String) (value : List Char) : List Char :=
  quoteChars key.toList ++ ':' :: value

/-- An object without space in it. -/
def objectChars (members : List (String × List Char)) : List Char :=
  '\x7b' :: (List.intercalate [','] (members.map fun m => memberChars m.1 m.2) ++ ['\x7d'])

/-- An unsigned number. -/
def unsignedChars (n : UInt64) : List Char := Nat.toDigits 10 n.toNat

/-! ## Reading -/

/-- What is left after a closing brace, if one comes next. -/
def afterBrace (cs : List Char) : List Char :=
  match cs.dropWhile Reader.isSpace with
  | '\x7d' :: rest => rest
  | rest => rest

namespace Reader

variable {α : Type}

/-- Takes the value of a field that has not come before. The place of a second coming is behind the
object's closing brace where that is next, and otherwise behind the key. -/
def once (name : String) (old : Option α) (value : Reader α) : Reader α :=
  match old with
  | some _ => fail fun cs => .here (.duplicateField name) (afterBrace cs)
  | none => do
    colon
    value

/-- Passes over a member with a key of no interest. -/
def skipMember : Reader Unit := do
  colon
  ignore

/-- The next element of a list, or the default at its end. -/
def elementD (first : Bool) (element : Reader α) (default : α) : Reader α := do
  if ← nextElement first then element else pure default

/-- The next element of a list, which has to come: the list ends after `count` elements, and what was
wanted has more. -/
def elementOf (wanted : String) (count : Nat) (element : Reader α) : Reader α := do
  if ← nextElement (count == 0) then element
  else
    skip
    fail (.here (.invalidLength count wanted))

/-- Takes a structure: `listed` reads the elements of a list, and `named` the members of an object up
to its closing brace, which it takes. -/
def structured (wanted : String) (listed named : Reader α) : Reader α := do
  let c ← valueStart
  if c = '[' then
    skip
    let a ← listed
    closeList
    pure a
  else if c = '\x7b' then
    skip
    named
  else mismatch wanted

end Reader
end DiskQuota.Json
