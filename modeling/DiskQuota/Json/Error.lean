import DiskQuota.Decimal.Layout
import DiskQuota.Text.Quoted

/-!
What can be wrong with a JSON document, and where. An error has a cause and, nearly always, a place:
the line, counted from one, and the number of bytes on that line up to the place. Causes are of three
kinds: the document ends too early, it is no JSON, or it is JSON that does not fit what is read.
-/
namespace DiskQuota.Json

/-- What stands where something else was wanted. -/
inductive Found where
  | null
  | boolean (b : Bool)
  | integer (i : Int)
  | float (x : Float)
  | string (s : String)
  | sequence
  | map
  /-- A bare name. -/
  | unitVariant

/-- Floats are written with their shortest digits, out in full while the leading digit is between
the fifth place after the point and the sixteenth before it. -/
def Found.floatLayout : Decimal.Layout where
  plainFrom := -5
  plainTo := 15

/-- A value that a message shows, between backquotes. -/
def marked (s : String) : String := "`" ++ s ++ "`"

def Found.text : Found → String
  | null => "null"
  | boolean b => "boolean " ++ marked (if b then "true" else "false")
  | integer i => "integer " ++ marked (toString i)
  | float x => "floating point " ++ marked (floatLayout.write x)
  | string s => "string " ++ Text.quoted s
  | sequence => "sequence"
  | map => "map"
  | unitVariant => "unit variant"

inductive Cause where
  | endInValue
  | endInString
  | endInList
  | endInObject
  | expectedValue
  | expectedWord
  | expectedColon
  | expectedCommaOrListEnd
  | expectedCommaOrObjectEnd
  | keyNotString
  | trailingComma
  | trailingCharacters
  | invalidNumber
  | numberOutOfRange
  | invalidEscape
  | loneSurrogate
  | endOfEscape
  | controlCharacter
  | invalidType (found : Found) (wanted : String)
  | invalidValue (found : Found) (wanted : String)
  | invalidLength (length : Nat) (wanted : String)
  | unknownVariant (name : String) (known : List String)
  | missingField (name : String)
  | duplicateField (name : String)

/-- The three kinds of causes. -/
inductive Kind where
  | endOfInput
  | grammar
  | data
deriving DecidableEq, Repr

namespace Cause

def kind : Cause → Kind
  | endInValue | endInString | endInList | endInObject => .endOfInput
  | invalidType .. | invalidValue .. | invalidLength .. | unknownVariant .. | missingField _
  | duplicateField _ => .data
  | _ => .grammar

/-- The names that would have done, in words. -/
def alternatives : List String → String
  | [] => "there are no variants"
  | [a] => "expected " ++ marked a
  | [a, b] => "expected " ++ marked a ++ " or " ++ marked b
  | names => "expected one of " ++ ", ".intercalate (names.map marked)

def text : Cause → String
  | endInValue => "EOF while parsing a value"
  | endInString => "EOF while parsing a string"
  | endInList => "EOF while parsing a list"
  | endInObject => "EOF while parsing an object"
  | expectedValue => "expected value"
  | expectedWord => "expected ident"
  | expectedColon => "expected " ++ marked ":"
  | expectedCommaOrListEnd => "expected " ++ marked "," ++ " or " ++ marked "]"
  | expectedCommaOrObjectEnd => "expected " ++ marked "," ++ " or " ++ marked "\x7d"
  | keyNotString => "key must be a string"
  | trailingComma => "trailing comma"
  | trailingCharacters => "trailing characters"
  | invalidNumber => "invalid number"
  | numberOutOfRange => "number out of range"
  | invalidEscape => "invalid escape"
  | loneSurrogate => "lone leading surrogate in hex escape"
  | endOfEscape => "unexpected end of hex escape"
  | controlCharacter => "control character (\\u0000-\\u001F) found while parsing a string"
  | invalidType found wanted => "invalid type: " ++ found.text ++ ", expected " ++ wanted
  | invalidValue found wanted => "invalid value: " ++ found.text ++ ", expected " ++ wanted
  | invalidLength n wanted => "invalid length " ++ toString n ++ ", expected " ++ wanted
  | unknownVariant name known => "unknown variant " ++ marked name ++ ", " ++ alternatives known
  | missingField name => "missing field " ++ marked name
  | duplicateField name => "duplicate field " ++ marked name

end Cause

/-- A place in a document: the line, from one, and the bytes before the place on it. -/
structure Place where
  line : Nat
  column : Nat
deriving DecidableEq, Repr

namespace Place

def start : Place := ⟨1, 0⟩

/-- The place `n` bytes further on. A line ends with its newline. -/
def advance : Place → List Char → (n : Nat) → Place
  | p, [], _ => p
  | p, c :: cs, n =>
    if n < c.utf8Size then { p with column := p.column + n }
    else
      let p := if c = '\n' then ⟨p.line + 1, 0⟩ else { p with column := p.column + c.utf8Size }
      advance p cs (n - c.utf8Size)

end Place

/-- An error of a document; one that concerns no place in particular has none. -/
structure Error where
  cause : Cause
  place : Option Place

namespace Error

def kind (e : Error) : Kind := e.cause.kind

/-- The line of the place, zero if there is none. -/
def line (e : Error) : Nat := (e.place.map Place.line).getD 0

/-- The column of the place, zero if there is none. -/
def column (e : Error) : Nat := (e.place.map Place.column).getD 0

def message (e : Error) : String :=
  e.cause.text ++
    match e.place with
    | some p => " at line " ++ toString p.line ++ " column " ++ toString p.column
    | none => ""

end Error
end DiskQuota.Json
