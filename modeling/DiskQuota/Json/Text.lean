import DiskQuota.Json.Reader
import DiskQuota.Text.Utf16

/-!
Strings of JSON. `quote` writes a text with the escapes that it needs and no others. `text` reads what
follows an opening quote and demands that the escapes name characters; `skipText` passes over a string
whose content is of no interest, and there escapes may name lone surrogates.
-/
namespace DiskQuota.Json

/-! ## Writing -/

/-- How one character stands in a string. -/
def quotedChar (c : Char) : List Char :=
  match c with
  | '\x22' => ['\x5c', '\x22']
  | '\x5c' => ['\x5c', '\x5c']
  | '\x08' => ['\x5c', 'b']
  | '\x0c' => ['\x5c', 'f']
  | '\n' => ['\x5c', 'n']
  | '\r' => ['\x5c', 'r']
  | '\t' => ['\x5c', 't']
  | c => if c.toNat < 0x20 then '\x5c' :: 'u' :: Text.Hex.fixed 4 c.toNat else [c]

/-- The text as a JSON string. -/
def quoteChars (cs : List Char) : List Char := '\x22' :: (cs.flatMap quotedChar ++ ['\x22'])

def quote (s : String) : String := String.ofList (quoteChars s.toList)

/-! ## Escapes -/

/-- The character that a one-letter escape stands for. -/
def shortEscape? : Char → Option Char
  | '\x22' => some '\x22'
  | '\x5c' => some '\x5c'
  | '/' => some '/'
  | 'b' => some '\x08'
  | 'f' => some '\x0c'
  | 'n' => some '\n'
  | 'r' => some '\r'
  | 't' => some '\t'
  | _ => none

namespace Reader

/-- What is wrong with a text that does not start with four hexadecimal digits: fewer than four bytes
are left, or the four that are there are taken for an escape. -/
def noHexUnit (cs : List Char) : Fault :=
  if byteCount (cs.take 4) < 4 then .here .endInString [] else ⟨.invalidEscape, some ⟨cs, 4⟩⟩

/-- Takes four hexadecimal digits. -/
def hexUnit : Reader UInt16 where
  run
    | a :: b :: c :: d :: rest =>
      match [a, b, c, d].mapM Text.Hex.digit? with
      | some ds => .ok ((Text.Hex.value ds).toUInt16, rest)
      | none => .error (noHexUnit (a :: b :: c :: d :: rest))
    | cs => .error (noHexUnit cs)
  rest_le {cs u rest} h := by
    split at h
    · split at h <;> cases h
      simp only [List.length_cons]; omega
    · cases h

/-- Takes a character of an escape that has to go on. -/
def goOn (c : Char) : Reader Unit := do
  match ← look with
  | none => fail (.here .endInString)
  | some d => if d = c then skip else fail (.next .endOfEscape)

/-- Takes the hexadecimal digits of an escape, and those of a second one if the first opens a pair. -/
def unicodeEscape : Reader Char := do
  let u ← hexUnit
  if Text.Utf16.isLow u then fail (.here .loneSurrogate)
  else if Text.Utf16.isHigh u then do
    goOn '\x5c'
    goOn 'u'
    let v ← hexUnit
    if Text.Utf16.isLow v then pure (Text.Utf16.ofPair u v) else fail (.here .loneSurrogate)
  else pure (Char.ofNat u.toNat)

/-- Takes what follows a backslash. -/
def escape : Reader Char := do
  match ← look with
  | none => fail (.here .endInString)
  | some c =>
    if c = 'u' then do
      skip
      unicodeEscape
    else
      match shortEscape? c with
      | some d => do
        skip
        pure d
      | none => fail (.next .invalidEscape)

/-- Passes over what follows a backslash. -/
def skipEscape : Reader Unit := do
  match ← look with
  | none => fail (.here .endInString)
  | some c =>
    if c = 'u' then do
      skip
      let _ ← hexUnit
    else if (shortEscape? c).isSome then skip
    else fail (.next .invalidEscape)

/-! ## Reading -/

/-- The characters up to the closing quote, after those already read, which are given last first. -/
def charsFrom (acc cs : List Char) : Except Fault (List Char × List Char) :=
  match cs with
  | [] => .error (.here .endInString [])
  | c :: rest =>
    if c = '\x22' then .ok (acc.reverse, rest)
    else if c = '\x5c' then
      match h : escape.run rest with
      | .ok (d, rest') =>
        have := escape.rest_le h
        charsFrom (d :: acc) rest'
      | .error f => .error f
    else if c.toNat < 0x20 then .error (.next .controlCharacter (c :: rest))
    else charsFrom (c :: acc) rest
termination_by cs.length

theorem charsFrom_length_le {acc cs r rest : List Char}
    (h : charsFrom acc cs = .ok (r, rest)) : rest.length ≤ cs.length := by
  fun_induction charsFrom acc cs with
  | case1 => cases h
  | case2 => cases h; simp
  | case3 acc rest' d mid hm hle hq ih =>
    have := ih h
    simp only [List.length_cons]
    omega
  | case4 => cases h
  | case5 => cases h
  | case6 acc c rest' hq hb hc ih =>
    have := ih h
    simp only [List.length_cons]
    omega

/-- Takes the characters of a string and its closing quote; the opening one has been taken. -/
def chars : Reader (List Char) where
  run := charsFrom []
  rest_le := charsFrom_length_le

/-- Takes a string after its opening quote. -/
def text : Reader String := do return String.ofList (← chars)

/-- Passes over the characters of a string. -/
def skipCharsFrom (cs : List Char) : Except Fault (Unit × List Char) :=
  match cs with
  | [] => .error (.here .endInString [])
  | c :: rest =>
    if c = '\x22' then .ok ((), rest)
    else if c = '\x5c' then
      match h : skipEscape.run rest with
      | .ok ((), rest') =>
        have := skipEscape.rest_le h
        skipCharsFrom rest'
      | .error f => .error f
    else if c.toNat < 0x20 then .error (.here .controlCharacter (c :: rest))
    else skipCharsFrom rest
termination_by cs.length

theorem skipCharsFrom_length_le {cs rest : List Char} {u : Unit}
    (h : skipCharsFrom cs = .ok (u, rest)) : rest.length ≤ cs.length := by
  fun_induction skipCharsFrom cs with
  | case1 => cases h
  | case2 => cases h; simp
  | case3 rest' mid hm hle hq ih =>
    have := ih h
    simp only [List.length_cons]
    omega
  | case4 => cases h
  | case5 => cases h
  | case6 c rest' hq hb hc ih =>
    have := ih h
    simp only [List.length_cons]
    omega

/-- Passes over a string after its opening quote. -/
def skipText : Reader Unit where
  run := skipCharsFrom
  rest_le := skipCharsFrom_length_le

end Reader
end DiskQuota.Json
