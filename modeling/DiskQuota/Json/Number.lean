import DiskQuota.Json.Reader

/-!
Numbers of JSON. A number without fraction and exponent is read exactly as long as it fits 64 bits,
unsigned or, with a minus sign, signed. Any other becomes a float: its digits as far as they fit 64
bits unsigned, times the power of ten that puts the point where it belongs. Numbers that are passed
over follow the same grammar, but have no range.
-/
namespace DiskQuota.Json

inductive Number where
  | unsigned (n : UInt64)
  | negative (i : Int)
  | float (x : Float)

def isDigit (c : Char) : Bool := '0' ≤ c && c ≤ '9'

def digitValue (c : Char) : Nat := c.toNat - '0'.toNat

namespace Number

/-- Takes digits into `n` while it stays below 2^64; the number, and the digits left over. -/
def absorb : (n : Nat) → List Char → Nat × List Char
  | n, [] => (n, [])
  | n, c :: cs =>
    if 10 * n + digitValue c < 2 ^ 64 then absorb (10 * n + digitValue c) cs else (n, c :: cs)

/-- The number of an exponent, at most 2^31 - 1. Past that, the digits not looked at. -/
def exponentOf : (n : Nat) → List Char → Except (List Char) Nat
  | n, [] => .ok n
  | n, c :: cs =>
    if 10 * n + digitValue c < 2 ^ 31 then exponentOf (10 * n + digitValue c) cs else .error cs

/-- A power of ten as a float, up to 10 ^ 308. -/
def powerOfTen (k : Nat) : Float := Float.ofScientific 1 false k

/-- `x / 10 ^ k`, in steps of at most 10 ^ 308. -/
def divide (x : Float) (k : Nat) : Float :=
  if k ≤ 308 then x / powerOfTen k
  else if x == 0 then x
  else divide (x / powerOfTen 308) (k - 308)
termination_by k

/-- `n · 10 ^ e` with a sign, if it is not too large for a float. -/
def scaled? (minus : Bool) (n : Nat) (e : Int) : Option Float :=
  let x := n.toUInt64.toFloat
  let signed (x : Float) : Float := if minus then -x else x
  if e < 0 then some (signed (divide x e.natAbs))
  else if x == 0 then some (signed x)
  else if e ≤ 308 then
    let y := x * powerOfTen e.toNat
    if y.isInf then none else some (signed y)
  else none

/-- A whole number of at most 64 bits. Minus zero, and a negative one that takes more than 63 bits,
is a float. -/
def ofWhole (minus : Bool) (n : Nat) : Number :=
  if !minus then .unsigned n.toUInt64
  else if 0 < n ∧ n ≤ 0x8000000000000000 then .negative (-n)
  else .float (-n.toUInt64.toFloat)

end Number

namespace Reader

/-- The float `n · 10 ^ e`, which ends here. -/
def float (minus : Bool) (n : Nat) (e : Int) : Reader Number := do
  match Number.scaled? minus n e with
  | some x => pure (.float x)
  | none => fail (.here .numberOutOfRange)

/-- Takes an exponent's sign, if there is one, and tells whether it is a minus. -/
def exponentSign : Reader Bool := do
  match ← look with
  | some '+' => do
    skip
    pure false
  | some '-' => do
    skip
    pure true
  | _ => pure false

/-- Takes what follows the letter of an exponent, for the number `n · 10 ^ e`. -/
def exponent (minus : Bool) (n : Nat) (e : Int) : Reader Number := do
  let down ← exponentSign
  match ← look with
  | none => fail (.here .endInValue)
  | some c =>
    if isDigit c then do
      let ds ← takeWhile isDigit
      match Number.exponentOf 0 ds with
      | .ok k => float minus n (if down then e - k else e + k)
      | .error unseen =>
        if n ≠ 0 ∧ !down then fail fun rest => .here .numberOutOfRange (unseen ++ rest)
        else pure (.float (if minus then -0.0 else 0.0))
    else fail (.next .invalidNumber)

/-- Whether an exponent is to come. -/
def isExponent (c : Option Char) : Bool := c = some 'e' || c = some 'E'

/-- Takes what follows the point of a fraction, for the number `n · 10 ^ e`. -/
def fraction (minus : Bool) (n : Nat) (e : Int) : Reader Number := do
  let ds ← takeWhile isDigit
  if ds.isEmpty then
    match ← look with
    | none => fail (.next .endInValue)
    | some _ => fail (.next .invalidNumber)
  else do
    let (m, left) := Number.absorb n ds
    let e := e - ds.length + left.length
    if isExponent (← look) then do
      skip
      exponent minus m e
    else float minus m e

/-- Takes the digits before a point or an exponent. A zero in front stands alone. -/
def whole : Reader (List Char) := do
  match ← look with
  | none => fail (.here .endInValue)
  | some c =>
    if c = '0' then do
      skip
      match ← look with
      | some d => if isDigit d then fail (.next .invalidNumber) else pure ['0']
      | none => pure ['0']
    else if isDigit c then takeWhile isDigit
    else fail (.next .invalidNumber)

/-- Takes a number after its sign. -/
def number (minus : Bool) : Reader Number := do
  let ds ← whole
  let (n, left) := Number.absorb 0 ds
  let next ← look
  if next = some '.' then do
    skip
    fraction minus n left.length
  else if isExponent next then do
    skip
    exponent minus n left.length
  else if left.isEmpty then pure (.ofWhole minus n)
  else float minus n left.length

/-! ## Numbers passed over -/

/-- Passes over what follows the letter of an exponent. -/
def skipExponent : Reader Unit := do
  let _ ← exponentSign
  match ← look with
  | none => fail (.here .invalidNumber)
  | some c =>
    if isDigit c then do
      let _ ← takeWhile isDigit
    else fail (.next .invalidNumber)

/-- Passes over what follows the point of a fraction. -/
def skipFraction : Reader Unit := do
  let ds ← takeWhile isDigit
  if ds.isEmpty then fail (.next .invalidNumber)
  else if isExponent (← look) then do
    skip
    skipExponent
  else pure ()

/-- Passes over what follows the digits before a point or an exponent. -/
def skipAfterWhole : Reader Unit := do
  let next ← look
  if next = some '.' then do
    skip
    skipFraction
  else if isExponent next then do
    skip
    skipExponent
  else pure ()

/-- Passes over a number after its sign. -/
def skipNumber : Reader Unit := do
  match ← look with
  | none => fail (.here .invalidNumber)
  | some _ => do
    let _ ← whole
    skipAfterWhole

end Reader
end DiskQuota.Json
