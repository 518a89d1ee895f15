import DiskQuota.Json.Number
import DiskQuota.Json.Punctuation

/-!
Passing over a value of no interest, however deep it nests. The brackets that are open are kept in a
list, the innermost first. The value must be well formed, but its numbers have no range and the
escapes in its strings may name lone surrogates.
-/
namespace DiskQuota.Json

/-- A bracket that is open. -/
inductive Bracket where
  | list
  | object
deriving DecidableEq

namespace Bracket

def close : Bracket → Char
  | list => ']'
  | object => '\x7d'

def endCause : Bracket → Cause
  | list => .endInList
  | object => .endInObject

def commaCause : Bracket → Cause
  | list => .expectedCommaOrListEnd
  | object => .expectedCommaOrObjectEnd

end Bracket

namespace Reader

/-- Whether a value can start with the character. -/
def startsValue (c : Char) : Bool :=
  isDigit c || ['n', 't', 'f', '-', '\x22', '[', '\x7b'].contains c

/-- Passes over the rest of a number that starts with the digit. A zero in front stands alone. -/
def skipDigits (c : Char) : Reader Unit :=
  if c = '0' then do
    match ← look with
    | some d => if isDigit d then fail (.next .invalidNumber) else skipAfterWhole
    | none => skipAfterWhole
  else do
    let _ ← takeWhile isDigit
    skipAfterWhole

/-- Passes over a value without parts, after its first character. -/
def skipScalar (c : Char) : Reader Unit :=
  if c = 'n' then word ['u', 'l', 'l']
  else if c = 't' then word ['r', 'u', 'e']
  else if c = 'f' then word ['a', 'l', 's', 'e']
  else if c = '\x22' then skipText
  else if c = '-' then skipNumber
  else skipDigits c

/-- Passes over a value after its first character, or says which bracket that was. -/
def skipAfter (c : Char) : Reader (Option Bracket) :=
  if c = '[' then pure (some .list)
  else if c = '\x7b' then pure (some .object)
  else do
    skipScalar c
    pure none

/-- Passes over a value up to its end or into its bracket. -/
def skipHead : Reader (Option Bracket) := do
  space
  match ← look with
  | none => fail (.next .endInValue)
  | some c =>
    if startsValue c then do
      skip
      skipAfter c
    else fail (.next .expectedValue)

/-- Passes over the key of the next member, if the bracket is that of an object. -/
def skipKey : Bracket → Reader Unit
  | .list => pure ()
  | .object => do
    space
    match ← look with
    | none => fail (.next .endInObject)
    | some c =>
      if c = '\x22' then do
        skip
        skipText
        colon
      else fail (.next .keyNotString)

/-- Goes on after a value or an opening bracket: closes brackets until another value is due, and
answers with those still open then. Right after an opening bracket no comma is due. -/
def between : (afterValue : Bool) → List Bracket → Reader (List Bracket)
  | _, [] => pure []
  | afterValue, b :: bs => do
    space
    match ← look with
    | none => fail (.next b.endCause)
    | some c =>
      if c = ',' && afterValue then do
        skip
        skipKey b
        pure (b :: bs)
      else if c = b.close then do
        skip
        between true bs
      else if afterValue then fail (.next b.commaCause)
      else do
        skipKey b
        pure (b :: bs)

/-- Passes over one value inside the open brackets, and goes on to where the next is due. -/
def skipOne (bs : List Bracket) : Reader (List Bracket) := do
  match ← skipHead with
  | some b => between false (b :: bs)
  | none => between true bs

theorem skipHead_length_lt {cs rest : List Char} {b : Option Bracket}
    (h : skipHead.run cs = .ok (b, rest)) : rest.length < cs.length := by
  simp only [skipHead, run_bind, run_space, run_look] at h
  have hsp := dropWhile_length_le isSpace cs
  cases hcs : cs.dropWhile isSpace with
  | nil => simp [hcs] at h
  | cons c mid =>
    rw [hcs] at hsp
    simp only [hcs, List.head?_cons] at h
    split at h
    · simp only [run_bind, run_skip] at h
      have := (skipAfter c).rest_le h
      simp only [List.length_cons] at *
      omega
    · simp at h

theorem skipOne_length_lt {bs bs' : List Bracket} {cs rest : List Char}
    (h : (skipOne bs).run cs = .ok (bs', rest)) : rest.length < cs.length := by
  simp only [skipOne, run_bind] at h
  split at h
  · next b mid hb =>
    have hlt := skipHead_length_lt hb
    split at h
    · exact Nat.lt_of_le_of_lt ((between false _).rest_le h) hlt
    · exact Nat.lt_of_le_of_lt ((between true bs).rest_le h) hlt
  · cases h

/-- Passes over values until no bracket is open. -/
def ignoreFrom (bs : List Bracket) (cs : List Char) : Except Fault (Unit × List Char) :=
  match h : (skipOne bs).run cs with
  | .error f => .error f
  | .ok ([], rest) => .ok ((), rest)
  | .ok (b :: bs, rest) =>
    have := skipOne_length_lt h
    ignoreFrom (b :: bs) rest
termination_by cs.length

theorem ignoreFrom_length_le {bs : List Bracket} {cs rest : List Char} {u : Unit}
    (h : ignoreFrom bs cs = .ok (u, rest)) : rest.length ≤ cs.length := by
  fun_induction ignoreFrom bs cs with
  | case1 => cases h
  | case2 bs cs rest' hs => cases h; exact (skipOne bs).rest_le hs
  | case3 bs cs b bs' mid hs hlt ih =>
    have := ih h
    omega

/-- Passes over a value. -/
def ignore : Reader Unit where
  run := ignoreFrom []
  rest_le := ignoreFrom_length_le

end Reader
end DiskQuota.Json
