import DiskQuota.Json.Text

/-!
What stands between the parts of a list or an object. `nextElement` and `nextKey` go up to the next
element or into the next key, or say that the end comes first; they refuse a comma before the end.
`members` reads an object's members one after the other into what was read so far.
-/
namespace DiskQuota.Json.Reader

variable {α β : Type}

/-- Takes the colon after a key. -/
def colon : Reader Unit := do
  space
  match ← look with
  | none => fail (.next .endInObject)
  | some c => if c = ':' then skip else fail (.next .expectedColon)

/-- Whether another element of a list is to come. The bracket that ends the list is not taken. -/
def nextElement (first : Bool) : Reader Bool := do
  space
  match ← look with
  | none => fail (.next .endInList)
  | some c =>
    if c = ']' then pure false
    else if first then pure true
    else if c = ',' then do
      skip
      space
      match ← look with
      | none => fail (.next .endInValue)
      | some d => if d = ']' then fail (.next .trailingComma) else pure true
    else fail (.next .expectedCommaOrListEnd)

/-- Ends a list of which all that is wanted has been read. -/
def closeList : Reader Unit := do
  space
  match ← look with
  | none => fail (.next .endInList)
  | some c =>
    if c = ']' then skip
    else if c = ',' then do
      skip
      space
      if (← look) = some ']' then fail (.next .trailingComma) else fail (.next .trailingCharacters)
    else fail (.next .trailingCharacters)

/-- Goes into a key if its opening quote is to come. -/
def openKey (c : Char) : Reader Bool :=
  if c = '\x22' then do
    skip
    pure true
  else fail (.next .keyNotString)

/-- Whether another member of an object is to come; if so, the opening quote of its key is taken. The
brace that ends the object is not. -/
def nextKey (first : Bool) : Reader Bool := do
  space
  match ← look with
  | none => fail (.next .endInObject)
  | some c =>
    if c = '\x7d' then pure false
    else if first then openKey c
    else if c = ',' then do
      skip
      space
      match ← look with
      | none => fail (.next .endInValue)
      | some d => if d = '\x7d' then fail (.next .trailingComma) else openKey d
    else fail (.next .expectedCommaOrObjectEnd)

theorem openKey_length_lt {c : Char} {cs rest : List Char} {b : Bool}
    (h : (openKey c).run (c :: cs) = .ok (b, rest)) : rest.length < (c :: cs).length := by
  unfold openKey at h
  split at h
  · cases h; simp
  · cases h

theorem dropWhile_length_le (p : Char → Bool) (cs : List Char) :
    (cs.dropWhile p).length ≤ cs.length := (List.dropWhile_sublist p).length_le

/-- The way to a key takes at least its quote. -/
theorem nextKey_length_lt {first : Bool} {cs rest : List Char}
    (h : (nextKey first).run cs = .ok (true, rest)) : rest.length < cs.length := by
  simp only [nextKey, run_bind, run_space, run_look] at h
  have hsp := dropWhile_length_le isSpace cs
  cases hcs : cs.dropWhile isSpace with
  | nil => simp [hcs] at h
  | cons c mid =>
    rw [hcs] at hsp
    simp only [hcs, List.head?_cons] at h
    split at h
    · simp at h
    · split at h
      · exact Nat.lt_of_lt_of_le (openKey_length_lt h) hsp
      · split at h
        · simp only [run_bind, run_skip, run_space, run_look] at h
          have hsp' := dropWhile_length_le isSpace mid
          cases hmid : mid.dropWhile isSpace with
          | nil => simp [hmid] at h
          | cons d mid' =>
            rw [hmid] at hsp'
            simp only [hmid, List.head?_cons] at h
            split at h
            · simp at h
            · have := openKey_length_lt h
              simp only [List.length_cons] at *
              omega
        · simp at h

/-- Reads the members to come into what was read so far; `field` reads a member after its key. -/
def membersFrom (field : β → String → Reader β) (first : Bool) (b : β) (cs : List Char) :
    Except Fault (β × List Char) :=
  match h : (nextKey first).run cs with
  | .error f => .error f
  | .ok (false, rest) => .ok (b, rest)
  | .ok (true, rest) =>
    match h' : (text >>= field b).run rest with
    | .error f => .error f
    | .ok (b', rest') =>
      have := nextKey_length_lt h
      have := (text >>= field b).rest_le h'
      membersFrom field false b' rest'
termination_by cs.length

theorem membersFrom_length_le {field : β → String → Reader β} {first : Bool} {b b' : β}
    {cs rest : List Char} (h : membersFrom field first b cs = .ok (b', rest)) :
    rest.length ≤ cs.length := by
  fun_induction membersFrom field first b cs with
  | case1 => cases h
  | case2 first b cs rest' hk => cases h; exact (nextKey first).rest_le hk
  | case3 => cases h
  | case4 first b cs mid hk b'' mid' hm hlt hle ih =>
    have := ih h
    omega

/-- Reads the members of an object, whose opening brace has been taken, into `b`. The closing one is
to come. -/
def members (field : β → String → Reader β) (b : β) : Reader β where
  run := membersFrom field true b
  rest_le := membersFrom_length_le

end DiskQuota.Json.Reader
