import DiskQuota.Proofs.Json.Decides
import DiskQuota.Proofs.Json.Numbers

/-!
Unsigned numbers, decided. Whatever text is read, what is taken is digits alone, with no zero in front of
others, that write a number of 64 bits, and they are taken whole (`unsigned_run?_iff`): a sign, a
fraction or an exponent makes a number of another kind, and digits that write 2^64 or more are left over
while they are taken in. So a value is read as an unsigned number exactly if it is such digits
(`Decides.unsigned`).
-/
namespace DiskQuota.Json

/-- The token writes the number: digits alone, with no zero in front of others. -/
structure IsDecimal (token : List Char) (n : Nat) : Prop where
  ne_nil : token ≠ []
  digits : ∀ c ∈ token, c.isDigit = true
  zero_alone : token.head? = some '0' → token = ['0']
  value : decimalValue token = n

theorem isDecimal_toDigits (n : Nat) : IsDecimal (Nat.toDigits 10 n) n where
  ne_nil := (digitsOf n).ne_nil
  digits := (digitsOf n).digits
  zero_alone := toDigits_of_head?_zero
  value := decimalValue_toDigits n

/-- Digits of a number from 2^64 on write none of 64 bits. -/
theorem not_isDecimal_toDigits {m : Nat} (h : 2 ^ 64 ≤ m) (n : UInt64) :
    ¬IsDecimal (Nat.toDigits 10 m) n.toNat := by
  intro hn
  have hvalue : m = n.toNat := (decimalValue_toDigits m).symm.trans hn.value
  have hlt := n.toNat_lt
  omega

namespace Number

/-- If no digit is left over, the number that all of them write has been taken, and it fits. -/
theorem absorb_eq_nil {ds : List Char} {n m : Nat} (h : absorb n ds = (m, [])) :
    Nat.ofDigitChars 10 ds n = m ∧ (n < 2 ^ 64 → m < 2 ^ 64) := by
  induction ds generalizing n with
  | nil =>
    cases h
    exact ⟨rfl, id⟩
  | cons c ds ih =>
    have h : (if 10 * n + digitValue c < 2 ^ 64 then absorb (10 * n + digitValue c) ds
      else (n, c :: ds)) = (m, []) := h
    split at h
    · next hfits =>
      obtain ⟨hvalue, hlt⟩ := ih h
      exact ⟨hvalue, fun _ => hlt hfits⟩
    · cases h

/-- Only a number without a sign is unsigned. -/
theorem ofWhole_eq_unsigned {minus : Bool} {m : Nat} {n : UInt64} (h : ofWhole minus m = .unsigned n) :
    minus = false ∧ n = m.toUInt64 := by
  cases minus with
  | false =>
    cases h
    exact ⟨rfl, rfl⟩
  | true =>
    rw [ofWhole, Bool.not_true, if_neg Bool.false_ne_true] at h
    split at h
    · cases h
    · cases h

end Number

namespace Reader

variable {α : Type} {cs rest : List Char} {n : UInt64}

/-! ## Numbers of other kinds -/

/-- A reader of numbers none of which is unsigned. -/
def NoUnsigned (x : Reader Number) : Prop := ∀ cs n rest, x.run? cs ≠ some (.unsigned n, rest)

theorem NoUnsigned.fail (fault : List Char → Fault) : NoUnsigned (fail fault) := nofun

theorem NoUnsigned.float_pure (x : Float) : NoUnsigned (pure (.float x)) := nofun

theorem NoUnsigned.bind (x : Reader α) {f : α → Reader Number} (h : ∀ a, NoUnsigned (f a)) :
    NoUnsigned (x >>= f) := by
  intro cs n rest hrun
  rw [run?_bind, Option.bind_eq_some_iff] at hrun
  obtain ⟨r, -, hrest⟩ := hrun
  exact h r.1 r.2 n rest hrest

theorem float_noUnsigned (minus : Bool) (n : Nat) (e : Int) : NoUnsigned (float minus n e) := by
  rw [float]
  split
  · exact .float_pure _
  · exact .fail _

theorem exponent_noUnsigned (minus : Bool) (n : Nat) (e : Int) : NoUnsigned (exponent minus n e) := by
  refine .bind _ fun down => .bind _ fun c => ?_
  split
  · exact .fail _
  · split
    · refine .bind _ fun ds => ?_
      split
      · exact float_noUnsigned _ _ _
      · split
        · exact .fail _
        · exact .float_pure _
    · exact .fail _

theorem fraction_noUnsigned (minus : Bool) (n : Nat) (e : Int) : NoUnsigned (fraction minus n e) := by
  refine .bind _ fun ds => ?_
  split
  · refine .bind _ fun c => ?_
    split
    · exact .fail _
    · exact .fail _
  · refine .bind _ fun c => ?_
    split
    · exact .bind _ fun _ => exponent_noUnsigned _ _ _
    · exact float_noUnsigned _ _ _

/-! ## Digits -/

/-- The digits in front of a number: a zero stands alone, others are taken as far as they go. -/
theorem whole_sound {ds : List Char} (h : whole.run? cs = some (ds, rest)) :
    cs = ds ++ rest ∧ ds ≠ [] ∧ (∀ c ∈ ds, isDigit c = true) ∧
      (ds.head? = some '0' → ds = ['0']) ∧ NoDigit rest := by
  cases cs with
  | nil => cases h
  | cons c cs =>
    by_cases hzero : c = '0'
    · subst hzero
      cases cs with
      | nil =>
        cases h
        exact ⟨rfl, by decide, List.forall_mem_singleton.2 rfl, fun _ => rfl, nofun⟩
      | cons d cs =>
        cases hdigit : isDigit d with
        | true => simp [whole, run?_bind, hdigit] at h
        | false =>
          simp [whole, run?_bind, hdigit] at h
          obtain ⟨rfl, rfl⟩ := h
          refine ⟨rfl, by decide, List.forall_mem_singleton.2 rfl, fun _ => rfl, ?_⟩
          rintro _ ⟨⟩
          exact hdigit
    · cases hdigit : isDigit c with
      | false => simp [whole, run?_bind, hzero, hdigit] at h
      | true =>
        have hrun : (takeWhile isDigit).run? (c :: cs) = some (ds, rest) := by
          simpa [whole, run?_bind, hzero, hdigit] using h
        rw [run?_takeWhile, Option.some.injEq, Prod.mk.injEq] at hrun
        obtain ⟨rfl, rfl⟩ := hrun
        have hfront : (c :: cs).takeWhile isDigit = c :: cs.takeWhile isDigit :=
          List.takeWhile_cons_of_pos hdigit
        refine ⟨List.takeWhile_append_dropWhile.symm, by simp [hfront],
          fun d hd => List.mem_takeWhile_imp hd, fun hhead => ?_, fun d hd => ?_⟩
        · rw [hfront] at hhead
          exact absurd (Option.some.inj hhead) hzero
        · have := List.head?_dropWhile_not isDigit (c :: cs)
          rw [hd] at this
          simpa using this

/-- A number that is read as an unsigned one has no sign, and it is digits to its end. -/
theorem number_sound {minus : Bool} (h : (number minus).run? cs = some (.unsigned n, rest)) :
    minus = false ∧ ∃ token, cs = token ++ rest ∧ IsDecimal token n.toNat ∧ EndsNumber rest := by
  rw [number, run?_bind, Option.bind_eq_some_iff] at h
  obtain ⟨⟨token, mid⟩, hwhole, h⟩ := h
  obtain ⟨rfl, hne, hdigits, hzero, hend⟩ := whole_sound hwhole
  cases habsorb : Number.absorb 0 token with
  | mk m left =>
    simp only [habsorb, run?_bind, run?_look, Option.bind_some] at h
    split_ifs at h with hpoint hexponent hleft
    · exact absurd h (NoUnsigned.bind skip (fun _ => fraction_noUnsigned _ _ _) _ _ _)
    · exact absurd h (NoUnsigned.bind skip (fun _ => exponent_noUnsigned _ _ _) _ _ _)
    · rw [List.isEmpty_iff] at hleft
      subst hleft
      obtain ⟨hvalue, hlt⟩ := Number.absorb_eq_nil habsorb
      rw [run?_pure, Option.some.injEq, Prod.mk.injEq] at h
      obtain ⟨hnumber, rfl⟩ := h
      obtain ⟨hminus, rfl⟩ := Number.ofWhole_eq_unsigned hnumber
      have hback : m.toUInt64.toNat = m := UInt64.toNat_ofNat_of_lt' (hlt (by decide))
      refine ⟨hminus, token, rfl, ⟨hne, hdigits, hzero, hback.symm ▸ hvalue⟩, fun c hc => ?_⟩
      refine ⟨hend c hc, ?_, ?_⟩
      · rintro rfl
        exact hpoint hc
      · rw [← Option.mem_def.1 hc]
        exact Bool.eq_false_iff.2 hexponent
    · exact absurd h (float_noUnsigned _ _ _ _ _ _)

/-! ## Unsigned numbers -/

theorem unsignedOf_run? (x : Number) :
    (unsignedOf x).run? cs = some (n, rest) ↔ x = .unsigned n ∧ cs = rest := by
  cases x with
  | unsigned m => simp [unsignedOf]
  | negative i => simp [unsignedOf]
  | float x => simp [unsignedOf, invalidType]

theorem unsigned_sound (h : unsigned.run? cs = some (n, rest)) :
    ∃ (ws : Space) (token : List Char), cs = ws.chars ++ (token ++ rest) ∧ IsDecimal token n.toNat ∧
      EndsNumber rest := by
  rw [unsigned, run?_bind, Option.bind_eq_some_iff] at h
  obtain ⟨⟨c, mid⟩, hstart, h⟩ := h
  obtain ⟨rfl, hhead⟩ := valueStart_run?_iff.1 hstart
  have hcs : cs = cs.takeWhile isSpace ++ cs.dropWhile isSpace := List.takeWhile_append_dropWhile.symm
  dsimp only at h
  split_ifs at h with hminus hdigit
  · -- behind a minus stands no unsigned number
    rw [run?_bind, Option.bind_eq_some_iff] at h
    obtain ⟨_, -, h⟩ := h
    rw [run?_bind, Option.bind_eq_some_iff] at h
    obtain ⟨⟨x, _⟩, hnumber, h⟩ := h
    obtain ⟨rfl, rfl⟩ := (unsignedOf_run? x).1 h
    cases (number_sound hnumber).1
  · rw [run?_bind, Option.bind_eq_some_iff] at h
    obtain ⟨⟨x, _⟩, hnumber, h⟩ := h
    obtain ⟨rfl, rfl⟩ := (unsignedOf_run? x).1 h
    obtain ⟨-, token, hmid, htoken, hend⟩ := number_sound hnumber
    exact ⟨⟨cs.takeWhile isSpace, fun _ hc => isSpace_iff.1 (List.mem_takeWhile_imp hc)⟩, token, hmid ▸ hcs, htoken, hend⟩
  · rw [mismatch_run?] at h
    cases h

theorem unsigned_complete (ws : Space) {token : List Char} (htoken : IsDecimal token n.toNat)
    (hend : EndsNumber rest) : unsigned.run? (ws.chars ++ (token ++ rest)) = some (n, rest) := by
  have hback : (decimalValue token).toUInt64 = n := by
    rw [htoken.value]
    exact UInt64.ofNat_toNat
  have hlt : decimalValue token < 2 ^ 64 := by
    rw [htoken.value]
    exact n.toNat_lt
  have hnumber := run?_of_run
    (number_run ⟨token, htoken.ne_nil, htoken.digits⟩ htoken.zero_alone hlt hend)
  obtain ⟨c, ds, rfl⟩ := List.exists_cons_of_ne_nil htoken.ne_nil
  have hdigit : isDigit c = true := htoken.digits c List.mem_cons_self
  have hminus : c ≠ '-' := ne_of_isDigit hdigit rfl
  have hstart : valueStart.run? (ws.chars ++ (c :: ds ++ rest)) = some (c, c :: ds ++ rest) :=
    valueStart_run?_iff.2 ⟨ws.dropWhile_cons (isSpace_of_isDigit hdigit) _, rfl⟩
  rw [unsigned, run?_bind, hstart, Option.bind_some, if_neg hminus, if_pos hdigit, run?_bind, hnumber,
    Option.bind_some]
  exact (unsignedOf_run? _).2 ⟨congrArg _ hback, rfl⟩

/-- **What is read as an unsigned number**, of any text: digits that write it, with no zero in front of
others, after any space and as far as digits, a point and an exponent go. -/
theorem unsigned_run?_iff : unsigned.run? cs = some (n, rest) ↔
    ∃ (ws : Space) (token : List Char), cs = ws.chars ++ (token ++ rest) ∧ IsDecimal token n.toNat ∧
      EndsNumber rest := by
  constructor
  · exact unsigned_sound
  · rintro ⟨ws, token, rfl, htoken, hend⟩
    exact unsigned_complete ws htoken hend

end Reader

/-! ## Values -/

/-- The number that a value is, if it is digits and they write one of 64 bits. -/
def Source.unsigned? : Source → Option UInt64
  | .number t =>
    if t.chars.all Char.isDigit ∧ decimalValue t.chars < 2 ^ 64 then
      some (decimalValue t.chars).toUInt64
    else none
  | _ => none

theorem Source.eq_number_of_first {v : Source} (h : isDigit v.first = true) :
    ∃ t, v = .number t ∧ t.minus = false := by
  cases v with
  | number t =>
    cases hminus : t.minus with
    | false => exact ⟨t, rfl, hminus⟩
    | true =>
      rw [Source.first, Numeral.first, if_pos hminus] at h
      cases h
  | boolean b => cases b <;> cases h
  | _ => cases h

namespace Numeral

variable {t : Numeral}

theorem chars_of_not_minus (h : t.minus = false) : t.chars = t.whole.chars ++ t.tail := by
  simp [chars, h]

/-- A fraction and an exponent go on a number. -/
theorem tail_eq_nil {rest : List Char} (h : Reader.EndsNumber (t.tail ++ rest)) : t.tail = [] := by
  rw [tail] at h ⊢
  cases hfraction : t.fraction with
  | some ds =>
    rw [hfraction] at h
    exact absurd rfl (h.no_point)
  | none =>
    cases hexponent : t.exponent with
    | none => rfl
    | some e =>
      obtain ⟨c, hc, -, -, hchars⟩ := e.exists_cons
      have hno := h.no_exponent
      rw [hfraction, hexponent] at hno
      simp [hchars, hc] at hno

/-- A number that is all digits is those in front. -/
theorem chars_of_digits (h : ∀ c ∈ t.chars, isDigit c = true) : t.chars = t.whole.chars := by
  have hminus : t.minus = false := by
    by_contra hminus
    have hsign : '-' ∈ t.chars := by simp [chars, (Bool.not_eq_false _).mp hminus]
    cases h '-' hsign
  have hchars := chars_of_not_minus hminus
  cases htail : t.tail with
  | nil => rw [hchars, htail, List.append_nil]
  | cons c cs =>
    have hno : NoDigit (t.tail ++ []) := Reader.noDigit_tail t fun _ hc => by cases hc
    have hdigit : isDigit c = true := h c (by simp [hchars, htail])
    rw [htail] at hno
    rw [hno c rfl] at hdigit
    cases hdigit

end Numeral

theorem Source.unsigned?_eq_some_iff {v : Source} {n : UInt64} :
    v.unsigned? = some n ↔ ∃ t, v = .number t ∧ IsDecimal t.chars n.toNat := by
  constructor
  · intro h
    cases v with
    | number t =>
      rw [Source.unsigned?] at h
      split_ifs at h with hnumber
      cases h
      obtain ⟨hall, hlt⟩ := hnumber
      have hdigits := List.all_eq_true.1 hall
      have hwhole := t.chars_of_digits hdigits
      refine ⟨t, rfl, ?_, hdigits, ?_, (UInt64.toNat_ofNat_of_lt' hlt).symm⟩
      · rw [hwhole]
        exact t.whole.ne_nil
      · rw [hwhole]
        exact t.zero_alone
    | _ => cases h
  · rintro ⟨t, rfl, ht⟩
    have hlt : decimalValue t.chars < 2 ^ 64 := by
      rw [ht.value]
      exact n.toNat_lt
    rw [Source.unsigned?, if_pos ⟨List.all_eq_true.2 ht.digits, hlt⟩, ht.value]
    exact congrArg some UInt64.ofNat_toNat

namespace Reader

/-- A value that begins with the digits of a number, up to where a number may end, is that number. -/
theorem eq_number_of_append {v : Source} {token rest' : List Char} {m : Nat} (htoken : IsDecimal token m)
    (hrest : EndsValue rest) (hend : EndsNumber rest') (h : v.chars ++ rest = token ++ rest') :
    ∃ t : Numeral, v = .number t ∧ t.chars = token ∧ rest' = rest := by
  obtain ⟨cs, hcs⟩ := v.exists_cons
  obtain ⟨d, ds, rfl⟩ := List.exists_cons_of_ne_nil htoken.ne_nil
  have hfirst : v.first = d := by
    rw [hcs] at h
    exact List.head_eq_of_cons_eq h
  have hd : isDigit d = true := htoken.digits d List.mem_cons_self
  obtain ⟨t, rfl, hminus⟩ := Source.eq_number_of_first (hfirst ▸ hd)
  -- the digits in front of the value are the digits of the number, and nothing is behind them
  let front : Digits := ⟨d :: ds, htoken.ne_nil, htoken.digits⟩
  rw [Source.chars, t.chars_of_not_minus hminus, List.append_assoc] at h
  have htake := congrArg (List.takeWhile isDigit) h
  have hdrop := congrArg (List.dropWhile isDigit) h
  have hnext := noDigit_tail t hrest
  rw [Digits.takeWhile hnext, front.takeWhile hend.noDigit] at htake
  rw [Digits.dropWhile hnext, front.dropWhile hend.noDigit] at hdrop
  subst hdrop
  have htail := t.tail_eq_nil hend
  refine ⟨t, rfl, ?_, ?_⟩
  · rw [t.chars_of_not_minus hminus, htail, htake, List.append_nil]
  · rw [htail, List.nil_append]

/-- A value is read as an unsigned number exactly if it is digits that write one of 64 bits. -/
theorem Decides.unsigned : Decides Reader.unsigned Source.unsigned? := by
  intro v ws rest hrest
  refine Option.ext fun r => ?_
  obtain ⟨n, rest'⟩ := r
  rw [unsigned_run?_iff, Option.map_eq_some_iff]
  constructor
  · rintro ⟨ws', token, hchars, htoken, hend⟩
    -- behind the space on both sides, the value and the digits are the same text
    have hsame : v.chars ++ rest = token ++ rest' := by
      obtain ⟨cs, hcs⟩ := v.exists_cons
      obtain ⟨d, ds, rfl⟩ := List.exists_cons_of_ne_nil htoken.ne_nil
      have hd : isDigit d = true := htoken.digits d List.mem_cons_self
      have hdrop := congrArg (List.dropWhile isSpace) hchars
      rwa [hcs, List.cons_append, List.cons_append,
        ws.dropWhile_cons (isSpace_of_startsValue v.startsValue_first),
        ws'.dropWhile_cons (isSpace_of_isDigit hd), ← List.cons_append, ← List.cons_append,
        ← hcs] at hdrop
    obtain ⟨t, rfl, rfl, rfl⟩ := eq_number_of_append htoken hrest hend hsame
    exact ⟨n, Source.unsigned?_eq_some_iff.2 ⟨t, rfl, htoken⟩, rfl⟩
  · rintro ⟨_, hv, ⟨⟩⟩
    obtain ⟨t, rfl, ht⟩ := Source.unsigned?_eq_some_iff.1 hv
    exact ⟨ws, t.chars, rfl, ht, hrest.endsNumber⟩

/-- A choice that carries a number, after the opening brace: its name, the number, and nothing else. -/
theorem keyed_carrying_run? {α : Type} {choices : Choices α} {name : String} {f : UInt64 → α}
    (h : choices.lookup name = some (.unsigned f)) (before : Space) {key : Pieces}
    (hkey : key.text? = some name) (colon : Space) (cs : List Char) :
    (keyed choices).run? (before.chars ++ (key.chars ++ (colon.chars ++ ':' :: cs))) =
      (unsigned.run? cs).bind fun r =>
        if (r.2.dropWhile isSpace).head? = some '\x7d' then some (f r.1, (r.2.dropWhile isSpace).tail)
        else none := by
  have hchoose : ∀ cs, (choose choices name).run? cs = some (.unsigned f, cs) := by
    intro cs
    rw [choose, h]
    rfl
  rw [keyed, run?_bind, run?_of_run (nextKey_open before key _), Option.bind_some, if_pos rfl, run?_bind,
    text_run?, hkey, Option.map_some, Option.bind_some, run?_bind, hchoose, Option.bind_some, run?_bind,
    run?_of_run (colon_run colon _), Option.bind_some, carried]
  cases hnumber : unsigned.run? cs with
  | none => simp [run?_bind, hnumber]
  | some r =>
    simp only [run?_bind, hnumber, Option.bind_some, run?_pure, run?_space, run?_look]
    cases r.2.dropWhile isSpace with
    | nil => rfl
    | cons c rest =>
      by_cases hclose : c = '\x7d'
      · simp [hclose, run?_bind]
      · simp [hclose]

end Reader
end DiskQuota.Json
