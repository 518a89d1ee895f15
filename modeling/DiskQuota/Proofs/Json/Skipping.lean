import DiskQuota.Proofs.Json.Strings

/-!
Any value can be passed over. However it is spelled and however deep it nests, the reader that ignores a
value takes it up to its end (`ignore_run`). The open brackets are kept in a list by the reader; the
induction is on the value and holds within any brackets.
-/
namespace DiskQuota.Json

/-! ## Space and digits -/

theorem Space.dropWhile (ws : Space) (cs : List Char) :
    (ws.chars ++ cs).dropWhile Reader.isSpace = cs.dropWhile Reader.isSpace :=
  List.dropWhile_append_of_pos ws.isSpace

theorem Space.dropWhile_cons (ws : Space) {c : Char} (hc : Reader.isSpace c = false) (cs : List Char) :
    (ws.chars ++ c :: cs).dropWhile Reader.isSpace = c :: cs := by
  rw [ws.dropWhile, List.dropWhile_cons_of_neg (by simp [hc])]

/-- What starts with no digit. -/
def NoDigit (cs : List Char) : Prop := ∀ c ∈ cs.head?, isDigit c = false

section

variable {cs : List Char} (h : NoDigit cs)

include h

theorem Digits.takeWhile (ds : Digits) : (ds.chars ++ cs).takeWhile isDigit = ds.chars := by
  rw [List.takeWhile_append_of_pos ds.decimal]
  cases cs with
  | nil => simp
  | cons c cs => rw [List.takeWhile_cons_of_neg (by simp [h c rfl]), List.append_nil]

theorem Digits.dropWhile (ds : Digits) : (ds.chars ++ cs).dropWhile isDigit = cs := by
  rw [List.dropWhile_append_of_pos ds.decimal]
  cases cs with
  | nil => rfl
  | cons c cs => rw [List.dropWhile_cons_of_neg (by simp [h c rfl])]

end

namespace Reader

/-- What goes on no number. -/
def EndsNumber (rest : List Char) : Prop :=
  ∀ c ∈ rest.head?, isDigit c = false ∧ c ≠ '.' ∧ isExponent (some c) = false

/-- What ends a value ends a number. -/
theorem EndsValue.endsNumber {rest : List Char} (h : EndsValue rest) : EndsNumber rest := by
  intro c hc
  have hcases := h c hc
  simp only [isSpace, Bool.or_eq_true, decide_eq_true_eq] at hcases
  rcases hcases with ((((rfl | rfl) | rfl) | rfl) | rfl | rfl | rfl) <;> decide

theorem isSpace_of_isDigit {c : Char} (h : isDigit c = true) : isSpace c = false := by
  by_contra hc
  simp only [isSpace, Bool.not_eq_false, Bool.or_eq_true, decide_eq_true_eq] at hc
  rcases hc with ((rfl | rfl) | rfl) | rfl <;> exact absurd h (by decide)

/-- A digit is none of the characters that other values and parts of numbers start with. -/
theorem ne_of_isDigit {c d : Char} (h : isDigit c = true) (hd : isDigit d = false) : c ≠ d := by
  rintro rfl
  rw [h] at hd
  cases hd

/-! ## Numbers -/

theorem exponentSign_run (e : Exponent) (cs : List Char) :
    ∃ minus, exponentSign.run
      ((e.sign.elim [] fun minus => [if minus then '-' else '+']) ++ (e.digits.chars ++ cs)) =
        .ok (minus, e.digits.chars ++ cs) := by
  obtain ⟨c, ds, hc, hdigit⟩ := e.digits.exists_cons
  rcases hsign : e.sign with - | (_ | _)
  · have hplus : c ≠ '+' := ne_of_isDigit hdigit rfl
    have hminus : c ≠ '-' := ne_of_isDigit hdigit rfl
    exact ⟨false, by simp [exponentSign, run_bind, hc, hplus, hminus]⟩
  · exact ⟨false, by simp [exponentSign, run_bind]⟩
  · exact ⟨true, by simp [exponentSign, run_bind]⟩

theorem skipExponent_run (e : Exponent) {cs : List Char} (h : NoDigit cs) :
    skipExponent.run ((e.sign.elim [] fun minus => [if minus then '-' else '+']) ++
      (e.digits.chars ++ cs)) = .ok ((), cs) := by
  obtain ⟨minus, hsign⟩ := exponentSign_run e cs
  obtain ⟨c, ds, hc, hdigit⟩ := e.digits.exists_cons
  have hhead : (e.digits.chars ++ cs).head? = some c := by rw [hc]; rfl
  simp [skipExponent, run_bind, hsign, hhead, hdigit, e.digits.dropWhile h]

variable {rest : List Char}

theorem EndsNumber.noDigit (h : EndsNumber rest) : NoDigit rest := fun c hc => (h c hc).1

theorem EndsNumber.no_point (h : EndsNumber rest) : rest.head? ≠ some '.' :=
  fun hc => (h '.' hc).2.1 rfl

theorem EndsNumber.no_exponent (h : EndsNumber rest) : isExponent rest.head? = false := by
  cases hc : rest.head? with
  | none => rfl
  | some c => exact (h c hc).2.2

/-- Passes over an exponent if there is one. -/
def skipExponent? : Reader Unit := do
  if isExponent (← look) then
    skip
    skipExponent
  else pure ()

theorem skipExponent?_run (e : Option Exponent) (h : EndsValue rest) :
    skipExponent?.run (e.elim [] Exponent.chars ++ rest) = .ok ((), rest) := by
  cases e with
  | none => simp [skipExponent?, run_bind, h.endsNumber.no_exponent]
  | some e =>
    obtain ⟨c, hc, -, -, hchars⟩ := e.exists_cons
    simp [skipExponent?, run_bind, hchars, hc, skipExponent_run e h.endsNumber.noDigit]

theorem no_point_exponent (e : Option Exponent) (h : EndsValue rest) :
    (e.elim [] Exponent.chars ++ rest).head? ≠ some '.' := by
  cases e with
  | none => exact h.endsNumber.no_point
  | some e =>
    obtain ⟨c, -, -, hc, hchars⟩ := e.exists_cons
    simp [hchars, hc]

theorem noDigit_exponent (e : Option Exponent) (h : EndsValue rest) :
    NoDigit (e.elim [] Exponent.chars ++ rest) := by
  cases e with
  | none => exact h.endsNumber.noDigit
  | some e =>
    obtain ⟨c, -, hc, -, hchars⟩ := e.exists_cons
    intro d hd
    rw [Option.elim_some, hchars] at hd
    cases hd
    exact hc

theorem noDigit_tail (n : Numeral) (h : EndsValue rest) : NoDigit (n.tail ++ rest) := by
  rw [Numeral.tail, List.append_assoc]
  cases n.fraction with
  | none => exact noDigit_exponent n.exponent h
  | some ds =>
    intro d hd
    cases hd
    rfl

theorem skipAfterWhole_run (n : Numeral) (h : EndsValue rest) :
    skipAfterWhole.run (n.tail ++ rest) = .ok ((), rest) := by
  have hexponent := skipExponent?_run n.exponent h
  rw [Numeral.tail, List.append_assoc]
  cases n.fraction with
  | none =>
    have hskip : skipAfterWhole.run (n.exponent.elim [] Exponent.chars ++ rest) =
        skipExponent?.run (n.exponent.elim [] Exponent.chars ++ rest) := by
      rw [skipAfterWhole, run_bind, run_look]
      dsimp only
      rw [if_neg (no_point_exponent n.exponent h)]
      rfl
    exact hskip.trans hexponent
  | some ds =>
    have hdigits := noDigit_exponent n.exponent h
    have hskip : skipAfterWhole.run ('.' :: (ds.chars ++ (n.exponent.elim [] Exponent.chars ++ rest))) =
        skipExponent?.run (n.exponent.elim [] Exponent.chars ++ rest) := by
      simp only [skipAfterWhole, skipFraction, run_bind, run_look, List.head?_cons, if_true, run_skip,
        run_takeWhile, ds.takeWhile hdigits, ds.dropWhile hdigits, List.isEmpty_eq_false_iff.2 ds.ne_nil,
        Bool.false_eq_true, if_false]
      rfl
    exact hskip.trans hexponent

/-- The digits in front: a zero stands alone, others go as far as digits go. -/
theorem skipWhole_run (n : Numeral) {c : Char} {ds : List Char} (hwhole : n.whole.chars = c :: ds)
    (h : EndsValue rest) :
    (skipDigits c).run (ds ++ (n.tail ++ rest)) = .ok ((), rest) ∧
      skipNumber.run (c :: (ds ++ (n.tail ++ rest))) = .ok ((), rest) := by
  have htail := noDigit_tail n h
  have hafter := skipAfterWhole_run n h
  have hdigit : isDigit c = true := n.whole.digits c (by simp [hwhole])
  by_cases hzero : c = '0'
  · subst hzero
    have halone := n.zero_alone (by simp [hwhole])
    rw [hwhole] at halone
    cases halone
    cases hcs : n.tail ++ rest with
    | nil =>
      rw [hcs] at hafter
      simp [skipDigits, skipNumber, whole, run_bind, hafter]
    | cons d cs =>
      have hd : isDigit d = false := htail d (by simp [hcs])
      rw [hcs] at hafter
      simp [skipDigits, skipNumber, whole, run_bind, hd, hafter]
  · have hdrop := n.whole.dropWhile htail
    rw [hwhole, List.cons_append, List.dropWhile_cons_of_pos hdigit] at hdrop
    simp [skipDigits, skipNumber, whole, run_bind, hzero, hdigit, hdrop, hafter]

/-! ## Values without parts -/

/-- What a value starts with. -/
theorem isSpace_of_startsValue {c : Char} (h : startsValue c = true) : isSpace c = false := by
  rw [startsValue, Bool.or_eq_true] at h
  rcases h with h | h
  · exact isSpace_of_isDigit h
  · simp only [List.contains_eq_mem, List.mem_cons, List.not_mem_nil, or_false, decide_eq_true_eq] at h
    rcases h with rfl | rfl | rfl | rfl | rfl | rfl | rfl <;> rfl

theorem skipHead_run (ws : Space) {c : Char} (hc : startsValue c = true) (cs : List Char) :
    skipHead.run (ws.chars ++ c :: cs) = (skipAfter c).run cs := by
  simp [skipHead, run_bind, ws.dropWhile_cons (isSpace_of_startsValue hc), hc]

theorem skipAfter_run {c : Char} {cs : List Char} (hlist : c ≠ '[') (hobject : c ≠ '\x7b')
    (h : (skipScalar c).run cs = .ok ((), rest)) : (skipAfter c).run cs = .ok (none, rest) := by
  simp [skipAfter, hlist, hobject, run_bind, h]

theorem skipNumeral_run (n : Numeral) (ws : Space) (h : EndsValue rest) :
    skipHead.run (ws.chars ++ (n.chars ++ rest)) = .ok (none, rest) := by
  obtain ⟨c, ds, hc, hdigit⟩ := n.whole.exists_cons
  obtain ⟨hdigits, hnumber⟩ := skipWhole_run n hc h
  cases hminus : n.minus with
  | true =>
    have hchars : n.chars ++ rest = '-' :: (c :: (ds ++ (n.tail ++ rest))) := by
      simp [Numeral.chars, hminus, hc]
    rw [hchars, skipHead_run ws rfl]
    exact skipAfter_run (by decide) (by decide) hnumber
  | false =>
    have hchars : n.chars ++ rest = c :: (ds ++ (n.tail ++ rest)) := by
      simp [Numeral.chars, hminus, hc]
    have hne : ∀ d, isDigit d = false → c ≠ d := fun d => ne_of_isDigit hdigit
    have hscalar : skipScalar c = skipDigits c := by
      rw [skipScalar, if_neg (hne _ rfl), if_neg (hne _ rfl), if_neg (hne _ rfl), if_neg (hne _ rfl),
        if_neg (hne _ rfl)]
    rw [hchars, skipHead_run ws (by simp [startsValue, hdigit])]
    exact skipAfter_run (hne _ rfl) (hne _ rfl) (by rw [hscalar, hdigits])

/-! ## Values within brackets -/

/-- Goes on within brackets, and passes over the values still to come. -/
def resume (afterValue : Bool) (bs : List Bracket) (cs : List Char) :
    Except Fault (Unit × List Char) :=
  match (between afterValue bs).run cs with
  | .error f => .error f
  | .ok ([], rest) => .ok ((), rest)
  | .ok (b :: bs, rest) => ignoreFrom (b :: bs) rest

theorem resume_nil (afterValue : Bool) (cs : List Char) : resume afterValue [] cs = .ok ((), cs) := by
  simp [resume, between]

theorem resume_of_between {afterValue : Bool} {bs bs' : List Bracket} {b : Bracket} {cs : List Char}
    (h : (between afterValue bs).run cs = .ok (b :: bs', rest)) :
    resume afterValue bs cs = ignoreFrom (b :: bs') rest := by
  simp [resume, h]

/-- The steps of the loop, without the bounds that let it end. -/
theorem ignoreFrom_step (bs : List Bracket) (cs : List Char) : ignoreFrom bs cs =
    match (skipOne bs).run cs with
    | .error f => .error f
    | .ok ([], rest) => .ok ((), rest)
    | .ok (b :: bs, rest) => ignoreFrom (b :: bs) rest := by
  rw [ignoreFrom]
  split <;> simp_all

theorem ignoreFrom_of_scalar {bs : List Bracket} {cs : List Char}
    (h : skipHead.run cs = .ok (none, rest)) : ignoreFrom bs cs = resume true bs rest := by
  rw [ignoreFrom_step, skipOne, run_bind, h]
  rfl

theorem ignoreFrom_of_bracket {bs : List Bracket} {b : Bracket} {cs : List Char}
    (h : skipHead.run cs = .ok (some b, rest)) : ignoreFrom bs cs = resume false (b :: bs) rest := by
  rw [ignoreFrom_step, skipOne, run_bind, h]
  rfl

/-- Space before a value does not count. -/
theorem ignoreFrom_space (bs : List Bracket) (ws : Space) (cs : List Char) :
    ignoreFrom bs (ws.chars ++ cs) = ignoreFrom bs cs := by
  have hhead : skipHead.run (ws.chars ++ cs) = skipHead.run cs := by
    simp only [skipHead, run_bind, run_space, ws.dropWhile]
  rw [ignoreFrom_step, ignoreFrom_step, skipOne, run_bind, run_bind, hhead]

/-! What may follow a value or an opening bracket. -/

variable (bs : List Bracket) (ws : Space) (cs : List Char)

theorem resume_close (afterValue : Bool) (b : Bracket) :
    resume afterValue (b :: bs) (ws.chars ++ b.close :: cs) = resume true bs cs := by
  have hspace : isSpace b.close = false := by cases b <;> rfl
  have hcomma : b.close ≠ ',' := by cases b <;> decide
  simp [resume, between, run_bind, ws.dropWhile_cons hspace, hcomma]

theorem resume_value {c : Char} (hc : startsValue c = true) :
    resume false (.list :: bs) (ws.chars ++ c :: cs) = ignoreFrom (.list :: bs) (c :: cs) := by
  have hclose : c ≠ ']' := by
    rintro rfl
    cases hc
  refine resume_of_between ?_
  simp [between, run_bind, ws.dropWhile_cons (isSpace_of_startsValue hc), Bracket.close, hclose, skipKey]

theorem resume_comma :
    resume true (.list :: bs) (ws.chars ++ ',' :: cs) = ignoreFrom (.list :: bs) cs := by
  refine resume_of_between ?_
  simp [between, run_bind, ws.dropWhile_cons (c := ',') rfl, skipKey]

theorem colon_run : colon.run (ws.chars ++ ':' :: cs) = .ok ((), cs) := by
  simp [colon, run_bind, ws.dropWhile_cons (c := ':') rfl]

variable (before colon : Space) (key : Pieces)

theorem skipKey_run : (skipKey .object).run
    (before.chars ++ (key.chars ++ (colon.chars ++ ':' :: cs))) = .ok ((), cs) := by
  rw [key.chars_append]
  simp [skipKey, run_bind, before.dropWhile_cons (c := '\x22') rfl, skipText_run, colon_run]

theorem resume_key : resume false (.object :: bs)
    (before.chars ++ (key.chars ++ (colon.chars ++ ':' :: cs))) = ignoreFrom (.object :: bs) cs := by
  have hkey : (skipKey .object).run (key.chars ++ (colon.chars ++ ':' :: cs)) = .ok ((), cs) :=
    skipKey_run cs .none colon key
  rw [key.chars_append] at hkey ⊢
  refine resume_of_between ?_
  simp only [between, run_bind, run_space, before.dropWhile_cons (c := '\x22') rfl, run_look,
    List.head?_cons, Bracket.close, Bool.and_false, Bool.false_eq_true, Char.reduceEq, if_false]
  simp [hkey]

theorem resume_comma_key : resume true (.object :: bs)
    (ws.chars ++ ',' :: (before.chars ++ (key.chars ++ (colon.chars ++ ':' :: cs)))) =
      ignoreFrom (.object :: bs) cs := by
  refine resume_of_between ?_
  simp only [between, run_bind, run_space, ws.dropWhile_cons (c := ',') rfl, run_look, List.head?_cons]
  simp [run_bind, skipKey_run]

theorem endsValue_append {c : Char} (h : c = ',' ∨ c = ']' ∨ c = '\x7d') :
    EndsValue (ws.chars ++ c :: cs) := by
  intro d hd
  cases hws : ws.chars with
  | nil =>
    rw [hws] at hd
    cases hd
    exact .inr h
  | cons e es =>
    rw [hws] at hd
    cases hd
    exact .inl (ws.isSpace d (by simp [hws]))

/-! ## Values of any depth -/

mutual

/-- A value within brackets is passed over up to its end. -/
theorem ignoreFrom_source (v : Source) (bs : List Bracket) (ws : Space) {rest : List Char}
    (hrest : EndsValue rest) :
    ignoreFrom bs (ws.chars ++ (v.chars ++ rest)) = resume true bs rest := by
  match v with
  | .null =>
    rw [Source.chars]
    exact ignoreFrom_of_scalar (skipHead_run ws rfl _)
  | .boolean true =>
    rw [Source.chars]
    exact ignoreFrom_of_scalar (skipHead_run ws rfl _)
  | .boolean false =>
    rw [Source.chars]
    exact ignoreFrom_of_scalar (skipHead_run ws rfl _)
  | .number n =>
    rw [Source.chars]
    exact ignoreFrom_of_scalar (skipNumeral_run n ws hrest)
  | .string ps =>
    rw [Source.chars, ps.chars_append]
    refine ignoreFrom_of_scalar ((skipHead_run ws rfl _).trans ?_)
    exact skipAfter_run (by decide) (by decide) (skipText_run ps rest)
  | .emptyList inside =>
    rw [Source.chars, List.cons_append, List.append_assoc,
      ignoreFrom_of_bracket (skipHead_run ws rfl _)]
    exact resume_close bs inside rest false .list
  | .list es =>
    obtain ⟨before, c, cs, hes, hc⟩ := es.exists_cons
    have hall := ignoreFrom_elements es bs rest
    rw [hes, List.append_assoc, List.cons_append, ignoreFrom_space] at hall
    rw [Source.chars, List.cons_append, List.append_assoc,
      ignoreFrom_of_bracket (skipHead_run ws rfl _), hes, List.append_assoc, List.cons_append,
      List.singleton_append, resume_value bs before _ hc, hall]
  | .emptyObject inside =>
    rw [Source.chars, List.cons_append, List.append_assoc,
      ignoreFrom_of_bracket (skipHead_run ws rfl _)]
    exact resume_close bs inside rest false .object
  | .object ms =>
    rw [Source.chars, List.cons_append, List.append_assoc,
      ignoreFrom_of_bracket (skipHead_run ws rfl _)]
    exact (resume_members ms bs rest).1

theorem ignoreFrom_elements (es : Elements) (bs : List Bracket) (rest : List Char) :
    ignoreFrom (.list :: bs) (es.chars ++ ']' :: rest) = resume true bs rest := by
  match es with
  | .last before value after =>
    rw [Elements.chars, List.append_assoc, List.append_assoc,
      ignoreFrom_source value _ before (endsValue_append after rest (.inr (.inl rfl)))]
    exact resume_close bs after rest true .list
  | .more before value after es =>
    rw [Elements.chars, List.append_assoc, List.append_assoc, List.append_assoc, List.cons_append,
      ignoreFrom_source value _ before (endsValue_append after _ (.inl rfl)), resume_comma,
      ignoreFrom_elements es]

/-- The members of an object from the first key on, or from the comma before it. -/
theorem resume_members (ms : Members) (bs : List Bracket) (rest : List Char) :
    resume false (.object :: bs) (ms.chars ++ '\x7d' :: rest) = resume true bs rest ∧
    ∀ ws : Space, resume true (.object :: bs) (ws.chars ++ ',' :: (ms.chars ++ '\x7d' :: rest)) =
      resume true bs rest := by
  match ms with
  | .last before key colon between value after =>
    have hvalue : ignoreFrom (.object :: bs)
        (between.chars ++ (value.chars ++ (after.chars ++ '\x7d' :: rest))) = resume true bs rest := by
      rw [ignoreFrom_source value _ between (endsValue_append after rest (.inr (.inr rfl)))]
      exact resume_close bs after rest true .object
    simp only [Members.chars, List.append_assoc, List.cons_append]
    exact ⟨(resume_key bs _ before colon key).trans hvalue,
      fun ws => (resume_comma_key bs ws _ before colon key).trans hvalue⟩
  | .more before key colon between value after ms =>
    have hvalue : ignoreFrom (.object :: bs) (between.chars ++ (value.chars ++ (after.chars ++
        ',' :: (ms.chars ++ '\x7d' :: rest)))) = resume true bs rest := by
      rw [ignoreFrom_source value _ between (endsValue_append after _ (.inl rfl))]
      exact (resume_members ms bs rest).2 after
    simp only [Members.chars, List.append_assoc, List.cons_append]
    exact ⟨(resume_key bs _ before colon key).trans hvalue,
      fun ws => (resume_comma_key bs ws _ before colon key).trans hvalue⟩

end

/-- **A value of no interest is passed over**, however it is spelled and however deep it nests. -/
theorem ignore_run (v : Source) (ws : Space) {rest : List Char} (hrest : EndsValue rest) :
    ignore.run (ws.chars ++ (v.chars ++ rest)) = .ok ((), rest) :=
  (ignoreFrom_source v [] ws hrest).trans (resume_nil true rest)

end Reader
end DiskQuota.Json
