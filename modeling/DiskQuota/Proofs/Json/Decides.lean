import DiskQuota.Proofs.Json.Skipping
import Mathlib.Data.List.TakeWhile

/-!
Readers of values, decided. A reader takes a value exactly if the value means something to it, however
the value is spelled (`Decides`). Strings and choices by name are read so, and the members of an object
one after the other.
-/
namespace DiskQuota.Json

/-- The null that a value is. -/
def Source.null? : Source → Option Unit
  | .null => some ()
  | _ => none

theorem Source.text?_eq_some_iff {v : Source} {s : String} :
    v.text? = some s ↔ ∃ ps, v = .string ps ∧ ps.text? = some s := by
  cases v <;> simp [Source.text?]

/-- The choice of a name that carries nothing. -/
def Choices.plain? {α : Type} (choices : Choices α) (name : String) : Option α :=
  match choices.lookup name with
  | some (.nothing a) => some a
  | _ => none

/-- The name that a value gives: a string, or the only key of an object with null beside it. -/
def Source.name? : Source → Option String
  | .string ps => ps.text?
  | .object (.last _ key _ _ .null _) => key.text?
  | _ => none

/-- The choice that a value names. -/
def Source.choice? {α : Type} (choices : Choices α) (v : Source) : Option α :=
  v.name?.bind choices.plain?

/-- The one among some that a value names. -/
def Source.oneOf? {α : Type} (names : List (String × α)) (v : Source) : Option α :=
  v.name?.bind fun name => names.lookup name

namespace Reader

variable {α β : Type}

/-- The reader takes a value exactly if the value means something, and then its meaning. -/
def Decides (x : Reader α) (meaning : Source → Option α) : Prop :=
  ∀ (v : Source) (ws : Space) (rest : List Char), EndsValue rest →
    x.run? (ws.chars ++ (v.chars ++ rest)) = (meaning v).map (·, rest)

/-! What is not of the wanted type is not taken. -/

theorem run?_bind_fail (x : Reader α) {f : α → Reader β} (h : ∀ a cs, (f a).run? cs = none)
    (cs : List Char) : (x >>= f).run? cs = none := by
  simp [run?_bind, h]

/-- Every way through a mismatch ends in a fault. -/
theorem mismatch_run? (wanted : String) (cs : List Char) :
    (mismatch wanted : Reader α).run? cs = none := by
  have htype : ∀ found cs, (invalidType found wanted : Reader α).run? cs = none := fun _ _ => rfl
  refine run?_bind_fail _ (fun c cs => ?_) cs
  cases c with
  | none => rfl
  | some c =>
    dsimp only
    split_ifs
    all_goals first
      | exact htype _ _
      | rfl
      | exact run?_bind_fail _ (fun _ => htype _) _

/-- A value starts behind the space. -/
theorem valueStart_run?_iff {cs rest : List Char} {c : Char} : valueStart.run? cs = some (c, rest) ↔
    cs.dropWhile isSpace = rest ∧ rest.head? = some c := by
  rw [valueStart, run?_bind, run?_space, Option.bind_some, run?_bind, run?_look, Option.bind_some]
  cases cs.dropWhile isSpace with
  | nil =>
    constructor
    · intro h
      cases h
    · rintro ⟨rfl, h⟩
      cases h
  | cons d mid =>
    constructor
    · rintro ⟨⟩
      exact ⟨rfl, rfl⟩
    · rintro ⟨rfl, ⟨⟩⟩
      rfl

theorem valueStart_run? (v : Source) (ws : Space) (rest : List Char) :
    valueStart.run? (ws.chars ++ (v.chars ++ rest)) = some (v.first, v.chars ++ rest) := by
  obtain ⟨cs, hcs⟩ := v.exists_cons
  have hspace := isSpace_of_startsValue v.startsValue_first
  simp [valueStart, run?_bind, hcs, ws.dropWhile_cons hspace]

theorem Decides.string : Decides Reader.string Source.text? := by
  intro v ws rest _
  rw [Reader.string, run?_bind, valueStart_run?, Option.bind_some]
  by_cases h : v.first = '\x22'
  · obtain ⟨ps, rfl⟩ := Source.eq_string_of_first h
    simp [Source.first, Source.chars, Pieces.chars_append, run?_bind, text_run?, Source.text?]
  · have htext : v.text? = none := by
      cases v <;> first | rfl | exact absurd rfl h
    rw [if_neg h, mismatch_run?, htext]
    rfl

theorem Decides.null : Decides Reader.null Source.null? := by
  intro v ws rest _
  rw [Reader.null, run?_bind, valueStart_run?, Option.bind_some]
  by_cases h : v.first = 'n'
  · obtain rfl := Source.eq_null_of_first h
    rfl
  · have hnull : v.null? = none := by
      cases v <;> first | rfl | exact absurd rfl h
    rw [if_neg h, mismatch_run?, hnull]
    rfl

/-! Keys. -/

theorem nextKey_space (first : Bool) (ws : Space) {c : Char} (hc : isSpace c = false)
    (cs : List Char) : (nextKey first).run (ws.chars ++ c :: cs) = (nextKey first).run (c :: cs) := by
  simp [nextKey, run_bind, ws.dropWhile_cons hc, hc]

theorem nextKey_close (first : Bool) (ws : Space) (cs : List Char) :
    (nextKey first).run (ws.chars ++ '\x7d' :: cs) = .ok (false, '\x7d' :: cs) :=
  (nextKey_space first ws rfl cs).trans (nextKey_end first cs)

theorem nextKey_open (ws : Space) (key : Pieces) (cs : List Char) :
    (nextKey true).run (ws.chars ++ (key.chars ++ cs)) = .ok (true, key.inside ++ '\x22' :: cs) := by
  rw [key.chars_append, nextKey_space true ws rfl]
  exact nextKey_first _

theorem nextKey_comma (ws before : Space) (key : Pieces) (cs : List Char) :
    (nextKey false).run (ws.chars ++ ',' :: (before.chars ++ (key.chars ++ cs))) =
      .ok (true, key.inside ++ '\x22' :: cs) := by
  have hcomma : isSpace ',' = false := rfl
  rw [key.chars_append, nextKey_space false ws hcomma]
  simp [nextKey, openKey, run_bind, hcomma, before.dropWhile_cons (c := '\x22') rfl]

/-! Choices. -/

/-- Choices that are made to carry nothing. -/
theorem lookup_nothing (names : List (String × α)) (name : String) :
    (names.map fun m => (m.1, Content.nothing m.2)).lookup name = (names.lookup name).map .nothing := by
  induction names with
  | nil => rfl
  | cons m names ih =>
    rw [List.map_cons, List.lookup_cons, List.lookup_cons, ih]
    split <;> rfl

section

variable {choices : Choices α} (hplain : ∀ name f, choices.lookup name ≠ some (.unsigned f))

include hplain

theorem choose_run? (name : String) (cs : List Char) :
    (choose choices name).run? cs = (choices.plain? name).map (.nothing ·, cs) := by
  rw [choose, Choices.plain?]
  rcases h : choices.lookup name with - | (a | f)
  · rfl
  · rfl
  · exact absurd h (hplain name f)

/-- A member with the name of a choice, after the opening brace: nothing stands beside it. -/
theorem keyed_member_run? (before : Space) (key : Pieces) (colon between : Space) (value : Source)
    (after : Space) {e : Char} (he : e = ',' ∨ e = ']' ∨ e = '\x7d') (cs : List Char) :
    (keyed choices).run? (before.chars ++ (key.chars ++ (colon.chars ++ ':' ::
      (between.chars ++ (value.chars ++ (after.chars ++ e :: cs)))))) =
        (key.text?.bind choices.plain?).bind fun a =>
          value.null?.bind fun _ => if e = '\x7d' then some (a, cs) else none := by
  have hspace : isSpace e = false := by rcases he with rfl | rfl | rfl <;> rfl
  have hvalue := Decides.null value between _ (endsValue_append after cs he)
  rw [keyed, run?_bind, run?_of_run (nextKey_open before key _), Option.bind_some]
  simp only [if_true, run?_bind, text_run?]
  cases key.text? with
  | none => rfl
  | some name =>
    simp only [Option.map_some, Option.bind_some, choose_run? hplain]
    cases choices.plain? name with
    | none => rfl
    | some a =>
      simp only [Option.map_some, Option.bind_some, run?_of_run (colon_run colon _), carried, run?_bind,
        hvalue]
      cases value.null? with
      | none => rfl
      | some _ =>
        simp only [Option.map_some, Option.bind_some, run?_pure, run?_space, run?_look,
          after.dropWhile_cons hspace, List.head?_cons]
        split <;> rfl

/-- A choice that is written as an object, after the opening brace. -/
theorem keyed_run? (ms : Members) (rest : List Char) :
    (keyed choices).run? (ms.chars ++ '\x7d' :: rest) =
      ((Source.object ms).choice? choices).map (·, rest) := by
  cases ms with
  | last before key colon between value after =>
    simp only [Members.chars, List.append_assoc, List.cons_append]
    rw [keyed_member_run? hplain before key colon between value after (.inr (.inr rfl))]
    cases value with
    | null =>
      rw [Source.choice?, Source.name?]
      cases key.text?.bind choices.plain? <;> rfl
    | _ => cases key.text?.bind choices.plain? <;> rfl
  | more before key colon between value after ms =>
    simp only [Members.chars, List.append_assoc, List.cons_append]
    rw [keyed_member_run? hplain before key colon between value after (.inl rfl)]
    cases key.text?.bind choices.plain? <;> cases value.null? <;> rfl

theorem Decides.choice : Decides (Reader.choice choices) (Source.choice? choices) := by
  intro v ws rest _
  rw [Reader.choice, run?_bind, valueStart_run?, Option.bind_some]
  by_cases hobject : v.first = '\x7b'
  · rw [if_pos hobject]
    rcases Source.eq_object_of_first hobject with ⟨inside, rfl⟩ | ⟨ms, rfl⟩
    · -- there is no key, so no choice is named
      rw [Source.chars, List.cons_append, List.append_assoc, run?_bind, run?_skip, Option.bind_some,
        keyed, run?_bind, List.singleton_append, run?_of_run (nextKey_close true inside rest)]
      rfl
    · rw [Source.chars, List.cons_append, List.append_assoc, run?_bind, run?_skip, Option.bind_some]
      exact keyed_run? hplain ms rest
  · rw [if_neg hobject]
    by_cases hstring : v.first = '\x22'
    · obtain ⟨ps, rfl⟩ := Source.eq_string_of_first hstring
      rw [if_pos hstring, Source.chars, Pieces.chars_append, run?_bind, run?_skip, Option.bind_some,
        run?_bind, text_run?, Source.choice?, Source.name?]
      cases ps.text? with
      | none => rfl
      | some name =>
        simp only [Option.map_some, Option.bind_some, run?_bind, choose_run? hplain]
        cases choices.plain? name <;> rfl
    · have hnone : v.choice? choices = none := by
        cases v <;> first | rfl | exact absurd rfl hstring | exact absurd rfl hobject
      rw [if_neg hstring, hnone]
      rfl

end

/-- The reader of choices that carry nothing takes the value that names one. -/
theorem Decides.oneOf (names : List (String × α)) :
    Decides (Reader.choice (names.map fun m => (m.1, .nothing m.2))) (Source.oneOf? names) := by
  have hplain : ∀ name f, (names.map fun m => (m.1, Content.nothing m.2)).lookup name ≠
      some (.unsigned f) := by
    intro name f h
    rw [lookup_nothing] at h
    cases hname : names.lookup name with
    | none =>
      rw [hname] at h
      cases h
    | some a =>
      rw [hname] at h
      cases h
  have hmeaning : Source.choice? (names.map fun m => (m.1, Content.nothing m.2)) =
      Source.oneOf? names := by
    funext v
    rw [Source.choice?, Source.oneOf?]
    refine Option.bind_congr fun name _ => ?_
    rw [Choices.plain?, lookup_nothing]
    cases names.lookup name <;> rfl
  rw [← hmeaning]
  exact Decides.choice hplain

/-! Members. -/

/-- What a member is taken to, read after its key and put together with what was read before. -/
def DecidesField (field : β → String → Reader β) (step : β → String → Source → Option β) : Prop :=
  ∀ (b : β) (key : String) (v : Source) (colon between : Space) (rest : List Char), EndsValue rest →
    (field b key).run? (colon.chars ++ ':' :: (between.chars ++ (v.chars ++ rest))) =
      (step b key v).map (·, rest)

/-- One member by its key, which has to be a text. -/
def stepMember (step : β → String → Source → Option β) (b : β) (m : Pieces × Source) : Option β :=
  m.1.text?.bind fun key => step b key m.2

/-- Members are taken one after the other exactly if their keys are texts and they are taken by those. -/
theorem foldlM_stepMember_iff {step : β → String → Source → Option β} (ms : List (Pieces × Source))
    (b b' : β) : ms.foldlM (stepMember step) b = some b' ↔
      (∀ m ∈ ms, m.1.text?.isSome = true) ∧
        (byText ms).foldlM (fun b m => step b m.1 m.2) b = some b' := by
  induction ms generalizing b with
  | nil => simp [byText]
  | cons m ms ih =>
    obtain ⟨key, v⟩ := m
    rw [List.foldlM_cons, stepMember]
    cases hkey : key.text? with
    | none => simp [hkey]
    | some k =>
      have hcons : byText ((key, v) :: ms) = (k, v) :: byText ms := by simp [byText, hkey]
      rw [hcons, List.foldlM_cons]
      cases hstep : step b k v with
      | none => simp [hstep]
      | some b'' => simp [hstep, ih, hkey]

section

variable {field : β → String → Reader β} {step : β → String → Source → Option β}

/-- The members to come are read after one that is taken. -/
theorem membersFrom_of_key? {first : Bool} {b : β} {cs mid : List Char}
    (h : (nextKey first).run cs = .ok (true, mid)) : (membersFrom field first b cs).toOption =
      ((text >>= field b).run? mid).bind fun r => (membersFrom field false r.1 r.2).toOption := by
  cases hfield : (text >>= field b).run mid with
  | ok r =>
    rw [membersFrom_of_key h hfield, run?_of_run hfield]
    rfl
  | error f =>
    have hnone : (text >>= field b).run? mid = none := by
      rw [run?, hfield]
      rfl
    rw [hnone, membersFrom]
    split
    · rfl
    · next h' => rw [h] at h'; cases h'
    · next h' =>
      rw [h] at h'
      cases h'
      split
      · rfl
      · next hfield' => rw [hfield] at hfield'; cases hfield'

variable (hfield : DecidesField field step)

include hfield

/-- One member after the quote that opens its key, and those to come. -/
theorem member_then (b : β) (key : Pieces) (colon between : Space) (value : Source)
    {ms : List (Pieces × Source)} {cs rest : List Char} (hcs : EndsValue cs)
    (hrest : ∀ b, (membersFrom field false b cs).toOption =
      (ms.foldlM (stepMember step) b).map (·, rest)) :
    (((text >>= field b).run? (key.inside ++ '\x22' ::
        (colon.chars ++ ':' :: (between.chars ++ (value.chars ++ cs))))).bind fun r =>
      (membersFrom field false r.1 r.2).toOption) =
        (((key, value) :: ms).foldlM (stepMember step) b).map (·, rest) := by
  have hmember : (text >>= field b).run? (key.inside ++ '\x22' ::
      (colon.chars ++ ':' :: (between.chars ++ (value.chars ++ cs)))) =
        (stepMember step b (key, value)).map (·, cs) := by
    rw [run?_bind, text_run?, stepMember]
    cases key.text? with
    | none => rfl
    | some k => exact hfield b k value colon between cs hcs
  rw [hmember, List.foldlM_cons]
  cases stepMember step b (key, value) with
  | none => rfl
  | some b' => exact hrest b'

/-- The members of an object, from the first key on or from the comma before it: each is taken to
what was read before, as long as it can be. -/
theorem membersFrom_members (ms : Members) (b : β) (rest : List Char) :
    (membersFrom field true b (ms.chars ++ '\x7d' :: rest)).toOption =
        (ms.list.foldlM (stepMember step) b).map (·, '\x7d' :: rest) ∧
      ∀ ws : Space, (membersFrom field false b
          (ws.chars ++ ',' :: (ms.chars ++ '\x7d' :: rest))).toOption =
        (ms.list.foldlM (stepMember step) b).map (·, '\x7d' :: rest) := by
  cases ms with
  | last before key colon between value after =>
    have hend : ∀ b, (membersFrom field false b (after.chars ++ '\x7d' :: rest)).toOption =
        (([] : List (Pieces × Source)).foldlM (stepMember step) b).map (·, '\x7d' :: rest) := by
      intro b
      rw [membersFrom_of_end (nextKey_close false after rest)]
      rfl
    have hvalue := member_then hfield b key colon between value
      (endsValue_append after rest (.inr (.inr rfl))) hend
    simp only [Members.chars, List.append_assoc, List.cons_append]
    exact ⟨(membersFrom_of_key? (nextKey_open before key _)).trans hvalue,
      fun ws => (membersFrom_of_key? (nextKey_comma ws before key _)).trans hvalue⟩
  | more before key colon between value after ms =>
    have hvalue := member_then hfield b key colon between value
      (endsValue_append after _ (.inl rfl)) fun b => (membersFrom_members ms b rest).2 after
    simp only [Members.chars, List.append_assoc, List.cons_append]
    exact ⟨(membersFrom_of_key? (nextKey_open before key _)).trans hvalue,
      fun ws => (membersFrom_of_key? (nextKey_comma ws before key _)).trans hvalue⟩

/-- The members of an object after its opening brace. -/
theorem members_run? (o : Object) (b : β) (rest : List Char) :
    ∃ cs, o.chars ++ rest = '\x7b' :: cs ∧ (Reader.members field b).run? cs =
      (o.members.foldlM (stepMember step) b).map (·, '\x7d' :: rest) := by
  cases o with
  | empty inside =>
    refine ⟨inside.chars ++ '\x7d' :: rest, by simp [Object.chars, Source.chars], ?_⟩
    show (membersFrom field true b _).toOption = _
    rw [membersFrom_of_end (nextKey_close true inside rest)]
    rfl
  | full ms =>
    refine ⟨ms.chars ++ '\x7d' :: rest, by simp [Object.chars, Source.chars], ?_⟩
    exact (membersFrom_members hfield ms b rest).1

/-- A structure that is given by the members of an object, and finished behind them. -/
theorem structured_object_run? (wanted : String) (listed : Reader α) (finish : β → Reader α) (b : β)
    (ws : Space) (o : Object) (rest : List Char) :
    (Reader.structured wanted listed do
      let g ← Reader.members field b
      finish g).run? (ws.chars ++ (o.chars ++ rest)) =
        (o.members.foldlM (stepMember step) b).bind fun g => (finish g).run? ('\x7d' :: rest) := by
  obtain ⟨cs, hcs, hmembers⟩ := members_run? hfield o b rest
  rw [hcs]
  simp only [structured, valueStart, run?_bind, run?_space, run?_look, run?_pure, Option.bind_some,
    ws.dropWhile_cons (c := '\x7b') rfl, List.head?_cons, Char.reduceEq, if_false, if_true, run?_skip,
    hmembers]
  cases o.members.foldlM (stepMember step) b <;> rfl

/-- A structure that any members that are taken finish. -/
theorem structured_run? (wanted : String) (listed : Reader α) (finish : β → α) (b : β) (ws : Space)
    (o : Object) (rest : List Char) :
    (Reader.structured wanted listed do
      let g ← Reader.members field b
      skip
      return finish g).run? (ws.chars ++ (o.chars ++ rest)) =
        ((o.members.foldlM (stepMember step) b).map finish).map (·, rest) := by
  rw [structured_object_run? hfield]
  cases o.members.foldlM (stepMember step) b <;> rfl

end

/-! Documents. -/

/-- A document is read whole: what is left after the value has to be space. -/
theorem document_eq_ok_iff (x : Reader α) (document : String) (a : α) :
    x.document document = .ok a ↔
      ∃ rest, x.run? document.toList = some (a, rest) ∧ ∀ c ∈ rest, isSpace c = true := by
  rw [Reader.document]
  cases hx : x.run document.toList with
  | error f => simp [run_bind, run?, hx, Except.toOption]
  | ok r =>
    obtain ⟨b, rest⟩ := r
    have hleft : rest.dropWhile isSpace = [] ↔ ∀ c ∈ rest, isSpace c = true :=
      List.dropWhile_eq_nil_iff
    cases hrest : rest.dropWhile isSpace with
    | nil =>
      simpa [run_bind, run?, hx, hrest, Except.toOption] using fun _ : b = a => hleft.1 hrest
    | cons c cs =>
      have hne : ¬∀ c ∈ rest, isSpace c = true := by
        rw [← hleft, hrest]
        exact List.cons_ne_nil c cs
      simp [run_bind, run?, hx, hrest, Except.toOption, hne]

end Reader
end DiskQuota.Json
