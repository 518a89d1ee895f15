import DiskQuota.Proofs.Json.Decides

/-!
Lists in every spelling, read by element. A reader that goes through the elements of a list has before it, at
any time, what is left of the list (`Left`): the next reader takes the next value if that means something
to it, and leaves the rest (`Left.elementD`, `Left.elementOf`); where no value is left, the list can be ended
(`Left.closeList`).
-/
namespace DiskQuota.Json

/-! ## Lists as they are written -/

/-- The elements, in order. -/
def Elements.list : Elements → List Source
  | .last _ value _ => [value]
  | .more _ value _ rest => value :: rest.list

/-- A list as it is written. -/
inductive Sequence where
  | empty (inside : Space)
  | full (es : Elements)

namespace Sequence

def chars : Sequence → List Char
  | empty inside => (Source.emptyList inside).chars
  | full es => (Source.list es).chars

def values : Sequence → List Source
  | empty _ => []
  | full es => es.list

end Sequence

/-- A document that holds a list, with space around it. -/
structure ListDocument where
  before : Space
  sequence : Sequence
  after : Space

namespace ListDocument

variable (d : ListDocument)

def text : String :=
  String.ofList (d.before.chars ++ (d.sequence.chars ++ d.after.chars))

def values : List Source := d.sequence.values

end ListDocument

/-- The elements with a blank behind each comma. -/
def Elements.spaced (before : Space) (v : Source) : List Source → Elements
  | [] => .last before v .none
  | w :: vs => .more before v .none (spaced .blank w vs)

theorem Elements.list_spaced (before : Space) (v : Source) (vs : List Source) :
    (spaced before v vs).list = v :: vs := by
  induction vs generalizing before v with
  | nil => rfl
  | cons w vs ih => rw [spaced, list, ih]

/-- The values as they are usually written. -/
def ListDocument.spaced : List Source → ListDocument
  | [] => ⟨.none, .empty .none, .none⟩
  | v :: vs => ⟨.none, .full (.spaced .none v vs), .none⟩

theorem ListDocument.values_spaced (vs : List Source) : (spaced vs).values = vs := by
  cases vs with
  | nil => rfl
  | cons v vs => exact Elements.list_spaced .none v vs

/-- The value alone, as a document. -/
def Source.document (v : Source) : String := String.ofList v.chars

namespace Reader

variable {α : Type} {x : Reader α} {meaning : Source → Option α} {rest cs : List Char}
  {vs : List Source} {first : Bool}

/-- A value alone is read as what it means. -/
theorem Decides.document_iff (hx : Decides x meaning) (v : Source) (a : α) :
    x.document v.document = .ok a ↔ meaning v = some a := by
  have hrun := hx v .none [] nofun
  rw [List.append_nil] at hrun
  have hchars : x.run? v.chars = (meaning v).map (·, []) := hrun
  rw [document_eq_ok_iff, Source.document, String.toList_ofList, hchars]
  simp

/-! ## What is left of a list -/

/-- What is left of a list, before the first element or behind one: the values, and how they are written
up to what follows the list. -/
inductive Left (rest : List Char) : (first : Bool) → List Source → List Char → Prop where
  | close (first : Bool) (ws : Space) : Left rest first [] (ws.chars ++ ']' :: rest)
  | start (before : Space) (v : Source) {vs : List Source} {cs : List Char} (hends : EndsValue cs)
    (hrest : Left rest false vs cs) : Left rest true (v :: vs) (before.chars ++ (v.chars ++ cs))
  | comma (ws before : Space) (v : Source) {vs : List Source} {cs : List Char} (hends : EndsValue cs)
    (hrest : Left rest false vs cs) :
    Left rest false (v :: vs) (ws.chars ++ ',' :: (before.chars ++ (v.chars ++ cs)))

/-- The elements of a list, up to the bracket that ends it. -/
theorem left_elements (es : Elements) (rest : List Char) :
    Left rest true es.list (es.chars ++ ']' :: rest) ∧
      ∀ ws : Space, Left rest false es.list (ws.chars ++ ',' :: (es.chars ++ ']' :: rest)) := by
  cases es with
  | last before value after =>
    have hends := endsValue_append after rest (.inr (.inl rfl))
    simp only [Elements.chars, List.append_assoc]
    exact ⟨.start before value hends (.close false after),
      fun ws => .comma ws before value hends (.close false after)⟩
  | more before value after es =>
    have hends := endsValue_append after (es.chars ++ ']' :: rest) (.inl rfl)
    have hrest := (left_elements es rest).2 after
    simp only [Elements.chars, List.append_assoc, List.cons_append]
    exact ⟨.start before value hends hrest, fun ws => .comma ws before value hends hrest⟩

/-- A list after its opening bracket. -/
theorem left_sequence (q : Sequence) (rest : List Char) :
    ∃ cs, q.chars ++ rest = '[' :: cs ∧ Left rest true q.values cs := by
  cases q with
  | empty inside =>
    exact ⟨inside.chars ++ ']' :: rest, by simp [Sequence.chars, Source.chars], .close true inside⟩
  | full es =>
    exact ⟨es.chars ++ ']' :: rest, by simp [Sequence.chars, Source.chars], (left_elements es rest).1⟩

/-! ## Reading what is left -/

theorem first_ne_close (v : Source) : v.first ≠ ']' := by
  intro h
  have hstarts := v.startsValue_first
  rw [h] at hstarts
  cases hstarts

/-- There is no next element where no value is left. -/
theorem Left.nextElement_nil (h : Left rest first [] cs) :
    (nextElement first).run? cs = some (false, ']' :: rest) := by
  cases h with
  | close first ws => simp [nextElement, run?_bind, ws.dropWhile_cons (c := ']') rfl]

/-- The next element is the first of the values left. -/
theorem Left.nextElement_cons {v : Source} (h : Left rest first (v :: vs) cs) :
    ∃ cs', EndsValue cs' ∧ Left rest false vs cs' ∧
      (nextElement first).run? cs = some (true, v.chars ++ cs') := by
  obtain ⟨ds, hds⟩ := v.exists_cons
  have hspace := isSpace_of_startsValue v.startsValue_first
  have hclose := first_ne_close v
  cases h with
  | start before _ hends hrest =>
    refine ⟨_, hends, hrest, ?_⟩
    simp [nextElement, run?_bind, hds, before.dropWhile_cons hspace, hclose]
  | comma ws before _ hends hrest =>
    refine ⟨_, hends, hrest, ?_⟩
    simp [nextElement, run?_bind, hds, ws.dropWhile_cons (c := ',') rfl, before.dropWhile_cons hspace,
      hclose]

/-- An element is read as the next value, or has its default where no value is left. -/
theorem Left.elementD (h : Left rest first vs cs) (hx : Decides x meaning) (default : α) :
    ∃ cs', Left rest false vs.tail cs' ∧ (elementD first x default).run? cs =
      (vs.head?.elim (some default) meaning).map (·, cs') := by
  cases vs with
  | nil =>
    refine ⟨']' :: rest, .close false .none, ?_⟩
    simp [Reader.elementD, run?_bind, h.nextElement_nil]
  | cons v vs =>
    obtain ⟨cs', hends, hrest, hnext⟩ := h.nextElement_cons
    have hvalue : x.run? (v.chars ++ cs') = (meaning v).map (·, cs') := hx v .none cs' hends
    refine ⟨cs', hrest, ?_⟩
    simp [Reader.elementD, run?_bind, hnext, hvalue]

/-- An element that has to come is read as the next value. -/
theorem Left.elementOf {count : Nat} (h : Left rest (count == 0) vs cs) (hx : Decides x meaning)
    (wanted : String) : ∃ cs', Left rest false vs.tail cs' ∧ (elementOf wanted count x).run? cs =
      (vs.head?.bind meaning).map (·, cs') := by
  cases vs with
  | nil =>
    refine ⟨']' :: rest, .close false .none, ?_⟩
    rw [Reader.elementOf, run?_bind, h.nextElement_nil]
    rfl
  | cons v vs =>
    obtain ⟨cs', hends, hrest, hnext⟩ := h.nextElement_cons
    have hvalue : x.run? (v.chars ++ cs') = (meaning v).map (·, cs') := hx v .none cs' hends
    refine ⟨cs', hrest, ?_⟩
    rw [Reader.elementOf, run?_bind, hnext]
    exact hvalue

/-- The list ends here exactly if no value is left. -/
theorem Left.closeList (h : Left rest false vs cs) :
    closeList.run? cs = if vs.isEmpty then some ((), rest) else none := by
  cases h with
  | close _ ws => simp [Reader.closeList, run?_bind, ws.dropWhile_cons (c := ']') rfl]
  | comma ws before v hends hrest =>
    simp only [Reader.closeList, run?_bind, run?_space, run?_look, Option.bind_some,
      ws.dropWhile_cons (c := ',') rfl, List.head?_cons, Char.reduceEq, if_false, if_true, run?_skip]
    split <;> rfl

/-- A structure that is given by the elements of a list: they are read, and the list has to end. -/
theorem structured_list_run? {wanted : String} {listed named : Reader α} {values : List Source → Option α}
    {count : Nat} (hlisted : ∀ {vs cs}, Left rest true vs cs → ∃ cs', Left rest false (vs.drop count) cs' ∧
      listed.run? cs = (values vs).map (·, cs')) (ws : Space) (q : Sequence) :
    (structured wanted listed named).run? (ws.chars ++ (q.chars ++ rest)) =
      if q.values.length ≤ count then (values q.values).map (·, rest) else none := by
  obtain ⟨cs, hcs, hleft⟩ := left_sequence q rest
  obtain ⟨cs', hleft', hrun⟩ := hlisted hleft
  have hstart : valueStart.run? (ws.chars ++ '[' :: cs) = some ('[', '[' :: cs) :=
    valueStart_run?_iff.2 ⟨ws.dropWhile_cons rfl _, rfl⟩
  have hempty : (q.values.drop count).isEmpty = true ↔ q.values.length ≤ count := by
    rw [List.isEmpty_iff, List.drop_eq_nil_iff]
  rw [hcs, structured, run?_bind, hstart, Option.bind_some, if_pos rfl, run?_bind, run?_skip,
    Option.bind_some, run?_bind, hrun]
  cases values q.values with
  | none => simp
  | some a =>
    rw [Option.map_some, Option.bind_some, run?_bind, hleft'.closeList]
    simp only [hempty]
    split <;> rfl

/-- What the document of a list gives: what its values do, if there are not too many. -/
theorem structured_list_document_iff {wanted : String} {listed named : Reader α}
    {values : List Source → Option α} {count : Nat}
    (hlisted : ∀ {rest vs cs}, Left rest true vs cs → ∃ cs', Left rest false (vs.drop count) cs' ∧
      listed.run? cs = (values vs).map (·, cs')) (l : ListDocument) (a : α) :
    (structured wanted listed named).document l.text = .ok a ↔
      l.values.length ≤ count ∧ values l.values = some a := by
  have hrun : (structured wanted listed named).run?
      (l.before.chars ++ (l.sequence.chars ++ l.after.chars)) =
        if l.values.length ≤ count then (values l.values).map (·, l.after.chars) else none :=
    structured_list_run? hlisted l.before l.sequence
  rw [document_eq_ok_iff, ListDocument.text, String.toList_ofList, hrun]
  constructor
  · rintro ⟨_, h, -⟩
    split_ifs at h with hlength
    obtain ⟨_, hvalues, ⟨⟩⟩ := Option.map_eq_some_iff.1 h
    exact ⟨hlength, hvalues⟩
  · rintro ⟨hlength, hvalues⟩
    refine ⟨l.after.chars, ?_, l.after.isSpace⟩
    rw [if_pos hlength, hvalues, Option.map_some]

end Reader
end DiskQuota.Json
