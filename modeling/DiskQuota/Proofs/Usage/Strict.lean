import DiskQuota.Proofs.Json.Fields
import DiskQuota.Proofs.Json.Unsigned
import DiskQuota.Usage.Document

/-!
Snapshots and usages are read strictly. A snapshot has no defaults: an object gives one exactly if each
field stands in it once, the volume as a string of text and the numbers as digits that write them
(`Snapshot.parse_eq_ok_iff`), wherever among other members. The bytes in use are read from digits that
write them and from no other token (`Usage.parse_around_iff`). Nothing stands for a number of more than 64
bits. The headline is `strict_documents`.
-/
namespace DiskQuota

open Json (Source Space Pieces Numeral ObjectDocument IsDecimal RecordField FieldTable valuesOf
  filled_some_iff)
open Json.Reader (DecidesField run?_bind)

/-! ## Snapshots -/

namespace Snapshot

/-- The names of the fields. -/
def fieldNames : List String := ["volume", "limit", "used"]

/-- Members that give the snapshot: each field once, in a value that is it. -/
structure GivenBy (ms : List (String × Source)) (s : Snapshot) : Prop where
  volume : ∃ ps : Pieces, valuesOf "volume" ms = [.string ps] ∧ ps.text? = some s.volume
  limit : ∃ t : Numeral, valuesOf "limit" ms = [.number t] ∧ IsDecimal t.chars s.limit.toNat
  used : ∃ t : Numeral, valuesOf "used" ms = [.number t] ∧ IsDecimal t.chars s.used.toNat

/-- The three fields of a snapshot. -/
def fields : List (RecordField Given) :=
  [{ name := "volume", get := Given.volume, set := fun g s => { g with volume := some s },
     reader := Json.Reader.string, meaning := Source.text?, decides := .string,
     get_set := fun _ _ => rfl },
   { name := "limit", get := Given.limit, set := fun g n => { g with limit := some n },
     reader := Json.Reader.unsigned, meaning := Source.unsigned?, decides := .unsigned,
     get_set := fun _ _ => rfl },
   { name := "used", get := Given.used, set := fun g n => { g with used := some n },
     reader := Json.Reader.unsigned, meaning := Source.unsigned?, decides := .unsigned,
     get_set := fun _ _ => rfl }]

def table : FieldTable Given where
  fields := fields
  nodup := by decide
  apart := by simp [fields]
  ext := by
    rintro ⟨a, b, c⟩ ⟨a', b', c'⟩ h
    simpa [fields] using h

/-- A member is read by the table. -/
theorem field_eq : field = table.field := by
  funext g key
  unfold field
  split
  · rfl
  · rfl
  · rfl
  · next hvolume hlimit hused =>
    have hnone : table.find? key = none := by
      simp only [FieldTable.find?, table, fields, List.find?_eq_none, List.forall_mem_cons, decide_eq_true_eq]
      exact ⟨Ne.symm hvolume, Ne.symm hlimit, Ne.symm hused, by simp⟩
    rw [FieldTable.field, hnone]

theorem decides_field : DecidesField field table.step := by
  rw [field_eq]
  exact table.decides_field

/-! Every field has to be given. -/

/-- The snapshot, if every field has been given. -/
def Given.snapshot? (g : Given) : Option Snapshot :=
  match g with
  | ⟨some volume, some limit, some used⟩ => some ⟨volume, limit, used⟩
  | _ => none

/-- What is read behind the members. -/
def finish (g : Given) : Json.Reader Snapshot := do
  Json.Reader.skip
  let volume ← required "volume" g.volume
  let limit ← required "limit" g.limit
  let used ← required "used" g.used
  return { volume, limit, used }

theorem finish_run? (g : Given) (c : Char) (rest : List Char) :
    (finish g).run? (c :: rest) = g.snapshot?.map (·, rest) := by
  obtain ⟨volume, limit, used⟩ := g
  cases volume <;> cases limit <;> cases used <;> rfl

/-- What gives the snapshot, by what the values mean. -/
theorem givenBy_iff {ms : List (String × Source)} {s : Snapshot} : GivenBy ms s ↔
    (∃ v, valuesOf "volume" ms = [v] ∧ v.text? = some s.volume) ∧
    (∃ v, valuesOf "limit" ms = [v] ∧ v.unsigned? = some s.limit) ∧
    ∃ v, valuesOf "used" ms = [v] ∧ v.unsigned? = some s.used := by
  simp only [Source.text?_eq_some_iff, Source.unsigned?_eq_some_iff]
  constructor
  · rintro ⟨⟨ps, hvolume, htext⟩, ⟨t, hlimit, ht⟩, ⟨u, hused, hu⟩⟩
    exact ⟨⟨_, hvolume, ps, rfl, htext⟩, ⟨_, hlimit, t, rfl, ht⟩, ⟨_, hused, u, rfl, hu⟩⟩
  · rintro ⟨⟨_, hvolume, ps, rfl, htext⟩, ⟨_, hlimit, t, rfl, ht⟩, _, hused, u, rfl, hu⟩
    exact ⟨⟨ps, hvolume, htext⟩, ⟨t, hlimit, ht⟩, ⟨u, hused, hu⟩⟩

/-- Members give the snapshot exactly if each field is filled in by them. -/
theorem foldlM_nothing_iff (ms : List (String × Source)) (s : Snapshot) :
    (ms.foldlM (fun g m => table.step g m.1 m.2) .nothing).bind Given.snapshot? = some s ↔
      GivenBy ms s := by
  have hgiven : ∀ g : Given, g.snapshot? = some s ↔ g = ⟨some s.volume, some s.limit, some s.used⟩ := by
    rintro ⟨volume, limit, used⟩
    obtain ⟨volume', limit', used'⟩ := s
    cases volume <;> cases limit <;> cases used <;> simp [Given.snapshot?]
  simp only [Option.bind_eq_some_iff, hgiven, exists_eq_right]
  rw [FieldTable.foldlM_step_iff, givenBy_iff]
  simp [table, fields, Given.nothing, filled_some_iff]

/-- What the object of a document is read as, whatever follows it. -/
theorem reader_run? (d : ObjectDocument) (rest : List Char) :
    reader.run? (d.before.chars ++ (d.object.chars ++ rest)) =
      ((d.object.members.foldlM (Json.Reader.stepMember table.step) .nothing).bind Given.snapshot?).map
        (·, rest) := by
  have hobject : reader.run? (d.before.chars ++ (d.object.chars ++ rest)) =
      (d.object.members.foldlM (Json.Reader.stepMember table.step) .nothing).bind fun g =>
        (finish g).run? ('\x7d' :: rest) :=
    Json.Reader.structured_object_run? decides_field _ _ finish _ d.before d.object rest
  simp only [hobject, finish_run?]
  cases d.object.members.foldlM (Json.Reader.stepMember table.step) .nothing <;> rfl

/-- **What gives a snapshot**: an object whose keys are texts, with each field once among its members. -/
theorem parse_eq_ok_iff (d : ObjectDocument) (s : Snapshot) :
    parse d.text = .ok s ↔ d.Keyed ∧ GivenBy d.named s := by
  have hmembers : (d.object.members.foldlM (Json.Reader.stepMember table.step) .nothing).bind
      Given.snapshot? = some s ↔ d.Keyed ∧ GivenBy d.named s := by
    rw [← foldlM_nothing_iff]
    simp only [Option.bind_eq_some_iff, Json.Reader.foldlM_stepMember_iff, and_assoc,
      exists_and_left]
    rfl
  rw [parse, Json.Reader.document_eq_ok_iff, ObjectDocument.text, String.toList_ofList,
    ObjectDocument.chars, ← hmembers]
  simp only [reader_run?, Option.map_eq_some_iff, Prod.mk.injEq]
  constructor
  · rintro ⟨_, ⟨_, h, rfl, rfl⟩, -⟩
    exact h
  · intro h
    exact ⟨d.after.chars, ⟨s, h, rfl, rfl⟩, d.after.isSpace⟩

/-- A number that is too large stands in no snapshot. -/
theorem parse_large {d : ObjectDocument} {t : Numeral} {m : Nat} (hm : 2 ^ 64 ≤ m)
    (ht : t.chars = Nat.toDigits 10 m)
    (hmem : Source.number t ∈ valuesOf "limit" d.named ∨ Source.number t ∈ valuesOf "used" d.named)
    (s : Snapshot) : parse d.text ≠ .ok s := by
  intro h
  obtain ⟨-, hms⟩ := (parse_eq_ok_iff d s).1 h
  obtain ⟨t', hlimit, hdecimal⟩ := hms.limit
  obtain ⟨u', hused, hdecimal'⟩ := hms.used
  rcases hmem with hmem | hmem
  · rw [hlimit, List.mem_singleton, Source.number.injEq] at hmem
    rw [← hmem, ht] at hdecimal
    exact Json.not_isDecimal_toDigits hm s.limit hdecimal
  · rw [hused, List.mem_singleton, Source.number.injEq] at hmem
    rw [← hmem, ht] at hdecimal'
    exact Json.not_isDecimal_toDigits hm s.used hdecimal'

end Snapshot

/-! ## Usages -/

namespace Usage

/-- A document that gives the bytes in use, but for the token of their number: an object with the one
member `Used`, in any spelling of that name and with any space. -/
structure Frame where
  before : Space
  inside : Space
  key : Pieces
  used : key.text? = some "Used"
  colon : Space
  between : Space
  after : Space
  behind : Space

/-- What stands behind the token. -/
def Frame.closing (f : Frame) : List Char := f.after.chars ++ '\x7d' :: f.behind.chars

/-- The document with the token in its place. -/
def Frame.around (f : Frame) (token : List Char) : String :=
  String.ofList (f.before.chars ++ '\x7b' :: (f.inside.chars ++ (f.key.chars ++
    (f.colon.chars ++ ':' :: (f.between.chars ++ (token ++ f.closing))))))

section

variable (f : Frame)

theorem Frame.dropWhile_closing :
    f.closing.dropWhile Json.Reader.isSpace = '\x7d' :: f.behind.chars :=
  f.after.dropWhile_cons rfl _

theorem Frame.endsNumber_closing : Json.Reader.EndsNumber f.closing :=
  (Json.Reader.endsValue_append f.after _ (.inr (.inr rfl))).endsNumber

theorem Frame.reader_run? (token : List Char) : reader.run? (f.around token).toList =
    (Json.Reader.unsigned.run? (f.between.chars ++ (token ++ f.closing))).bind fun r =>
      if (r.2.dropWhile Json.Reader.isSpace).head? = some '\x7d' then
        some (.used r.1, (r.2.dropWhile Json.Reader.isSpace).tail)
      else none := by
  have hstart : ∀ cs, Json.Reader.valueStart.run? (f.before.chars ++ '\x7b' :: cs) =
      some ('\x7b', '\x7b' :: cs) := fun cs =>
    Json.Reader.valueStart_run?_iff.2 ⟨f.before.dropWhile_cons rfl _, rfl⟩
  have hcarries : choices.lookup "Used" = some (.unsigned .used) := rfl
  have hkeyed := Json.Reader.keyed_carrying_run? hcarries f.inside f.used f.colon
  rw [Frame.around, String.toList_ofList, reader, Json.Reader.choice, run?_bind, hstart,
    Option.bind_some, if_pos rfl, run?_bind, Json.Reader.run?_skip, Option.bind_some, hkeyed]

/-- What is read as the number is the whole token, if it is followed by the end of the object. -/
theorem Frame.token_eq {token digits rest : List Char} {ws : Space} {n : Nat}
    (htoken : ∀ c ∈ token, c ∉ Json.whitespace ∧ c ≠ '\x7d') (hdigits : IsDecimal digits n)
    (hrest : (rest.dropWhile Json.Reader.isSpace).head? = some '\x7d')
    (h : f.between.chars ++ (token ++ f.closing) = ws.chars ++ (digits ++ rest)) :
    token = digits ∧ rest = f.closing := by
  obtain ⟨d, ds, rfl⟩ := List.exists_cons_of_ne_nil hdigits.ne_nil
  have hd : Json.isDigit d = true := hdigits.digits d List.mem_cons_self
  have hdrop := congrArg (List.dropWhile Json.Reader.isSpace) h
  rw [List.cons_append, ws.dropWhile_cons (Json.Reader.isSpace_of_isDigit hd)] at hdrop
  cases token with
  | nil =>
    rw [f.between.dropWhile, List.nil_append, f.dropWhile_closing, List.cons.injEq] at hdrop
    exact absurd hdrop.1.symm (Json.Reader.ne_of_isDigit hd rfl)
  | cons c cs =>
    have hc := Json.Reader.isSpace_eq_false_iff.2 (htoken c List.mem_cons_self).1
    rw [List.cons_append, f.between.dropWhile_cons hc, ← List.cons_append, ← List.cons_append,
      List.append_eq_append_iff] at hdrop
    rcases hdrop with ⟨more, hdigits', hclosing⟩ | ⟨left, htoken', rfl⟩
    · -- digits do not go on into what stands behind the token
      cases more with
      | nil => exact ⟨by rw [hdigits', List.append_nil], hclosing.symm⟩
      | cons e more =>
        have he : Json.isDigit e = true := hdigits.digits e (by simp [hdigits'])
        have hend := f.endsNumber_closing e (by simp [hclosing])
        rw [he] at hend
        cases hend.1
    · -- a part of the token that is left over does not end the object
      cases left with
      | nil => exact ⟨by rw [htoken', List.append_nil], rfl⟩
      | cons e left =>
        obtain ⟨hspace, hbrace⟩ := htoken e (by simp [htoken'])
        rw [← Json.Reader.isSpace_eq_false_iff] at hspace
        rw [List.cons_append, List.dropWhile_cons_of_neg (by simp [hspace])] at hrest
        cases hrest
        exact absurd rfl hbrace

/-- Digits are no space and no brace. -/
theorem toDigits_apart (m : Nat) :
    ∀ c ∈ Nat.toDigits 10 m, c ∉ Json.whitespace ∧ c ≠ '\x7d' := by
  intro c hc
  have hdigit : Json.isDigit c = true := (Json.digitsOf m).digits c hc
  exact ⟨Json.Reader.isSpace_eq_false_iff.1 (Json.Reader.isSpace_of_isDigit hdigit),
    Json.Reader.ne_of_isDigit hdigit rfl⟩

/-- **What gives the bytes in use**, among tokens of any characters but space and the brace that ends the
object: the digits of the number. -/
theorem parse_around_iff {token : List Char}
    (htoken : ∀ c ∈ token, c ∉ Json.whitespace ∧ c ≠ '\x7d') (u : Usage) :
    parse (f.around token) = .ok u ↔ ∃ n, u = .used n ∧ IsDecimal token n.toNat := by
  rw [parse, Json.Reader.document_eq_ok_iff]
  simp only [f.reader_run?, Option.bind_eq_some_iff]
  constructor
  · rintro ⟨_, ⟨⟨n, rest⟩, hnumber, h⟩, -⟩
    obtain ⟨ws, digits, hchars, hdigits, -⟩ := Json.Reader.unsigned_run?_iff.1 hnumber
    split_ifs at h with hbrace
    cases h
    obtain ⟨rfl, -⟩ := f.token_eq htoken hdigits hbrace hchars
    exact ⟨n, rfl, hdigits⟩
  · rintro ⟨n, rfl, hn⟩
    have hnumber := Json.Reader.unsigned_run?_iff.2 ⟨f.between, token, rfl, hn, f.endsNumber_closing⟩
    refine ⟨f.behind.chars, ⟨(n, f.closing), hnumber, ?_⟩, f.behind.isSpace⟩
    rw [f.dropWhile_closing]
    rfl

/-- A number that is too large gives no usage. -/
theorem parse_around_large {m : Nat} (hm : 2 ^ 64 ≤ m) (u : Usage) :
    parse (f.around (Nat.toDigits 10 m)) ≠ .ok u := by
  intro h
  obtain ⟨n, -, hn⟩ := (parse_around_iff f (toDigits_apart m) u).1 h
  exact Json.not_isDecimal_toDigits hm n hn

end

/-- The document as it is usually written. -/
def Frame.plain : Frame where
  before := .none
  inside := .none
  key := .ofText "Used"
  used := Pieces.text?_ofText "Used"
  colon := .none
  between := .blank
  after := .none
  behind := .none

end Usage

/-! ## Both -/

/-- **Snapshots and usages are read strictly, and numbers never wrap.** An object gives a snapshot exactly if
its keys are texts, each of the three fields stands in it once, the volume is a string of text and the
limit and the use are decimal digits of numbers of 64 bits, with no zero in front of others; the snapshot
is then made of these. The bytes in use are given, and exactly, by such digits and by no other token. So
no whole number from 2^64 on, however long, stands for any number, in a usage or in a snapshot. The text of
a string is the one whose UTF-16 units its characters and escapes stand for. -/
theorem strict_documents :
    (∀ (d : ObjectDocument) (s : Snapshot),
      Snapshot.parse d.text = .ok s ↔ d.Keyed ∧ Snapshot.GivenBy d.named s) ∧
    (∀ (f : Usage.Frame) (token : List Char),
      (∀ c ∈ token, c ∉ Json.whitespace ∧ c ≠ '\x7d') →
      ∀ u, Usage.parse (f.around token) = .ok u ↔ ∃ n, u = .used n ∧ IsDecimal token n.toNat) ∧
    (∀ m : Nat, 2 ^ 64 ≤ m →
      (∀ (f : Usage.Frame) (u : Usage), Usage.parse (f.around (Nat.toDigits 10 m)) ≠ .ok u) ∧
      ∀ (d : ObjectDocument) (t : Numeral) (s : Snapshot), t.chars = Nat.toDigits 10 m →
        Source.number t ∈ valuesOf "limit" d.named ∨ Source.number t ∈ valuesOf "used" d.named →
        Snapshot.parse d.text ≠ .ok s) ∧
    ∀ (ps : Pieces) (s : String), ps.text? = some s ↔
      ps.flatMap Json.Piece.units = Text.Utf16.encode s.toList := by
  refine ⟨Snapshot.parse_eq_ok_iff, ?_, ?_, fun _ _ => Pieces.text?_eq_some_iff⟩
  · intro f token htoken u
    exact Usage.parse_around_iff f htoken u
  · intro m hm
    refine ⟨fun f u => Usage.parse_around_large f hm u, ?_⟩
    intro d t s ht hmem
    exact Snapshot.parse_large hm ht hmem s

/-- The last number of 64 bits, and the one after it. -/
theorem strict_documents_edge :
    Usage.parse "\x7b\"Used\": 18446744073709551615\x7d" = .ok (.used 18446744073709551615) ∧
    ∀ u, Usage.parse "\x7b\"Used\": 18446744073709551616\x7d" ≠ .ok u := by
  have hlast : Usage.Frame.plain.around (Nat.toDigits 10 (2 ^ 64 - 1)) =
    "\x7b\"Used\": 18446744073709551615\x7d" := by decide
  have hnext : Usage.Frame.plain.around (Nat.toDigits 10 (2 ^ 64)) =
    "\x7b\"Used\": 18446744073709551616\x7d" := by decide
  rw [← hlast, ← hnext]
  obtain ⟨-, hused, hlarge, -⟩ := strict_documents
  have hgiven := hused Usage.Frame.plain _ (Usage.toDigits_apart (2 ^ 64 - 1))
  exact ⟨(hgiven _).2 ⟨_, rfl, Json.isDecimal_toDigits (2 ^ 64 - 1)⟩,
    (hlarge (2 ^ 64) (Nat.le_refl _)).1 _⟩

end DiskQuota
