import DiskQuota.Proofs.Json.Lists
import DiskQuota.Proofs.Settings.Partial
import DiskQuota.Proofs.Usage.Strict

/-!
Fields by position. A document may give the fields of settings or of a snapshot as the elements of a list, in
their order, in place of members with their names. Both forms mean the same: the values under the first
names are the values at the first places (`valuesOf_zip`), and each is read as its field either way. What a
list does not reach has its default in settings, and is missed in a snapshot; what goes past the last field
is refused. The headline is `lists_mean_objects`.
-/
namespace DiskQuota

open Json (Reader Source Space ObjectDocument ListDocument valuesOf valuesOf_cons)
open Json.Reader (Decides Left run?_bind)

/-! ## Names and places -/

/-- The object has the first names as its keys, as many as there are values, in order and with the values
beside them. -/
structure Json.ObjectDocument.Names (d : ObjectDocument) (names : List String) (vs : List Source) :
    Prop where
  keyed : d.Keyed
  named : d.named = names.zip vs
  length_le : vs.length ≤ names.length

/-- The members with a blank behind each comma and each colon. -/
def Json.Members.spaced (before : Space) (m : String × Source) : List (String × Source) → Json.Members
  | [] => .last before (.ofText m.1) .none .blank m.2 .none
  | m' :: ms => .more before (.ofText m.1) .none .blank m.2 .none (spaced .blank m' ms)

theorem Json.Members.list_spaced (before : Space) (m : String × Source) (ms : List (String × Source)) :
    (spaced before m ms).list = (m :: ms).map fun m => (Json.Pieces.ofText m.1, m.2) := by
  induction ms generalizing before m with
  | nil => rfl
  | cons m' ms ih =>
    rw [spaced, list, ih]
    rfl

/-- The members as they are usually written. -/
def Json.ObjectDocument.spaced : List (String × Source) → ObjectDocument
  | [] => ⟨.none, .empty .none, .none⟩
  | m :: ms => ⟨.none, .full (.spaced .none m ms), .none⟩

theorem Json.ObjectDocument.members_spaced (ms : List (String × Source)) :
    (spaced ms).object.members = ms.map fun m => (Json.Pieces.ofText m.1, m.2) := by
  cases ms with
  | nil => rfl
  | cons m ms => exact Json.Members.list_spaced .none m ms

/-- Any values can be given under the names. -/
theorem Json.ObjectDocument.names_spaced {names : List String} {vs : List Source}
    (h : vs.length ≤ names.length) : (spaced (names.zip vs)).Names names vs where
  keyed := by
    intro m hm
    rw [members_spaced] at hm
    obtain ⟨m, -, rfl⟩ := List.mem_map.1 hm
    rw [Json.Pieces.text?_ofText]
    rfl
  named := by
    rw [named, members_spaced, Json.byText, List.filterMap_map]
    simp [Json.Pieces.text?_ofText]
  length_le := h

theorem valuesOf_eq_nil {name : String} {ms : List (String × Source)} (h : ∀ m ∈ ms, m.1 ≠ name) :
    valuesOf name ms = [] := by
  have hfilter : ms.filter (fun m => m.1 = name) = [] :=
    List.filter_eq_nil_iff.2 fun m hm => by simp [h m hm]
  rw [valuesOf, hfilter, List.map_nil]

/-- Under a name stands the value at its place. -/
theorem valuesOf_zip {names : List String} (hnodup : names.Nodup) (vs : List Source) {i : Nat}
    (hi : i < names.length) : valuesOf names[i] (names.zip vs) = vs[i]?.toList := by
  induction names generalizing vs i with
  | nil => cases hi
  | cons name names ih =>
    rw [List.nodup_cons] at hnodup
    obtain ⟨hname, hnodup⟩ := hnodup
    cases vs with
    | nil => simp [valuesOf]
    | cons v vs =>
      rw [List.zip_cons_cons, valuesOf_cons]
      cases i with
      | zero =>
        have hothers : valuesOf name (names.zip vs) = [] := by
          refine valuesOf_eq_nil fun m hm => ?_
          rintro rfl
          exact hname (List.of_mem_zip hm).1
        simp [hothers]
      | succ i =>
        have hlt : i < names.length := Nat.lt_of_succ_lt_succ hi
        have hne : name ≠ names[i] := by
          intro h
          exact hname (h ▸ List.getElem_mem hlt)
        simpa [hne] using ih hnodup vs hlt

section

variable {α : Type} {x : Reader α} {meaning : Source → Option α}

/-- The value, as a document of its own, is read as `a`. -/
def ReadAs (x : Reader α) (v : Source) (a : α) : Prop := x.document v.document = .ok a

theorem readAs_text (s : String) : ReadAs Reader.string (.text s) s :=
  (Decides.string.document_iff _ _).2 (Json.Pieces.text?_ofText s)

/-- What is given for a field by the value at its place, if there is one. -/
theorem rel_readAs_iff (hx : Decides x meaning) (v? : Option Source) (a? : Option α) :
    Option.Rel (ReadAs x) v? a? ↔
      (∀ v ∈ v?.toList, (meaning v).isSome = true) ∧ v?.toList.head?.bind meaning = a? := by
  cases v? with
  | none =>
    cases a? with
    | none => simp
    | some a => simp
  | some v =>
    cases a? with
    | none => cases h : meaning v <;> simp [h]
    | some a => cases h : meaning v <;> simp [ReadAs, hx.document_iff, h]

/-- A field is what is given for it, or its default. -/
theorem elim_eq_some_iff (hx : Decides x meaning) (v? : Option Source) (default a : α) :
    v?.elim (some default) meaning = some a ↔
      ∃ a?, Option.Rel (ReadAs x) v? a? ∧ a?.getD default = a := by
  simp only [rel_readAs_iff hx]
  cases v? with
  | none => simp
  | some v => cases h : meaning v <;> simp [h]

end

/-! ## Settings -/

namespace Settings

/-- The values, each as a document of its own, are read as the fields in order, and nothing is given for
the fields that they do not reach. -/
structure GivesInOrder (vs : List Source) (g : Given) : Prop where
  length_le : vs.length ≤ 4
  managerClass : Option.Rel (ReadAs Reader.string) vs[0]? g.managerClass
  managerInterface : Option.Rel (ReadAs Reader.string) vs[1]? g.managerInterface
  threading : Option.Rel (ReadAs Threading.reader) vs[2]? g.threading
  serverContext : Option.Rel (ReadAs ServerContext.reader) vs[3]? g.serverContext

/-- The settings whose first fields are the values. -/
def ofValues (vs : List Source) : Option Settings := do
  let managerClass ← vs[0]?.elim (some default.managerClass) Source.text?
  let managerInterface ← vs[1]?.elim (some default.managerInterface) Source.text?
  let threading ← vs[2]?.elim (some default.threading) (Source.oneOf? threadingNames)
  let serverContext ← vs[3]?.elim (some default.serverContext) (Source.oneOf? serverContextNames)
  return { managerClass, managerInterface, threading, serverContext }

theorem ofValues_eq_some_iff {vs : List Source} (hlength : vs.length ≤ 4) (s : Settings) :
    ofValues vs = some s ↔ ∃ g, GivesInOrder vs g ∧ g.completed = s := by
  constructor
  · intro h
    simp only [ofValues, Option.bind_eq_bind, Option.bind_eq_some_iff] at h
    obtain ⟨_, hclass, _, hinterface, _, hthreading, _, hcontext, hs⟩ := h
    obtain ⟨a, ha, rfl⟩ := (elim_eq_some_iff .string _ _ _).1 hclass
    obtain ⟨b, hb, rfl⟩ := (elim_eq_some_iff .string _ _ _).1 hinterface
    obtain ⟨c, hc, rfl⟩ := (elim_eq_some_iff decides_threading _ _ _).1 hthreading
    obtain ⟨d, hd, rfl⟩ := (elim_eq_some_iff decides_serverContext _ _ _).1 hcontext
    exact ⟨⟨a, b, c, d⟩, ⟨hlength, ha, hb, hc, hd⟩, Option.some.inj hs⟩
  · rintro ⟨g, h, rfl⟩
    rw [ofValues, (elim_eq_some_iff .string _ _ _).2 ⟨_, h.managerClass, rfl⟩,
      (elim_eq_some_iff .string _ _ _).2 ⟨_, h.managerInterface, rfl⟩,
      (elim_eq_some_iff decides_threading _ _ _).2 ⟨_, h.threading, rfl⟩,
      (elim_eq_some_iff decides_serverContext _ _ _).2 ⟨_, h.serverContext, rfl⟩]
    rfl

theorem listed_run? {rest cs : List Char} {vs : List Source} (h : Left rest true vs cs) :
    ∃ cs', Left rest false (vs.drop 4) cs' ∧ listed.run? cs = (ofValues vs).map (·, cs') := by
  obtain ⟨cs₁, h₁, hrun₁⟩ := h.elementD .string default.managerClass
  obtain ⟨cs₂, h₂, hrun₂⟩ := h₁.elementD .string default.managerInterface
  obtain ⟨cs₃, h₃, hrun₃⟩ := h₂.elementD decides_threading default.threading
  obtain ⟨cs₄, h₄, hrun₄⟩ := h₃.elementD decides_serverContext default.serverContext
  simp only [← List.drop_one, List.drop_drop, List.head?_eq_getElem?, List.getElem?_drop] at *
  refine ⟨cs₄, h₄, ?_⟩
  rw [listed, run?_bind, hrun₁, ofValues]
  cases vs[0]?.elim (some default.managerClass) Source.text? with
  | none => rfl
  | some managerClass =>
    simp only [Option.map_some, Option.bind_some, run?_bind, hrun₂, Option.bind_eq_bind]
    cases vs[1]?.elim (some default.managerInterface) Source.text? with
    | none => rfl
    | some managerInterface =>
      simp only [Option.map_some, Option.bind_some, hrun₃]
      cases vs[2]?.elim (some default.threading) (Source.oneOf? threadingNames) with
      | none => rfl
      | some threading =>
        simp only [Option.map_some, Option.bind_some, hrun₄]
        cases vs[3]?.elim (some default.serverContext) (Source.oneOf? serverContextNames) <;> rfl

/-- **What a list gives as settings.** -/
theorem parse_list_iff (l : ListDocument) (s : Settings) :
    parse l.text = .ok s ↔ ∃ g, GivesInOrder l.values g ∧ g.completed = s := by
  have hlist : parse l.text = .ok s ↔ l.values.length ≤ 4 ∧ ofValues l.values = some s :=
    Json.Reader.structured_list_document_iff listed_run? l s
  rw [hlist]
  constructor
  · rintro ⟨hlength, h⟩
    exact (ofValues_eq_some_iff hlength s).1 h
  · rintro ⟨g, h, hs⟩
    exact ⟨h.length_le, (ofValues_eq_some_iff h.length_le s).2 ⟨g, h, hs⟩⟩

/-- What stands under the names of an object is what stands at their places. -/
theorem givesInOrder_iff {d : ObjectDocument} {vs : List Source} (h : d.Names fieldNames vs) (g : Given) :
    GivesInOrder vs g ↔ Acceptable d.named ∧ Given.of d.named = g := by
  have hnodup : fieldNames.Nodup := by decide
  have hvalues : ∀ i (hi : i < fieldNames.length), valuesOf fieldNames[i] d.named = vs[i]?.toList := by
    intro i hi
    rw [h.named, valuesOf_zip hnodup vs hi]
  have hclass : valuesOf "manager_class_id" d.named = vs[0]?.toList := hvalues 0 (by decide)
  have hinterface : valuesOf "manager_interface_id" d.named = vs[1]?.toList := hvalues 1 (by decide)
  have hthreading : valuesOf "threading" d.named = vs[2]?.toList := hvalues 2 (by decide)
  have hcontext : valuesOf "server_context" d.named = vs[3]?.toList := hvalues 3 (by decide)
  have hof : Given.of d.named = ⟨vs[0]?.toList.head?.bind Source.text?,
      vs[1]?.toList.head?.bind Source.text?,
      vs[2]?.toList.head?.bind (Source.oneOf? threadingNames),
      vs[3]?.toList.head?.bind (Source.oneOf? serverContextNames)⟩ := by
    rw [Given.of, hclass, hinterface, hthreading, hcontext]
  constructor
  · intro hg
    obtain ⟨hclass', h₁⟩ := (rel_readAs_iff .string _ _).1 hg.managerClass
    obtain ⟨hinterface', h₂⟩ := (rel_readAs_iff .string _ _).1 hg.managerInterface
    obtain ⟨hthreading', h₃⟩ := (rel_readAs_iff decides_threading _ _).1 hg.threading
    obtain ⟨hcontext', h₄⟩ := (rel_readAs_iff decides_serverContext _ _).1 hg.serverContext
    refine ⟨⟨?_, hclass ▸ hclass', hinterface ▸ hinterface', hthreading ▸ hthreading',
      hcontext ▸ hcontext'⟩, ?_⟩
    · intro name hname
      obtain ⟨i, hi, rfl⟩ := List.getElem_of_mem hname
      rw [hvalues i hi]
      exact Option.length_toList_le
    · rw [hof, h₁, h₂, h₃, h₄]
  · rintro ⟨hms, rfl⟩
    rw [hof]
    exact ⟨h.length_le, (rel_readAs_iff .string _ _).2 ⟨hclass ▸ hms.managerClass, rfl⟩,
      (rel_readAs_iff .string _ _).2 ⟨hinterface ▸ hms.managerInterface, rfl⟩,
      (rel_readAs_iff decides_threading _ _).2 ⟨hthreading ▸ hms.threading, rfl⟩,
      (rel_readAs_iff decides_serverContext _ _).2 ⟨hcontext ▸ hms.serverContext, rfl⟩⟩

/-- What an object that names the first fields gives as settings. -/
theorem parse_names_iff {d : ObjectDocument} {vs : List Source} (h : d.Names fieldNames vs)
    (s : Settings) : parse d.text = .ok s ↔ ∃ g, GivesInOrder vs g ∧ g.completed = s := by
  rw [parse_eq_ok_iff]
  simp only [givesInOrder_iff h]
  constructor
  · rintro ⟨-, hms, rfl⟩
    exact ⟨_, ⟨hms, rfl⟩, rfl⟩
  · rintro ⟨_, ⟨hms, rfl⟩, rfl⟩
    exact ⟨h.keyed, hms, rfl⟩

end Settings

/-! ## Snapshots -/

namespace Snapshot

/-- The values are three, and each as a document of its own is read as its field. -/
def GivesInOrder (vs : List Source) (s : Snapshot) : Prop :=
  ∃ volume limit used, vs = [volume, limit, used] ∧ ReadAs Reader.string volume s.volume ∧
    ReadAs Reader.unsigned limit s.limit ∧ ReadAs Reader.unsigned used s.used

theorem GivesInOrder.length {vs : List Source} {s : Snapshot} (h : GivesInOrder vs s) :
    vs.length = 3 := by
  obtain ⟨_, _, _, rfl, -⟩ := h
  rfl

/-- The snapshot whose fields are the first values. -/
def ofValues (vs : List Source) : Option Snapshot := do
  let volume ← vs[0]?.bind Source.text?
  let limit ← vs[1]?.bind Source.unsigned?
  let used ← vs[2]?.bind Source.unsigned?
  return { volume, limit, used }

theorem ofValues_eq_some_iff {vs : List Source} {s : Snapshot} : ofValues vs = some s ↔
    (∃ v, vs[0]? = some v ∧ v.text? = some s.volume) ∧
    (∃ v, vs[1]? = some v ∧ v.unsigned? = some s.limit) ∧
    ∃ v, vs[2]? = some v ∧ v.unsigned? = some s.used := by
  simp only [ofValues, Option.bind_eq_bind, Option.bind_eq_some_iff]
  constructor
  · rintro ⟨volume, hvolume, limit, hlimit, used, hused, ⟨⟩⟩
    exact ⟨hvolume, hlimit, hused⟩
  · rintro ⟨hvolume, hlimit, hused⟩
    exact ⟨s.volume, hvolume, s.limit, hlimit, s.used, hused, rfl⟩

theorem givesInOrder_iff {vs : List Source} (hlength : vs.length ≤ 3) (s : Snapshot) :
    GivesInOrder vs s ↔ ofValues vs = some s := by
  simp only [GivesInOrder, ReadAs, Decides.string.document_iff, Decides.unsigned.document_iff,
    ofValues_eq_some_iff]
  match vs, hlength with
  | [], _ => simp
  | [_], _ => simp
  | [_, _], _ => simp
  | [volume, limit, used], _ => simp

theorem listed_run? {rest cs : List Char} {vs : List Source} (h : Left rest true vs cs) :
    ∃ cs', Left rest false (vs.drop 3) cs' ∧ listed.run? cs = (ofValues vs).map (·, cs') := by
  have hstart : Left rest (0 == 0) vs cs := h
  obtain ⟨cs₁, h₁, hrun₁⟩ := hstart.elementOf .string threeElements
  have hlimit : Left rest (1 == 0) vs.tail cs₁ := h₁
  obtain ⟨cs₂, h₂, hrun₂⟩ := hlimit.elementOf .unsigned threeElements
  have hused : Left rest (2 == 0) vs.tail.tail cs₂ := h₂
  obtain ⟨cs₃, h₃, hrun₃⟩ := hused.elementOf .unsigned threeElements
  simp only [← List.drop_one, List.drop_drop, List.head?_eq_getElem?, List.getElem?_drop] at *
  refine ⟨cs₃, h₃, ?_⟩
  rw [listed, run?_bind, hrun₁, ofValues]
  cases vs[0]?.bind Source.text? with
  | none => rfl
  | some volume =>
    simp only [Option.map_some, Option.bind_some, run?_bind, hrun₂, Option.bind_eq_bind]
    cases vs[1]?.bind Source.unsigned? with
    | none => rfl
    | some limit =>
      simp only [Option.map_some, Option.bind_some, hrun₃]
      cases vs[2]?.bind Source.unsigned? <;> rfl

/-- **What a list gives as a snapshot.** -/
theorem parse_list_iff (l : ListDocument) (s : Snapshot) :
    parse l.text = .ok s ↔ GivesInOrder l.values s := by
  have hlist : parse l.text = .ok s ↔ l.values.length ≤ 3 ∧ ofValues l.values = some s :=
    Json.Reader.structured_list_document_iff listed_run? l s
  rw [hlist]
  constructor
  · rintro ⟨hlength, h⟩
    exact (givesInOrder_iff hlength s).2 h
  · intro h
    exact ⟨h.length.le, (givesInOrder_iff h.length.le s).1 h⟩

/-- What an object that names the first fields gives as a snapshot. -/
theorem parse_names_iff {d : ObjectDocument} {vs : List Source} (h : d.Names fieldNames vs)
    (s : Snapshot) : parse d.text = .ok s ↔ GivesInOrder vs s := by
  have hnodup : fieldNames.Nodup := by decide
  have hvalues : ∀ i (hi : i < fieldNames.length) v,
      valuesOf fieldNames[i] d.named = [v] ↔ vs[i]? = some v := by
    intro i hi v
    rw [h.named, valuesOf_zip hnodup vs hi]
    cases vs[i]? <;> simp
  have hvolume : ∀ v, valuesOf "volume" d.named = [v] ↔ vs[0]? = some v := hvalues 0 (by decide)
  have hlimit : ∀ v, valuesOf "limit" d.named = [v] ↔ vs[1]? = some v := hvalues 1 (by decide)
  have hused : ∀ v, valuesOf "used" d.named = [v] ↔ vs[2]? = some v := hvalues 2 (by decide)
  rw [parse_eq_ok_iff, and_iff_right h.keyed, givenBy_iff, givesInOrder_iff h.length_le,
    ofValues_eq_some_iff]
  simp only [hvolume, hlimit, hused]

end Snapshot

/-! ## Both -/

/-- **Lists mean what objects mean.** Where the values of a list, each as a document of its own, are read as
the first fields of settings, the list and every object that names these fields in order with these
values give the same settings, the others at their defaults; where they are not, neither gives any. An
empty list gives the default settings, and one of more than four values none. A list of three values gives
the snapshot that the object of the three fields gives, and one of fewer or more gives none. -/
theorem lists_mean_objects :
    (∀ (l : ListDocument) (g : Settings.Given), Settings.GivesInOrder l.values g →
      Settings.parse l.text = .ok g.completed ∧
      ∀ d : ObjectDocument, d.Names Settings.fieldNames l.values →
        Settings.parse d.text = .ok g.completed) ∧
    (∀ (l : ListDocument) (d : ObjectDocument), d.Names Settings.fieldNames l.values →
      ∀ s, Settings.parse l.text = .ok s ↔ Settings.parse d.text = .ok s) ∧
    (∀ l : ListDocument, l.values = [] → Settings.parse l.text = .ok .default) ∧
    (∀ l : ListDocument, 4 < l.values.length → ∀ s, Settings.parse l.text ≠ .ok s) ∧
    (∀ (l : ListDocument) (s : Snapshot), Snapshot.GivesInOrder l.values s →
      Snapshot.parse l.text = .ok s ∧
      ∀ d : ObjectDocument, d.Names Snapshot.fieldNames l.values → Snapshot.parse d.text = .ok s) ∧
    (∀ (l : ListDocument) (d : ObjectDocument), d.Names Snapshot.fieldNames l.values →
      ∀ s, Snapshot.parse l.text = .ok s ↔ Snapshot.parse d.text = .ok s) ∧
    ∀ l : ListDocument, l.values.length ≠ 3 → ∀ s, Snapshot.parse l.text ≠ .ok s := by
  refine ⟨?_, ?_, ?_, ?_, ?_, ?_, ?_⟩
  · intro l g hg
    exact ⟨(Settings.parse_list_iff l _).2 ⟨g, hg, rfl⟩,
      fun d hd => (Settings.parse_names_iff hd _).2 ⟨g, hg, rfl⟩⟩
  · intro l d hd s
    rw [Settings.parse_list_iff, Settings.parse_names_iff hd]
  · intro l hl
    have hnothing : Settings.GivesInOrder l.values .nothing := by
      rw [hl]
      exact ⟨Nat.zero_le 4, .none, .none, .none, .none⟩
    exact (Settings.parse_list_iff l _).2 ⟨_, hnothing, rfl⟩
  · intro l hlength s h
    obtain ⟨g, hg, -⟩ := (Settings.parse_list_iff l s).1 h
    exact absurd hg.length_le (Nat.not_le_of_lt hlength)
  · intro l s hs
    exact ⟨(Snapshot.parse_list_iff l s).2 hs, fun d hd => (Snapshot.parse_names_iff hd s).2 hs⟩
  · intro l d hd s
    rw [Snapshot.parse_list_iff, Snapshot.parse_names_iff hd]
  · intro l hlength s h
    exact hlength ((Snapshot.parse_list_iff l s).1 h).length

/-- Three values by place and by name, with the fourth field at its default. -/
theorem lists_mean_objects_three :
    Settings.parse "[\"c\", \"i\", \"multithreaded\"]" = .ok ⟨"c", "i", .multithreaded, .localServer⟩ ∧
    Settings.parse ("\x7b\"manager_class_id\": \"c\", \"manager_interface_id\": \"i\", " ++
      "\"threading\": \"multithreaded\"\x7d") = .ok ⟨"c", "i", .multithreaded, .localServer⟩ := by
  have hlist : (ListDocument.spaced [.text "c", .text "i", .text "multithreaded"]).text =
    "[\"c\", \"i\", \"multithreaded\"]" := by decide
  have hobject : (ObjectDocument.spaced (Settings.fieldNames.zip
      [.text "c", .text "i", .text "multithreaded"])).text =
    "\x7b\"manager_class_id\": \"c\", \"manager_interface_id\": \"i\", " ++
      "\"threading\": \"multithreaded\"\x7d" := by decide
  have hgives : Settings.GivesInOrder [.text "c", .text "i", .text "multithreaded"]
      ⟨some "c", some "i", some .multithreaded, none⟩ :=
    ⟨by decide, .some (readAs_text "c"), .some (readAs_text "i"),
      .some ((Settings.decides_threading.document_iff _ _).2 (by decide)), .none⟩
  rw [← hlist, ← hobject]
  obtain ⟨hparse, hnamed⟩ := lists_mean_objects.1 (.spaced _) _ (by rwa [ListDocument.values_spaced])
  rw [ListDocument.values_spaced] at hnamed
  exact ⟨hparse, hnamed _ (ObjectDocument.names_spaced (by decide))⟩

end DiskQuota
