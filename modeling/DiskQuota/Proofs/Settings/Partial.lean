import DiskQuota.Proofs.Json.Fields
import DiskQuota.Settings.Document

/-!
What a partial document means. Each member with the name of a field fills in that field, once at most;
others are passed over; and what is not given has its default. So the settings are a function of the
values that stand under the four names, whatever else the object holds and in whatever order. The
headline is `partial_document`.
-/
namespace DiskQuota.Settings

open Json (Source ObjectDocument RecordField FieldTable valuesOf filled_none_iff)
open Json.Reader (Decides DecidesField)

/-- The names of the fields. -/
def fieldNames : List String :=
  ["manager_class_id", "manager_interface_id", "threading", "server_context"]

/-- The threading models, each by its name. -/
def threadingNames : List (String × Threading) :=
  [("apartment", .apartment), ("multithreaded", .multithreaded)]

/-- The server contexts, each by its name. -/
def serverContextNames : List (String × ServerContext) :=
  [("local_server", .localServer), ("in_process", .inProcess), ("any", .any)]

/-- Members that give settings: no field twice, and each in a value that means something to it. -/
structure Acceptable (ms : List (String × Source)) : Prop where
  once : ∀ name ∈ fieldNames, (valuesOf name ms).length ≤ 1
  managerClass : ∀ v ∈ valuesOf "manager_class_id" ms, v.text?.isSome = true
  managerInterface : ∀ v ∈ valuesOf "manager_interface_id" ms, v.text?.isSome = true
  threading : ∀ v ∈ valuesOf "threading" ms, (v.oneOf? threadingNames).isSome = true
  serverContext : ∀ v ∈ valuesOf "server_context" ms, (v.oneOf? serverContextNames).isSome = true

/-- What the members give for each field. -/
def Given.of (ms : List (String × Source)) : Given where
  managerClass := (valuesOf "manager_class_id" ms).head?.bind Source.text?
  managerInterface := (valuesOf "manager_interface_id" ms).head?.bind Source.text?
  threading := (valuesOf "threading" ms).head?.bind (Source.oneOf? threadingNames)
  serverContext := (valuesOf "server_context" ms).head?.bind (Source.oneOf? serverContextNames)

/-- The default settings, with what is given in its place. -/
def Given.completed (g : Given) : Settings where
  managerClass := g.managerClass.getD "\x7b90dcab7f-347c-4bfc-b543-540326305fbe\x7d"
  managerInterface := g.managerInterface.getD "\x7b4846cb01-d430-494f-abb4-b1054999fb09\x7d"
  threading := g.threading.getD .apartment
  serverContext := g.serverContext.getD .localServer

theorem settings_eq_completed : Given.settings = Given.completed := rfl

/-- The default settings, with the fields that the members give in their place. -/
def overridden (ms : List (String × Source)) : Settings := (Given.of ms).completed

/-! ## The fields -/

theorem decides_threading : Decides Threading.reader (Source.oneOf? threadingNames) :=
  Json.Reader.Decides.oneOf threadingNames

theorem decides_serverContext : Decides ServerContext.reader (Source.oneOf? serverContextNames) :=
  Json.Reader.Decides.oneOf serverContextNames

/-- The four fields of settings. -/
def fields : List (RecordField Given) :=
  [{ name := "manager_class_id", get := Given.managerClass,
     set := fun g s => { g with managerClass := some s },
     reader := Json.Reader.string, meaning := Source.text?, decides := .string,
     get_set := fun _ _ => rfl },
   { name := "manager_interface_id", get := Given.managerInterface,
     set := fun g s => { g with managerInterface := some s },
     reader := Json.Reader.string, meaning := Source.text?, decides := .string,
     get_set := fun _ _ => rfl },
   { name := "threading", get := Given.threading,
     set := fun g t => { g with threading := some t },
     reader := Threading.reader, meaning := Source.oneOf? threadingNames, decides := decides_threading,
     get_set := fun _ _ => rfl },
   { name := "server_context", get := Given.serverContext,
     set := fun g c => { g with serverContext := some c },
     reader := ServerContext.reader, meaning := Source.oneOf? serverContextNames,
     decides := decides_serverContext, get_set := fun _ _ => rfl }]

def table : FieldTable Given where
  fields := fields
  nodup := by decide
  apart := by simp [fields]
  ext := by
    rintro ⟨a, b, c, d⟩ ⟨a', b', c', d'⟩ h
    simpa [fields] using h

/-- A member is read by the table. -/
theorem field_eq : field = table.field := by
  funext g key
  unfold field
  split
  · rfl
  · rfl
  · rfl
  · rfl
  · next hclass hinterface hthreading hcontext =>
    have hnone : table.find? key = none := by
      simp only [FieldTable.find?, table, fields, List.find?_eq_none, List.forall_mem_cons, decide_eq_true_eq]
      exact ⟨Ne.symm hclass, Ne.symm hinterface, Ne.symm hthreading, Ne.symm hcontext, by simp⟩
    rw [FieldTable.field, hnone]

theorem decides_field : DecidesField field table.step := by
  rw [field_eq]
  exact table.decides_field

/-- Members give settings exactly if they are acceptable, and then those that they override. -/
theorem foldlM_nothing_iff (ms : List (String × Source)) (g : Given) :
    ms.foldlM (fun g m => table.step g m.1 m.2) .nothing = some g ↔
      Acceptable ms ∧ Given.of ms = g := by
  rw [FieldTable.foldlM_step_iff]
  simp only [table, fields, List.forall_mem_cons, Given.nothing, filled_none_iff]
  constructor
  · rintro ⟨⟨honce₁, hclass, h₁⟩, ⟨honce₂, hinterface, h₂⟩, ⟨honce₃, hthreading, h₃⟩,
      ⟨honce₄, hcontext, h₄⟩, -⟩
    refine ⟨⟨?_, hclass, hinterface, hthreading, hcontext⟩, ?_⟩
    · simp only [fieldNames, List.forall_mem_cons]
      exact ⟨honce₁, honce₂, honce₃, honce₄, by simp⟩
    · rw [Given.of, h₁, h₂, h₃, h₄]
  · rintro ⟨h, rfl⟩
    exact ⟨⟨h.once _ (by decide), h.managerClass, rfl⟩, ⟨h.once _ (by decide), h.managerInterface, rfl⟩,
      ⟨h.once _ (by decide), h.threading, rfl⟩, ⟨h.once _ (by decide), h.serverContext, rfl⟩, by simp⟩

/-! ## Documents -/

section

variable (d : ObjectDocument)

/-- What the object of a document is read as, whatever follows it. -/
theorem reader_run? (rest : List Char) :
    reader.run? (d.before.chars ++ (d.object.chars ++ rest)) =
      ((d.object.members.foldlM (Json.Reader.stepMember table.step) .nothing).map Given.completed).map
        (·, rest) := by
  rw [← settings_eq_completed]
  exact Json.Reader.structured_run? decides_field _ _ _ _ d.before d.object rest

/-- A text that begins with an object gives settings if nothing but space follows, the keys are texts
and the members are acceptable, and not otherwise. -/
theorem parse_append_iff (rest : List Char) (s : Settings) :
    parse (String.ofList (d.before.chars ++ (d.object.chars ++ rest))) = .ok s ↔
      (∀ c ∈ rest, Json.Reader.isSpace c = true) ∧ d.Keyed ∧ Acceptable d.named ∧
        overridden d.named = s := by
  have hmembers : ∀ g, d.object.members.foldlM (Json.Reader.stepMember table.step) .nothing = some g ↔
      d.Keyed ∧ Acceptable d.named ∧ Given.of d.named = g := by
    intro g
    rw [Json.Reader.foldlM_stepMember_iff, foldlM_nothing_iff]
    rfl
  rw [parse, Json.Reader.document_eq_ok_iff, String.toList_ofList, reader_run?]
  simp only [Option.map_eq_some_iff, Prod.mk.injEq, hmembers]
  constructor
  · rintro ⟨rest', ⟨_, ⟨g, ⟨hkeyed, hms, rfl⟩, rfl⟩, rfl, rfl⟩, hspace⟩
    exact ⟨hspace, hkeyed, hms, rfl⟩
  · rintro ⟨hspace, hkeyed, hms, rfl⟩
    exact ⟨rest, ⟨_, ⟨_, ⟨hkeyed, hms, rfl⟩, rfl⟩, rfl, rfl⟩, hspace⟩

theorem parse_eq_ok_iff (s : Settings) :
    parse d.text = .ok s ↔ d.Keyed ∧ Acceptable d.named ∧ overridden d.named = s := by
  rw [ObjectDocument.text, ObjectDocument.chars, parse_append_iff]
  exact and_iff_right d.after.isSpace

/-- Anything but space behind the object is too much. -/
theorem parse_trailing {extra : String} (h : ∃ c ∈ extra.toList, c ∉ Json.whitespace)
    (s : Settings) : parse (d.text ++ extra) ≠ .ok s := by
  have htext : d.text ++ extra = String.ofList
      (d.before.chars ++ (d.object.chars ++ (d.after.chars ++ extra.toList))) := by
    rw [← String.toList_inj, String.toList_append, ObjectDocument.text, ObjectDocument.chars]
    simp
  obtain ⟨c, hc, hspace⟩ := h
  rw [htext, ne_eq, parse_append_iff]
  rintro ⟨hall, -⟩
  exact hspace (Json.Reader.isSpace_iff.1 (hall c (List.mem_append_right _ hc)))

end

/-! ## Order and other names -/

/-- The members with the names of fields. -/
def knownOf (ms : List (String × Source)) : List (String × Source) := ms.filter (·.1 ∈ fieldNames)

section

variable {ms ms' : List (String × Source)}

/-- The values of a field are all that counts, and under a known name members of others do not. -/
theorem valuesOf_perm (h : (knownOf ms).Perm (knownOf ms')) {name : String} (hname : name ∈ fieldNames) :
    (valuesOf name ms).Perm (valuesOf name ms') := by
  have hknown : ∀ ms, valuesOf name ms = valuesOf name (knownOf ms) := by
    intro ms
    rw [valuesOf, valuesOf, knownOf, List.filter_filter]
    congr 1
    refine List.filter_congr fun m _ => ?_
    by_cases hm : m.1 = name <;> simp [hm, hname]
  rw [hknown ms, hknown ms']
  exact (h.filter _).map _

/-- Where no field comes twice, the order of the members has nothing to decide. -/
theorem Acceptable.valuesOf_eq (h : Acceptable ms) (hperm : (knownOf ms).Perm (knownOf ms'))
    {name : String} (hname : name ∈ fieldNames) : valuesOf name ms' = valuesOf name ms := by
  have honce := h.once name hname
  have hvalues := valuesOf_perm hperm hname
  match hms : valuesOf name ms with
  | [] =>
    rw [hms] at hvalues
    exact List.nil_perm.1 hvalues
  | [v] =>
    rw [hms] at hvalues
    exact (List.singleton_perm.1 hvalues).symm
  | v :: w :: vs =>
    rw [hms] at honce
    simp at honce

theorem Acceptable.of_perm (h : Acceptable ms) (hperm : (knownOf ms).Perm (knownOf ms')) :
    Acceptable ms' ∧ overridden ms' = overridden ms := by
  have hvalues : ∀ {name : String}, name ∈ fieldNames → valuesOf name ms' = valuesOf name ms :=
    h.valuesOf_eq hperm
  refine ⟨⟨fun name hname => ?_, ?_, ?_, ?_, ?_⟩, ?_⟩
  · rw [hvalues hname]
    exact h.once name hname
  · rw [hvalues (by decide)]
    exact h.managerClass
  · rw [hvalues (by decide)]
    exact h.managerInterface
  · rw [hvalues (by decide)]
    exact h.threading
  · rw [hvalues (by decide)]
    exact h.serverContext
  · rw [overridden, overridden, Given.of, Given.of, hvalues (by decide), hvalues (by decide),
      hvalues (by decide), hvalues (by decide)]

end

/-- The order of the members does not matter, nor do members of other names. -/
theorem parse_perm {d d' : ObjectDocument} (hd : d.Keyed) (hd' : d'.Keyed)
    (hperm : (knownOf d.named).Perm (knownOf d'.named)) (s : Settings) :
    parse d.text = .ok s ↔ parse d'.text = .ok s := by
  rw [parse_eq_ok_iff, parse_eq_ok_iff]
  constructor
  · rintro ⟨-, h, rfl⟩
    obtain ⟨h', heq⟩ := h.of_perm hperm
    exact ⟨hd', h', heq⟩
  · rintro ⟨-, h, rfl⟩
    obtain ⟨h', heq⟩ := h.of_perm hperm.symm
    exact ⟨hd, h', heq⟩

/-- **What a partial document means.** An object, in any spelling, gives settings exactly if its keys are
texts, no field comes twice, the identifiers are strings of text, and the models are named by a string
or by an object with null beside the name; the settings are then the default with the given fields
in place. The order of the members does not matter, nor do members of other names, whatever their
values. Nothing but space may follow the object. The text of a string, a key's as well, is the one whose
UTF-16 units its characters and escapes stand for. -/
theorem partial_document :
    (∀ (d : ObjectDocument) (s : Settings), parse d.text = .ok s ↔
      d.Keyed ∧ Acceptable d.named ∧ overridden d.named = s) ∧
    (∀ d d' : ObjectDocument, d.Keyed → d'.Keyed →
      (knownOf d.named).Perm (knownOf d'.named) →
      ∀ s, parse d.text = .ok s ↔ parse d'.text = .ok s) ∧
    (∀ (d : ObjectDocument) (extra : String),
      (∃ c ∈ extra.toList, c ∉ Json.whitespace) → ∀ s, parse (d.text ++ extra) ≠ .ok s) ∧
    ∀ (ps : Json.Pieces) (s : String), ps.text? = some s ↔
      ps.flatMap Json.Piece.units = Text.Utf16.encode s.toList :=
  ⟨parse_eq_ok_iff, fun _ _ => parse_perm, fun d _ => parse_trailing d,
    fun _ _ => Json.Pieces.text?_eq_some_iff⟩

end DiskQuota.Settings
