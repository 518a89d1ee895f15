import DiskQuota.Proofs.Json.Written
import DiskQuota.Settings.File

/-!
Settings survive being written: each field of the document is filled in again from what was written for
it, whatever characters the identifiers are made of. A file gives what its text gives as a document,
and whether its bytes are a text is decided before that. The headline is `round_trip`.
-/
namespace DiskQuota.Settings

open Json.Reader (Reads Fills)

theorem reads_threading (t : Threading) : Reads Threading.reader (Json.quoteChars t.name.toList) t :=
  .choice (by cases t <;> rfl)

theorem reads_serverContext (c : ServerContext) :
    Reads ServerContext.reader (Json.quoteChars c.name.toList) c :=
  .choice (by cases c <;> rfl)

/-- Settings read back from the document that they write. -/
theorem parse_json (s : Settings) : parse s.json = .ok s := by
  -- what has been given after each of the members
  let given₁ : Given := { Given.nothing with managerClass := some s.managerClass }
  let given₂ : Given := { given₁ with managerInterface := some s.managerInterface }
  let given₃ : Given := { given₂ with threading := some s.threading }
  let given₄ : Given := { given₃ with serverContext := some s.serverContext }
  have hclass : Reads (field .nothing "manager_class_id")
      (':' :: Json.quoteChars s.managerClass.toList) given₁ :=
    ((Reads.string s.managerClass).once "manager_class_id").map _
  have hinterface : Reads (field given₁ "manager_interface_id")
      (':' :: Json.quoteChars s.managerInterface.toList) given₂ :=
    ((Reads.string s.managerInterface).once "manager_interface_id").map _
  have hthreading : Reads (field given₂ "threading")
      (':' :: Json.quoteChars s.threading.name.toList) given₃ :=
    ((reads_threading s.threading).once "threading").map _
  have hcontext : Reads (field given₃ "server_context")
      (':' :: Json.quoteChars s.serverContext.name.toList) given₄ :=
    ((reads_serverContext s.serverContext).once "server_context").map _
  have hfills := Fills.cons hclass (.cons hinterface (.cons hthreading (.cons hcontext (.nil given₄))))
  exact (hfills.structured (fun _ => rfl) _ _).document

/-- What a file gives depends on whether its bytes are a text and, if so, on that text. -/
theorem load_file (bytes : ByteArray) :
    load (.file bytes) = match String.fromUTF8? bytes with
      | some text => (parse text).mapError .config
      | none => .error (.io .notUtf8) := by
  have hread : (Location.file bytes).readText = match String.fromUTF8? bytes with
      | some text => .ok text
      | none => .error .notUtf8 := by
    simp only [Location.readText, Location.read, bind, Except.bind]
    cases String.fromUTF8? bytes <;> rfl
  rw [load, hread]
  cases String.fromUTF8? bytes with
  | none => rfl
  | some text =>
    dsimp only
    cases parse text <;> rfl

/-- A file of text gives what the text gives. -/
theorem load_text (text : String) : load (.file text.toUTF8) = (parse text).mapError .config := by
  have hread : String.fromUTF8? text.toUTF8 = some text := dif_pos text.isValidUTF8
  rw [load_file, hread]

/-- A file whose bytes are no text fails for that reason, and no other file does. -/
theorem load_notUtf8_iff (bytes : ByteArray) :
    load (.file bytes) = .error (.io .notUtf8) ↔ ¬ bytes.IsValidUTF8 := by
  constructor
  · intro h hvalid
    have htext : load (.file bytes) = (parse (String.fromUTF8 bytes hvalid)).mapError .config :=
      load_text (String.fromUTF8 bytes hvalid)
    rw [h] at htext
    cases hparse : parse (String.fromUTF8 bytes hvalid) with
    | ok settings =>
      rw [hparse] at htext
      cases htext
    | error e =>
      rw [hparse] at htext
      cases htext
  · intro h
    have hread : String.fromUTF8? bytes = none := dif_neg h
    rw [load_file, hread]

/-- **Settings survive being written, and files give what their texts give.** Settings read back from the
document that they write, whatever their identifiers hold. A file of text gives the settings, or the error,
that the text gives; that a file is no text is said exactly of bytes that are none, however much of a
document they begin with. -/
theorem round_trip :
    (∀ s : Settings, parse s.json = .ok s) ∧
    (∀ text : String, load (.file text.toUTF8) = (parse text).mapError .config) ∧
    ∀ bytes : ByteArray, load (.file bytes) = .error (.io .notUtf8) ↔ ¬ bytes.IsValidUTF8 :=
  ⟨parse_json, load_text, load_notUtf8_iff⟩

end DiskQuota.Settings
