import DiskQuota.Proofs.Json.Numbers
import DiskQuota.Proofs.Json.Written
import DiskQuota.Usage.Document

/-!
Results survive being written: a usage and a snapshot read back from the documents that they write, over
all texts and up to the last number of 64 bits. What reads back was written apart, so no two results write
the same document. The headline is `results_survive`.
-/
namespace DiskQuota

open Json.Reader (Reads Fills)

/-- What reads back was written apart. -/
theorem injective_of_parse {α ε : Type} {write : α → String} {parse : String → Except ε α}
    (h : ∀ a, parse (write a) = .ok a) : Function.Injective write := by
  intro a b hab
  have ha := h a
  rw [hab, h b] at ha
  exact (Except.ok.inj ha).symm

/-- A usage reads back from the document that it writes. -/
theorem Usage.parse_json (u : Usage) : parse u.json = .ok u := by
  cases u with
  | notConfigured =>
    have hreads : Reads reader (Json.quoteChars "NotConfigured".toList) .notConfigured := .choice rfl
    exact hreads.document
  | used n =>
    have hreads : Reads reader (Json.objectChars [("Used", Json.unsignedChars n)]) (.used n) :=
      .carrying rfl n
    exact hreads.document

/-- A snapshot reads back from the document that it writes. -/
theorem Snapshot.parse_json (s : Snapshot) : parse s.json = .ok s := by
  -- what has been given after each of the members
  let given₁ : Given := { Given.nothing with volume := some s.volume }
  let given₂ : Given := { given₁ with limit := some s.limit }
  let given₃ : Given := { given₂ with used := some s.used }
  have hvolume : Reads (field .nothing "volume") (':' :: Json.quoteChars s.volume.toList) given₁ :=
    ((Reads.string s.volume).once "volume").map _
  have hlimit : Reads (field given₁ "limit") (':' :: Json.unsignedChars s.limit) given₂ :=
    ((Reads.unsigned s.limit).once "limit").map _
  have hused : Reads (field given₂ "used") (':' :: Json.unsignedChars s.used) given₃ :=
    ((Reads.unsigned s.used).once "used").map _
  have hfills := Fills.cons hvolume (.cons hlimit (.cons hused (.nil given₃)))
  exact (hfills.structured (fun _ => rfl) _ _).document

/-- **Results survive being written.** A usage reads back from the document that it writes, and so does a
snapshot, whatever text its volume is and up to the last number of 64 bits. So different usages write
different documents, no quota and a quota that is not used among them, and so do different snapshots. -/
theorem results_survive :
    (∀ u : Usage, Usage.parse u.json = .ok u) ∧
    (∀ s : Snapshot, Snapshot.parse s.json = .ok s) ∧
    (∀ u v : Usage, u ≠ v → u.json ≠ v.json) ∧
    (∀ s t : Snapshot, s ≠ t → s.json ≠ t.json) ∧
    Usage.notConfigured.json ≠ (Usage.used 0).json := by
  refine ⟨Usage.parse_json, Snapshot.parse_json, ?_, ?_, ?_⟩
  · intro u v hne
    exact (injective_of_parse Usage.parse_json).ne hne
  · intro s t hne
    exact (injective_of_parse Snapshot.parse_json).ne hne
  · exact (injective_of_parse Usage.parse_json).ne nofun

/-- The last number of 64 bits. -/
example : Usage.parse "\x7b\"Used\":18446744073709551615\x7d" = .ok (.used 18446744073709551615) := by
  cbv

end DiskQuota
