import DiskQuota.Json.Structure
import DiskQuota.Usage

/-!
Usages and snapshots as JSON documents. A usage is a choice that carries the bytes in use, if there is
a quota. A snapshot has no defaults: each of its fields comes exactly once.
-/
namespace DiskQuota

open Json (Reader)

namespace Usage

/-- The usages by name. -/
def choices : Json.Choices Usage :=
  [("NotConfigured", .nothing .notConfigured), ("Used", .unsigned .used)]

def reader : Reader Usage := Reader.choice choices

def parse (document : String) : Except Json.Error Usage := reader.document document

def json : Usage → String
  | notConfigured => Json.quote "NotConfigured"
  | used n => String.ofList (Json.objectChars [("Used", Json.unsignedChars n)])

end Usage

namespace Snapshot

/-- The fields that a document has given so far. -/
structure Given where
  volume : Option String
  limit : Option UInt64
  used : Option UInt64
deriving DecidableEq

def Given.nothing : Given := ⟨none, none, none⟩

/-- Reads a member after its key. -/
def field (g : Given) (key : String) : Reader Given :=
  match key with
  | "volume" => do return { g with volume := some (← Reader.once key g.volume Reader.string) }
  | "limit" => do return { g with limit := some (← Reader.once key g.limit Reader.unsigned) }
  | "used" => do return { g with used := some (← Reader.once key g.used Reader.unsigned) }
  | _ => do
    Reader.skipMember
    return g

/-- A field that has to be given. -/
def required {α : Type} (name : String) : Option α → Reader α
  | some a => pure a
  | none => Reader.fail (.here (.missingField name))

/-- The members of an object. -/
def named : Reader Snapshot := do
  let g ← Reader.members field .nothing
  Reader.skip
  let volume ← required "volume" g.volume
  let limit ← required "limit" g.limit
  let used ← required "used" g.used
  return { volume, limit, used }

/-- What a snapshot is called where a list is too short for one. -/
def threeElements : String := "struct QuotaSnapshot with 3 elements"

/-- The elements of a list. -/
def listed : Reader Snapshot := do
  let volume ← Reader.elementOf threeElements 0 Reader.string
  let limit ← Reader.elementOf threeElements 1 Reader.unsigned
  let used ← Reader.elementOf threeElements 2 Reader.unsigned
  return { volume, limit, used }

def reader : Reader Snapshot := Reader.structured "struct QuotaSnapshot" listed named

def parse (document : String) : Except Json.Error Snapshot := reader.document document

def json (s : Snapshot) : String :=
  String.ofList <| Json.objectChars
    [("volume", Json.quoteChars s.volume.toList), ("limit", Json.unsignedChars s.limit),
      ("used", Json.unsignedChars s.used)]

end Snapshot
end DiskQuota
