import DiskQuota.Json.Structure
import DiskQuota.Settings

/-!
Settings as JSON documents. A document may leave out any field, which then has its default, and may
hold members of other names. A list gives the fields in order, as many as it has elements.
-/
namespace DiskQuota

open Json (Reader)

/-- The threading models by name. -/
def Threading.choices : Json.Choices Threading :=
  [apartment, multithreaded].map fun t => (t.name, .nothing t)

def Threading.reader : Reader Threading := Reader.choice choices

/-- The server contexts by name. -/
def ServerContext.choices : Json.Choices ServerContext :=
  [localServer, inProcess, any].map fun c => (c.name, .nothing c)

def ServerContext.reader : Reader ServerContext := Reader.choice choices

namespace Settings

/-- The fields that a document has given so far. -/
structure Given where
  managerClass : Option String
  managerInterface : Option String
  threading : Option Threading
  serverContext : Option ServerContext
deriving DecidableEq

def Given.nothing : Given := ⟨none, none, none, none⟩

/-- The settings with these fields, and defaults for the others. -/
def Given.settings (g : Given) : Settings where
  managerClass := g.managerClass.getD default.managerClass
  managerInterface := g.managerInterface.getD default.managerInterface
  threading := g.threading.getD default.threading
  serverContext := g.serverContext.getD default.serverContext

/-- Reads a member after its key. -/
def field (g : Given) (key : String) : Reader Given :=
  match key with
  | "manager_class_id" => do
    return { g with managerClass := some (← Reader.once key g.managerClass Reader.string) }
  | "manager_interface_id" => do
    return { g with managerInterface := some (← Reader.once key g.managerInterface Reader.string) }
  | "threading" => do
    return { g with threading := some (← Reader.once key g.threading Threading.reader) }
  | "server_context" => do
    return { g with serverContext := some (← Reader.once key g.serverContext ServerContext.reader) }
  | _ => do
    Reader.skipMember
    return g

/-- The elements of a list, as far as they go. -/
def listed : Reader Settings := do
  let managerClass ← Reader.elementD true Reader.string default.managerClass
  let managerInterface ← Reader.elementD false Reader.string default.managerInterface
  let threading ← Reader.elementD false Threading.reader default.threading
  let serverContext ← Reader.elementD false ServerContext.reader default.serverContext
  return { managerClass, managerInterface, threading, serverContext }

/-- The members of an object. -/
def named : Reader Settings := do
  let g ← Reader.members field .nothing
  Reader.skip
  return g.settings

def reader : Reader Settings := Reader.structured "struct QuotaConfig" listed named

/-- The settings that a document gives. -/
def parse (document : String) : Except Json.Error Settings := reader.document document

/-- The settings as a document that gives every field. -/
def json (s : Settings) : String :=
  String.ofList <| Json.objectChars
    [("manager_class_id", Json.quoteChars s.managerClass.toList),
      ("manager_interface_id", Json.quoteChars s.managerInterface.toList),
      ("threading", Json.quoteChars s.threading.name.toList),
      ("server_context", Json.quoteChars s.serverContext.name.toList)]

end Settings
end DiskQuota
