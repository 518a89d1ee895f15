import DiskQuota.Error
import DiskQuota.Settings.Document

/-!
Settings from files. Reading a file fails by the path alone, or because the bytes of the file are no
text; only a text is looked at as a document.
-/
namespace DiskQuota

/-- What a path leads to. -/
inductive Location where
  | file (bytes : ByteArray)
  | nothing
  | directory
  /-- A name below a file, as if that were a directory. -/
  | belowFile
  | emptyPath
  | nameWithZero
  | nameTooLong

namespace Location

/-- The bytes of the file at a path. -/
def read : Location → Except ReadFault ByteArray
  | file bytes => .ok bytes
  | nothing | emptyPath => .error .notFound
  | directory => .error .isADirectory
  | belowFile => .error .notADirectory
  | nameWithZero => .error .zeroInName
  | nameTooLong => .error .nameTooLong

/-- The text of the file at a path. -/
def readText (l : Location) : Except ReadFault String := do
  match String.fromUTF8? (← l.read) with
  | some text => return text
  | none => throw .notUtf8

end Location

/-- The settings in the file at a path. -/
def Settings.load (l : Location) : Except Error Settings :=
  match l.readText with
  | .error f => .error (.io f)
  | .ok text =>
    match parse text with
    | .ok settings => .ok settings
    | .error e => .error (.config e)

end DiskQuota
