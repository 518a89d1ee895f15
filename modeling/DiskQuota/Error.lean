import DiskQuota.Json.Error
import DiskQuota.Step

/-!
Everything that can go wrong between a caller and the quotas of a volume: a step of an operation fails,
a settings document is wrong, or it cannot be read at all.
-/
namespace DiskQuota

/-- Why a file cannot be read as text. -/
inductive ReadFault where
  | notFound
  | notADirectory
  | isADirectory
  | nameTooLong
  | zeroInName
  | notUtf8
deriving DecidableEq, Repr

def ReadFault.text : ReadFault → String
  | notFound => "No such file or directory (os error 2)"
  | notADirectory => "Not a directory (os error 20)"
  | isADirectory => "Is a directory (os error 21)"
  | nameTooLong => "File name too long (os error 36)"
  | zeroInName => "file name contained an unexpected NUL byte"
  | notUtf8 => "stream did not contain valid UTF-8"

inductive Error where
  | quota (e : StepError)
  | config (e : Json.Error)
  | io (f : ReadFault)

namespace Error

/-- The message of what is behind the error. -/
def source : Error → String
  | quota e => e.message
  | config e => e.message
  | io f => f.text

def message (e : Error) : String :=
  (match e with
    | quota _ => "Quota error: "
    | config _ => "Configuration error: "
    | io _ => "IO error: ") ++ e.source

end Error
end DiskQuota
