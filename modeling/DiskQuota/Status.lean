import DiskQuota.Text.Hex

/-!
Status codes of the quota service: any 32 bits, of which a few have a symbolic name. A code is read
as a failure when its top bit is set, that is when it is negative as a signed number.
-/
namespace DiskQuota

/-- An opaque 32-bit status code. -/
structure Status where
  code : UInt32
deriving DecidableEq, Repr

namespace Status

def ok : Status := ⟨0⟩
def noInterface : Status := ⟨0x80004002⟩
def pointer : Status := ⟨0x80004003⟩
def unspecified : Status := ⟨0x80004005⟩
def accessDenied : Status := ⟨0x80070005⟩
def invalidArgument : Status := ⟨0x80070057⟩
def notFound : Status := ⟨0x80045301⟩
def alreadyExists : Status := ⟨0x80045303⟩

/-- The codes with a symbolic name. -/
def named : List (Status × String) :=
  [(ok, "S_OK"), (noInterface, "E_NOINTERFACE"), (pointer, "E_POINTER"), (unspecified, "E_FAIL"),
    (accessDenied, "E_ACCESSDENIED"), (invalidArgument, "E_INVALIDARG"),
    (notFound, "FSRM_E_NOT_FOUND"), (alreadyExists, "FSRM_E_ALREADY_EXISTS")]

def name? (s : Status) : Option String := named.lookup s

/-- The same 32 bits as a signed number. -/
def signed (s : Status) : Int32 := s.code.toInt32

/-- Whether the code reports a failure: its top bit is set. -/
def isFailure (s : Status) : Bool := s.code ≥ 0x80000000

/-- Eight hexadecimal digits, and the symbolic name in parentheses where there is one. -/
def text (s : Status) : String :=
  "0x" ++ String.ofList (Text.Hex.fixed 8 s.code.toNat) ++
    match s.name? with
    | some name => " (" ++ name ++ ")"
    | none => ""

end Status
end DiskQuota
