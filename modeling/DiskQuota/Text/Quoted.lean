import DiskQuota.Text.Hex
import DiskQuota.Text.Invisible

/-!
Text in double quotes for a message, on one line and with every character visible: the usual control
characters, the quote and the backslash have short escapes, and any other character that does not show
is given by its code point.
-/
namespace DiskQuota.Text

/-- How one character stands in quoted text. -/
def quotedChar (c : Char) : List Char :=
  match c with
  | '\x00' => ['\x5c', '0']
  | '\t' => ['\x5c', 't']
  | '\r' => ['\x5c', 'r']
  | '\n' => ['\x5c', 'n']
  | '\x5c' => ['\x5c', '\x5c']
  | '\x22' => ['\x5c', '\x22']
  | c =>
    if isInvisible c then '\x5c' :: 'u' :: '\x7b' :: (Hex.minimal c.toNat ++ ['\x7d']) else [c]

/-- The text in double quotes. -/
def quoted (s : String) : String :=
  String.ofList ('\x22' :: (s.toList.flatMap quotedChar ++ ['\x22']))

end DiskQuota.Text
