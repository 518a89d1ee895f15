/-!
UTF-16, read strictly: a high surrogate stands directly before a low one and a low one directly
after a high one, or the units are no text. Characters up to U+FFFF are one unit, the others a pair.
-/
namespace DiskQuota.Text.Utf16

/-- Units that open a pair. -/
def isHigh (u : UInt16) : Bool := 0xD800 ≤ u && u ≤ 0xDBFF

/-- Units that close a pair. -/
def isLow (u : UInt16) : Bool := 0xDC00 ≤ u && u ≤ 0xDFFF

/-- The character that a pair of surrogates stands for. -/
def ofPair (high low : UInt16) : Char :=
  Char.ofNat (0x10000 + (high.toNat - 0xD800) * 0x400 + (low.toNat - 0xDC00))

/-- The characters that the units write, if every surrogate is part of a pair. -/
def decode? : List UInt16 → Option (List Char)
  | [] => some []
  | [u] => if isHigh u || isLow u then none else some [Char.ofNat u.toNat]
  | u :: v :: us =>
    if isHigh u then
      if isLow v then (decode? us).map (ofPair u v :: ·) else none
    else if isLow u then none
    else (decode? (v :: us)).map (Char.ofNat u.toNat :: ·)

/-- The units of one character. -/
def units (c : Char) : List UInt16 :=
  if c.toNat < 0x10000 then [c.toNat.toUInt16]
  else
    [(0xD800 + (c.toNat - 0x10000) / 0x400).toUInt16,
      (0xDC00 + (c.toNat - 0x10000) % 0x400).toUInt16]

def encode (cs : List Char) : List UInt16 := cs.flatMap units

end DiskQuota.Text.Utf16
