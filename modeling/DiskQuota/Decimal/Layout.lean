import DiskQuota.Decimal.Shortest

/-!
Writing down a float with its shortest digits. A layout says which numbers are written out in full
and which with an exponent.
-/
namespace DiskQuota.Decimal

/-- The decisions of a way to write floats. -/
structure Layout where
  /-- Numbers whose leading digit stands at one of these places of ten are written out. -/
  plainFrom : Int
  plainTo : Int

namespace Layout

def zeros (n : Nat) : List Char := List.replicate n '0'

/-- Digits with the point where it belongs, and at least one digit on either side of it. -/
def plain (ds : List Char) (leading : Int) : List Char :=
  if leading < 0 then '0' :: '.' :: (zeros (-leading - 1).toNat ++ ds)
  else
    let whole := leading.toNat + 1
    if ds.length ≤ whole then ds ++ zeros (whole - ds.length) ++ ['.', '0']
    else ds.take whole ++ '.' :: ds.drop whole

/-- One digit before the point and the rest after it, with a signed exponent. A single digit goes
without a point. -/
def scientific (ds : List Char) (leading : Int) : List Char :=
  let sign := if leading < 0 then '-' else '+'
  ds.take 1 ++ (if ds.length ≤ 1 then [] else '.' :: ds.drop 1) ++
    'e' :: sign :: Nat.toDigits 10 leading.natAbs

/-- The text of a positive decimal. -/
def layOut (n : Layout) (d : Digits) : List Char :=
  let ds := Nat.toDigits 10 d.digits
  let leading := d.exponent + ds.length - 1
  if n.plainFrom ≤ leading ∧ leading ≤ n.plainTo then plain ds leading
  else scientific ds leading

/-- The text of a finite float: zero and negative numbers keep their sign. -/
def write (n : Layout) (x : Float) : String :=
  let bits := x.toBits
  let magnitude := bits &&& 0x7FFFFFFFFFFFFFFF
  let digits :=
    if magnitude = 0 then plain ['0'] 0 else n.layOut (Binary.ofBits magnitude).shortest
  String.ofList (if bits = magnitude then digits else '-' :: digits)

end Layout
end DiskQuota.Decimal
