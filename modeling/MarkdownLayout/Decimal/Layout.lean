import MarkdownLayout.Decimal.Shortest

set_option autoImplicit false

namespace MarkdownLayout

structure DecimalLayout where
  plainFrom : Int
  plainBelow : Int

namespace DecimalLayout

def decimalDigits (n : Nat) : List Char := Nat.toDigits 10 n

def positional (digits : List Char) (leading : Int) : List Char :=
  if leading < 0 then
    ['0', '.'] ++ List.replicate (-leading - 1).toNat '0' ++ digits
  else
    let whole := leading.toNat + 1
    let fraction := digits.drop whole
    (digits.take whole ++ List.replicate (whole - digits.length) '0')
      ++ '.' :: (if fraction.isEmpty then ['0'] else fraction)

def scientific (digits : List Char) (leading : Int) : List Char :=
  let fraction := digits.drop 1
  digits.take 1 ++ (if fraction.isEmpty then [] else '.' :: fraction)
    ++ 'e' :: (if leading < 0 then '-' else '+') :: decimalDigits leading.natAbs

def finite (layout : DecimalLayout) (bits : UInt64) : List Char :=
  let b := Binary.ofBits bits
  let magnitude :=
    if b.mantissa = 0 then ['0', '.', '0']
    else
      let d := b.shortest
      let digits := decimalDigits d.digits
      let leading := d.exponent + (digits.length - 1 : Nat)
      if layout.plainFrom ≤ leading ∧ leading < layout.plainBelow then positional digits leading
      else scientific digits leading
  if bits.toNat.testBit 63 then '-' :: magnitude else magnitude

def text? (layout : DecimalLayout) (x : Float) : Option (List Char) :=
  if x.isFinite then some (layout.finite x.toBits) else none

end DecimalLayout

end MarkdownLayout
