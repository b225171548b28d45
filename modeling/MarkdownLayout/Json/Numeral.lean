import MarkdownLayout.Decimal.Reading
import MarkdownLayout.Json.Basic
import MarkdownLayout.Text.Scanner

set_option autoImplicit false

namespace MarkdownLayout.Json

structure Numeral where
  negative : Bool
  whole : List Char
  fraction : List Char
  exponent : Option (Bool × List Char)

namespace Numeral

open Scanner Decimal

def scan : Scanner Numeral := do
  let sign ← attempt (char '-')
  let whole ← takeSome Char.isDigit
  if 1 < whole.length ∧ whole.head? = some '0' then fail
  else
    let fraction ← (do char '.'; takeSome Char.isDigit) <|> pure []
    let exponent ← (some <$> scanExponent) <|> pure none
    pure ⟨sign.isSome, whole, fraction, exponent⟩
where
  scanExponent : Scanner (Bool × List Char) := do
    let _ ← satisfying fun c => c = 'e' || c = 'E'
    let sign ← attempt (satisfying fun c => c = '+' || c = '-')
    let digits ← takeSome Char.isDigit
    pure (sign == some '-', digits)

def signed (negative : Bool) (x : Float) : Float := if negative then -x else x

-- A number with a fraction, an exponent or too many digits: a significand of 64 bits times a power
-- of ten. An exponent of `2 ^ 31` or more makes zero or nothing at all.
def float? (n : Numeral) : Option Float :=
  let significand := ((Significand.mk 0 0).takeWhole n.whole).takeFraction n.fraction
  match n.exponent with
  | none => (significand.toFloat?).map (signed n.negative)
  | some (negative, digits) =>
      let exponent := ofDigits digits
      if exponent < 0x80000000 then
        let raised := if negative then significand.exponent - exponent else significand.exponent + exponent
        (Significand.toFloat? ⟨significand.value, raised⟩).map (signed n.negative)
      else if negative ∨ significand.value = 0 then some (signed n.negative 0)
      else none

def number? (n : Numeral) : Option Number :=
  let whole := ofDigits n.whole
  if n.fraction.isEmpty ∧ n.exponent.isNone ∧ whole < Decimal.room then
    if !n.negative then some (.int whole)
    else if 0 < whole ∧ whole ≤ Decimal.signedRoom then some (.int (-(whole : Int)))
    else some (.float (-whole.toUInt64.toFloat))
  else n.float?.map .float

end Numeral

end MarkdownLayout.Json
