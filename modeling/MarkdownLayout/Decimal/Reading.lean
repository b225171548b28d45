/-!
Decimals read as 64-bit floating-point numbers, in two ways: to the nearest number, and in two
roundings by a significand of 64 bits and one power of ten.
-/

set_option autoImplicit false

namespace MarkdownLayout.Decimal

def digitValue (c : Char) : Nat := c.toNat - '0'.toNat

def ofDigits (digits : List Char) : Nat := digits.foldl (fun n c => n * 10 + digitValue c) 0

-- The number nearest to `digits * 10 ^ exponent`. What has its first digit beyond the 310th place is
-- infinite, what has it behind the 330th decimal place is zero.
def toNearest (digits : Nat) (exponent : Int) : Float :=
  if digits = 0 ∨ exponent + (digits.log2 * 31 / 100 + 1 : Nat) < -330 then 0
  else if 310 < exponent + (digits.log2 * 3 / 10 : Nat) then 1 / 0
  else Float.ofScientific digits (exponent < 0) exponent.natAbs

def room : Nat := UInt64.size

def signedRoom : Nat := 0x8000000000000000

structure Significand where
  value : Nat
  exponent : Int

namespace Significand

-- Takes up the digits of a whole part. Once a digit no longer fits, it and all later ones only
-- raise the exponent.
def takeWhole (s : Significand) : List Char → Significand
  | [] => s
  | c :: rest =>
      let value := s.value * 10 + digitValue c
      if value < room then takeWhole ⟨value, s.exponent⟩ rest
      else ⟨s.value, s.exponent + (rest.length + 1 : Nat)⟩

def takeFraction (s : Significand) : List Char → Significand
  | [] => s
  | c :: rest =>
      let value := s.value * 10 + digitValue c
      if value < room then takeFraction ⟨value, s.exponent - 1⟩ rest else s

def powerOfTen (n : Nat) : Float := Float.ofScientific 1 false n

def divide (x : Float) (n : Nat) : Float :=
  if n ≤ 308 then x / powerOfTen n
  else if x == 0 then x
  else divide (x / powerOfTen 308) (n - 308)
termination_by n

def toFloat? (s : Significand) : Option Float :=
  let x := s.value.toUInt64.toFloat
  if s.exponent < 0 then some (divide x s.exponent.natAbs)
  else if s.exponent ≤ 308 then
    let scaled := x * powerOfTen s.exponent.natAbs
    if scaled.isInf then none else some scaled
  else if s.value = 0 then some x
  else none

end Significand

end MarkdownLayout.Decimal
