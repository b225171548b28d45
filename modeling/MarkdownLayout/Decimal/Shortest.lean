/-!
The shortest decimal that identifies a binary floating-point number. A finite number other than zero
is `m * 2 ^ q`; the reals that round to it form an interval around it, and the decimal with the
fewest digits in that interval is chosen, the nearest one if there are several.
-/

set_option autoImplicit false

namespace MarkdownLayout

structure Decimal where
  digits : Nat
  exponent : Int

structure Binary where
  mantissa : Nat
  exponent : Int

namespace Binary

def leadingBit : Nat := 0x10000000000000

def ofBits (bits : UInt64) : Binary :=
  let fraction := bits.toNat % leadingBit
  match bits.toNat / leadingBit % 2048 with
  | 0 => ⟨fraction, -1074⟩
  | biased => ⟨leadingBit + fraction, biased - 1075⟩

def ratio (base : Nat) (e : Int) : Nat × Nat := (base.pow e.toNat, base.pow (-e).toNat)

def scaled (b : Binary) (unit : Int) : Nat × Nat :=
  let two := ratio 2 b.exponent
  let ten := ratio 10 unit
  (b.mantissa * two.1 * ten.2, two.2 * ten.1)

-- Whether `count` units of `10 ^ unit` round to the magnitude. The interval reaches half way to the
-- neighbours; below a power of two the neighbour is twice as near. Its ends belong to it when the
-- mantissa is even.
def rounds (b : Binary) (unit : Int) (count : Nat) : Bool :=
  let two := ratio 2 b.exponent
  let ten := ratio 10 unit
  let point := 4 * count * ten.1 * two.2
  let upper := (4 * b.mantissa + 2) * two.1 * ten.2
  let lower :=
    (4 * b.mantissa - if b.mantissa = leadingBit ∧ -1074 < b.exponent then 1 else 2) * two.1 * ten.2
  if b.mantissa % 2 = 0 then lower ≤ point && point ≤ upper else lower < point && point < upper

-- The exponent of the first decimal digit: `10 ^ e ≤ b < 10 ^ (e + 1)`. The estimate from the
-- binary exponent is at most one off.
def leading (b : Binary) : Int :=
  let atLeast (e : Int) : Bool :=
    let (num, den) := b.scaled e
    den ≤ num
  let estimate := (b.mantissa.log2 + b.exponent) * 1233 / 4096
  if !atLeast estimate then estimate - 1
  else if atLeast (estimate + 1) then estimate + 1
  else estimate

def nearest? (b : Binary) (unit : Int) : Option Nat :=
  let (num, den) := b.scaled unit
  let below := num / den
  let twice := 2 * (num % den)
  let nearer := if twice < den ∨ (twice = den ∧ below % 2 = 0) then below else below + 1
  let other := if nearer = below then below + 1 else below
  if b.rounds unit nearer then some nearer
  else if b.rounds unit other then some other
  else none

def stripZeros : Nat → Decimal → Decimal
  | 0, d => d
  | bound + 1, d => if d.digits % 10 = 0 then stripZeros bound ⟨d.digits / 10, d.exponent + 1⟩ else d

-- Seventeen digits always identify a 64-bit number, so the search over one to seventeen succeeds.
def shortest (b : Binary) : Decimal :=
  let top := b.leading
  let found := (List.range 17).findSome? fun (more : Nat) =>
    let unit := top - more
    (b.nearest? unit).map fun digits => Decimal.mk digits unit
  stripZeros 20 (found.getD ⟨0, 0⟩)

end Binary

end MarkdownLayout
