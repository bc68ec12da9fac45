/-!
# The shortest decimal of a float

A finite float is `m * 2 ^ q`. Every real that rounds to it lies in an interval around it, ends
included when `m` is even. `shortest` takes the coarsest decimal grid that has a point in that
interval, and of two such points the nearer; seventeen digits always suffice.
-/

namespace Playbook.Decimal

/-- The point `significand * 10 ^ exponent` of a decimal grid. -/
structure Point where
  significand : Nat
  exponent : Int
  deriving DecidableEq, Repr

/-- A positive float as `mantissa * 2 ^ exponent`. At a power of two the next float below is only
half as far away as the next one above. -/
structure Binary where
  mantissa : Nat
  exponent : Int
  isPowerOfTwo : Bool

def isNegative (x : Float) : Bool :=
  x.toBits >>> 63 == 1

/-- The magnitude of a finite float. -/
def Binary.ofFloat (x : Float) : Binary :=
  let exponent := ((x.toBits >>> 52) &&& 0x7FF).toNat
  let fraction := (x.toBits &&& 0xFFFFFFFFFFFFF).toNat
  if exponent == 0 then ⟨fraction, -1074, false⟩
  else ⟨fraction + Nat.pow 2 52, exponent - 1075, fraction == 0 && exponent > 1⟩

/-- The integer part of a finite float. -/
def truncated (x : Float) : Int :=
  let b := Binary.ofFloat x
  let magnitude := b.mantissa * Nat.pow 2 b.exponent.toNat / Nat.pow 2 (-b.exponent).toNat
  if isNegative x then -(magnitude : Int) else magnitude

/-- The integer that a float is, if it is one. -/
def integral? (x : Float) : Option Int :=
  let b := Binary.ofFloat x
  if x.isFinite && b.mantissa * Nat.pow 2 b.exponent.toNat % Nat.pow 2 (-b.exponent).toNat == 0 then
    some (truncated x)
  else none

/-- A fraction with the ends of the interval that rounds to it, over one denominator. -/
structure Interval where
  low : Nat
  value : Nat
  high : Nat
  denominator : Nat
  closed : Bool

def Binary.interval (b : Binary) : Interval :=
  let up := Nat.pow 2 b.exponent.toNat
  { low := (4 * b.mantissa - if b.isPowerOfTwo then 1 else 2) * up
    value := 4 * b.mantissa * up
    high := (4 * b.mantissa + 2) * up
    denominator := 4 * Nat.pow 2 (-b.exponent).toNat
    closed := b.mantissa % 2 == 0 }

def digitCount (n : Nat) : Nat :=
  (Nat.toDigits 10 n).length

/-- The `k` with `10 ^ (k - 1) ≤ value < 10 ^ k`. -/
def Interval.magnitude (i : Interval) : Int :=
  if i.denominator ≤ i.value then digitCount (i.value / i.denominator)
  else 1 - (digitCount ((i.denominator + i.value - 1) / i.value - 1) : Int)

def Interval.contains (i : Interval) (scaled scale : Nat) : Bool :=
  if i.closed then i.low * scale ≤ scaled && scaled ≤ i.high * scale
  else i.low * scale < scaled && scaled < i.high * scale

/-- The point of the grid `10 ^ exponent` nearest to the value, if it lies in the interval. -/
def Interval.onGrid? (i : Interval) (exponent : Int) : Option Point :=
  let unit := Nat.pow 10 exponent.toNat * i.denominator
  let scale := Nat.pow 10 (-exponent).toNat
  let below := i.value * scale / unit
  let inBelow := i.contains (below * unit) scale
  let inAbove := i.contains ((below + 1) * unit) scale
  let gapBelow := i.value * scale - below * unit
  let gapAbove := (below + 1) * unit - i.value * scale
  let aboveIsNearer := gapAbove < gapBelow || (gapAbove == gapBelow && below % 2 == 1)
  if inBelow && !(inAbove && aboveIsNearer) then some ⟨below, exponent⟩
  else if inAbove then some ⟨below + 1, exponent⟩
  else none

def Point.dropZeros : Nat → Point → Point
  | 0, d => d
  | fuel + 1, d =>
    if d.significand != 0 && d.significand % 10 == 0 then
      dropZeros fuel ⟨d.significand / 10, d.exponent + 1⟩
    else d

/-- The decimal with the fewest digits that reads back as the magnitude of `x`. -/
def shortest (x : Float) : Point :=
  let binary := Binary.ofFloat x
  if binary.mantissa == 0 then ⟨0, 0⟩
  else
    let i := binary.interval
    let hit := (List.range 17).findSome? fun n : Nat ↦ i.onGrid? (i.magnitude - (n + 1))
    (hit.getD ⟨0, 0⟩).dropZeros 20

end Playbook.Decimal
