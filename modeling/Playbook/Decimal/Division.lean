import Playbook.Decimal.Reading
import Playbook.Decimal.Shortest

/-!
# Division and cuts of floats

The remainder of two floats is exact: both are integers over one power of two. It has the sign of
the dividend.
-/

namespace Playbook.Decimal

def withSign (negative : Bool) (magnitude : Float) : Float :=
  if negative then -magnitude else magnitude

/-- `mantissa * 2 ^ exponent`, where this is a float. -/
def scaled (mantissa : Nat) (exponent : Int) : Float :=
  nearest (mantissa * Nat.pow 2 exponent.toNat) (Nat.pow 2 (-exponent).toNat)

def remainder (x y : Float) : Float :=
  let a := Binary.ofFloat x
  let b := Binary.ofFloat y
  if !x.isFinite || y.isNaN || y == 0.0 then Float.ofBits 0x7FF8000000000000
  else if !y.isFinite then x
  else
    let exponent := min a.exponent b.exponent
    let m := a.mantissa * Nat.pow 2 (a.exponent - exponent).toNat
    let n := b.mantissa * Nat.pow 2 (b.exponent - exponent).toNat
    withSign (isNegative x) (scaled (m % n) exponent)

/-- The float without its fraction. -/
def whole (x : Float) : Float :=
  if isNegative x then x.ceil else x.floor

/-- The quotient for which the remainder is not negative. -/
def quotient (x y : Float) : Float :=
  let q := whole (x / y)
  if remainder x y < 0.0 then (if y > 0.0 then q - 1.0 else q + 1.0) else q

/-- The integer part within the range of 64 bits; what is no number counts as zero. -/
def saturated (x : Float) : Int :=
  if x.isNaN then 0
  else if !x.isFinite then (if isNegative x then -(Nat.pow 2 63) else Nat.pow 2 63 - 1)
  else max (-(Nat.pow 2 63)) (min (Nat.pow 2 63 - 1) (truncated x))

end Playbook.Decimal
