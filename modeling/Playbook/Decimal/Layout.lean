import Playbook.Decimal.Shortest

/-!
# Laying out a decimal

A number has one shortest decimal and several written forms. A `Layout` records what a form
decides: between which magnitudes the point is written in place, whether an exponent shows its
plus sign, and the words for the values that are no numbers.
-/

namespace Playbook.Decimal

structure Layout where
  /-- The least position of the point that is written in place, when there is a least one. -/
  least : Option Int
  /-- The greatest position of the point that is written in place, when there is a greatest one. -/
  greatest : Option Int
  plus : Bool
  nan : String
  infinity : String
  negativeInfinity : String

/-- The point always stands in place. -/
def Layout.positional : Layout := ⟨none, none, false, "NaN", "inf", "-inf"⟩

/-- The point stands in place from `1e-5` up to `1e16`; an exponent has a sign. -/
def Layout.json : Layout := ⟨some (-4), some 16, true, "null", "null", "null"⟩

/-- The point stands in place from `1e-5` up to `1e16`; only a negative exponent has a sign. -/
def Layout.yaml : Layout := ⟨some (-4), some 16, false, ".nan", ".inf", "-.inf"⟩

/-- The point stands in place from `1e-4` up to `1e16`: the form inside a printed container. -/
def Layout.nested : Layout := ⟨some (-3), some 16, false, "NaN", "inf", "-inf"⟩

def Layout.inPlace (layout : Layout) (point : Int) : Bool :=
  layout.least.all (· ≤ point) && layout.greatest.all (point ≤ ·)

def zeros (n : Nat) : String :=
  String.ofList (List.replicate n '0')

/-- Digits with the point after the first `point` of them, and at least one digit on each side. -/
def positionalText (digits : List Char) (point : Int) : String :=
  if point ≤ 0 then "0." ++ zeros (-point).toNat ++ String.ofList digits
  else
    let whole := point.toNat
    if digits.length ≤ whole then
      String.ofList digits ++ zeros (whole - digits.length) ++ ".0"
    else String.ofList (digits.take whole) ++ "." ++ String.ofList (digits.drop whole)

def scientificText (plus : Bool) (digits : List Char) (point : Int) : String :=
  let mantissa := match digits with
    | [] => ""
    | [d] => d.toString
    | d :: rest => d.toString ++ "." ++ String.ofList rest
  let exponent := point - 1
  mantissa ++ "e" ++ (if plus && 0 ≤ exponent then "+" else "") ++ toString exponent

def Layout.finite (layout : Layout) (d : Point) : String :=
  let digits := Nat.toDigits 10 d.significand
  let point := (digits.length : Int) + d.exponent
  if layout.inPlace point then positionalText digits point
  else scientificText layout.plus digits point

def Layout.text (layout : Layout) (x : Float) : String :=
  if x.isNaN then layout.nan
  else if x.isInf then if isNegative x then layout.negativeInfinity else layout.infinity
  else (if isNegative x then "-" else "") ++ layout.finite (shortest x)

end Playbook.Decimal
