/-! # Binary fractions of 64 bits

A double is kept as its bits, and all that is asked of it is worked out in whole numbers: the value
nearest to a decimal, and the shortest decimal nearest to a value.
-/

namespace PropTyper

structure Double where
  bits : UInt64
deriving DecidableEq, Repr, Inhabited

namespace Double

def twoTo (n : Nat) : Nat := Nat.pow 2 n

def tenTo (n : Nat) : Nat := Nat.pow 10 n

def isNegative (x : Double) : Bool :=
  x.bits.toNat ≥ twoTo 63

def exponentField (x : Double) : Nat :=
  x.bits.toNat / twoTo 52 % twoTo 11

def fraction (x : Double) : Nat :=
  x.bits.toNat % twoTo 52

def isNaN (x : Double) : Bool :=
  x.exponentField = 2047 && x.fraction ≠ 0

def isInfinite (x : Double) : Bool :=
  x.exponentField = 2047 && x.fraction = 0

/-- The size of a finite number is the first part times two to the power of the second. -/
def magnitude (x : Double) : Nat × Int :=
  if x.exponentField = 0 then (x.fraction, -1074)
  else (twoTo 52 + x.fraction, (x.exponentField : Int) - 1075)

def ofNat (sign : Bool) (n : Nat) : Double :=
  ⟨UInt64.ofNat (if sign then twoTo 63 + n else n)⟩

def infinity (sign : Bool) : Double :=
  ofNat sign (2047 * twoTo 52)

def nan : Double :=
  ofNat false (2047 * twoTo 52 + twoTo 51)

/-- The quotient rounded to the nearest whole number, a half to the even one. -/
def roundDiv (a b : Nat) : Nat :=
  let q := a / b
  let r := a % b
  if 2 * r > b || (2 * r = b && q % 2 = 1) then q + 1 else q

/-- `a / b` as a fraction of whole numbers with two to the power of `-q` multiplied in. -/
def scaled (a b : Nat) (q : Int) : Nat × Nat :=
  if 0 ≤ q then (a, b * twoTo q.toNat) else (a * twoTo (-q).toNat, b)

/-- The bits of the number nearest to `a / b`, both above zero. -/
def ofRatio (sign : Bool) (a b : Nat) : Double :=
  let guess : Int := (a.log2 : Int) - b.log2 - 52
  let first := scaled a b guess
  let fitted := if first.1 / first.2 < twoTo 52 then guess - 1 else guess
  let q := max fitted (-1074)
  let s := scaled a b q
  let m := roundDiv s.1 s.2
  if m < twoTo 52 then ofNat sign m
  else
    let carried := if m = twoTo 53 then (twoTo 52, q + 1) else (m, q)
    let field := (carried.2 + 1075).toNat
    if field ≥ 2047 then infinity sign else ofNat sign (field * twoTo 52 + (carried.1 - twoTo 52))

def digitCount (n : Nat) : Nat :=
  (Nat.toDigits 10 n).length

/-- The number nearest to `digits` times ten to the power of `exponent`. -/
def ofDecimal (sign : Bool) (digits : Nat) (exponent : Int) : Double :=
  let top := (digitCount digits : Int) + exponent
  if digits = 0 || top < -400 then ofNat sign 0
  else if top > 400 then infinity sign
  else if 0 ≤ exponent then ofRatio sign (digits * tenTo exponent.toNat) 1
  else ofRatio sign digits (tenTo (-exponent).toNat)

/-- A decimal: the digits are those of a whole number, and the point stands `point` places to the
right of the first one's left side. -/
structure Decimal where
  digits : Nat
  point : Int
deriving DecidableEq, Repr, Inhabited

/-- How many places the point of `a / b` stands behind the first digit's left side. -/
def pointOf (a b : Nat) : Int :=
  if b ≤ a then digitCount (a / b)
  else
    let places := (digitCount b : Int) - digitCount a
    if a * tenTo places.toNat < b then -places else 1 - places

/-- `a / b` cut to `count` digits, and what is cut off. -/
def cut (a b count : Nat) (point : Int) : Nat × Nat × Nat :=
  let shift := (count : Int) - point
  let s := if 0 ≤ shift then (a * tenTo shift.toNat, b) else (a, b * tenTo (-shift).toNat)
  (s.1 / s.2, s.1 % s.2, s.2)

/-- Of the two decimals of `count` digits around a number, the nearer of those that read back. -/
def readsBack? (x : Double) (a b : Nat) (point : Int) (count : Nat) : Option Decimal :=
  let (below, rest, unit) := cut a b count point
  let above := below + 1
  let isGood (digits : Nat) : Bool :=
    ofDecimal x.isNegative digits (point - count) = x
  let belowFirst := 2 * rest < unit || (2 * rest = unit && below % 2 = 0)
  let chosen :=
    if isGood below && (belowFirst || !isGood above) then some below
    else if isGood above then some above
    else none
  chosen.map fun digits =>
    ⟨digits, if digits = tenTo count then point + 1 else point⟩

/-- The decimal of fewest digits that reads back as the number, which is finite and not zero. -/
def shortest (x : Double) : Decimal :=
  let (m, q) := x.magnitude
  let a := if 0 ≤ q then m * twoTo q.toNat else m
  let b := if 0 ≤ q then 1 else twoTo (-q).toNat
  let point := pointOf a b
  ((List.range 17).findSome? fun i => readsBack? x a b point (i + 1)).getD ⟨0, 1⟩

def toInt? (x : Double) : Option Int :=
  if x.isNaN || x.isInfinite then none
  else
    let (m, q) := x.magnitude
    let whole? : Option Nat :=
      if 0 ≤ q then some (m * twoTo q.toNat)
      else if m % twoTo (-q).toNat = 0 then some (m / twoTo (-q).toNat)
      else none
    whole?.map fun n => if x.isNegative then -(n : Int) else n

def dropZeros : List Char → List Char
  | text => (text.reverse.dropWhile (· = '0')).reverse

def Decimal.digitText (d : Decimal) : List Char :=
  match dropZeros (Nat.toDigits 10 d.digits) with
  | [] => ['0']
  | digits => digits

/-- The power of ten with its sign and at least two digits. -/
def exponentText (e : Int) : String :=
  let digits := Nat.toDigits 10 e.natAbs
  (if e < 0 then "e-" else "e+") ++
    String.ofList (if digits.length < 2 then '0' :: digits else digits)

/-- Positional from 0.0001 up to 10^16, else with a power of ten; a whole number keeps `.0`. -/
def Decimal.render (d : Decimal) : String :=
  let digits := d.digitText
  let count := digits.length
  if -4 < d.point && d.point ≤ 16 then
    if d.point ≤ 0 then
      "0." ++ String.ofList (List.replicate (-d.point).toNat '0' ++ digits)
    else
      let whole := d.point.toNat
      if count ≤ whole then
        String.ofList (digits ++ List.replicate (whole - count) '0') ++ ".0"
      else String.ofList (digits.take whole) ++ "." ++ String.ofList (digits.drop whole)
  else
    let tail := if count ≤ 1 then "" else "." ++ String.ofList (digits.drop 1)
    String.ofList (digits.take 1) ++ tail ++ exponentText (d.point - 1)

def render (x : Double) : String :=
  (if x.isNegative then "-" else "") ++
    (if x.magnitude.1 = 0 then "0.0" else x.shortest.render)

end Double

end PropTyper
