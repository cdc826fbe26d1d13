/-!
Finite binary64 numbers: how decimal digits become one, and its shortest decimal text.
-/

namespace BrowserFlow.Json

/-- A finite binary64 number, by its bits. -/
structure Double where
  bits : UInt64
deriving DecidableEq, Repr, Inhabited

namespace Double

def ofFloat (x : Float) : Double := ⟨x.toBits⟩

def toFloat (x : Double) : Float := Float.ofBits x.bits

def isNegative (x : Double) : Bool := x.bits >>> 63 == 1

def magnitudeBits (x : Double) : Nat := x.bits.toNat % 0x8000000000000000

def isZero (x : Double) : Bool := x.magnitudeBits == 0

/-- Numeric equality: the two zeros are equal. -/
def sameValue (x y : Double) : Bool := x == y || (x.isZero && y.isZero)

def ofNat (n : UInt64) : Double := ofFloat n.toFloat

/-- `digits · 10 ^ exponent` in one rounded multiplication or division by a power of ten, or two
divisions when the exponent is below -308; `none` when the result is not finite. -/
def scale? (negative : Bool) (digits : UInt64) (exponent : Int) : Option Double :=
  let power (n : Nat) : Float := Float.ofScientific 1 false n
  let signed (x : Float) : Double := ofFloat (if negative then -x else x)
  let x := digits.toFloat
  if digits == 0 then some (signed 0)
  else if exponent > 308 then none
  else if exponent ≥ 0 then
    let y := x * power exponent.toNat
    if y.isInf then none else some (signed y)
  else if exponent ≥ -308 then some (signed (x / power (-exponent).toNat))
  else if exponent ≥ -616 then some (signed (x / power 308 / power (-exponent - 308).toNat))
  else some (signed 0)

/-- The leading bit of a significand, which is not stored: `2 ^ 52`. -/
def leadingBit : Nat := 0x10000000000000

/-- A finite magnitude is `significand · 2 ^ exponent`. -/
def significand (x : Double) : Nat :=
  let fraction := x.magnitudeBits % leadingBit
  if x.magnitudeBits < leadingBit then fraction else fraction + leadingBit

def exponent (x : Double) : Int :=
  let field : Nat := x.magnitudeBits / leadingBit
  if field = 0 then -1074 else (field : Int) - 1075

/-- A positive rational, used for exact comparisons. -/
structure Ratio where
  num : Nat
  den : Nat

def Ratio.le (x y : Ratio) : Bool := x.num * y.den ≤ y.num * x.den

def Ratio.scaled (n : Nat) (base : Nat) (exponent : Int) : Ratio :=
  if exponent ≥ 0 then ⟨n * base.pow exponent.toNat, 1⟩ else ⟨n, base.pow (-exponent).toNat⟩

/-- The real numbers that round to a magnitude: the ends belong to it when the significand is
even. -/
structure Interval where
  low : Ratio
  value : Ratio
  high : Ratio
  closed : Bool

def interval (x : Double) : Interval :=
  let m := x.significand
  let low := if m = leadingBit && x.exponent > -1074 then 4 * m - 1 else 4 * m - 2
  { low := Ratio.scaled low 2 (x.exponent - 2)
    value := Ratio.scaled (4 * m) 2 (x.exponent - 2)
    high := Ratio.scaled (4 * m + 2) 2 (x.exponent - 2)
    closed := m % 2 == 0 }

def Interval.contains (i : Interval) (x : Ratio) : Bool :=
  if i.closed then i.low.le x && x.le i.high
  else !x.le i.low && !i.high.le x

/-- The exponent of the leading decimal digit. -/
def Ratio.leadingExponent (x : Ratio) : Int :=
  if x.den ≤ x.num then ((Nat.toDigits 10 (x.num / x.den)).length : Int) - 1
  else
    let k := (Nat.toDigits 10 (x.den / x.num)).length
    if x.den = x.num * Nat.pow 10 (k - 1) then -((k : Int) - 1) else -(k : Int)

/-- The point of the decimal grid `n · 10 ^ exponent` that lies in the interval and is nearest to
its value, the even one of two at the same distance. -/
def Interval.nearest? (i : Interval) (exponent : Int) : Option Nat :=
  let value := i.value
  let cell := Ratio.scaled 1 10 exponent
  let num := value.num * cell.den
  let den := value.den * cell.num
  let below := num / den
  let above := below + 1
  let fits (n : Nat) : Bool := i.contains (Ratio.scaled n 10 exponent)
  match fits below, fits above with
  | true, true =>
    let distance := 2 * (num % den)
    if distance < den then some below
    else if den < distance then some above
    else if below % 2 = 0 then some below else some above
  | true, false => some below
  | false, true => some above
  | false, false => none

def shortestFrom (i : Interval) (leading : Int) : Nat → Nat → Nat × Int
  | 0, _ => (0, 0)
  | fuel + 1, count =>
    let exponent := leading - count
    match i.nearest? exponent with
    | some n => (n, exponent)
    | none => shortestFrom i leading fuel (count + 1)

/-- Digits without leading or trailing zeros and the exponent of the last one: the fewest digits
that read back, and of those the nearest to the value. -/
def shortest (x : Double) : List Char × Int :=
  let i := x.interval
  let (n, exponent) := shortestFrom i i.value.leadingExponent 18 0
  let digits := Nat.toDigits 10 n
  let kept := (digits.reverse.dropWhile (· == '0')).reverse
  (kept, exponent + (digits.length - kept.length : Nat))

/-- Positional when the leading digit stands for `10 ^ k` with `-5 ≤ k ≤ 15`, and then with at
least one decimal; otherwise in scientific form with the sign of the exponent written out. -/
def magnitudeText (digits : List Char) (exponent : Int) : List Char :=
  let count : Int := digits.length
  let leading := exponent + count - 1
  if leading < -5 || leading > 15 then
    let mantissa :=
      match digits with
      | [] => ['0']
      | [d] => [d]
      | d :: rest => d :: '.' :: rest
    let sign := if leading < 0 then '-' else '+'
    mantissa ++ 'e' :: sign :: (toString leading.natAbs).toList
  else if exponent ≥ 0 then digits ++ List.replicate exponent.toNat '0' ++ ['.', '0']
  else if leading ≥ 0 then
    let whole := (leading + 1).toNat
    digits.take whole ++ '.' :: digits.drop whole
  else ['0', '.'] ++ List.replicate (-leading - 1).toNat '0' ++ digits

def text (x : Double) : List Char :=
  let magnitude :=
    if x.isZero then ['0', '.', '0']
    else
      let (digits, exponent) := x.shortest
      magnitudeText digits exponent
  if x.isNegative then '-' :: magnitude else magnitude

end Double

end BrowserFlow.Json
