import BrowserFlow.Json.Value

/-!
Written numerals: their form and the number each stands for.
-/

namespace BrowserFlow.Json

/-- Why a text is not JSON: a character that cannot stand where it does, or an end too early. -/
inductive Fault where
  | malformed
  | truncated
deriving DecidableEq, Repr, Inhabited

/-- The parts of a well-formed numeral, digits only. -/
structure Numeral where
  negative : Bool
  whole : List Char
  fraction : Option (List Char)
  exponent : Option (Bool × List Char)
deriving DecidableEq, Repr, Inhabited

namespace Numeral

def digitValue (c : Char) : Nat := c.toNat - '0'.toNat

def maxDigits : Nat := 0xFFFFFFFFFFFFFFFF

/-- Leading digits as long as their number fits in 64 bits, and how many were taken. -/
def takeDigits (digits : Nat) (count : Nat) : List Char → Nat × Nat
  | [] => (digits, count)
  | c :: rest =>
    let next := digits * 10 + digitValue c
    if next ≤ maxDigits then takeDigits next (count + 1) rest else (digits, count)

def naturalOf (cs : List Char) : Nat :=
  cs.foldl (fun n c => n * 10 + digitValue c) 0

/-- Written exponents from `2 ^ 31` on count as infinitely large. -/
def maxExponent : Nat := 0x7FFFFFFF

def real (negative : Bool) (digits : Nat) (exponent : Int) : Except Fault Number :=
  match Double.scale? negative (UInt64.ofNat digits) exponent with
  | some x => .ok (.real x)
  | none => .error .malformed

/-- An integer when nothing but digits is written and the value fits in 64 bits, where `-0` does
not; else a real number, of which only the digits that fit in 64 bits count. -/
def value (n : Numeral) : Except Fault Number :=
  let (digits, taken) := takeDigits 0 0 n.whole
  let dropped := n.whole.length - taken
  match n.fraction, n.exponent with
  | none, none =>
    if dropped ≠ 0 then real n.negative digits dropped
    else if !n.negative then .ok (.integer digits)
    else if 1 ≤ digits && digits ≤ 0x8000000000000000 then .ok (.integer (-digits))
    else real true digits 0
  | fraction, exponent =>
    let (digits, decimals) := takeDigits digits 0 (fraction.getD [])
    let start : Int := (dropped : Int) - decimals
    match exponent with
    | none => real n.negative digits start
    | some (negativeExponent, written) =>
      let size := naturalOf written
      if size > maxExponent then
        if digits ≠ 0 && !negativeExponent then .error .malformed
        else real n.negative 0 0
      else real n.negative digits (if negativeExponent then start - size else start + size)

end Numeral

/-- A numeral that breaks off: the fault met when its value is wanted, and the one met when it is
passed over. -/
structure BrokenNumeral where
  read : Fault
  skip : Fault

def brokenAt (rest : List Char) : BrokenNumeral :=
  if rest.isEmpty then ⟨.truncated, .malformed⟩ else ⟨.malformed, .malformed⟩

def readExponent (cs : List Char) : Except BrokenNumeral (Option (Bool × List Char) × List Char) :=
  match cs with
  | c :: rest =>
    if c = 'e' || c = 'E' then
      let (negative, rest) :=
        match rest with
        | '+' :: rest => (false, rest)
        | '-' :: rest => (true, rest)
        | rest => (false, rest)
      let digits := rest.takeWhile Char.isDigit
      if digits.isEmpty then .error (brokenAt rest)
      else .ok (some (negative, digits), rest.dropWhile Char.isDigit)
    else .ok (none, cs)
  | [] => .ok (none, cs)

def readFraction (cs : List Char) : Except BrokenNumeral (Option (List Char) × List Char) :=
  match cs with
  | '.' :: rest =>
    let digits := rest.takeWhile Char.isDigit
    if digits.isEmpty then .error (brokenAt rest)
    else .ok (some digits, rest.dropWhile Char.isDigit)
  | cs => .ok (none, cs)

/-- The whole part is `0` or does not start with `0`. -/
def readWhole (cs : List Char) : Except BrokenNumeral (List Char × List Char) :=
  match cs with
  | '0' :: rest =>
    match rest with
    | c :: _ => if c.isDigit then .error ⟨.malformed, .malformed⟩ else .ok (['0'], rest)
    | [] => .ok (['0'], rest)
  | cs =>
    let digits := cs.takeWhile Char.isDigit
    if digits.isEmpty then .error (brokenAt cs)
    else .ok (digits, cs.dropWhile Char.isDigit)

def readNumeral (cs : List Char) : Except BrokenNumeral (Numeral × List Char) := do
  let (negative, cs) :=
    match cs with
    | '-' :: rest => (true, rest)
    | cs => (false, cs)
  let (whole, cs) ← readWhole cs
  let (fraction, cs) ← readFraction cs
  let (exponent, cs) ← readExponent cs
  return (⟨negative, whole, fraction, exponent⟩, cs)

end BrowserFlow.Json
