import BrowserFlow.Text.Split

/-!
Punycode: any text as ASCII. The ASCII characters come first, then the places and values of all
others as differences in a number system with varying weights.
-/

namespace BrowserFlow.Url.Punycode

def digitChar (n : Nat) : Char :=
  if n < 26 then Char.ofNat ('a'.toNat + n) else Char.ofNat ('0'.toNat + (n - 26))

def digitValue? (c : Char) : Option Nat :=
  if 'a' ≤ c ∧ c ≤ 'z' then some (c.toNat - 'a'.toNat)
  else if 'A' ≤ c ∧ c ≤ 'Z' then some (c.toNat - 'A'.toNat)
  else if '0' ≤ c ∧ c ≤ '9' then some (c.toNat - '0'.toNat + 26)
  else none

/-- A digit below the threshold of its position ends a number. -/
def threshold (position bias : Nat) : Nat := min 26 (max 1 (position - bias))

theorem one_le_threshold (position bias : Nat) : 1 ≤ threshold position bias := by
  unfold threshold
  omega

def settleBias (delta position : Nat) : Nat :=
  if 455 < delta then settleBias (delta / 35) (position + 36)
  else position + 36 * delta / (delta + 38)
termination_by delta
decreasing_by omega

/-- The bias for the next number, after `delta` and with `count` characters in place. -/
def adapt (delta count : Nat) (first : Bool) : Nat :=
  let scaled := if first then delta / 700 else delta / 2
  settleBias (scaled + scaled / count) 0

def encodeNumber (bias position n : Nat) : List Char :=
  let t := threshold position bias
  if n < t then [digitChar n]
  else digitChar (t + (n - t) % (36 - t)) :: encodeNumber bias (position + 36) ((n - t) / (36 - t))
termination_by n
decreasing_by
  have positive := one_le_threshold position bias
  have smaller := Nat.div_le_self (n - threshold position bias) (36 - threshold position bias)
  omega

/-- `delta` counts the places passed since the last character that was written. -/
structure Encoder where
  delta : Nat
  bias : Nat
  count : Nat
  output : List Char

def Encoder.visit (basic code : Nat) (e : Encoder) (c : Char) : Encoder :=
  if c.toNat < code then { e with delta := e.delta + 1 }
  else if c.toNat = code then
    { delta := 0
      bias := adapt e.delta (e.count + 1) (e.count = basic)
      count := e.count + 1
      output := e.output ++ encodeNumber e.bias 36 e.delta }
  else e

def Encoder.run (text : List Char) (basic : Nat) : Nat → List Nat → Encoder → List Char
  | _, [], e => e.output
  | next, code :: codes, e =>
    let e := { e with delta := e.delta + (code - next) * (e.count + 1) }
    let e := text.foldl (Encoder.visit basic code) e
    Encoder.run text basic (code + 1) codes { e with delta := e.delta + 1 }

def firstCode : Nat := 128

def encode (text : List Char) : List Char :=
  let basic := text.filter (·.toNat < firstCode)
  let codes := ((text.filter (·.toNat ≥ firstCode)).map Char.toNat).mergeSort.eraseDups
  let start := if basic.isEmpty then [] else basic ++ ['-']
  start ++ Encoder.run text basic.length firstCode codes ⟨0, 72, basic.length, []⟩

def maxNumber : Nat := 0xFFFFFFFF

/-- Reads one number; `weight` is that of the next digit. -/
def decodeNumber? (bias : Nat) : Nat → Nat → Nat → List Char → Option (Nat × List Char)
  | _, _, _, [] => none
  | position, weight, n, c :: rest => do
    let digit ← digitValue? c
    let n := n + digit * weight
    let t := threshold position bias
    if n > maxNumber then none
    else if digit < t then some (n, rest)
    else decodeNumber? bias (position + 36) (weight * (36 - t)) n rest

theorem length_of_decodeNumber? {bias position weight n m : Nat} {text rest : List Char}
    (h : decodeNumber? bias position weight n text = some (m, rest)) :
    rest.length < text.length := by
  induction text generalizing position weight n with
  | nil => simp [decodeNumber?] at h
  | cons c text ih =>
    simp only [decodeNumber?] at h
    cases hd : digitValue? c with
    | none => simp [hd] at h
    | some digit =>
      simp only [hd, Option.bind_eq_bind, Option.bind_some] at h
      split at h
      · cases h
      · split at h
        · cases h
          simp
        · exact Nat.lt_succ_of_lt (ih h)

def charOf? (n : Nat) : Option Char :=
  if h : n.isValidChar then some (Char.ofNatAux n h) else none

def decodeFrom? (code place bias : Nat) (output text : List Char) : Option (List Char) :=
  if text.isEmpty then some output
  else
    match h : decodeNumber? bias 36 1 0 text with
    | none => none
    | some (delta, rest) => do
      let count := output.length + 1
      let reached := place + delta
      if reached > maxNumber then none
      let next := code + reached / count
      let c ← charOf? next
      have := length_of_decodeNumber? h
      decodeFrom? next (reached % count + 1) (adapt delta count (place = 0))
        (output.insertIdx (reached % count) c) rest
termination_by text.length

/-- The last hyphen ends the ASCII characters. -/
def decode? (text : List Char) : Option (List Char) :=
  match Text.cutLast? '-' text with
  | some (c :: basic, rest) => decodeFrom? firstCode 0 72 (c :: basic) rest
  | _ => decodeFrom? firstCode 0 72 [] text

end BrowserFlow.Url.Punycode
