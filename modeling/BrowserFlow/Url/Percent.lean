import BrowserFlow.Url.Address

/-!
Percent encoding: bytes written as a percent sign and two hexadecimal digits.
-/

namespace BrowserFlow.Url

def charBytes (c : Char) : List UInt8 := (String.singleton c).toUTF8.toList

/-- A percent sign without two digits after it stands for itself. -/
def percentBytes : List Char → List UInt8
  | [] => []
  | '%' :: high :: low :: rest =>
    match digit? 16 high, digit? 16 low with
    | some a, some b => UInt8.ofNat (16 * a + b) :: percentBytes rest
    | _, _ => charBytes '%' ++ percentBytes (high :: low :: rest)
  | c :: rest => charBytes c ++ percentBytes rest

/-- `none` when the bytes are not the code of a text. -/
def percentDecode? (text : List Char) : Option (List Char) :=
  (String.fromUTF8? ⟨(percentBytes text).toArray⟩).map String.toList

def isEncoded (c : Char) : Bool := c.toNat < 32 || c.toNat ≥ 127

def encodeByte (byte : UInt8) : List Char :=
  let digit (n : Nat) : Char := (Nat.digitChar n).toUpper
  ['%', digit (byte.toNat / 16), digit (byte.toNat % 16)]

/-- Encodes controls and everything beyond ASCII. -/
def encodeControls (text : List Char) : List Char :=
  text.flatMap fun c => if isEncoded c then (charBytes c).flatMap encodeByte else [c]

end BrowserFlow.Url
