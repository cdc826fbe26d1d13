import BrowserFlow.Json.Numeral

/-!
Quoted texts. Reading one yields its characters; passing over one accepts more, since it does not
look at the code points that escapes stand for.
-/

namespace BrowserFlow.Json

def hexValue? (c : Char) : Option Nat :=
  if '0' ≤ c && c ≤ '9' then some (c.toNat - '0'.toNat)
  else if 'a' ≤ c && c ≤ 'f' then some (c.toNat - 'a'.toNat + 10)
  else if 'A' ≤ c && c ≤ 'F' then some (c.toNat - 'A'.toNat + 10)
  else none

def hexUnit? (a b c d : Char) : Option Nat := do
  return (← hexValue? a) * 4096 + (← hexValue? b) * 256 + (← hexValue? c) * 16 + (← hexValue? d)

def isHighSurrogate (unit : Nat) : Bool := 0xD800 ≤ unit && unit ≤ 0xDBFF

def isLowSurrogate (unit : Nat) : Bool := 0xDC00 ≤ unit && unit ≤ 0xDFFF

def joinSurrogates (high low : Nat) : Char :=
  Char.ofNat ((high - 0xD800) * 1024 + (low - 0xDC00) + 0x10000)

def escaped? (c : Char) : Option Char :=
  if c = '"' || c = '\\' || c = '/' then some c
  else if c = 'b' then some (Char.ofNat 8)
  else if c = 'f' then some (Char.ofNat 12)
  else if c = 'n' then some '\n'
  else if c = 'r' then some '\r'
  else if c = 't' then some '\t'
  else none

def utf8Size (cs : List Char) : Nat := cs.foldl (fun n c => n + c.utf8Size) 0

/-- Of a text with fewer than four characters for an escape: the end comes too early when it also
has fewer than four bytes. -/
def shortEscape (cs : List Char) : Fault :=
  if utf8Size cs < 4 then .truncated else .malformed

/-- Puts a character in front of what was read. -/
def consChar (c : Char) :
    Except Fault (List Char × List Char) → Except Fault (List Char × List Char)
  | .ok (text, rest) => .ok (c :: text, rest)
  | .error f => .error f

/-- The characters up to the closing quote, and what follows it. An escaped high surrogate is
followed by an escaped low one, and a low one stands nowhere else. -/
def readText : List Char → Except Fault (List Char × List Char)
  | [] => .error .truncated
  | '"' :: rest => .ok ([], rest)
  | '\\' :: [] => .error .truncated
  | '\\' :: 'u' :: a :: b :: c :: d :: rest =>
    match hexUnit? a b c d with
    | none => .error .malformed
    | some unit =>
      if isLowSurrogate unit then .error .malformed
      else if isHighSurrogate unit then
        match rest with
        | '\\' :: 'u' :: a :: b :: c :: d :: rest =>
          match hexUnit? a b c d with
          | none => .error .malformed
          | some low =>
            if isLowSurrogate low then consChar (joinSurrogates unit low) (readText rest)
            else .error .malformed
        | '\\' :: 'u' :: rest => .error (shortEscape rest)
        | '\\' :: [] => .error .truncated
        | [] => .error .truncated
        | _ :: _ => .error .malformed
      else consChar (Char.ofNat unit) (readText rest)
  | '\\' :: 'u' :: rest => .error (shortEscape rest)
  | '\\' :: e :: rest =>
    match escaped? e with
    | some c => consChar c (readText rest)
    | none => .error .malformed
  | c :: rest => if c.toNat < 32 then .error .malformed else consChar c (readText rest)

/-- What follows the closing quote. -/
def skipText : List Char → Except Fault (List Char)
  | [] => .error .truncated
  | '"' :: rest => .ok rest
  | '\\' :: [] => .error .truncated
  | '\\' :: 'u' :: a :: b :: c :: d :: rest =>
    if (hexUnit? a b c d).isSome then skipText rest else .error .malformed
  | '\\' :: 'u' :: rest => .error (shortEscape rest)
  | '\\' :: e :: rest => if (escaped? e).isSome then skipText rest else .error .malformed
  | c :: rest => if c.toNat < 32 then .error .malformed else skipText rest

end BrowserFlow.Json
