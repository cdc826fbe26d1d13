import BrowserFlow.Json.Draft
import BrowserFlow.Text.Shown

/-!
Readers check a draft against an expected shape and yield the value it stands for, with every
field in place. The first fault or mismatch in text order is the one reported.
-/

namespace BrowserFlow.Json

/-- What was found where something else was expected. -/
inductive Found where
  | bool (b : Bool)
  | number (n : Number)
  | string (s : String)
  | null
  | sequence
  | map
deriving DecidableEq, Repr

/-- A well-formed value of the wrong shape. -/
inductive Mismatch where
  | missingField (name : String)
  | duplicateField (name : String)
  | invalidType (found : Found) (expected : String)
  | invalidValue (found : Found) (expected : String)
  | invalidLength (length : Nat) (expected : String)
  | unknownVariant (name : String) (variants : List String)
  | noAlternative (choice : String)
deriving DecidableEq, Repr

inductive ReadError where
  | fault (f : Fault)
  | mismatch (m : Mismatch)
deriving DecidableEq, Repr

def Found.text : Found → String
  | .bool b => "boolean `" ++ toString b ++ "`"
  | .number (.integer n) => "integer `" ++ toString n ++ "`"
  | .number (.real x) => "floating point `" ++ String.ofList x.text ++ "`"
  | .string s => "string " ++ Text.shown s
  | .null => "null"
  | .sequence => "sequence"
  | .map => "map"

def inBackticks (name : String) : String := "`" ++ name ++ "`"

/-- One name alone, two joined by "or", more as a list. -/
def oneOf : List String → String
  | [a] => inBackticks a
  | [a, b] => inBackticks a ++ " or " ++ inBackticks b
  | names => "one of " ++ ", ".intercalate (names.map inBackticks)

def Mismatch.message : Mismatch → String
  | .missingField name => "missing field " ++ inBackticks name
  | .duplicateField name => "duplicate field " ++ inBackticks name
  | .invalidType found expected => "invalid type: " ++ found.text ++ ", expected " ++ expected
  | .invalidValue found expected => "invalid value: " ++ found.text ++ ", expected " ++ expected
  | .invalidLength length expected =>
    "invalid length " ++ toString length ++ ", expected " ++ expected
  | .unknownVariant name variants =>
    "unknown variant " ++ inBackticks name ++ ", expected " ++ oneOf variants
  | .noAlternative choice => "data did not match any variant of untagged enum " ++ choice

def Fault.message : Fault → String
  | .malformed => "malformed text"
  | .truncated => "the text ends too early"

def ReadError.message : ReadError → String
  | .fault f => f.message
  | .mismatch m => m.message

/-- Whether a draft is a text being read, or a value already at hand. -/
inductive Source where
  | text
  | value
deriving DecidableEq, Repr

abbrev Reader := Draft → Except ReadError Value

def failure (f : Fault) : Except ReadError α := .error (.fault f)

def refuse (m : Mismatch) : Except ReadError α := .error (.mismatch m)

def liftFault : Except Fault α → Except ReadError α
  | .ok a => .ok a
  | .error f => failure f

/-- The error for a draft that is not of the expected kind. -/
def Draft.unexpected (expected : String) : Draft → Except ReadError α
  | .null => refuse (.invalidType .null expected)
  | .bool b => refuse (.invalidType (.bool b) expected)
  | .number (.ok n) => refuse (.invalidType (.number n) expected)
  | .number (.error f) => failure f
  | .string (.ok s) _ => refuse (.invalidType (.string s) expected)
  | .string (.error f) _ => failure f
  | .array _ _ => refuse (.invalidType .sequence expected)
  | .object _ _ => refuse (.invalidType .map expected)
  | .absent => failure .truncated
  | .broken f _ => failure f

namespace Reader

def string : Reader
  | .string (.ok s) _ => .ok (.string s)
  | draft => draft.unexpected "a string"

def bool : Reader
  | .bool b => .ok (.bool b)
  | draft => draft.unexpected "a boolean"

/-- A number that is not negative; `type` is what the message calls it. -/
def natural (type : String) : Reader
  | .number (.ok (.integer n)) =>
    if 0 ≤ n then .ok (.number (.integer n))
    else refuse (.invalidValue (.number (.integer n)) type)
  | draft => draft.unexpected type

def real : Reader
  | .number (.ok (.real x)) => .ok (.number (.real x))
  | .number (.ok (.integer n)) => .ok (.number (.real (.ofFloat (Float.ofInt n))))
  | draft => draft.unexpected "f64"

def optional (reader : Reader) : Reader
  | .null => .ok .null
  | draft => reader draft

def items (reader : Reader) : List Draft → Except ReadError (List Value)
  | [] => .ok []
  | item :: rest => do
    let value ← reader item
    return value :: (← items reader rest)

def list (reader : Reader) : Reader
  | .array drafts stop => do
    let values ← items reader drafts
    liftFault (passIf stop)
    return .array values
  | draft => draft.unexpected "a sequence"

def entries (reader : Reader) : List (Draft × Draft) → Except ReadError (List (String × Value))
  | [] => .ok []
  | (key, draft) :: rest => do
    let name ← liftFault key.key
    let value ← reader draft
    return (name, value) :: (← entries reader rest)

/-- Any names. A repeated name keeps its first place and its last value. -/
def table (reader : Reader) : Reader
  | .object members stop => do
    let fields ← entries reader members
    liftFault (passIf stop)
    return .object (mergeEntries fields)
  | draft => draft.unexpected "a map"

/-- A boolean, a number or a string. -/
def scalar (choice : String) (depth : Nat) (draft : Draft) : Except ReadError Value := do
  match ← liftFault (draft.settle depth) with
  | .bool b => return .bool b
  | .number n => return .number n
  | .string s => return .string s
  | _ => refuse (.noAlternative choice)

def variantNamed (variants : List String) (name : String) : Except ReadError Value :=
  if variants.contains name then .ok (.string name) else refuse (.unknownVariant name variants)

def unit : Reader
  | .null => .ok .null
  | draft => draft.unexpected "unit"

/-- One of the names; also an object whose only field has that name and the value null. -/
def variant (source : Source) (variants : List String) (draft : Draft) :
    Except ReadError Value :=
  match source, draft with
  | _, .string (.ok name) _ => variantNamed variants name
  | _, .string (.error f) _ => failure f
  | .value, .object [(.string (.ok name) _, draft)] _ => do
    let value ← variantNamed variants name
    let _ ← unit draft
    return value
  | .value, .object _ _ => refuse (.invalidValue .map "map with a single key")
  | .value, draft => draft.unexpected "string or map"
  | .text, .object [] _ => failure .malformed
  | .text, .object ((.string (.ok name) _, draft) :: rest) stop => do
    let value ← variantNamed variants name
    let _ ← unit draft
    if rest.isEmpty then
      liftFault (passIf stop)
      return value
    else failure .malformed
  | .text, .object ((key, _) :: _) _ => key.unexpected "variant identifier"
  | .text, .absent => failure .truncated
  | .text, _ => failure .malformed

/-- What a field that is not there stands for. -/
inductive Absence where
  | refused
  | null
  | default (value : Value)
deriving Inhabited

structure Field where
  name : String
  absence : Absence
  reader : Reader

def required (name : String) (reader : Reader) : Field := ⟨name, .refused, reader⟩

/-- May be left out or null. -/
def nullable (name : String) (reader : Reader) : Field := ⟨name, .null, reader.optional⟩

def defaulted (name : String) (value : Value) (reader : Reader) : Field :=
  ⟨name, .default value, reader⟩

/-- Left out in any form, or null. -/
def omittable (name : String) (reader : Reader) : Field :=
  ⟨name, .default .null, reader.optional⟩

def memberFields (fields : List Field) (found : List (String × Value)) :
    List (Draft × Draft) → Except ReadError (List (String × Value))
  | [] => .ok found
  | (key, draft) :: rest => do
    let name ← liftFault key.key
    match fields.find? (·.name == name) with
    | none =>
      liftFault draft.skip
      memberFields fields found rest
    | some field =>
      if (findValue? name found).isSome then refuse (.duplicateField name)
      else
        let value ← field.reader draft
        memberFields fields ((name, value) :: found) rest

def completeField (found : List (String × Value)) (field : Field) :
    Except ReadError (String × Value) :=
  match findValue? field.name found, field.absence with
  | some value, _ => .ok (field.name, value)
  | none, .refused => refuse (.missingField field.name)
  | none, .null => .ok (field.name, .null)
  | none, .default value => .ok (field.name, value)

def structWith (type : String) (count : Nat) : String :=
  type ++ " with " ++ toString count ++ (if count = 1 then " element" else " elements")

/-- The fields in order, from the items of an array. -/
def positional (type : String) (count : Nat) (stop : Option Fault) (index : Nat) :
    List Field → List Draft → Except ReadError (List (String × Value) × List Draft)
  | [], rest => .ok ([], rest)
  | field :: fields, [] => do
    liftFault (passIf stop)
    match field.absence with
    | .default value =>
      let (found, rest) ← positional type count stop (index + 1) fields []
      return ((field.name, value) :: found, rest)
    | _ => refuse (.invalidLength index (structWith type count))
  | field :: fields, draft :: drafts => do
    let value ← field.reader draft
    let (found, rest) ← positional type count stop (index + 1) fields drafts
    return ((field.name, value) :: found, rest)

/-- An object with these fields in any order, others being passed over, or an array of the fields
in this order. -/
def record (source : Source) (type : String) (fields : List Field) : Reader
  | .object members stop => do
    let found ← memberFields fields [] members
    liftFault (passIf stop)
    return .object (← fields.mapM (completeField found))
  | .array drafts stop => do
    let (found, rest) ← positional type fields.length stop 0 fields drafts
    if rest.isEmpty then
      liftFault (passIf stop)
      return .object found
    else
      match source with
      | .text => failure .malformed
      | .value => refuse (.invalidLength drafts.length "fewer elements in array")
  | draft => draft.unexpected type

end Reader

def Document.readWith (document : Document) (reader : Reader) : Except ReadError Value := do
  let value ← reader document.root
  if document.trailing then failure .malformed else return value

/-- Reads a whole text. -/
def Reader.run (reader : Reader) (text : String) : Except ReadError Value :=
  (Document.read text.toList).readWith reader

namespace Value

/-- A field of an object, null when there is none. -/
def field (v : Value) (name : String) : Value :=
  match v with
  | .object fields => (findValue? name fields).getD .null
  | _ => .null

def getString : Value → String
  | .string s => s
  | _ => ""

def getString? : Value → Option String
  | .string s => some s
  | _ => none

def getNat : Value → Nat
  | .number (.integer n) => n.toNat
  | _ => 0

def getReal : Value → Double
  | .number (.real x) => x
  | _ => ⟨0⟩

def getBool : Value → Bool
  | .bool b => b
  | _ => false

def getItems : Value → List Value
  | .array items => items
  | _ => []

def getFields : Value → List (String × Value)
  | .object fields => fields
  | _ => []

def isNull : Value → Bool
  | .null => true
  | _ => false

def getStrings (v : Value) : List String := v.getItems.map getString

/-- None for null. -/
def get? (v : Value) (decode : Value → α) : Option α :=
  if v.isNull then none else some (decode v)

end Value

end BrowserFlow.Json
