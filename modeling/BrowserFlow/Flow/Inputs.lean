import BrowserFlow.Flow.Codec

/-!
Input values by key: the template that a flow yields, and the overrides that replace its values.
-/

namespace BrowserFlow

open Json (Reader Value)

/-- One table of values for each kind of key. -/
structure InputTables where
  byTestId : Table Scalar
  byName : Table Scalar
  byId : Table Scalar
  byLabel : Table Scalar
  byPlaceholder : Table Scalar
deriving DecidableEq, Repr, Inhabited

namespace InputTables

def empty : InputTables := ⟨.empty, .empty, .empty, .empty, .empty⟩

def table (tables : InputTables) : KeyKind → Table Scalar
  | .testId => tables.byTestId
  | .name => tables.byName
  | .id => tables.byId
  | .label => tables.byLabel
  | .placeholder => tables.byPlaceholder

def modify (tables : InputTables) (kind : KeyKind) (f : Table Scalar → Table Scalar) :
    InputTables :=
  match kind with
  | .testId => { tables with byTestId := f tables.byTestId }
  | .name => { tables with byName := f tables.byName }
  | .id => { tables with byId := f tables.byId }
  | .label => { tables with byLabel := f tables.byLabel }
  | .placeholder => { tables with byPlaceholder := f tables.byPlaceholder }

def isEmpty (tables : InputTables) : Bool := KeyKind.all.all fun kind => (tables.table kind).isEmpty

/-- The value that a key was first mentioned with stays. -/
def mention (tables : InputTables) (value : Scalar) (key : Key) : InputTables :=
  tables.modify key.kind (·.insertNew key.value value)

def mentionStep (tables : InputTables) (step : Step) : InputTables :=
  if step.type.isTextEntry then
    match step.param? "value" with
    | some value => step.keys.foldl (·.mention value) tables
    | none => tables
  else tables

/-- The values entered in a flow, by every key of their fields. -/
def ofSteps (steps : List Step) : InputTables := steps.foldl mentionStep empty

def tableName : KeyKind → String
  | .testId => "byTestId"
  | .name => "byName"
  | .id => "byId"
  | .label => "byLabel"
  | .placeholder => "byPlaceholder"

def fields (tables : InputTables) : List (String × Value) :=
  KeyKind.all.map fun kind => (tableName kind, Params.toJson (tables.table kind))

def toJson (tables : InputTables) : Value := .object tables.fields

def text (tables : InputTables) : String := tables.toJson.pretty

def ofJson (v : Value) : InputTables :=
  let table (kind : KeyKind) := Params.ofJson (v.field (tableName kind))
  ⟨table .testId, table .name, table .id, table .label, table .placeholder⟩

end InputTables

/-- Values for keys of one kind, and values for a key of any kind. -/
structure Overrides where
  tables : InputTables
  fields : Table Scalar
deriving DecidableEq, Repr, Inhabited

namespace Overrides

def none : Overrides := ⟨.empty, .empty⟩

/-- The keys in the order in which they are looked up. -/
def lookupOrder (keys : List Key) : List Key :=
  KeyKind.all.flatMap fun kind => keys.filter (·.kind = kind)

/-- The first key found in the table of its kind decides; else the first found among the fields. -/
def lookup (overrides : Overrides) (keys : List Key) : Option Scalar :=
  let ordered := lookupOrder keys
  (ordered.findSome? fun key => (overrides.tables.table key.kind).get? key.value) <|>
    (ordered.findSome? fun key => overrides.fields.get? key.value)

/-- Only steps that carry an input value are changed. -/
def applyStep (overrides : Overrides) (step : Step) : Step :=
  if step.type.isTextEntry then
    match overrides.lookup step.keys with
    | some value => { step with params := some ((step.params.getD .empty).insert "value" value) }
    | Option.none => step
  else step

def apply (overrides : Overrides) (steps : List Step) : List Step := steps.map overrides.applyStep

def toJson (overrides : Overrides) : Value :=
  .object (overrides.tables.fields ++ [("fields", Params.toJson overrides.fields)])

/-- The containers open around a value: the whole object and a table. -/
def valueDepth : Nat := 2

def tableReader : Reader := Params.reader (Json.maxDepth - valueDepth)

def fieldNames : List String := KeyKind.all.map InputTables.tableName ++ ["fields"]

def reader : Reader :=
  Reader.record .text "struct InputOverrides"
    (fieldNames.map fun name => Reader.defaulted name (.object []) tableReader)

def ofJson (v : Value) : Overrides := ⟨.ofJson v, Params.ofJson (v.field "fields")⟩

/-- Every part of the text counts, and only an object will do. -/
def ofText? (text : String) : Option Overrides :=
  let document := Json.Document.read text.toList
  match document.root, document.settle with
  | .object _ _, .ok _ => (reader.run text).toOption.map ofJson
  | _, _ => Option.none

/-- A text that cannot be read overrides nothing. -/
def ofText (text : String) : Overrides := (ofText? text).getD none

end Overrides

end BrowserFlow
