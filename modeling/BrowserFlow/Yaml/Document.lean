import BrowserFlow.Yaml.Scalar

/-!
YAML documents: nodes laid out by indentation or between brackets.
-/

namespace BrowserFlow.Yaml

namespace Scan

def isNameChar (c : Char) : Bool := c.isAlphanum || c == '-' || c == '_'

/-- The name after a mark for a named node. -/
def nodeName : Scan String := do
  skip 1
  let name ← takeWhile isNameChar
  if name.isEmpty then malformed
  return String.ofList name

def namedNode : Scan Node := do
  let name ← nodeName
  match (← get).named.lookup name with
  | some node => return node
  | none => malformed

def giveName (name : String) (node : Node) : Scan Unit :=
  modify fun cursor => { cursor with named := (name, node) :: cursor.named }

/-- A tag says what a node is meant to be; it is passed over. -/
def skipTag : Scan Unit := do
  let _ ← takeWhile fun c => !isSpace c && c != '\n'

def atDash : Scan Bool := do
  match ← rest with
  | '-' :: text => return endsWord text
  | _ => return false

/-- A colon that ends a key. Between brackets it need not be followed by a space. -/
def atColon (flow : Bool) : Scan Bool := do
  match ← rest with
  | ':' :: text => return flow || endsWord text
  | _ => return false

def closesFlow : List Char → Bool
  | c :: _ => c == ',' || c == ']' || c == '\x7d'
  | [] => false

mutual

/-- A node between brackets. -/
def flowNode : Nat → Scan Node
  | 0 => malformed
  | fuel + 1 => do
    skipInFlow
    match ← rest with
    | [] => malformed
    | '[' :: _ =>
      skip 1
      return .sequence (← flowItems fuel)
    | '\x7b' :: _ =>
      skip 1
      return .mapping (← flowEntries fuel)
    | '"' :: text =>
      skip 1
      return .scalar (String.ofList (← doubleQuoted (text.length + 1) [])) false
    | '\'' :: text =>
      skip 1
      return .scalar (String.ofList (← singleQuoted (text.length + 1) [])) false
    | '*' :: _ => namedNode
    | '&' :: _ =>
      let name ← nodeName
      let node ← flowNode fuel
      giveName name node
      return node
    | '!' :: _ =>
      skipTag
      flowNode fuel
    | text => if closesFlow text || text.head? == some ':' then return .empty else plain true 0

/-- The value after a key between brackets, if there is one. -/
def flowValue : Nat → Scan (Option Node)
  | 0 => malformed
  | fuel + 1 => do
    skipInFlow
    if ← atColon true then
      skip 1
      return some (← flowNode fuel)
    else return none

def flowItems : Nat → Scan (List Node)
  | 0 => malformed
  | fuel + 1 => do
    skipInFlow
    match ← rest with
    | ']' :: _ =>
      skip 1
      return []
    | ',' :: _ => malformed
    | _ =>
      let item ← flowNode fuel
      let item :=
        match ← flowValue fuel with
        | some value => .mapping [(item, value)]
        | none => item
      skipInFlow
      match ← rest with
      | ',' :: _ =>
        skip 1
        return item :: (← flowItems fuel)
      | ']' :: _ =>
        skip 1
        return [item]
      | _ => malformed

def flowEntries : Nat → Scan (List (Node × Node))
  | 0 => malformed
  | fuel + 1 => do
    skipInFlow
    match ← rest with
    | '\x7d' :: _ =>
      skip 1
      return []
    | ',' :: _ => malformed
    | _ =>
      let key ← flowNode fuel
      let value := (← flowValue fuel).getD .empty
      skipInFlow
      match ← rest with
      | ',' :: _ =>
        skip 1
        return (key, value) :: (← flowEntries fuel)
      | '\x7d' :: _ =>
        skip 1
        return [(key, value)]
      | _ => malformed

end

/-- A node that may be a key: a scalar, a node between brackets or a named node. -/
def inlineNode (fuel least : Nat) : Scan Node := do
  match ← rest with
  | '[' :: _ | '\x7b' :: _ | '"' :: _ | '\'' :: _ | '*' :: _ => flowNode fuel
  | _ => plain false least

mutual

/-- A node outside of brackets, the first character of which is next. Blocks that are laid out by
indentation may start only where a line or an item starts. -/
def blockNode : Nat → Nat → Bool → Scan Node
  | 0, _, _ => malformed
  | fuel + 1, least, fresh => do
    let start ← line
    let place ← column
    match ← rest with
    | '&' :: _ =>
      let name ← nodeName
      let node ← blockValue fuel least fresh
      giveName name node
      return node
    | '!' :: _ =>
      skipTag
      blockValue fuel least fresh
    | '|' :: _ | '>' :: _ => block least
    | _ =>
      if ← atDash then
        if fresh then return .sequence (← blockItems fuel place false) else malformed
      else
        let node ← inlineNode fuel least
        skipSpaces
        if ← atColon false then
          if fresh ∧ (← line) = start then
            skip 1
            return .mapping (← blockEntries fuel place node)
          else malformed
        else return node

/-- What follows the properties of a node. -/
def blockValue : Nat → Nat → Bool → Scan Node
  | 0, _, _ => malformed
  | fuel + 1, least, fresh => do
    let start ← line
    skipInBlock true
    if ← atEnd then return .empty
    else if (← line) = start then blockNode fuel least fresh
    else if (← column) ≥ least then blockNode fuel least true
    else return .empty

/-- The value of a key in column `place`. Items may start in that column too. -/
def entryValue : Nat → Nat → Scan Node
  | 0, _ => malformed
  | fuel + 1, place => do
    let start ← line
    skipInBlock true
    if ← atEnd then return .empty
    else if (← line) = start then blockNode fuel (place + 1) false
    else if (← column) > place then blockNode fuel (place + 1) true
    else if (← column) = place ∧ (← atDash) then return .sequence (← blockItems fuel place true)
    else return .empty

/-- The entries of a mapping whose keys stand in column `place`; the colon after the first key has
been passed. -/
def blockEntries : Nat → Nat → Node → Scan (List (Node × Node))
  | 0, _, _ => malformed
  | fuel + 1, place, key => do
    let value ← entryValue fuel place
    skipInBlock false
    if (← atEnd) ∨ (← column) < place then return [(key, value)]
    else if (← column) > place then malformed
    else
      let start ← line
      let next ← inlineNode fuel (place + 1)
      skipSpaces
      if (← line) = start ∧ (← atColon false) then
        skip 1
        return (key, value) :: (← blockEntries fuel place next)
      else malformed

/-- The items that start with a dash in column `place`. With `shared` the column is also that of
the keys around them. -/
def blockItems : Nat → Nat → Bool → Scan (List Node)
  | 0, _, _ => malformed
  | fuel + 1, place, shared => do
    skip 1
    let start ← line
    skipInBlock false
    let item ←
      if ← atEnd then pure .empty
      else if (← line) = start ∨ (← column) > place then blockNode fuel (place + 1) true
      else pure .empty
    skipInBlock false
    if (← atEnd) ∨ (← column) < place then return [item]
    else if (← column) > place then malformed
    else if ← atDash then return item :: (← blockItems fuel place shared)
    else if shared then return [item]
    else malformed

end

/-- Skips lines that hold directives. -/
def skipDirectives : Nat → Scan Unit
  | 0 => return ()
  | fuel + 1 => do
    skipInBlock false
    match ← rest with
    | '%' :: _ =>
      let _ ← takeWhile (· ≠ '\n')
      skipDirectives fuel
    | _ => return ()

/-- The only document of a text; without any there is an empty node. -/
def document : Scan Node := do
  let fuel := 4 * (← rest).length + 8
  let start ← get
  skipDirectives fuel
  let fresh ←
    if ← atMarker '-' then
      skip 3
      let marked ← line
      skipInBlock true
      pure ((← line) != marked)
    else
      set start
      skipInBlock false
      pure true
  let node ← if ← atEnd then pure .empty else blockNode fuel 0 fresh
  skipInBlock true
  if ← atMarker '.' then
    skip 3
    skipInBlock true
  if (← rest).isEmpty then return node else malformed

end Scan

/-- Characters that may stand in a text. -/
def isPrintable (c : Char) : Bool :=
  let n := c.toNat
  n == 9 || n == 10 || (32 ≤ n && n ≤ 126) || n == 0x85 || (0xA0 ≤ n && n != 0xFEFF && n < 0xFFFE) ||
    0x10000 ≤ n

/-- All line breaks are the same. -/
def unifyBreaks : List Char → List Char
  | [] => []
  | '\r' :: '\n' :: rest => '\n' :: unifyBreaks rest
  | c :: rest => (if c = '\r' then '\n' else c) :: unifyBreaks rest

def dropMark : List Char → List Char
  | c :: rest => if c.toNat = 0xFEFF then rest else c :: rest
  | [] => []

/-- Reads a text that holds one document; `none` when it is malformed. -/
def read? (text : String) : Option Node :=
  let text := unifyBreaks (dropMark text.toList)
  if text.all isPrintable then
    (Scan.document.run ⟨text, 0, 0, []⟩).map (·.1)
  else none

end BrowserFlow.Yaml
