import BrowserFlow.Json.Double

/-!
Evidence: what was captured of one interaction with a page.
-/

namespace BrowserFlow

inductive EventType where
  | click
  | input
  | change
  | keydown
  | submit
  | navigate
  | focus
deriving DecidableEq, Repr, Inhabited

namespace EventType

def tag : EventType → String
  | click => "click"
  | input => "input"
  | change => "change"
  | keydown => "keydown"
  | submit => "submit"
  | navigate => "navigate"
  | focus => "focus"

def all : List EventType := [click, input, change, keydown, submit, navigate, focus]

def ofTag? (t : String) : Option EventType := all.find? (·.tag = t)

def isTextEntry : EventType → Bool
  | input | change => true
  | _ => false

/-- The events that end the filling of a form. -/
def isTerminal : EventType → Bool
  | submit | keydown => true
  | _ => false

end EventType

structure Rect where
  x : Json.Double
  y : Json.Double
  width : Json.Double
  height : Json.Double
deriving DecidableEq, Repr, Inhabited

/-- Attributes by name, in the order of the names. -/
structure Attributes where
  entries : List (String × String)
  sorted : entries.Pairwise (·.1 < ·.1)
deriving DecidableEq, Repr

namespace Attributes

def empty : Attributes := ⟨[], .nil⟩

instance : Inhabited Attributes := ⟨empty⟩

def get? (attributes : Attributes) (name : String) : Option String :=
  (attributes.entries.find? (·.1 = name)).map (·.2)

def insertEntry (name value : String) : List (String × String) → List (String × String)
  | [] => [(name, value)]
  | (other, old) :: entries =>
    if name < other then (name, value) :: (other, old) :: entries
    else if name = other then (name, value) :: entries
    else (other, old) :: insertEntry name value entries

theorem fst_mem_insertEntry {name value : String} {entries : List (String × String)}
    {entry : String × String} (h : entry ∈ insertEntry name value entries) :
    entry.1 = name ∨ entry ∈ entries := by
  induction entries with
  | nil => simp_all [insertEntry]
  | cons first rest ih =>
    obtain ⟨other, old⟩ := first
    rw [insertEntry] at h
    split at h
    · rcases List.mem_cons.mp h with rfl | h
      · exact .inl rfl
      · exact .inr h
    · split at h
      · rcases List.mem_cons.mp h with rfl | h
        · exact .inl rfl
        · exact .inr (List.mem_cons_of_mem _ h)
      · rcases List.mem_cons.mp h with rfl | h
        · exact .inr List.mem_cons_self
        · exact (ih h).imp_right (List.mem_cons_of_mem _)

theorem sorted_insertEntry {name value : String} {entries : List (String × String)}
    (h : entries.Pairwise (·.1 < ·.1)) : (insertEntry name value entries).Pairwise (·.1 < ·.1) := by
  induction entries with
  | nil => simp [insertEntry]
  | cons first rest ih =>
    obtain ⟨other, old⟩ := first
    have hrest := List.pairwise_cons.mp h
    rw [insertEntry]
    split
    · next hlt =>
      refine List.pairwise_cons.mpr ⟨fun entry hentry => ?_, h⟩
      rcases List.mem_cons.mp hentry with rfl | hentry
      · exact hlt
      · exact String.lt_trans hlt (hrest.1 entry hentry)
    · split
      · next heq =>
        subst heq
        exact List.pairwise_cons.mpr ⟨hrest.1, hrest.2⟩
      · next hlt hne =>
        refine List.pairwise_cons.mpr ⟨fun entry hentry => ?_, ih hrest.2⟩
        rcases fst_mem_insertEntry hentry with heq | hentry
        · rw [heq]
          exact String.not_le.mp fun hle => hne (String.le_antisymm hle (String.not_lt.mp hlt))
        · exact hrest.1 entry hentry

def insert (attributes : Attributes) (name value : String) : Attributes :=
  ⟨insertEntry name value attributes.entries, sorted_insertEntry attributes.sorted⟩

/-- Later values of a name replace earlier ones. -/
def ofEntries (entries : List (String × String)) : Attributes :=
  entries.foldl (fun attributes (name, value) => attributes.insert name value) empty

end Attributes

/-- The element that was interacted with; what is missing was not observed. -/
structure Target where
  tagName : Option String
  inputType : Option String
  id : Option String
  name : Option String
  classes : List String
  dataAttributes : Attributes
  ariaLabel : Option String
  ariaLabelledBy : Option String
  role : Option String
  placeholder : Option String
  title : Option String
  innerText : Option String
  value : Option String
  bounds : Option Rect
  cssPath : Option String
  xpath : Option String
deriving DecidableEq, Repr, Inhabited

/-- An element around the target. -/
structure Parent where
  tagName : String
  id : Option String
  name : Option String
  classes : List String
  role : Option String
  textSnippet : Option String
deriving DecidableEq, Repr, Inhabited

/-- The elements around the target, the nearest first, and the labels near it. -/
structure Context where
  parents : List Parent
  nearbyLabels : List String
deriving DecidableEq, Repr, Inhabited

structure Event where
  type : EventType
  timestamp : Nat
  url : Option String
  framePath : List String
  target : Option Target
  context : Context
deriving DecidableEq, Repr, Inhabited

/-- Empty text counts as not observed. -/
def observed (field : Option String) : Option String := field.filter (!·.isEmpty)

namespace Target

def dataAttribute? (target : Target) (name : String) : Option String :=
  observed (target.dataAttributes.get? name)

def isPassword (target : Target) : Bool := target.inputType == some "password"

/-- The role given to the element, else the one that a button, a link or a checkbox has. -/
def role? (target : Target) : Option String :=
  match observed target.role with
  | some role => some role
  | none =>
    match observed target.tagName with
    | some "button" => some "button"
    | some "a" => some "link"
    | some "input" => if target.inputType = some "checkbox" then some "checkbox" else none
    | _ => none

end Target

namespace Event

def pageUrl? (event : Event) : Option String := observed event.url

def firstLabel? (event : Event) : Option String := observed event.context.nearbyLabels.head?

/-- The field that an event belongs to. -/
def fieldKey? (event : Event) : Option String := do
  let target ← event.target
  observed target.name <|> observed target.id <|> observed target.placeholder <|>
    observed target.tagName

def accessibleName? (event : Event) : Option String :=
  (event.target.bind fun target => observed target.ariaLabel) <|>
    (event.target.bind fun target => observed target.innerText) <|> event.firstLabel?

def isPassword (event : Event) : Bool := event.target.any (·.isPassword)

/-- The text entered into the target. -/
def enteredText (event : Event) : String := (event.target.bind (·.value)).getD ""

end Event

end BrowserFlow
