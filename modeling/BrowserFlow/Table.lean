/-!
Tables: values by name, in the order in which the names came in.
-/

namespace BrowserFlow

/-- Replaces the value of a name, which keeps its place, or adds the name at the end. -/
def setEntry (name : String) (value : α) : List (String × α) → List (String × α)
  | [] => [(name, value)]
  | (other, old) :: entries =>
    if other = name then (other, value) :: entries else (other, old) :: setEntry name value entries

def mergeEntries (entries : List (String × α)) : List (String × α) :=
  entries.foldl (fun merged (name, value) => setEntry name value merged) []

def findValue? (name : String) : List (String × α) → Option α
  | [] => none
  | (other, value) :: entries => if other = name then some value else findValue? name entries

theorem mem_names_setEntry {name other : String} {value : α} {entries : List (String × α)} :
    other ∈ (setEntry name value entries).map Prod.fst ↔
      other = name ∨ other ∈ entries.map Prod.fst := by
  induction entries with
  | nil => simp [setEntry]
  | cons entry entries ih =>
    obtain ⟨first, old⟩ := entry
    by_cases h : first = name
    · subst h
      simp [setEntry]
    · rw [setEntry, if_neg h]
      simp only [List.map_cons, List.mem_cons, ih]
      exact or_left_comm

theorem nodup_setEntry {name : String} {value : α} {entries : List (String × α)}
    (h : (entries.map Prod.fst).Nodup) : ((setEntry name value entries).map Prod.fst).Nodup := by
  induction entries with
  | nil => simp [setEntry]
  | cons entry entries ih =>
    obtain ⟨first, old⟩ := entry
    simp only [List.map_cons, List.nodup_cons] at h
    by_cases hname : first = name
    · rw [setEntry, if_pos hname]
      simpa using h
    · rw [setEntry, if_neg hname]
      simp only [List.map_cons, List.nodup_cons]
      refine ⟨fun hmem => ?_, ih h.2⟩
      rcases mem_names_setEntry.mp hmem with heq | hmem
      · exact hname heq
      · exact h.1 hmem

theorem nodup_foldl_setEntry (entries merged : List (String × α))
    (h : (merged.map Prod.fst).Nodup) :
    ((entries.foldl (fun merged (name, value) => setEntry name value merged) merged).map
      Prod.fst).Nodup := by
  induction entries generalizing merged with
  | nil => exact h
  | cons entry entries ih => exact ih _ (nodup_setEntry h)

theorem nodup_mergeEntries (entries : List (String × α)) :
    ((mergeEntries entries).map Prod.fst).Nodup :=
  nodup_foldl_setEntry entries [] (by simp)

structure Table (α : Type) where
  entries : List (String × α)
  nodup : (entries.map Prod.fst).Nodup
deriving DecidableEq, Repr

namespace Table

def empty : Table α := ⟨[], by simp⟩

instance : Inhabited (Table α) := ⟨empty⟩

/-- Later values of a name replace earlier ones. -/
def ofEntries (entries : List (String × α)) : Table α :=
  ⟨mergeEntries entries, nodup_mergeEntries entries⟩

def get? (table : Table α) (name : String) : Option α := findValue? name table.entries

def insert (table : Table α) (name : String) (value : α) : Table α :=
  ⟨setEntry name value table.entries, nodup_setEntry table.nodup⟩

/-- Adds a name that is not there yet; else changes nothing. -/
def insertNew (table : Table α) (name : String) (value : α) : Table α :=
  if (table.get? name).isSome then table else table.insert name value

def isEmpty (table : Table α) : Bool := table.entries.isEmpty

def single (name : String) (value : α) : Table α := empty.insert name value

/-- The same names with the same values, in any order. -/
def sameEntries (same : α → α → Bool) (first second : Table α) : Bool :=
  first.entries.length == second.entries.length &&
    first.entries.all fun (name, value) => (second.get? name).any (same value)

end Table

end BrowserFlow
