import BrowserFlow.Files.Store
import Mathlib.Tactic.Common

/-!
# Files of a directory

A path to a file of a directory, given by its name, leads to a place that ends in that name, however
the path to the directory is spelled. Files of different names are therefore in different places.
-/

namespace BrowserFlow

theorem Text.splitAt_ne_nil (separator : Char) (text : List Char) :
    splitAt separator text ≠ [] := by
  cases text with
  | nil => simp [splitAt]
  | cons c rest =>
      rw [splitAt]
      split
      · simp
      · split <;> simp

theorem Text.splitAt_of_not_mem {separator : Char} {text : List Char} (h : separator ∉ text) :
    splitAt separator text = [text] := by
  induction text with
  | nil => rfl
  | cons c rest ih =>
      rw [List.mem_cons, not_or] at h
      rw [splitAt, if_neg (Ne.symm h.1), ih h.2]

theorem Text.splitAt_append (separator : Char) (text rest : List Char) :
    splitAt separator (text ++ separator :: rest) =
      splitAt separator text ++ splitAt separator rest := by
  induction text with
  | nil => simp [splitAt]
  | cons c text ih =>
      rw [List.cons_append, splitAt, splitAt, ih]
      split
      · rfl
      · cases hpieces : splitAt separator text with
        | nil => exact absurd hpieces (splitAt_ne_nil separator text)
        | cons piece pieces => rfl

namespace Path

/-- A name that stands for an entry of its directory. -/
structure IsName (name : String) : Prop where
  slash : '/' ∉ name.toList
  filler : ¬(name.isEmpty || name = ".")
  up : name ≠ ".."
  size : name.utf8ByteSize ≤ FileStore.maxNameBytes

instance (name : String) : Decidable (IsName name) :=
  decidable_of_iff
    ('/' ∉ name.toList ∧ ¬(name.isEmpty || name = ".") ∧ name ≠ ".." ∧
      name.utf8ByteSize ≤ FileStore.maxNameBytes)
    ⟨fun ⟨hslash, hfiller, hup, hsize⟩ => ⟨hslash, hfiller, hup, hsize⟩,
      fun ⟨hslash, hfiller, hup, hsize⟩ => ⟨hslash, hfiller, hup, hsize⟩⟩

theorem exists_splitAt_join (directory : String) {name : String} (h : '/' ∉ name.toList) :
    ∃ pieces, Text.splitAt '/' (join directory name).toList = pieces ++ [name.toList] := by
  have hname : Text.splitAt '/' name.toList = [name.toList] := Text.splitAt_of_not_mem h
  rw [join, String.toList_ofList, joinChars]
  split
  · exact ⟨[], hname⟩
  · split
    · next hlast =>
        obtain ⟨front, hfront⟩ := List.getLast?_eq_some_iff.mp hlast
        refine ⟨Text.splitAt '/' front, ?_⟩
        rw [hfront, List.append_assoc, List.singleton_append, Text.splitAt_append, hname]
    · exact ⟨Text.splitAt '/' directory.toList, by rw [Text.splitAt_append, hname]⟩

end Path

namespace FileStore

variable {store : FileStore}

theorem walk_concat {name : String} (hname : Path.IsName name) {here names : List String}
    {place : Place} (h : store.walk here (names ++ [name]) = .ok place) :
    ∃ inside, place = .entry (inside ++ [name]) false := by
  induction names generalizing here with
  | nil =>
      have hlong : ¬name.utf8ByteSize > maxNameBytes := Nat.not_lt.mpr hname.size
      rw [List.nil_append, walk, if_neg hname.filler, if_neg hname.up, if_neg hlong] at h
      exact ⟨here, (Except.ok.inj h).symm⟩
  | cons first names ih =>
      have hnotLast : ¬(names ++ [name]).all (·.isEmpty) := by
        have hfiller := hname.filler
        simp_all
      rw [List.cons_append, walk, if_neg hnotLast] at h
      split_ifs at h
      · exact ih h
      · exact ih h
      · split at h
        · exact nomatch h
        · exact ih h
        · exact nomatch h

theorem locate_join {directory name : String} (hname : Path.IsName name) {place : Place}
    (h : store.locate (Path.join directory name) = .ok place) :
    ∃ inside, place = .entry (inside ++ [name]) false := by
  obtain ⟨pieces, hpieces⟩ := Path.exists_splitAt_join directory hname.slash
  have hnames : (Text.splitAt '/' (Path.join directory name).toList).map String.ofList =
      pieces.map String.ofList ++ [name] := by
    rw [hpieces, List.map_append, List.map_singleton, String.ofList_toList]
  rw [locate, hnames] at h
  split_ifs at h
  · exact walk_concat hname h
  · exact walk_concat hname h

/-- Files of different names are in different places, also when only one of them is there. -/
theorem locate_join_ne {directory other name otherName : String} (hname : Path.IsName name)
    (hother : Path.IsName otherName) (hne : name ≠ otherName) {place : Place}
    (h : store.locate (Path.join directory name) = .ok place) :
    store.locate (Path.join directory name) ≠ store.locate (Path.join other otherName) := by
  intro heq
  obtain ⟨inside, rfl⟩ := locate_join hname h
  obtain ⟨otherInside, hplace⟩ := locate_join hother (heq ▸ h)
  obtain ⟨hlast, -⟩ := Place.entry.inj hplace
  exact hne (List.append_inj_right' hlast rfl |> List.singleton_inj.mp)

end FileStore

end BrowserFlow
