import BrowserFlow.Files.Store
import Mathlib.Tactic.Common

/-!
# What operations do to a file store

No operation removes a file or a directory, or turns one into the other: stores only grow, apart
from the texts in them. A path that leads somewhere therefore leads to the same place ever after. A
change of a file touches one place, and a text that could be written once can be written again.
-/

namespace BrowserFlow

/-- The node apart from its text. -/
def FileNode.kind : FileNode → FileNode
  | .file _ => .file ""
  | node => node

/-- What becomes of a node, or of a free place, when its text is changed. -/
def FileNode.changed (change : String → String) : Option FileNode → Except FileError FileNode
  | none => .ok (.file (change ""))
  | some .directory => .error .isDirectory
  | some (.file text) => .ok (.file (change text))
  | some .nullDevice => .ok .nullDevice
  | some .fullDevice => if (change "").isEmpty then .ok .fullDevice else .error .noSpace

namespace FileNode

theorem kind_eq_directory {node : FileNode} : node.kind = .directory ↔ node = .directory := by
  cases node <;> simp [kind]

theorem kind_eq_file {node : FileNode} : node.kind = .file "" ↔ ∃ text, node = .file text := by
  cases node <;> simp [kind]

/-- Everything that a change can do to a node. -/
theorem changed_ok {change : String → String} {before : Option FileNode} {node : FileNode}
    (h : changed change before = .ok node) :
    (before = none ∧ node = .file (change "")) ∨
      (∃ text, before = some (.file text) ∧ node = .file (change text)) ∨
      (before = some .nullDevice ∧ node = .nullDevice) ∨
      (before = some .fullDevice ∧ node = .fullDevice ∧ (change "").isEmpty) := by
  cases before with
  | none => exact .inl ⟨rfl, (Except.ok.inj h).symm⟩
  | some old =>
      cases old with
      | directory => exact nomatch h
      | file text => exact .inr (.inl ⟨text, rfl, (Except.ok.inj h).symm⟩)
      | nullDevice => exact .inr (.inr (.inl ⟨rfl, (Except.ok.inj h).symm⟩))
      | fullDevice =>
          rw [changed] at h
          split at h
          · next hempty => exact .inr (.inr (.inr ⟨rfl, (Except.ok.inj h).symm, hempty⟩))
          · exact nomatch h

theorem kind_changed {change : String → String} {old node : FileNode}
    (h : changed change (some old) = .ok node) : node.kind = old.kind := by
  rcases changed_ok h with ⟨⟨⟩, -⟩ | ⟨text, ⟨⟩, rfl⟩ | ⟨⟨⟩, rfl⟩ | ⟨⟨⟩, rfl, -⟩
  · rfl
  · rfl
  · rfl

/-- A text that was written can be written again, to the same effect. -/
theorem changed_again {text : String} {before : Option FileNode} {node now : FileNode}
    (h : changed (fun _ => text) before = .ok node) (hkind : now.kind = node.kind) :
    changed (fun _ => text) (some now) = .ok node := by
  have hfile : now.kind = .file "" → changed (fun _ => text) (some now) = .ok (.file text) := by
    intro hkind
    obtain ⟨old, rfl⟩ := kind_eq_file.mp hkind
    rfl
  rcases changed_ok h with ⟨-, rfl⟩ | ⟨-, -, rfl⟩ | ⟨-, rfl⟩ | ⟨-, rfl, hempty⟩
  · exact hfile hkind
  · exact hfile hkind
  · cases now <;> simp_all [kind, changed]
  · cases now <;> simp_all [kind, changed]

end FileNode

namespace FileStore

/-! ### Places -/

variable {store earlier later : FileStore} {path : String} {place : List String}

theorem find?_replaced (nodes : List (List String × FileNode)) (place other : List String)
    (node : FileNode) :
    (nodes.map fun entry => if entry.1 = place then (place, node) else entry).find? (·.1 = other) =
      if other = place then (nodes.find? (·.1 = place)).map fun _ => (place, node)
      else nodes.find? (·.1 = other) := by
  induction nodes with
  | nil => simp
  | cons entry nodes ih =>
      by_cases hentry : entry.1 = place
      · by_cases hother : other = place
        · simp [hentry, hother]
        · simp [hentry, hother, Ne.symm hother, ih]
      · by_cases hother : other = place
        · simpa [hentry, hother] using ih
        · by_cases hfirst : entry.1 = other
          · simp [hother, hfirst]
          · simpa [hentry, hother, hfirst] using ih

theorem find?_put (store : FileStore) (place : List String) (node : FileNode)
    (other : List String) :
    (store.put place node).nodes.find? (·.1 = other) =
      if other = place then some (place, node) else store.nodes.find? (·.1 = other) := by
  rw [put]
  split
  · next hany =>
      obtain ⟨entry, hentry⟩ := Option.isSome_iff_exists.mp (List.find?_isSome.mpr
        (List.any_eq_true.mp hany))
      rw [find?_replaced, hentry, Option.map_some]
  · next hany =>
      have hnone : store.nodes.find? (·.1 = place) = none := by
        rw [List.find?_eq_none]
        exact fun entry hentry hplace => hany (List.any_eq_true.mpr ⟨entry, hentry, hplace⟩)
      by_cases hother : other = place
      · subst hother
        simp [hnone]
      · simp [hother, Ne.symm hother]

theorem node?_put (store : FileStore) {place : List String} (hplace : place ≠ [])
    (node : FileNode) (other : List String) :
    (store.put place node).node? other =
      if other = place then some node else store.node? other := by
  cases other with
  | nil => simp [node?, hplace.symm]
  | cons name names =>
      have hfound := find?_put store place node (name :: names)
      split_ifs at hfound ⊢ with heq
      · exact congrArg (Option.map Prod.snd) hfound
      · exact congrArg (Option.map Prod.snd) hfound

/-- Everything in the earlier store is still there in the later one; only texts may differ. -/
structure Extends (later earlier : FileStore) : Prop where
  home : later.home = earlier.home
  keeps : ∀ {place node}, earlier.node? place = some node →
    (later.node? place).map FileNode.kind = some node.kind

theorem Extends.refl (store : FileStore) : store.Extends store where
  home := rfl
  keeps h := by rw [h, Option.map_some]

theorem Extends.trans {latest : FileStore} (hlatest : latest.Extends later)
    (hlater : later.Extends earlier) : latest.Extends earlier where
  home := hlatest.home.trans hlater.home
  keeps h := by
    obtain ⟨now, hnow, hkind⟩ := Option.map_eq_some_iff.mp (hlater.keeps h)
    rw [hlatest.keeps hnow, hkind]

theorem Extends.directory (h : later.Extends earlier)
    (hplace : earlier.node? place = some .directory) : later.node? place = some .directory := by
  obtain ⟨now, hnow, hkind⟩ := Option.map_eq_some_iff.mp (h.keeps hplace)
  rw [hnow, FileNode.kind_eq_directory.mp hkind]

theorem walk_mono
    (h : ∀ {place}, earlier.node? place = some .directory → later.node? place = some .directory)
    {here names : List String} {place : Place} (hwalk : earlier.walk here names = .ok place) :
    later.walk here names = .ok place := by
  induction names generalizing here with
  | nil => exact hwalk
  | cons name rest ih =>
      rw [walk] at hwalk ⊢
      split_ifs at hwalk ⊢ with hfiller hup hlong hlast
      · exact ih hwalk
      · exact ih hwalk
      · exact hwalk
      · split at hwalk
        · exact nomatch hwalk
        · next hdirectory =>
            rw [h hdirectory]
            exact ih hwalk
        · exact nomatch hwalk

/-- Only directories decide where a path leads. -/
theorem locate_mono (hhome : later.home = earlier.home)
    (h : ∀ {place}, earlier.node? place = some .directory → later.node? place = some .directory)
    {place : Place} (hlocate : earlier.locate path = .ok place) :
    later.locate path = .ok place := by
  rw [locate] at hlocate ⊢
  split_ifs at hlocate ⊢ with hnul hempty hlong habsolute
  · exact walk_mono h hlocate
  · rw [hhome]
    exact walk_mono h hlocate

/-- A path leads to the same place as before. -/
theorem Extends.locate (h : later.Extends earlier) {place : Place}
    (hlocate : earlier.locate path = .ok place) : later.locate path = .ok place :=
  locate_mono h.home h.directory hlocate

theorem Extends.isDirectory (h : later.Extends earlier) (hpath : earlier.isDirectory path) :
    later.isDirectory path := by
  rw [FileStore.isDirectory] at hpath ⊢
  split at hpath
  · exact nomatch hpath
  · next hlocate => rw [h.locate hlocate]
  · next hlocate =>
      rw [h.locate hlocate]
      simpa using h.directory (by simpa using hpath)

theorem walk_entry_ne_nil {here names : List String} {slash : Bool}
    (h : store.walk here names = .ok (.entry place slash)) : place ≠ [] := by
  induction names generalizing here with
  | nil => exact nomatch h
  | cons name rest ih =>
      rw [walk] at h
      split_ifs at h
      · exact ih h
      · exact ih h
      · cases h
        simp
      · split at h
        · exact nomatch h
        · exact ih h
        · exact nomatch h

theorem locate_entry_ne_nil {slash : Bool} (h : store.locate path = .ok (.entry place slash)) :
    place ≠ [] := by
  rw [locate] at h
  split_ifs at h
  · exact walk_entry_ne_nil h
  · exact walk_entry_ne_nil h

/-- Reading goes by the place that a path leads to. -/
theorem readText_congr {slash : Bool} (hearlier : earlier.locate path = .ok (.entry place slash))
    (hlater : later.locate path = .ok (.entry place slash))
    (hnode : later.node? place = earlier.node? place) :
    later.readText path = earlier.readText path := by
  rw [readText, readText, hearlier, hlater]
  simp only [hnode]

/-! ### Changes of one place -/

/-- The store differs from the one before at one place. -/
structure ChangedAt (later earlier : FileStore) (place : List String) (node : FileNode) : Prop where
  home : later.home = earlier.home
  here : later.node? place = some node
  elsewhere : ∀ {other}, other ≠ place → later.node? other = earlier.node? other

theorem changedAt_put (hplace : place ≠ []) (node : FileNode) :
    (store.put place node).ChangedAt store place node where
  home := by
    rw [put]
    split <;> rfl
  here := by rw [node?_put store hplace, if_pos rfl]
  elsewhere hne := by rw [node?_put store hplace, if_neg hne]

theorem ChangedAt.refl {node : FileNode} (h : store.node? place = some node) :
    store.ChangedAt store place node := ⟨rfl, h, fun _ => rfl⟩

theorem ChangedAt.toExtends {node : FileNode} (h : later.ChangedAt earlier place node)
    (hkind : ∀ old, earlier.node? place = some old → node.kind = old.kind) :
    later.Extends earlier where
  home := h.home
  keeps {other old} hold := by
    by_cases heq : other = place
    · subst heq
      rw [h.here, Option.map_some, hkind old hold]
    · rw [h.elsewhere heq, hold, Option.map_some]

/-- The store once a place holds the node. Devices stay what they are. -/
def placed (store : FileStore) (place : List String) : FileNode → FileStore
  | .file text => store.put place (.file text)
  | _ => store

theorem update_eq {change : String → String}
    (hlocate : store.locate path = .ok (.entry place false)) :
    store.update path change =
      (FileNode.changed change (store.node? place)).map (store.placed place) := by
  simp only [update, hlocate, Bool.false_eq_true, if_false]
  cases store.node? place with
  | none => rfl
  | some old =>
      cases old with
      | fullDevice =>
          simp only [FileNode.changed]
          split <;> rfl
      | _ => rfl

theorem changedAt_placed {change : String → String} {node : FileNode} (hplace : place ≠ [])
    (hnode : FileNode.changed change (store.node? place) = .ok node) :
    (store.placed place node).ChangedAt store place node := by
  rcases FileNode.changed_ok hnode with ⟨-, rfl⟩ | ⟨-, -, rfl⟩ | ⟨hold, rfl⟩ | ⟨hold, rfl, -⟩
  · exact changedAt_put hplace _
  · exact changedAt_put hplace _
  · exact .refl hold
  · exact .refl hold

theorem locate_of_update {change : String → String} (h : store.update path change = .ok later) :
    ∃ place, store.locate path = .ok (.entry place false) := by
  rw [update] at h
  split at h
  · exact nomatch h
  · exact nomatch h
  · next place slash hlocate =>
      split at h
      · exact nomatch h
      · next hslash =>
          rw [Bool.not_eq_true] at hslash
          exact ⟨place, hslash ▸ hlocate⟩

theorem update_ok {change : String → String} (h : store.update path change = .ok later) :
    ∃ place node, store.locate path = .ok (.entry place false) ∧
      FileNode.changed change (store.node? place) = .ok node ∧
      later.ChangedAt store place node := by
  obtain ⟨place, hlocate⟩ := locate_of_update h
  rw [update_eq hlocate] at h
  cases hnode : FileNode.changed change (store.node? place) with
  | error e =>
      rw [hnode] at h
      exact nomatch h
  | ok node =>
      rw [hnode] at h
      obtain rfl := Except.ok.inj h
      exact ⟨place, node, hlocate, hnode, changedAt_placed (locate_entry_ne_nil hlocate) hnode⟩

theorem exists_update {change : String → String} {node : FileNode}
    (hlocate : store.locate path = .ok (.entry place false))
    (hnode : FileNode.changed change (store.node? place) = .ok node) :
    ∃ later, store.update path change = .ok later ∧ later.ChangedAt store place node := by
  refine ⟨store.placed place node, ?_, changedAt_placed (locate_entry_ne_nil hlocate) hnode⟩
  rw [update_eq hlocate, hnode]
  rfl

theorem extends_of_update {change : String → String} (h : store.update path change = .ok later) :
    later.Extends store := by
  obtain ⟨place, node, -, hnode, hat⟩ := update_ok h
  exact hat.toExtends fun old hold => FileNode.kind_changed (hold ▸ hnode)

/-! ### Directories -/

/-- Directories may have been added to the earlier store, and nothing else. -/
structure AddsDirectories (later earlier : FileStore) : Prop where
  toExtends : later.Extends earlier
  files : ∀ {place node}, node ≠ .directory →
    (later.node? place = some node ↔ earlier.node? place = some node)

theorem AddsDirectories.refl (store : FileStore) : store.AddsDirectories store where
  toExtends := .refl store
  files _ := Iff.rfl

theorem AddsDirectories.trans {latest : FileStore} (hlatest : latest.AddsDirectories later)
    (hlater : later.AddsDirectories earlier) : latest.AddsDirectories earlier where
  toExtends := hlatest.toExtends.trans hlater.toExtends
  files hnode := (hlatest.files hnode).trans (hlater.files hnode)

theorem ChangedAt.addsDirectories (h : later.ChangedAt earlier place .directory)
    (hfree : earlier.node? place = none) : later.AddsDirectories earlier := by
  constructor
  · apply h.toExtends
    intro old hold
    rw [hfree] at hold
    cases hold
  · intro other node hnode
    by_cases heq : other = place
    · subst heq
      rw [h.here, hfree]
      simp [Ne.symm hnode]
    · rw [h.elsewhere heq]

theorem makeDirectory_ok (h : store.makeDirectory path = .ok later) :
    later.AddsDirectories store ∧ later.isDirectory path := by
  rw [makeDirectory] at h
  split at h
  · exact nomatch h
  · exact nomatch h
  · next place slash hlocate =>
      split at h
      · next hfree =>
          obtain rfl := Except.ok.inj h
          have hat : (store.put place .directory).ChangedAt store place .directory :=
            changedAt_put (locate_entry_ne_nil hlocate) .directory
          have hadds : (store.put place .directory).AddsDirectories store :=
            hat.addsDirectories hfree
          refine ⟨hadds, ?_⟩
          rw [isDirectory, hadds.toExtends.locate hlocate]
          simpa using hat.here
      · exact nomatch h

theorem makeDirectory_of_isDirectory (h : store.isDirectory path) :
    store.makeDirectory path = .error .alreadyExists := by
  rw [makeDirectory]
  rw [isDirectory] at h
  cases hlocate : store.locate path with
  | error e => simp [hlocate] at h
  | ok found =>
      cases found with
      | directory place => rfl
      | entry place slash =>
          have hnode : store.node? place = some .directory := by simpa [hlocate] using h
          simp only [hnode]

/-! ### Texts written one after the other -/

theorem locate_of_writeText {text : String} (h : store.writeText path text = .ok later) :
    ∃ place, later.locate path = .ok (.entry place false) := by
  obtain ⟨place, hlocate⟩ := locate_of_update h
  exact ⟨place, (extends_of_update h).locate hlocate⟩

/-- A text can be written again once it was written, wherever the store went from there. What the
two writes leave in the place is the same, and they leave places alike that were alike. -/
theorem writeText_again {text : String} {written again : FileStore}
    (h : store.writeText path text = .ok written) (hextends : again.Extends written) :
    ∃ rewritten place, again.writeText path text = .ok rewritten ∧
      written.locate path = .ok (.entry place false) ∧
      rewritten.node? place = written.node? place ∧
      ∀ other, again.node? other = store.node? other →
        rewritten.node? other = written.node? other := by
  obtain ⟨place, node, hlocate, hnode, hat⟩ := update_ok h
  have hwritten : written.Extends store := extends_of_update h
  obtain ⟨now, hnow, hkind⟩ := Option.map_eq_some_iff.mp (hextends.keeps hat.here)
  have hagain : FileNode.changed (fun _ => text) (again.node? place) = .ok node :=
    hnow ▸ FileNode.changed_again hnode hkind
  obtain ⟨rewritten, hrewritten, hatAgain⟩ :=
    exists_update ((hextends.trans hwritten).locate hlocate) hagain
  refine ⟨rewritten, place, hrewritten, hwritten.locate hlocate, hatAgain.here.trans hat.here.symm,
    fun other hother => ?_⟩
  by_cases heq : other = place
  · rw [heq, hatAgain.here, hat.here]
  · rw [hatAgain.elsewhere heq, hat.elsewhere heq, hother]

/-- Texts are written to paths, in order, and every write succeeds. -/
inductive Writes : FileStore → List (String × String) → FileStore → Prop
  | nil (store : FileStore) : Writes store [] store
  | cons {store middle later : FileStore} {path text : String} {writes : List (String × String)}
      (first : store.writeText path text = .ok middle) (rest : Writes middle writes later) :
      Writes store ((path, text) :: writes) later

namespace Writes

variable {writes : List (String × String)}

theorem toExtends (h : Writes store writes later) : later.Extends store := by
  induction h with
  | nil store => exact .refl store
  | cons first _ ih => exact ih.trans (extends_of_update first)

theorem append {middle : FileStore} {others : List (String × String)}
    (h : Writes store writes middle) (hothers : Writes middle others later) :
    Writes store (writes ++ others) later := by
  induction h with
  | nil store => exact hothers
  | cons first _ ih => exact .cons first (ih hothers)

theorem exists_of_append {others : List (String × String)}
    (h : Writes store (writes ++ others) later) :
    ∃ middle, Writes store writes middle ∧ Writes middle others later := by
  induction writes generalizing store with
  | nil => exact ⟨store, .nil store, h⟩
  | cons write writes ih =>
      obtain _ | ⟨first, rest⟩ := h
      obtain ⟨middle, hwrites, hothers⟩ := ih rest
      exact ⟨middle, .cons first hwrites, hothers⟩

/-- What was written can be written again, and the paths read the same as before. Places that were
alike stay alike, and those that are written to become so. -/
theorem again {written again : FileStore} (h : Writes store writes written)
    (hextends : again.Extends written) :
    ∃ rewritten, Writes again writes rewritten ∧
      (∀ place, again.node? place = store.node? place →
        rewritten.node? place = written.node? place) ∧
      ∀ write ∈ writes, rewritten.readText write.1 = written.readText write.1 := by
  induction h generalizing again with
  | nil store => exact ⟨again, .nil again, fun _ hplace => hplace, by simp⟩
  | @cons store middle written path text writes first rest ih =>
      have hmiddle : written.Extends middle := rest.toExtends
      obtain ⟨next, place, hnext, hlocate, hplace, halike⟩ :=
        writeText_again first (hextends.trans hmiddle)
      -- Both stores now hold the same in this place, and later writes keep them alike there.
      have hnextExtends : next.Extends written := (extends_of_update hnext).trans hextends
      obtain ⟨rewritten, hrewritten, hagree, hreads⟩ := ih hnextExtends
      refine ⟨rewritten, .cons hnext hrewritten,
        fun other hother => hagree other (halike other hother), fun write hwrite => ?_⟩
      rcases List.mem_cons.mp hwrite with rfl | hwrite
      · have hrewrittenExtends : rewritten.Extends middle :=
          (hrewritten.toExtends.trans hnextExtends).trans hmiddle
        exact readText_congr (hmiddle.locate hlocate) (hrewrittenExtends.locate hlocate)
          (hagree place hplace)
      · exact hreads write hwrite

theorem exists_locate (h : Writes store writes later) {write : String × String}
    (hwrite : write ∈ writes) : ∃ place, later.locate write.1 = .ok (.entry place false) := by
  induction h with
  | nil store => exact nomatch hwrite
  | cons first rest ih =>
      rcases List.mem_cons.mp hwrite with rfl | hwrite
      · obtain ⟨place, hplace⟩ := locate_of_writeText first
        exact ⟨place, rest.toExtends.locate hplace⟩
      · exact ih hwrite

/-- Places that no path leads to are left alone. -/
theorem node?_eq (h : Writes store writes later)
    (hplace : ∀ write ∈ writes, later.locate write.1 ≠ .ok (.entry place false)) :
    later.node? place = store.node? place := by
  induction h with
  | nil store => rfl
  | @cons store middle later path text writes first rest ih =>
      obtain ⟨other, node, hlocate, -, hat⟩ := update_ok first
      have hother : later.locate path = .ok (.entry other false) :=
        (rest.toExtends.trans (extends_of_update first)).locate hlocate
      have hne : place ≠ other := by
        rintro rfl
        exact hplace (path, text) List.mem_cons_self hother
      rw [ih fun write hwrite => hplace write (List.mem_cons_of_mem _ hwrite), hat.elsewhere hne]

end Writes

/-- The path leads to an ordinary file. -/
def IsFile (store : FileStore) (path : String) : Prop :=
  ∃ place text, store.locate path = .ok (.entry place false) ∧
    store.node? place = some (.file text)

theorem Extends.isFile (h : later.Extends earlier) (hfile : earlier.IsFile path) :
    later.IsFile path := by
  obtain ⟨place, text, hlocate, hnode⟩ := hfile
  obtain ⟨now, hnow, hkind⟩ := Option.map_eq_some_iff.mp (h.keeps hnode)
  obtain ⟨textNow, rfl⟩ := FileNode.kind_eq_file.mp hkind
  exact ⟨place, textNow, h.locate hlocate, hnow⟩

/-- Texts that are written to files in different places are all there in the end. -/
theorem Writes.readText {writes : List (String × String)} (h : Writes store writes later)
    (hapart : writes.Pairwise fun write other => later.locate write.1 ≠ later.locate other.1) :
    ∀ write ∈ writes, later.IsFile write.1 → later.readText write.1 = .ok write.2 := by
  induction h with
  | nil store => simp
  | @cons store middle later path text writes first rest ih =>
      obtain ⟨hfirst, hrest⟩ := List.pairwise_cons.mp hapart
      intro write hwrite hfile
      rcases List.mem_cons.mp hwrite with rfl | hwrite
      · obtain ⟨place, node, hlocate, hnode, hat⟩ := update_ok first
        have hlater : later.locate path = .ok (.entry place false) :=
          (rest.toExtends.trans (extends_of_update first)).locate hlocate
        have hkept : later.node? place = some node := by
          rw [rest.node?_eq fun other hother heq => hfirst other hother (hlater.trans heq.symm),
            hat.here]
        obtain ⟨other, content, hother, hcontent⟩ := hfile
        cases hlater.symm.trans hother
        cases hkept.symm.trans hcontent
        have hcontent : content = text := by
          rcases FileNode.changed_ok hnode with ⟨-, ⟨⟩⟩ | ⟨-, -, ⟨⟩⟩ | ⟨-, ⟨⟩⟩ | ⟨-, ⟨⟩, -⟩
          · rfl
          · rfl
        rw [FileStore.readText, hlater]
        simp only [hkept, hcontent]
        rfl
      · exact ih hrest write hwrite hfile

/-- The path leads to an ordinary file, or to where one can be made. -/
def TakesFile (store : FileStore) (path : String) : Prop :=
  ∃ place, store.locate path = .ok (.entry place false) ∧
    ∀ node, store.node? place = some node → node.kind = .file ""

theorem exists_writeText (h : store.TakesFile path) (text : String) :
    ∃ later, store.writeText path text = .ok later ∧ later.IsFile path ∧
      ∀ other, store.TakesFile other → later.TakesFile other := by
  obtain ⟨place, hlocate, hkind⟩ := h
  have hchanged : FileNode.changed (fun _ => text) (store.node? place) = .ok (.file text) := by
    cases hnode : store.node? place with
    | none => rfl
    | some node =>
        obtain ⟨old, rfl⟩ := FileNode.kind_eq_file.mp (hkind node hnode)
        rfl
  obtain ⟨later, hlater, hat⟩ := exists_update hlocate hchanged
  have hextends : later.Extends store := extends_of_update hlater
  refine ⟨later, hlater, ⟨place, text, hextends.locate hlocate, hat.here⟩, ?_⟩
  rintro other ⟨otherPlace, hother, hotherKind⟩
  refine ⟨otherPlace, hextends.locate hother, fun node hnode => ?_⟩
  by_cases heq : otherPlace = place
  · rw [heq, hat.here] at hnode
    obtain rfl := Option.some.inj hnode
    rfl
  · exact hotherKind node (hat.elsewhere heq ▸ hnode)

/-- Texts can be written wherever files can be. -/
theorem exists_writes {writes : List (String × String)}
    (h : ∀ write ∈ writes, store.TakesFile write.1) :
    ∃ final, Writes store writes final ∧ ∀ write ∈ writes, final.IsFile write.1 := by
  induction writes generalizing store with
  | nil => exact ⟨store, .nil store, by simp⟩
  | cons write writes ih =>
      obtain ⟨hfirst, hrest⟩ := List.forall_mem_cons.mp h
      obtain ⟨middle, hmiddle, hfile, htakes⟩ := exists_writeText hfirst write.2
      obtain ⟨final, hfinal, hfiles⟩ := ih fun other hother => htakes _ (hrest other hother)
      exact ⟨final, .cons hmiddle hfinal,
        List.forall_mem_cons.mpr ⟨hfinal.toExtends.isFile hfile, hfiles⟩⟩

end FileStore

end BrowserFlow
