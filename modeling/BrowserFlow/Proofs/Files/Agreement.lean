import BrowserFlow.Proofs.Files.Store

/-!
# Stores that differ in one file

Two stores that differ in one file at most have the same directories, so they lead every path to the
same place, and every other file reads the same in both.
-/

namespace BrowserFlow.FileStore

variable {store first second later : FileStore} {path : String} {place : List String}

theorem locate_of_readText {text : String} (h : store.readText path = .ok text) :
    ∃ place, store.locate path = .ok (.entry place false) := by
  rw [readText] at h
  split at h
  · cases h
  · cases h
  · next place slash hlocate =>
      cases slash with
      | false => exact ⟨place, hlocate⟩
      | true =>
          split at h
          · cases h
          · cases h
          · cases h
          · cases h

/-- The stores differ at most in the file that the path leads to. -/
structure SameBut (path : String) (first second : FileStore) : Prop where
  home : second.home = first.home
  directories : ∀ {place}, second.node? place = some .directory ↔
    first.node? place = some .directory
  elsewhere : ∀ {place}, first.locate path ≠ .ok (.entry place false) →
    second.node? place = first.node? place

namespace SameBut

theorem refl (path : String) (store : FileStore) : SameBut path store store where
  home := rfl
  directories := Iff.rfl
  elsewhere _ := rfl

theorem locate_eq_ok (h : SameBut path first second) {other : String} {place : Place} :
    second.locate other = .ok place ↔ first.locate other = .ok place :=
  ⟨locate_mono h.home.symm h.directories.mp, locate_mono h.home h.directories.mpr⟩

theorem symm (h : SameBut path first second) : SameBut path second first where
  home := h.home.symm
  directories := h.directories.symm
  elsewhere hplace := (h.elsewhere (mt h.locate_eq_ok.mpr hplace)).symm

theorem trans {third : FileStore} (h : SameBut path first second)
    (hnext : SameBut path second third) : SameBut path first third where
  home := hnext.home.trans h.home
  directories := hnext.directories.trans h.directories
  elsewhere hplace :=
    (hnext.elsewhere (mt h.locate_eq_ok.mp hplace)).trans (h.elsewhere hplace)

/-- A change of one file changes no other. -/
theorem of_update {change : String → String} (h : store.update path change = .ok later) :
    SameBut path store later := by
  obtain ⟨place, node, hlocate, hnode, hat⟩ := update_ok h
  refine ⟨hat.home, fun {other} => ?_, fun {other} hother => hat.elsewhere ?_⟩
  · by_cases heq : other = place
    · subst heq
      rw [hat.here]
      rcases FileNode.changed_ok hnode with
        ⟨hold, rfl⟩ | ⟨text, hold, rfl⟩ | ⟨hold, rfl⟩ | ⟨hold, rfl, -⟩
      · simp [hold]
      · simp [hold]
      · simp [hold]
      · simp [hold]
    · rw [hat.elsewhere heq]
  · rintro rfl
    exact hother hlocate

/-- Every other file reads the same. -/
theorem readText_of_ok (h : SameBut path first second) {other text : String}
    (hother : first.locate other ≠ first.locate path) (htext : first.readText other = .ok text) :
    second.readText other = .ok text := by
  obtain ⟨place, hlocate⟩ := locate_of_readText htext
  have hnode : second.node? place = first.node? place := by
    apply h.elsewhere
    intro hplace
    exact hother (hlocate.trans hplace.symm)
  rw [← htext]
  exact readText_congr hlocate (h.locate_eq_ok.mpr hlocate) hnode

theorem readText_eq_ok (h : SameBut path first second) {other text : String}
    (hother : first.locate other ≠ first.locate path) :
    second.readText other = .ok text ↔ first.readText other = .ok text := by
  refine ⟨fun htext => ?_, h.readText_of_ok hother⟩
  obtain ⟨place, hlocate⟩ := locate_of_readText htext
  refine h.symm.readText_of_ok (fun heq => hother ?_) htext
  have hboth : second.locate path = .ok (.entry place false) := heq.symm.trans hlocate
  exact (h.locate_eq_ok.mp hlocate).trans (h.locate_eq_ok.mp hboth).symm

end SameBut

end BrowserFlow.FileStore
