import BrowserFlow.Proofs.Flow.Template

/-!
# The key that decides

A lookup sorts the keys by the priority of their kinds and leaves keys of one kind in the order in
which they stand. The first key that has a value in the table of its kind decides; the fields are
only asked when no key of any kind has one.
-/

namespace BrowserFlow

namespace KeyKind

/-- The table with the smallest priority is searched first. -/
def priority : KeyKind → Nat
  | testId => 0
  | name => 1
  | id => 2
  | label => 3
  | placeholder => 4

theorem pairwise_priority_all :
    all.Pairwise fun first second => first.priority < second.priority := by
  decide

theorem eq_of_priority_eq {first second : KeyKind} (h : first.priority = second.priority) :
    first = second := by
  cases first <;> cases second <;> first | rfl | exact absurd h (by decide)

end KeyKind

/-- What `find` gives for the first of the keys for which it gives anything. Kinds come in the order
of their priorities, and keys of one kind in the order of the list. -/
def FirstFound (find : Key → Option α) (keys : List Key) (value : α) : Prop :=
  ∃ (i : Nat) (key : Key), keys[i]? = some key ∧ find key = some value ∧
    ∀ (j : Nat) (other : Key), keys[j]? = some other → (find other).isSome →
      key.kind.priority < other.kind.priority ∨ key.kind = other.kind ∧ i ≤ j

theorem FirstFound.unique {find : Key → Option α} {keys : List Key} {first second : α}
    (hfirst : FirstFound find keys first) (hsecond : FirstFound find keys second) :
    first = second := by
  obtain ⟨i, key, hkey, hvalue, hleast⟩ := hfirst
  obtain ⟨j, other, hother, hvalue', hleast'⟩ := hsecond
  have hforward := hleast j other hother (Option.isSome_of_eq_some hvalue')
  have hbackward := hleast' i key hkey (Option.isSome_of_eq_some hvalue)
  have hplace : i = j := by
    rcases hforward with hlt | ⟨hkind, hle⟩
    · rcases hbackward with hgt | ⟨hkind, -⟩
      · omega
      · exact absurd hlt (by rw [hkind]; omega)
    · rcases hbackward with hgt | ⟨-, hge⟩
      · exact absurd hgt (by rw [hkind]; omega)
      · omega
  obtain rfl := hplace
  obtain rfl := Option.some.inj (hkey.symm.trans hother)
  exact Option.some.inj (hvalue.symm.trans hvalue')

theorem FirstFound.exists_mem {find : Key → Option α} {keys : List Key} {value : α}
    (h : FirstFound find keys value) : ∃ key ∈ keys, (find key).isSome := by
  obtain ⟨i, key, hkey, hvalue, -⟩ := h
  exact ⟨key, List.mem_of_getElem? hkey, Option.isSome_of_eq_some hvalue⟩

namespace Overrides

/-! ### The order of the lookup -/

theorem filter_lookupOrder (keys : List Key) (kind : KeyKind) :
    (lookupOrder keys).filter (·.kind = kind) = keys.filter (·.kind = kind) := by
  have htwice : ∀ other : KeyKind, (keys.filter (·.kind = other)).filter (·.kind = kind) =
      if other = kind then keys.filter (·.kind = kind) else [] := by
    intro other
    rw [List.filter_filter]
    split
    · next heq => simp only [heq, Bool.and_self]
    · next hne =>
        rw [List.filter_eq_nil_iff]
        intro key _ hboth
        simp only [Bool.and_eq_true, decide_eq_true_eq] at hboth
        exact hne (hboth.2.symm.trans hboth.1)
  rw [lookupOrder, List.filter_flatMap]
  simp only [htwice]
  cases kind <;> simp [KeyKind.all]

theorem pairwise_priority_lookupOrder (keys : List Key) :
    (lookupOrder keys).Pairwise fun first second =>
      first.kind.priority ≤ second.kind.priority := by
  have hkind : ∀ {kind : KeyKind} {key : Key}, key ∈ keys.filter (·.kind = kind) →
      key.kind = kind := by
    intro kind key hkey
    simpa using (List.mem_filter.mp hkey).2
  refine List.pairwise_flatMap.mpr ⟨fun kind _ => ?_, ?_⟩
  · refine List.pairwise_of_forall_mem_list fun first hfirst second hsecond => ?_
    have hsame : first.kind = second.kind := (hkind hfirst).trans (hkind hsecond).symm
    exact Nat.le_of_eq (congrArg KeyKind.priority hsame)
  · refine KeyKind.pairwise_priority_all.imp fun hlt first hfirst second hsecond => ?_
    rw [hkind hfirst, hkind hsecond]
    exact Nat.le_of_lt hlt

/-- The order depends only on how the keys of each kind follow one another. -/
theorem lookupOrder_congr {keys others : List Key}
    (h : ∀ kind : KeyKind, others.filter (·.kind = kind) = keys.filter (·.kind = kind)) :
    lookupOrder others = lookupOrder keys := by
  rw [lookupOrder, lookupOrder]
  simp only [h]

section Place

variable {keys earlier later : List Key} {key : Key}

theorem priority_le_of_later (h : lookupOrder keys = earlier ++ key :: later) :
    ∀ other ∈ later, key.kind.priority ≤ other.kind.priority := by
  have hpairwise := pairwise_priority_lookupOrder keys
  rw [h] at hpairwise
  exact (List.pairwise_cons.mp (List.pairwise_append.mp hpairwise).2.1).1

/-- The keys of one kind stand in the list as they stand in the order. -/
theorem exists_place (h : lookupOrder keys = earlier ++ key :: later) :
    ∃ front rest, keys = front ++ key :: rest ∧
      ∀ other ∈ front, other.kind = key.kind → other ∈ earlier := by
  have hfilter := filter_lookupOrder keys key.kind
  rw [h, List.filter_append, List.filter_cons_of_pos (by simp)] at hfilter
  obtain ⟨front, back, hkeys, hfront, hback⟩ := List.filter_eq_append_iff.mp hfilter.symm
  obtain ⟨between, rest, hrest, hbetween, -, -⟩ := List.filter_eq_cons_iff.mp hback
  refine ⟨front ++ between, rest, by rw [hkeys, hrest, List.append_assoc], ?_⟩
  intro other hother hkind
  rcases List.mem_append.mp hother with hother | hother
  · have hmem : other ∈ earlier.filter (·.kind = key.kind) := by
      rw [← hfront]
      exact List.mem_filter.mpr ⟨hother, by simpa using hkind⟩
    exact (List.mem_filter.mp hmem).1
  · exact absurd (by simpa using hkind) (hbetween other hother)

end Place

/-- What comes first in the order of the lookup, with the place of its key in the list. -/
theorem firstFound_of_findSome? {find : Key → Option α} {keys : List Key} {value : α}
    (h : (lookupOrder keys).findSome? find = some value) : FirstFound find keys value := by
  obtain ⟨earlier, key, later, hsplit, hvalue, hnone⟩ := List.findSome?_eq_some_iff.mp h
  obtain ⟨front, rest, hplace, hfront⟩ := exists_place hsplit
  refine ⟨front.length, key, by rw [hplace]; simp, hvalue, fun j other hj hsome => ?_⟩
  have hnotEarlier : other ∉ earlier := fun hearlier =>
    absurd (hnone other hearlier) (Option.isSome_iff_ne_none.mp hsome)
  have hmem : other ∈ earlier ++ key :: later := by
    rw [← hsplit]
    exact mem_lookupOrder.mpr (List.mem_of_getElem? hj)
  have hpriority : key.kind.priority ≤ other.kind.priority := by
    rcases List.mem_cons.mp ((List.mem_append.mp hmem).resolve_left hnotEarlier) with rfl | hlater
    · exact Nat.le_refl _
    · exact priority_le_of_later hsplit other hlater
  rcases Nat.lt_or_eq_of_le hpriority with hlt | heq
  · exact .inl hlt
  · have hkind := KeyKind.eq_of_priority_eq heq
    refine .inr ⟨hkind, Nat.le_of_not_lt fun hlt => ?_⟩
    rw [hplace, List.getElem?_append_left hlt] at hj
    exact hnotEarlier (hfront other (List.mem_of_getElem? hj) hkind.symm)

theorem findSome?_lookupOrder_eq_none_iff {find : Key → Option α} {keys : List Key} :
    (lookupOrder keys).findSome? find = Option.none ↔ ∀ key ∈ keys, find key = Option.none := by
  simp only [List.findSome?_eq_none_iff, mem_lookupOrder]

theorem findSome?_lookupOrder_iff {find : Key → Option α} {keys : List Key} {value : α} :
    (lookupOrder keys).findSome? find = some value ↔ FirstFound find keys value := by
  refine ⟨firstFound_of_findSome?, fun hfirst => ?_⟩
  cases hfound : (lookupOrder keys).findSome? find with
  | none =>
      obtain ⟨key, hkey, hsome⟩ := hfirst.exists_mem
      exact absurd (findSome?_lookupOrder_eq_none_iff.mp hfound key hkey)
        (Option.isSome_iff_ne_none.mp hsome)
  | some other => rw [(firstFound_of_findSome? hfound).unique hfirst]

/-! ### Typed tables and fields -/

/-- What the table of its own kind holds for a key. -/
def typed? (overrides : Overrides) (key : Key) : Option Scalar := overrides.tables.value? key

/-- What the fields hold for a key, whatever its kind. -/
def untyped? (overrides : Overrides) (key : Key) : Option Scalar := overrides.fields.get? key.value

theorem lookup_eq_or (overrides : Overrides) (keys : List Key) :
    overrides.lookup keys =
      ((lookupOrder keys).findSome? overrides.typed?).or
        ((lookupOrder keys).findSome? overrides.untyped?) := by
  rw [lookup, Option.orElse_eq_orElse, Option.orElse_eq_or]
  rfl

/-- A lookup gives the value of the first key in the table of its kind, and the fields' value of the
first key only when no key is in the table of its kind. So fields never matter beside a typed entry,
and keys of different kinds may change places. -/
theorem lookup_finds_least_key (overrides : Overrides) (keys : List Key) :
    (∀ value, overrides.lookup keys = some value ↔
        FirstFound overrides.typed? keys value ∨
          (∀ key ∈ keys, overrides.typed? key = Option.none) ∧
            FirstFound overrides.untyped? keys value) ∧
      (overrides.lookup keys = Option.none ↔
        ∀ key ∈ keys, overrides.typed? key = Option.none ∧ overrides.untyped? key = Option.none) ∧
      ((∃ key ∈ keys, (overrides.typed? key).isSome) →
        ∀ fields, ({ overrides with fields := fields } : Overrides).lookup keys =
          overrides.lookup keys) ∧
      ∀ others : List Key,
        (∀ kind : KeyKind, others.filter (·.kind = kind) = keys.filter (·.kind = kind)) →
          overrides.lookup others = overrides.lookup keys := by
  refine ⟨fun value => ?_, ?_, fun htyped fields => ?_, fun others hkinds => ?_⟩
  · rw [lookup_eq_or, Option.or_eq_some_iff, findSome?_lookupOrder_iff, findSome?_lookupOrder_iff,
      findSome?_lookupOrder_eq_none_iff]
  · rw [lookup_eq_or, Option.or_eq_none_iff, findSome?_lookupOrder_eq_none_iff,
      findSome?_lookupOrder_eq_none_iff]
    exact forall₂_and.symm
  · obtain ⟨key, hkey, hsome⟩ := htyped
    obtain ⟨value, hvalue⟩ :
        ∃ value, (lookupOrder keys).findSome? overrides.typed? = some value := by
      refine Option.ne_none_iff_exists'.mp fun hnone => ?_
      exact absurd (findSome?_lookupOrder_eq_none_iff.mp hnone key hkey)
        (Option.isSome_iff_ne_none.mp hsome)
    have hsame : ({ overrides with fields := fields } : Overrides).typed? = overrides.typed? := rfl
    rw [lookup_eq_or, lookup_eq_or, hsame, hvalue]
    rfl
  · rw [lookup_eq_or, lookup_eq_or, lookupOrder_congr hkinds]

/-- A value for a label, one for an id, and one for a text of any kind. -/
def placeOverrides : Overrides :=
  { tables := { InputTables.empty with
      byLabel := Table.single "City" (.text "Rome")
      byId := Table.single "town" (.text "Oslo") }
    fields := Table.single "place" (.text "Bern") }

/-- The id decides, though it comes last and the text of the first key has a value too. Without it
and the label that text decides. -/
theorem lookup_of_placeOverrides :
    placeOverrides.lookup [⟨.testId, "place"⟩, ⟨.label, "City"⟩, ⟨.id, "town"⟩] =
        some (.text "Oslo") ∧
      FirstFound placeOverrides.typed? [⟨.testId, "place"⟩, ⟨.label, "City"⟩, ⟨.id, "town"⟩]
        (.text "Oslo") ∧
      placeOverrides.lookup [⟨.testId, "place"⟩, ⟨.name, "town"⟩] = some (.text "Bern") := by
  have hfound : placeOverrides.lookup [⟨.testId, "place"⟩, ⟨.label, "City"⟩, ⟨.id, "town"⟩] =
      some (.text "Oslo") := by
    decide +kernel
  refine ⟨hfound, ?_, by decide +kernel⟩
  refine (((lookup_finds_least_key placeOverrides _).1 _).mp hfound).resolve_right fun hfields => ?_
  exact absurd (hfields.1 ⟨.label, "City"⟩ (by decide)) (by decide +kernel)

end Overrides

end BrowserFlow
