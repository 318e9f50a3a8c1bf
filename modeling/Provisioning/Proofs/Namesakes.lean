import Provisioning.Proofs.DepthFirst
import Provisioning.Proofs.Unvisited

/-!
Finding items by name alone. Such a search finds what the shelf of the wanted kind holds, but for the
names that a kind before it holds as well; where no two kinds share a name, every walk and everything
that is read through one is the same as with a search by kind.
-/

namespace Provisioning

/-- The kinds that a search by name tries before this one. -/
def Kind.before (kind : Kind) : List Kind :=
  Kind.all.takeWhile fun other => other != kind

theorem Kind.not_mem_before (kind : Kind) : kind ∉ kind.before := by
  cases kind <;> decide

theorem Kind.before_total (kind other : Kind) :
    kind = other ∨ kind ∈ other.before ∨ other ∈ kind.before := by
  cases kind <;> cases other <;> decide

def Catalog.NamesApart (catalog : Catalog) : Prop :=
  ∀ kind other name, (catalog.get? kind name).isSome = true →
    (catalog.get? other name).isSome = true → kind = other

namespace Catalog.NamesApart

theorem empty : Catalog.empty.NamesApart := by
  intro kind other name held
  cases held

theorem insert {catalog : Catalog} (apart : catalog.NamesApart) {item : Item}
    (fresh : ∀ kind, kind ≠ item.kind → catalog.get? kind item.name = none) :
    (catalog.insert item).NamesApart := by
  have alone (kind : Kind) (held : ((catalog.insert item).get? kind item.name).isSome = true) :
      kind = item.kind := by
    by_contra different
    rw [get?_insert, if_neg (fun both => different both.1), fresh kind different] at held
    cases held
  intro kind other name held heldToo
  by_cases same : item.name = name
  · subst same
    exact (alone kind held).trans (alone other heldToo).symm
  · rw [get?_insert, if_neg (fun both => same both.2)] at held heldToo
    exact apart kind other name held heldToo

end Catalog.NamesApart

section Finding

variable {catalog : Catalog} {kind : Kind} {name : String} {item : Item}

theorem Catalog.Shelved.findSome?_iff (shelved : catalog.Shelved) (kinds : List Kind) :
    (kinds.findSome? fun other => catalog.get? other name).filter
        (fun found => found.kind = kind) = some item ↔
      kind ∈ kinds ∧ catalog.get? kind name = some item ∧
        ∀ earlier ∈ kinds.takeWhile (fun other => other != kind),
          catalog.get? earlier name = none := by
  induction kinds with
  | nil => simp
  | cons other rest ih =>
      rw [List.findSome?_cons]
      by_cases here : other = kind
      · subst here
        cases held : catalog.get? other name with
        | none =>
            dsimp only
            rw [ih, held]
            simp
        | some found =>
            simp [Option.filter_some, shelved other name found held]
      · have skipped : (other :: rest).takeWhile (fun other => other != kind) =
            other :: rest.takeWhile (fun other => other != kind) :=
          List.takeWhile_cons_of_pos (by simpa using here)
        rw [skipped, List.forall_mem_cons, List.mem_cons, or_iff_right (Ne.symm here)]
        cases held : catalog.get? other name with
        | none =>
            dsimp only
            rw [ih]
            simp
        | some found =>
            simp [Option.filter_some, shelved other name found held, here]

theorem Lookup.find?_byName_iff (shelved : catalog.Shelved) :
    (⟨catalog, .byName⟩ : Lookup).find? kind name = some item ↔
      catalog.get? kind name = some item ∧
        ∀ earlier ∈ kind.before, catalog.get? earlier name = none :=
  (shelved.findSome?_iff Kind.all).trans (and_iff_right (Kind.mem_all kind))

theorem Lookup.find?_agree_iff (shelved : catalog.Shelved) :
    (∀ kind name, (⟨catalog, .byName⟩ : Lookup).find? kind name = catalog.get? kind name) ↔
      catalog.NamesApart := by
  constructor
  · intro agree
    have unshadowed (kind other : Kind) (name : String)
        (held : (catalog.get? kind name).isSome = true)
        (heldToo : (catalog.get? other name).isSome = true) : kind ∉ other.before := by
      intro earlier
      obtain ⟨item, found⟩ := Option.isSome_iff_exists.1 heldToo
      have alone := ((find?_byName_iff shelved).1 ((agree other name).trans found)).2 kind earlier
      rw [alone] at held
      cases held
    intro kind other name held heldToo
    rcases Kind.before_total kind other with same | before | after
    · exact same
    · exact absurd before (unshadowed kind other name held heldToo)
    · exact absurd after (unshadowed other kind name heldToo held)
  · intro apart kind name
    ext item
    rw [find?_byName_iff shelved, and_iff_left_of_imp]
    intro found earlier before
    by_contra held
    have same := apart kind earlier name (by simp [found])
      (by simpa [Option.isSome_iff_ne_none] using held)
    exact kind.not_mem_before (same ▸ before)

end Finding

section Walking

variable {left right : Lookup}

theorem Item.ancestry_congr (same : ∀ kind name, left.find? kind name = right.find? kind name)
    (item : Item) : item.ancestry left = item.ancestry right := by
  obtain ⟨ancestors, top, walk⟩ := exists_parentWalk left item
  refine walk.ancestry_agree ?_
  intro other _
  simp only [parent?, same]

theorem Exploration.exploreFrom_congr
    (same : ∀ kind name, left.find? kind name = right.find? kind name) (met : List String)
    (path : List Visit) : exploreFrom left met path = exploreFrom right met path := by
  have refers (item : Item) (name : String) : item.child? left name = item.child? right name := by
    simp only [Item.child?, same]
  induction met, path using exploreFrom.induct left with
  | case1 met => rw [exploreFrom, exploreFrom]
  | case2 met item outer ih => rw [exploreFrom, exploreFrom, ih]
  | case3 met item name pending outer nothing ih =>
      have nothingToo := (refers item name).symm.trans nothing
      rw [exploreFrom_missing nothing, exploreFrom_missing nothingToo, ih]
  | case4 met item name pending outer child found on =>
      have foundToo := (refers item name).symm.trans found
      rw [exploreFrom_loop found on, exploreFrom_loop foundToo on]
  | case5 met item name pending outer child found known off ih =>
      have foundToo := (refers item name).symm.trans found
      have offPath := Bool.eq_false_iff.2 off
      rw [exploreFrom_met found offPath known, exploreFrom_met foundToo offPath known, ih]
  | case6 met item name pending outer child found new _ off ih =>
      have foundToo := (refers item name).symm.trans found
      have offPath := Bool.eq_false_iff.2 off
      rw [exploreFrom_new found offPath new, exploreFrom_new foundToo offPath new, ih]

namespace Item

variable {item : Item}

theorem resolveChoiceAs_congr (same : item.ancestry left = item.ancestry right) (α : Type)
    [Choice α] (property : String) :
    item.resolveChoiceAs α property left = item.resolveChoiceAs α property right := by
  unfold resolveChoiceAs
  rw [resolveChoice_congr same]

theorem owners_congr (same : item.ancestry left = item.ancestry right) :
    item.owners left = item.owners right := by
  unfold owners
  rw [resolveScalar_congr same]

theorem noteConceptualParent_congr (same : item.ancestry left = item.ancestry right) :
    item.noteConceptualParent left = item.noteConceptualParent right := by
  unfold noteConceptualParent
  rw [conceptualParent_congr same]

theorem descendants_congr (same : ∀ kind name, left.find? kind name = right.find? kind name) :
    item.descendants left = item.descendants right := by
  unfold descendants explore
  rw [Exploration.exploreFrom_congr same]

/-- Whatever is read through the walks of an item comes out the same, errors included. -/
structure ReadsAlike (item : Item) (left right : Lookup) : Prop where
  scalar : ∀ property, item.resolveScalar property left = item.resolveScalar property right
  choice : ∀ property, item.resolveChoice property left = item.resolveChoice property right
  choiceAs : ∀ (α : Type) [Choice α] (property : String),
    item.resolveChoiceAs α property left = item.resolveChoiceAs α property right
  mapping : ∀ property, item.resolveMapping property left = item.resolveMapping property right
  owners : item.owners left = item.owners right
  resolvedDict : item.resolvedDict left = item.resolvedDict right
  layers : item.layers left = item.layers right
  conceptualParent : item.conceptualParent left = item.conceptualParent right
  noted : item.noteConceptualParent left = item.noteConceptualParent right
  descendants : item.descendants left = item.descendants right

theorem readsAlike_of_find? (same : ∀ kind name, left.find? kind name = right.find? kind name)
    (item : Item) : item.ReadsAlike left right := by
  have walks := ancestry_congr same item
  constructor
  · exact resolveScalar_congr walks
  · exact resolveChoice_congr walks
  · intro α _
    exact resolveChoiceAs_congr walks α
  · exact resolveMapping_congr walks
  · exact owners_congr walks
  · exact resolvedDict_congr walks
  · exact layers_congr walks
  · exact conceptualParent_congr walks
  · exact noteConceptualParent_congr walks
  · exact descendants_congr same

end Item

end Walking

/-- A search by name alone finds what is filed under the name for the wanted kind, unless a kind
before it holds the name as well. Catalogs without such namesakes look the same to every walk. Being
shelved is the invariant of catalogs, and holds of every one that can come about. -/
theorem Lookup.byName_restricts {catalog : Catalog} (shelved : catalog.Shelved) :
    (∀ kind name item, (⟨catalog, .byName⟩ : Lookup).find? kind name = some item ↔
      (⟨catalog, .byKind⟩ : Lookup).find? kind name = some item ∧
        ∀ earlier ∈ kind.before, catalog.get? earlier name = none) ∧
    ((∀ kind name, (⟨catalog, .byName⟩ : Lookup).find? kind name =
      (⟨catalog, .byKind⟩ : Lookup).find? kind name) ↔ catalog.NamesApart) ∧
    (catalog.NamesApart →
      ∀ item : Item, item.ReadsAlike ⟨catalog, .byName⟩ ⟨catalog, .byKind⟩) := by
  have agree : (∀ kind name, (⟨catalog, .byName⟩ : Lookup).find? kind name =
      (⟨catalog, .byKind⟩ : Lookup).find? kind name) ↔ catalog.NamesApart :=
    find?_agree_iff shelved
  refine ⟨?_, agree, ?_⟩
  · intro kind name item
    exact find?_byName_iff shelved
  · intro apart item
    exact item.readsAlike_of_find? (agree.2 apart)

theorem Catalog.Reachable.readsAlike {catalog : Catalog} (reachable : catalog.Reachable)
    (apart : catalog.NamesApart) (item : Item) :
    item.ReadsAlike ⟨catalog, .byName⟩ ⟨catalog, .byKind⟩ :=
  item.readsAlike_of_find? ((Lookup.find?_agree_iff reachable.shelved).2 apart)

theorem Lookup.byName_restricts_web :
    let distro := (Edit.run (Item.new .distro "a" {}) (.setName "f40")).1
    let profile := (Edit.run (Edit.run (Item.new .profile "b" {}) (.setName "web")).1
      (.setParent "f40")).1
    let namesake := (Edit.run (Item.new .distro "c" {}) (.setName "web")).1
    let catalog := (Catalog.empty.insert distro).insert profile
    catalog.Shelved ∧ catalog.NamesApart ∧
    profile.ReadsAlike ⟨catalog, .byName⟩ ⟨catalog, .byKind⟩ ∧
    (catalog.insert namesake).Shelved ∧
    (⟨catalog.insert namesake, .byName⟩ : Lookup).find? .profile "web" = none := by
  intro distro profile namesake catalog
  have shelved : catalog.Shelved := (Catalog.Shelved.empty.insert distro).insert profile
  have alone : (Catalog.empty.insert distro).NamesApart :=
    Catalog.NamesApart.empty.insert fun _ _ => rfl
  have apart : catalog.NamesApart := by
    refine alone.insert ?_
    intro kind _
    rw [Catalog.get?_insert, if_neg fun both => absurd both.2 (by decide)]
    rfl
  refine ⟨shelved, apart, (byName_restricts shelved).2.2 apart profile, shelved.insert namesake, ?_⟩
  refine Option.eq_none_iff_forall_ne_some.2 ?_
  intro item found
  have unheld := (((byName_restricts (shelved.insert namesake)).1 .profile "web" item).1 found).2
  have held : (catalog.insert namesake).get? .distro "web" = some namesake := by
    rw [Catalog.get?_insert, if_pos (by decide)]
  rw [unheld .distro (by decide)] at held
  cases held

end Provisioning
