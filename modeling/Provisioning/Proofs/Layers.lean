import Mathlib.Data.List.Dedup
import Mathlib.Data.List.Perm.Subperm
import Provisioning.Proofs.ParentWalk

/-!
The layers of an item are its whole parent walk and its settings. How long that walk can get, which
kinds of items it can hold in which order, and when it closes on itself.
-/

namespace Provisioning

/-- Every item is filed on the shelf of its kind. Catalogs keep to this from the empty one on
(`Catalog.Reachable.shelved`): an item is filed under its own kind, which no change touches. -/
def Catalog.Shelved (catalog : Catalog) : Prop :=
  ∀ kind name item, catalog.get? kind name = some item → item.kind = kind

namespace Catalog.Shelved

theorem empty : Catalog.empty.Shelved := by
  intro kind name item held
  cases held

theorem insert {catalog : Catalog} (shelved : catalog.Shelved) (item : Item) :
    (catalog.insert item).Shelved := by
  intro kind name other held
  rw [get?_insert] at held
  split at held
  · rename_i same
    cases held
    exact same.1.symm
  · exact shelved kind name other held

end Catalog.Shelved

theorem Catalog.Reachable.shelved {catalog : Catalog} (reachable : catalog.Reachable) :
    catalog.Shelved := by
  intro kind name item held
  exact (reachable.filed kind name item held).2

/-- A single template, or a system, profiles and a distro, of which any may be missing. -/
def TreeOrder (kinds : List Kind) : Prop :=
  kinds = [.template] ∨
  ∃ systems profiles distros, systems ≤ 1 ∧ distros ≤ 1 ∧
    kinds = List.replicate systems .system ++ List.replicate profiles .profile ++
      List.replicate distros .distro

namespace TreeOrder

theorem single (kind : Kind) : TreeOrder [kind] := by
  cases kind with
  | distro => exact Or.inr ⟨0, 0, 1, by decide, by decide, rfl⟩
  | profile => exact Or.inr ⟨0, 1, 0, by decide, by decide, rfl⟩
  | system => exact Or.inr ⟨1, 0, 0, by decide, by decide, rfl⟩
  | template => exact Or.inl rfl

theorem of_distro {above : List Kind} (order : TreeOrder (.distro :: above)) : above = [] := by
  obtain template | ⟨systems, profiles, distros, _, few, split⟩ := order
  · cases template
  · cases systems with
    | succ systems => cases split
    | zero =>
        cases profiles with
        | succ profiles => cases split
        | zero =>
            have length := congrArg List.length split
            simp only [List.length_cons, List.length_append, List.length_replicate] at length
            exact List.length_eq_zero_iff.1 (by omega)

theorem of_profile {above : List Kind} (order : TreeOrder (.profile :: above)) :
    ∃ profiles distros, distros ≤ 1 ∧ .profile :: above =
      List.replicate profiles .profile ++ List.replicate distros .distro := by
  obtain template | ⟨systems, profiles, distros, _, few, split⟩ := order
  · cases template
  · cases systems with
    | succ systems => cases split
    | zero => exact ⟨profiles, distros, few, split⟩

theorem cons {kind parentKind : Kind} {isSubobject : Bool} {above : List Kind}
    (hangs : kind.parentKind? isSubobject = some parentKind)
    (order : TreeOrder (parentKind :: above)) : TreeOrder (kind :: parentKind :: above) := by
  cases kind with
  | distro => cases hangs
  | template => cases hangs
  | system =>
      cases hangs
      obtain ⟨profiles, distros, few, split⟩ := order.of_profile
      refine Or.inr ⟨1, profiles, distros, Nat.le_refl 1, few, ?_⟩
      rw [split]
      rfl
  | profile =>
      cases isSubobject with
      | true =>
          cases hangs
          obtain ⟨profiles, distros, few, split⟩ := order.of_profile
          refine Or.inr ⟨0, profiles + 1, distros, Nat.zero_le 1, few, ?_⟩
          rw [split]
          rfl
      | false =>
          cases hangs
          rw [order.of_distro]
          exact Or.inr ⟨0, 1, 1, Nat.zero_le 1, Nat.le_refl 1, rfl⟩

end TreeOrder

theorem Item.parentKind?_of_shelved {lookup : Lookup} (shelved : lookup.catalog.Shelved)
    {item parent : Item} (found : item.parent? lookup = some parent) :
    item.kind.parentKind? item.isSubobject = some parent.kind := by
  obtain ⟨⟨kind, name⟩, filing, hit⟩ := Option.bind_eq_some_iff.1 found
  have sameKind : parent.kind = kind := by
    unfold Lookup.find? at hit
    split at hit
    · exact shelved kind name parent hit
    · exact of_decide_eq_true (Option.filter_eq_some_iff.1 hit).2
  unfold parentPlace? at filing
  split at filing
  · cases filing
  · obtain ⟨above, hangs, place⟩ := Option.map_eq_some_iff.1 filing
    cases place
    rw [hangs, sameKind]

namespace Climb

variable {lookup : Lookup} {item top : Item} {ancestors : List Item}

theorem treeOrder (climb : Climb lookup item ancestors top) (shelved : lookup.catalog.Shelved) :
    TreeOrder ((item :: ancestors).map Item.kind) := by
  induction climb with
  | @here item => exact .single item.kind
  | step found _ ih => exact .cons (Item.parentKind?_of_shelved shelved found) ih

theorem extend (climb : Climb lookup item ancestors top) {again : Item}
    (leads : top.parent? lookup = some again) :
    Climb lookup item (ancestors ++ [again]) again := by
  induction climb with
  | here => exact .step leads .here
  | step found _ ih => exact .step found (ih leads)

theorem isPrefix {others : List Item} {last : Item} (climb : Climb lookup item others last)
    (whole : Climb lookup item ancestors top) (ended : top.parent? lookup = none) :
    others <+: ancestors := by
  induction climb generalizing ancestors with
  | here => exact List.nil_prefix
  | @step item parent above last found _ ih =>
      cases whole with
      | here =>
          rw [found] at ended
          cases ended
      | step foundToo rest =>
          rw [found] at foundToo
          cases foundToo
          exact List.cons_prefix_cons.2 ⟨rfl, ih rest⟩

end Climb

namespace ParentWalk

variable {lookup : Lookup} {item top : Item} {ancestors : List Item}

theorem length_le (walk : ParentWalk lookup item ancestors top) :
    ancestors.length ≤ (lookup.catalog.items.map Item.uid).dedup.length := by
  have distinct : (ancestors.map Item.uid).Nodup := (List.nodup_cons.1 walk.distinct).2
  have filed : ancestors.map Item.uid ⊆ (lookup.catalog.items.map Item.uid).dedup := by
    intro uid member
    obtain ⟨ancestor, among, rfl⟩ := List.mem_map.1 member
    exact List.mem_dedup.2 (List.mem_map_of_mem (walk.climb.mem_items ancestor among))
  have shorter := (distinct.subperm filed).length_le
  rwa [List.length_map] at shorter

theorem closes_iff (walk : ParentWalk lookup item ancestors top) :
    (∃ again, top.parent? lookup = some again) ↔
      ∃ others last, Climb lookup item others last ∧
        ¬ ((item :: others).map Item.uid).Nodup := by
  constructor
  · rintro ⟨again, leads⟩
    refine ⟨ancestors ++ [again], again, walk.climb.extend leads, ?_⟩
    intro distinct
    rw [← List.cons_append, List.map_append] at distinct
    have apart := (List.nodup_append.1 distinct).2.2 again.uid (walk.stopped again leads)
    exact apart again.uid (List.mem_singleton_self _) rfl
  · rintro ⟨others, last, climb, repeats⟩
    cases leads : top.parent? lookup with
    | some again => exact ⟨again, rfl⟩
    | none =>
        -- No climb goes on beyond this walk, which meets no uid twice.
        have shorter := climb.isPrefix walk.climb leads
        have sublist := (shorter.sublist.cons_cons item).map Item.uid
        exact absurd (walk.distinct.sublist sublist) repeats

theorem layers_eq (walk : ParentWalk lookup item ancestors top) :
    item.layers lookup =
      match top.parent? lookup with
      | some again => .error (.cycle again.name)
      | none => .ok ((item :: ancestors).map .item ++ [.settings item.settings]) := by
  rewrite [Item.layers_eq_ancestry, walk.ancestry_eq]
  rfl

end ParentWalk

/-- The layers of an item are its parent walk, which meets each uid of the catalog at most once, and
its settings. They cannot be had exactly when going from parent to parent meets a uid again. That the
catalog is shelved, as every catalog that can come about is, matters to the kinds of the layers
only. -/
theorem layers_of_parentWalk (item : Item) (lookup : Lookup) :
    ((∃ cause, item.layers lookup = .error cause) ↔
      ∃ others last, Climb lookup item others last ∧
        ¬ ((item :: others).map Item.uid).Nodup) ∧
    (∃ ancestors top, ParentWalk lookup item ancestors top) ∧
    ∀ ancestors top, ParentWalk lookup item ancestors top →
      item.ancestry lookup = ⟨ancestors, top.parent? lookup⟩ ∧
      ancestors.length ≤ (lookup.catalog.items.map Item.uid).dedup.length ∧
      (lookup.catalog.Shelved → TreeOrder ((item :: ancestors).map Item.kind)) ∧
      (∀ again, top.parent? lookup = some again →
        item.layers lookup = .error (.cycle again.name)) ∧
      (top.parent? lookup = none →
        item.layers lookup =
          .ok ((item :: ancestors).map .item ++ [.settings item.settings])) := by
  obtain ⟨ancestors, top, walk⟩ := exists_parentWalk lookup item
  refine ⟨?_, ⟨ancestors, top, walk⟩, ?_⟩
  · rw [← walk.closes_iff, walk.layers_eq]
    cases top.parent? lookup with
    | some again => simp
    | none => simp
  · intro ancestors top walk
    have layers := walk.layers_eq
    refine ⟨walk.ancestry_eq, walk.length_le, walk.climb.treeOrder, ?_, ?_⟩
    · intro again leads
      rw [leads] at layers
      exact layers
    · intro ended
      rw [ended] at layers
      exact layers

theorem Catalog.Reachable.treeOrder {catalog : Catalog} (reachable : catalog.Reachable)
    {rule : LookupRule} {item top : Item} {ancestors : List Item}
    (walk : ParentWalk ⟨catalog, rule⟩ item ancestors top) :
    TreeOrder ((item :: ancestors).map Item.kind) :=
  walk.climb.treeOrder reachable.shelved

theorem layers_into_loop :
    let web := (Edit.run (Edit.run (Item.newSubobject .profile "a" {}) (.setName "web")).1
      (.setParent "db")).1
    let db := (Edit.run (Edit.run (Item.newSubobject .profile "b" {}) (.setName "db")).1
      (.setParent "web")).1
    let system := (Edit.run (Item.new .system "c" {}) (.setParent "web")).1
    let lookup : Lookup := ⟨(Catalog.empty.insert web).insert db, .byKind⟩
    TreeOrder ([system, web, db].map Item.kind) ∧
      system.layers lookup = .error (.cycle "web") := by
  intro web db system lookup
  have foundWeb : lookup.find? .profile "web" = some web := by
    change ((Catalog.empty.insert web).insert db).get? .profile "web" = some web
    rw [Catalog.get?_insert, if_neg (by decide), Catalog.get?_insert, if_pos (by decide)]
  have foundDb : lookup.find? .profile "db" = some db := by
    change ((Catalog.empty.insert web).insert db).get? .profile "db" = some db
    rw [Catalog.get?_insert, if_pos (by decide)]
  have walk : ParentWalk lookup system [web, db] db := by
    refine ⟨.step foundWeb (.step foundDb .here), by decide, ?_⟩
    intro again leads
    cases (foundWeb.symm.trans leads : some web = some again)
    decide
  have shelved : lookup.catalog.Shelved := (Catalog.Shelved.empty.insert web).insert db
  obtain ⟨_, _, outcome⟩ := layers_of_parentWalk system lookup
  obtain ⟨_, _, order, closes, _⟩ := outcome [web, db] db walk
  exact ⟨order shelved, closes web foundWeb⟩

end Provisioning
