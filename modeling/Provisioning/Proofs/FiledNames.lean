import Mathlib.Data.List.Nodup
import Provisioning.Proofs.ParentWalk

/-!
The names under which a catalog keeps its items. An item stays under the name that it had when it
was inserted, whatever a change in place makes of its name; as long as no such change renames an
item, items are found under their current names.
-/

namespace Provisioning

inductive Item.Edited (inserted : Item) : Item → Prop
  | refl : Edited inserted inserted
  | edit {item edit} : Edited inserted item → Edit.Possible edit →
      Edited inserted (edit.run item).1
  | search {item} (lookup) : Edited inserted item →
      Edited inserted (item.noteConceptualParent lookup)

theorem Item.Edited.keeps {inserted item : Item} (edited : inserted.Edited item) :
    inserted.Keeps item := by
  induction edited with
  | refl => exact ⟨rfl, rfl⟩
  | @edit item edit _ _ ih => exact ih.trans (item.run_keeps edit)
  | @search item lookup _ ih => exact ih.trans (item.noteConceptualParent_keeps lookup)

theorem Item.name_noteConceptualParent (item : Item) (lookup : Lookup) :
    (item.noteConceptualParent lookup).name = item.name := by
  unfold noteConceptualParent
  split <;> rfl

namespace Catalog

/-- Catalogs of reachable items in which no change in place gives an item another name. -/
inductive Unrenamed : Catalog → Prop
  | empty : Unrenamed Catalog.empty
  | insert {catalog item} : Unrenamed catalog → item.Reachable → Unrenamed (catalog.insert item)
  | remove {catalog} (kind name) : Unrenamed catalog → Unrenamed (catalog.remove kind name)
  | edit {catalog edit} (kind name) : Unrenamed catalog → Edit.Possible edit →
      (∀ item, catalog.get? kind name = some item → (edit.run item).1.name = item.name) →
      Unrenamed (catalog.modify kind name fun item => (edit.run item).1)
  | search {catalog} (kind name lookup) : Unrenamed catalog →
      Unrenamed (catalog.modify kind name fun item => item.noteConceptualParent lookup)

theorem Reachable.origin {catalog : Catalog} (reachable : catalog.Reachable) :
    catalog.Stores fun _ name item =>
      ∃ inserted : Item, inserted.Reachable ∧ inserted.name = name ∧ inserted.Edited item := by
  induction reachable with
  | empty => exact stores_empty
  | @insert catalog item _ itemReachable ih => exact ih.insert ⟨item, itemReachable, rfl, .refl⟩
  | remove kind name _ ih => exact ih.remove kind name
  | edit kind name _ possible ih =>
      refine ih.modify ?_
      rintro item _ ⟨inserted, insertedReachable, named, edited⟩
      exact ⟨inserted, insertedReachable, named, edited.edit possible⟩
  | search kind name lookup _ ih =>
      refine ih.modify ?_
      rintro item _ ⟨inserted, insertedReachable, named, edited⟩
      exact ⟨inserted, insertedReachable, named, edited.search lookup⟩

theorem Unrenamed.current {catalog : Catalog} (unrenamed : catalog.Unrenamed) :
    catalog.Stores fun _ name item => item.name = name := by
  induction unrenamed with
  | empty => exact stores_empty
  | insert _ _ ih => exact ih.insert rfl
  | remove kind name _ ih => exact ih.remove kind name
  | edit kind name _ _ kept ih =>
      exact ih.modify fun item held named => (kept item held).trans named
  | search kind name lookup _ ih =>
      exact ih.modify fun item _ named => (item.name_noteConceptualParent lookup).trans named

def Shelves (catalog : Catalog) : Prop :=
  ∀ kind, Dict.Sorted (catalog.shelf kind)

theorem Shelves.setShelf {catalog : Catalog} (shelves : catalog.Shelves) (kind : Kind)
    {items : Dict Item} (sorted : Dict.Sorted items) : (catalog.setShelf kind items).Shelves := by
  intro other
  unfold Catalog.setShelf
  dsimp only
  split
  · exact sorted
  · exact shelves other

theorem Shelves.modify {catalog : Catalog} (shelves : catalog.Shelves) (kind : Kind)
    (name : String) (change : Item → Item) : (catalog.modify kind name change).Shelves := by
  unfold Catalog.modify
  split
  · exact shelves.setShelf kind ((shelves kind).insert _ _)
  · exact shelves

theorem Reachable.shelves {catalog : Catalog} (reachable : catalog.Reachable) :
    catalog.Shelves := by
  induction reachable with
  | empty => exact fun _ => List.Pairwise.nil
  | @insert catalog item _ _ ih => exact ih.setShelf item.kind ((ih item.kind).insert _ _)
  | remove kind name _ ih => exact ih.setShelf kind ((ih kind).erase name)
  | edit kind name _ _ ih => exact ih.modify kind name _
  | search kind name lookup _ ih => exact ih.modify kind name _

theorem Shelves.nodup_names {catalog : Catalog} (shelves : catalog.Shelves)
    (current : catalog.Stores fun kind name item => item.kind = kind ∧ item.name = name) :
    (catalog.items.map fun item => (item.kind, item.name)).Nodup := by
  have places : (catalog.items.map fun item => (item.kind, item.name)) =
      Kind.all.flatMap fun kind =>
        (Dict.keys (catalog.shelf kind)).map fun name => (kind, name) := by
    unfold items
    rw [List.map_flatMap]
    refine List.flatMap_congr fun kind _ => ?_
    unfold ofKind Dict.keys
    rw [List.map_map, List.map_map]
    refine List.map_congr_left ?_
    rintro ⟨name, item⟩ entry
    have found := (Dict.get?_eq_some_iff (shelves kind).nodup_keys).2 entry
    obtain ⟨sameKind, named⟩ := current kind name item found
    exact Prod.ext sameKind named
  rw [places, List.nodup_flatMap]
  refine ⟨fun kind _ => (shelves kind).nodup_keys.map fun _ _ same => (Prod.mk.inj same).2, ?_⟩
  have distinct : Kind.all.Nodup := by decide
  refine distinct.imp ?_
  intro left right different place inLeft inRight
  obtain ⟨_, _, rfl⟩ := List.mem_map.1 inLeft
  obtain ⟨_, _, same⟩ := List.mem_map.1 inRight
  exact different (Prod.mk.inj same).1.symm

theorem Unrenamed.reachable {catalog : Catalog} (unrenamed : catalog.Unrenamed) :
    catalog.Reachable := by
  induction unrenamed with
  | empty => exact .empty
  | insert _ itemReachable ih => exact ih.insert itemReachable
  | remove kind name _ ih => exact ih.remove kind name
  | edit kind name _ possible _ ih => exact ih.edit kind name possible
  | search kind name lookup _ ih => exact ih.search kind name lookup

end Catalog

end Provisioning
