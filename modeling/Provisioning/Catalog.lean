import Provisioning.Item

/-!
Collections of items, one per kind, and the two ways in which a walk finds items by name.
-/

namespace Provisioning

/-- The items of each kind under the names they were filed under. -/
structure Catalog where
  shelf : Kind → Dict Item

namespace Catalog

def empty : Catalog := ⟨fun _ => []⟩

def get? (catalog : Catalog) (kind : Kind) (name : String) : Option Item :=
  (catalog.shelf kind).get? name

def setShelf (catalog : Catalog) (kind : Kind) (items : Dict Item) : Catalog :=
  ⟨fun other => if other = kind then items else catalog.shelf other⟩

def insert (catalog : Catalog) (item : Item) : Catalog :=
  catalog.setShelf item.kind ((catalog.shelf item.kind).insert item.name item)

def replaced? (catalog : Catalog) (item : Item) : Option Item :=
  catalog.get? item.kind item.name

def remove (catalog : Catalog) (kind : Kind) (name : String) : Catalog :=
  catalog.setShelf kind ((catalog.shelf kind).erase name)

/-- Changes the item filed under a name where it is, without filing it anew. -/
def modify (catalog : Catalog) (kind : Kind) (name : String) (change : Item → Item) : Catalog :=
  match catalog.get? kind name with
  | some item => catalog.setShelf kind ((catalog.shelf kind).insert name (change item))
  | none => catalog

def ofKind (catalog : Catalog) (kind : Kind) : List Item :=
  (catalog.shelf kind).map Prod.snd

def items (catalog : Catalog) : List Item :=
  Kind.all.flatMap catalog.ofKind

def size (catalog : Catalog) : Nat :=
  catalog.items.length

def findByName? (catalog : Catalog) (name : String) : Option Item :=
  Kind.all.findSome? fun kind => catalog.get? kind name

theorem get?_insert (catalog : Catalog) (item : Item) (kind : Kind) (name : String) :
    (catalog.insert item).get? kind name =
      if kind = item.kind ∧ item.name = name then some item else catalog.get? kind name := by
  unfold get? insert setShelf
  dsimp only
  by_cases sameKind : kind = item.kind
  · subst sameKind
    simp [Dict.get?_insert]
  · simp [sameKind]

theorem mem_items_of_get? {catalog : Catalog} {kind : Kind} {name : String} {item : Item}
    (found : catalog.get? kind name = some item) : item ∈ catalog.items :=
  List.mem_flatMap.2 ⟨kind, Kind.mem_all kind,
    List.mem_map.2 ⟨(name, item), Dict.mem_of_get? found, rfl⟩⟩

theorem mem_items_of_findByName? {catalog : Catalog} {name : String} {item : Item}
    (found : catalog.findByName? name = some item) : item ∈ catalog.items := by
  obtain ⟨kind, _, hit⟩ := List.exists_of_findSome?_eq_some found
  exact mem_items_of_get? hit

end Catalog

/-- A walk may ask for an item of a kind, or ask by name alone and check the kind of the answer. -/
inductive LookupRule where
  | byKind
  | byName
  deriving DecidableEq, Repr

structure Lookup where
  catalog : Catalog
  rule : LookupRule := .byKind

namespace Lookup

def find? (lookup : Lookup) (kind : Kind) (name : String) : Option Item :=
  match lookup.rule with
  | .byKind => lookup.catalog.get? kind name
  | .byName => (lookup.catalog.findByName? name).filter fun item => item.kind = kind

theorem mem_of_find? {lookup : Lookup} {kind : Kind} {name : String} {item : Item}
    (found : lookup.find? kind name = some item) : item ∈ lookup.catalog.items := by
  unfold find? at found
  split at found
  · exact Catalog.mem_items_of_get? found
  · obtain ⟨hit, _⟩ := Option.filter_eq_some_iff.1 found
    exact Catalog.mem_items_of_findByName? hit

end Lookup

end Provisioning
