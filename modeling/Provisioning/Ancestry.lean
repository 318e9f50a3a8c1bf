import Provisioning.Catalog

/-!
The ancestors of an item. Climbing stops at an item without a parent, at a parent that the catalog
does not hold, and at the first ancestor whose uid has been met before.
-/

namespace Provisioning

def Item.parentPlace? (item : Item) : Option (Kind × String) :=
  if item.parentName = "" then
    none
  else
    (item.kind.parentKind? item.isSubobject).map fun kind => (kind, item.parentName)

/-- An item whose parent is not found counts as a root. -/
def Item.parent? (item : Item) (lookup : Lookup) : Option Item :=
  item.parentPlace?.bind fun place => lookup.find? place.1 place.2

def Item.isOrphan (item : Item) (lookup : Lookup) : Bool :=
  item.parentPlace?.isSome && (item.parent? lookup).isNone

theorem Item.mem_of_parent? {item parent : Item} {lookup : Lookup}
    (found : item.parent? lookup = some parent) : parent ∈ lookup.catalog.items := by
  obtain ⟨place, _, hit⟩ := Option.bind_eq_some_iff.1 found
  exact Lookup.mem_of_find? hit

def Catalog.unmet (catalog : Catalog) (met : List String) : List Item :=
  catalog.items.filter fun item => !met.contains item.uid

theorem Catalog.length_unmet_cons_lt {catalog : Catalog} {met : List String} {item : Item}
    (member : item ∈ catalog.items) (new : met.contains item.uid = false) :
    (catalog.unmet (item.uid :: met)).length < (catalog.unmet met).length := by
  have narrowed : catalog.unmet (item.uid :: met) =
      (catalog.unmet met).filter fun other => other.uid != item.uid := by
    unfold Catalog.unmet
    rw [List.filter_filter]
    congr 1
    funext other
    simp [Bool.not_or, bne, Bool.beq_eq_decide_eq]
  rw [narrowed]
  refine List.length_filter_lt_length_iff_exists.2 ⟨item, ?_, by simp⟩
  unfold Catalog.unmet
  exact List.mem_filter.2 ⟨member, by rw [new]; rfl⟩

structure Visited where
  uids : List String := []

namespace Visited

def start (origin : Item) : Visited :=
  ⟨[origin.uid]⟩

def contains (visited : Visited) (item : Item) : Bool :=
  visited.uids.contains item.uid

def enter (visited : Visited) (item : Item) : Except ItemError Visited :=
  if visited.contains item then .error (.cycle item.name) else .ok ⟨item.uid :: visited.uids⟩

def size (visited : Visited) : Nat :=
  visited.uids.length

variable {visited met : Visited} {item : Item}

theorem enter_eq_ok_iff :
    visited.enter item = .ok met ↔ item.uid ∉ visited.uids ∧ met = ⟨item.uid :: visited.uids⟩ := by
  unfold enter contains
  by_cases seen : item.uid ∈ visited.uids
  · simp [seen]
  · simp [seen, eq_comm]

theorem enter_eq_error_iff {cause : ItemError} :
    visited.enter item = .error cause ↔ item.uid ∈ visited.uids ∧ cause = .cycle item.name := by
  unfold enter contains
  by_cases seen : item.uid ∈ visited.uids
  · simp [seen, eq_comm]
  · simp [seen]

def room (visited : Visited) (catalog : Catalog) : Nat :=
  (catalog.unmet visited.uids).length

theorem room_lt {catalog : Catalog} (member : item ∈ catalog.items)
    (entered : visited.enter item = .ok met) : met.room catalog < visited.room catalog := by
  obtain ⟨new, rfl⟩ := enter_eq_ok_iff.1 entered
  exact Catalog.length_unmet_cons_lt member (by simpa using new)

end Visited

/-- The ancestors of an item, nearest first, and the ancestor that closes a loop, if one does. -/
structure Ancestry where
  ancestors : List Item
  repeated : Option Item

namespace Ancestry

def climbFrom (lookup : Lookup) (visited : Visited) (current : Item) : Ancestry :=
  match found : current.parent? lookup with
  | none => ⟨[], none⟩
  | some parent =>
      match entered : visited.enter parent with
      | .error _ => ⟨[], some parent⟩
      | .ok met =>
          have _closer := Visited.room_lt (Item.mem_of_parent? found) entered
          let above := climbFrom lookup met parent
          ⟨parent :: above.ancestors, above.repeated⟩
termination_by visited.room lookup.catalog
decreasing_by exact _closer

end Ancestry

inductive Layer where
  | item (item : Item)
  | settings (settings : Settings)

namespace Item

def ancestry (item : Item) (lookup : Lookup) : Ancestry :=
  Ancestry.climbFrom lookup (Visited.start item) item

def layersFrom (lookup : Lookup) (settings : Settings) (visited : Visited) (current : Item) :
    Except ItemError (List Layer) :=
  match found : current.parent? lookup with
  | none => .ok [.item current, .settings settings]
  | some parent =>
      match entered : visited.enter parent with
      | .error cause => .error cause
      | .ok met =>
          have _closer := Visited.room_lt (mem_of_parent? found) entered
          (layersFrom lookup settings met parent).map (.item current :: ·)
termination_by visited.room lookup.catalog
decreasing_by exact _closer

def layers (item : Item) (lookup : Lookup) : Except ItemError (List Layer) :=
  layersFrom lookup item.settings (Visited.start item) item

def otherKindFrom (lookup : Lookup) (kind : Kind) (visited : Visited) (current : Item) :
    Except ItemError (Option Item) :=
  match found : current.parent? lookup with
  | none => .ok none
  | some parent =>
      match entered : visited.enter parent with
      | .error cause => .error cause
      | .ok met =>
          have _closer := Visited.room_lt (mem_of_parent? found) entered
          if parent.kind != kind then
            .ok (some parent)
          else
            otherKindFrom lookup kind met parent
termination_by visited.room lookup.catalog
decreasing_by exact _closer

def conceptualParent (item : Item) (lookup : Lookup) : Except ItemError (Option Item) :=
  otherKindFrom lookup item.kind (Visited.start item) item

/-- Keeps the name of the conceptual parent that was found; a failed search changes nothing. -/
def noteConceptualParent (item : Item) (lookup : Lookup) : Item :=
  match item.conceptualParent lookup with
  | .ok found => { item with foundParent := found.map Item.name }
  | .error _ => item

end Item

end Provisioning
