import Provisioning.Ancestry

/-!
The items below an item, depth first, each of them once. A child that leads back to an item on the
way down closes a loop and ends the search.
-/

namespace Provisioning

namespace Item

def child? (item : Item) (lookup : Lookup) (name : String) : Option Item :=
  item.kind.childKinds.findSome? fun kind => lookup.find? kind name

theorem mem_of_child? {item child : Item} {lookup : Lookup} {name : String}
    (found : item.child? lookup name = some child) : child ∈ lookup.catalog.items := by
  obtain ⟨kind, _, hit⟩ := List.exists_of_findSome?_eq_some found
  exact Lookup.mem_of_find? hit

end Item

inductive Finding where
  | item (item : Item)
  | missing (parent child : String)

structure Exploration where
  findings : List Finding
  looped : Option Item

structure Visit where
  item : Item
  pending : List String

namespace Exploration

def steps (path : List Visit) : Nat :=
  path.foldr (fun visit total => visit.pending.length + 1 + total) 0

def isOnPath (path : List Visit) (item : Item) : Bool :=
  path.any fun visit => visit.item.uid == item.uid

def note (finding : Finding) (exploration : Exploration) : Exploration :=
  { exploration with findings := finding :: exploration.findings }

/-- The search that remains on the way down `path`, innermost item first, when the items with the
uids `met` have been found. -/
def exploreFrom (lookup : Lookup) (met : List String) (path : List Visit) : Exploration :=
  match path with
  | [] => ⟨[], none⟩
  | ⟨_, []⟩ :: outer => exploreFrom lookup met outer
  | ⟨item, name :: pending⟩ :: outer =>
      match found : item.child? lookup name with
      | none =>
          note (.missing item.name name) (exploreFrom lookup met (⟨item, pending⟩ :: outer))
      | some child =>
          if isOnPath path child then
            ⟨[], some child⟩
          else
            match new : met.contains child.uid with
            | true => exploreFrom lookup met (⟨item, pending⟩ :: outer)
            | false =>
                have _closer := Catalog.length_unmet_cons_lt (Item.mem_of_child? found) new
                note (.item child)
                  (exploreFrom lookup (child.uid :: met)
                    (⟨child, child.children⟩ :: ⟨item, pending⟩ :: outer))
termination_by ((lookup.catalog.unmet met).length, steps path)
decreasing_by
  · exact Prod.Lex.right _ (by simp [steps])
  · exact Prod.Lex.right _ (by simp [steps])
  · exact Prod.Lex.right _ (by simp [steps])
  · exact Prod.Lex.left _ _ _closer

def item? : Finding → Option Item
  | .item item => some item
  | .missing _ _ => none

end Exploration

namespace Item

def explore (item : Item) (lookup : Lookup) : Exploration :=
  Exploration.exploreFrom lookup [] [⟨item, item.children⟩]

def descendants (item : Item) (lookup : Lookup) : Except ItemError (List Item) :=
  let exploration := item.explore lookup
  match exploration.looped with
  | some again => .error (.cycle again.name)
  | none => .ok (exploration.findings.filterMap Exploration.item?)

end Item

end Provisioning
