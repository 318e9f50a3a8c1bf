import Provisioning.Proofs.ItemState
import Provisioning.Proofs.Walks

/-!
The walk from an item to its parent, to the parent of that, and so on through a catalog of reachable
items. It ends at an item whose parent is not found or has a uid that was met on the way.
-/

namespace Provisioning

/-- Catalogs of reachable items, which may change where they are filed. -/
inductive Catalog.Reachable : Catalog → Prop
  | empty : Reachable Catalog.empty
  | insert {catalog item} : Reachable catalog → item.Reachable → Reachable (catalog.insert item)
  | remove {catalog} (kind name) : Reachable catalog → Reachable (catalog.remove kind name)
  | edit {catalog edit} (kind name) : Reachable catalog → Edit.Possible edit →
      Reachable (catalog.modify kind name fun item => (edit.run item).1)
  | search {catalog} (kind name lookup) : Reachable catalog →
      Reachable (catalog.modify kind name fun item => item.noteConceptualParent lookup)

namespace Catalog

def Filed (catalog : Catalog) : Prop :=
  ∀ kind name item, catalog.get? kind name = some item → item.Reachable ∧ item.kind = kind

theorem get?_setShelf (catalog : Catalog) (kind other : Kind) (items : Dict Item) (name : String) :
    (catalog.setShelf kind items).get? other name =
      if other = kind then items.get? name else catalog.get? other name := by
  unfold get? setShelf
  dsimp only
  split <;> rfl

theorem get?_remove (catalog : Catalog) (kind other : Kind) (name key : String) :
    (catalog.remove kind name).get? other key =
      if other = kind ∧ name = key then none else catalog.get? other key := by
  unfold remove
  rw [get?_setShelf, Dict.get?_erase]
  by_cases sameKind : other = kind
  · simp [sameKind, get?]
  · simp [sameKind]

theorem get?_modify (catalog : Catalog) (kind other : Kind) (name key : String)
    (change : Item → Item) :
    (catalog.modify kind name change).get? other key =
      if other = kind ∧ name = key then (catalog.get? kind name).map change
      else catalog.get? other key := by
  unfold modify
  cases held : catalog.get? kind name with
  | none =>
      by_cases same : other = kind ∧ name = key
      · obtain ⟨rfl, rfl⟩ := same
        simp [held]
      · simp [same]
  | some item =>
      simp only [Option.map_some]
      rw [get?_setShelf, Dict.get?_insert]
      by_cases sameKind : other = kind
      · simp [sameKind, get?]
      · simp [sameKind]

/-- Every item is as `property` has it for the kind and the name under which it is found. -/
def Stores (catalog : Catalog) (property : Kind → String → Item → Prop) : Prop :=
  ∀ kind name item, catalog.get? kind name = some item → property kind name item

section Stores

variable {catalog : Catalog} {property : Kind → String → Item → Prop}

theorem stores_empty : Catalog.empty.Stores property := by
  intro kind name item found
  cases found

theorem Stores.insert (stores : catalog.Stores property) {item : Item}
    (holds : property item.kind item.name item) : (catalog.insert item).Stores property := by
  intro kind name other found
  rw [get?_insert] at found
  split at found
  · rename_i same
    obtain ⟨rfl, rfl⟩ := same
    cases found
    exact holds
  · exact stores kind name other found

theorem Stores.remove (stores : catalog.Stores property) (kind : Kind) (name : String) :
    (catalog.remove kind name).Stores property := by
  intro other key item found
  rw [get?_remove] at found
  split at found
  · cases found
  · exact stores other key item found

theorem Stores.modify (stores : catalog.Stores property) {kind : Kind} {name : String}
    {change : Item → Item}
    (keeps : ∀ item, catalog.get? kind name = some item → property kind name item →
      property kind name (change item)) :
    (catalog.modify kind name change).Stores property := by
  intro other key item found
  rw [get?_modify] at found
  split at found
  · rename_i same
    obtain ⟨rfl, rfl⟩ := same
    obtain ⟨held, hit, rfl⟩ := Option.map_eq_some_iff.1 found
    exact keeps held hit (stores other name held hit)
  · exact stores other key item found

end Stores

theorem Reachable.filed {catalog : Catalog} (reachable : catalog.Reachable) : catalog.Filed := by
  change catalog.Stores fun kind _ item => item.Reachable ∧ item.kind = kind
  induction reachable with
  | empty => exact stores_empty
  | insert _ itemReachable ih => exact ih.insert ⟨itemReachable, rfl⟩
  | remove kind name _ ih => exact ih.remove kind name
  | @edit catalog edit kind name _ possible ih =>
      refine ih.modify ?_
      rintro item _ ⟨held, sameKind⟩
      exact ⟨held.edit possible, (item.run_keeps edit).1.trans sameKind⟩
  | search kind name lookup _ ih =>
      refine ih.modify ?_
      rintro item _ ⟨held, sameKind⟩
      exact ⟨held.search lookup, (item.noteConceptualParent_keeps lookup).1.trans sameKind⟩

end Catalog

theorem Lookup.find?_filed {lookup : Lookup} (catalog : lookup.catalog.Reachable) {kind : Kind}
    {name : String} {item : Item} (found : lookup.find? kind name = some item) :
    item.Reachable ∧ item.kind = kind := by
  unfold find? at found
  split at found
  · exact catalog.filed kind name item found
  · obtain ⟨hit, sameKind⟩ := Option.filter_eq_some_iff.1 found
    obtain ⟨shelf, _, held⟩ := List.exists_of_findSome?_eq_some hit
    exact ⟨(catalog.filed shelf name item held).1, by simpa using sameKind⟩

theorem Item.parent?_filed {lookup : Lookup} (catalog : lookup.catalog.Reachable)
    {item parent : Item} (found : item.parent? lookup = some parent) :
    parent.Reachable ∧ item.kind.parentKind? item.isSubobject = some parent.kind := by
  obtain ⟨place, filing, hit⟩ := Option.bind_eq_some_iff.1 found
  obtain ⟨reachable, sameKind⟩ := Lookup.find?_filed catalog hit
  refine ⟨reachable, ?_⟩
  unfold parentPlace? at filing
  split at filing
  · simp at filing
  · obtain ⟨kind, above, rfl⟩ := Option.map_eq_some_iff.1 filing
    rw [above, sameKind]

/-- Going from an item through its ancestors, nearest first, to the last of them. -/
inductive Climb (lookup : Lookup) : Item → List Item → Item → Prop
  | here {item} : Climb lookup item [] item
  | step {item parent above top} : item.parent? lookup = some parent →
      Climb lookup parent above top → Climb lookup item (parent :: above) top

/-- The parent walk of an item, which is cut where it would meet a uid again. -/
structure ParentWalk (lookup : Lookup) (item : Item) (ancestors : List Item) (top : Item) :
    Prop where
  climb : Climb lookup item ancestors top
  distinct : ((item :: ancestors).map Item.uid).Nodup
  stopped : ∀ again, top.parent? lookup = some again →
    again.uid ∈ (item :: ancestors).map Item.uid

namespace Ancestry

theorem climbFrom_of_climb {lookup : Lookup} {current top : Item} {ancestors : List Item}
    (climb : Climb lookup current ancestors top) {visited : Visited}
    (fresh : ∀ ancestor ∈ ancestors, ancestor.uid ∉ visited.uids)
    (distinct : (ancestors.map Item.uid).Nodup)
    (stopped : ∀ again, top.parent? lookup = some again →
      again.uid ∈ visited.uids ∨ again.uid ∈ ancestors.map Item.uid) :
    climbFrom lookup visited current = ⟨ancestors, top.parent? lookup⟩ := by
  induction climb generalizing visited with
  | @here item =>
      rw [climbFrom_eq]
      cases leads : item.parent? lookup with
      | none => rfl
      | some parent =>
          -- The climb stops at this item, so its parent must have been met before.
          have seen : parent.uid ∈ visited.uids := by simpa using stopped parent leads
          simp only [Visited.enter_eq_error_iff.2 ⟨seen, rfl⟩]
  | @step item parent above top found _ ih =>
      rw [List.map_cons, List.nodup_cons] at distinct
      have entered := Visited.enter_eq_ok_iff.2 ⟨fresh parent List.mem_cons_self, rfl⟩
      have rest : climbFrom lookup ⟨parent.uid :: visited.uids⟩ parent =
          ⟨above, top.parent? lookup⟩ := by
        -- The parent counts as met from here on; distinct uids keep the way above it fresh.
        refine ih ?_ distinct.2 ?_
        · intro ancestor member
          rw [List.mem_cons, not_or]
          refine ⟨?_, fresh ancestor (List.mem_cons_of_mem _ member)⟩
          intro same
          exact distinct.1 (same ▸ List.mem_map_of_mem member)
        · intro again leads
          have seen := stopped again leads
          rw [List.map_cons, List.mem_cons] at seen
          rw [List.mem_cons]
          tauto
      rw [climbFrom_eq, found]
      simp only [entered, rest]

theorem exists_climb (lookup : Lookup) (visited : Visited) (current : Item) :
    ∃ ancestors top, Climb lookup current ancestors top ∧
      (∀ ancestor ∈ ancestors, ancestor.uid ∉ visited.uids) ∧ (ancestors.map Item.uid).Nodup ∧
      ∀ again, top.parent? lookup = some again →
        again.uid ∈ visited.uids ∨ again.uid ∈ ancestors.map Item.uid := by
  induction visited, current using climbFrom.induct lookup with
  | case1 visited current ended =>
      refine ⟨[], current, .here, by simp, by simp, ?_⟩
      intro again leads
      rw [ended] at leads
      cases leads
  | case2 visited current parent found cause refused =>
      obtain ⟨seen, _⟩ := Visited.enter_eq_error_iff.1 refused
      refine ⟨[], current, .here, by simp, by simp, ?_⟩
      intro again leads
      rw [found] at leads
      cases leads
      exact Or.inl seen
  | case3 visited current parent found met entered _ ih =>
      obtain ⟨new, rfl⟩ := Visited.enter_eq_ok_iff.1 entered
      obtain ⟨above, top, climb, fresh, distinct, stopped⟩ := ih
      refine ⟨parent :: above, top, .step found climb, ?_, ?_, ?_⟩
      · intro ancestor member
        rcases List.mem_cons.1 member with rfl | later
        · exact new
        · exact fun seen => fresh ancestor later (List.mem_cons_of_mem _ seen)
      · rw [List.map_cons, List.nodup_cons]
        refine ⟨?_, distinct⟩
        intro again
        obtain ⟨ancestor, member, same⟩ := List.mem_map.1 again
        exact fresh ancestor member (same ▸ List.mem_cons_self)
      · intro again leads
        have seen := stopped again leads
        rw [List.mem_cons] at seen
        rw [List.map_cons, List.mem_cons]
        tauto

end Ancestry

namespace ParentWalk

variable {lookup : Lookup} {item top : Item} {ancestors : List Item}

theorem of_ended (climb : Climb lookup item ancestors top)
    (distinct : ((item :: ancestors).map Item.uid).Nodup) (ended : top.parent? lookup = none) :
    ParentWalk lookup item ancestors top where
  climb := climb
  distinct := distinct
  stopped := by
    intro again leads
    rw [ended] at leads
    cases leads

theorem ancestry_eq (walk : ParentWalk lookup item ancestors top) :
    item.ancestry lookup = ⟨ancestors, top.parent? lookup⟩ := by
  have distinct := walk.distinct
  rw [List.map_cons, List.nodup_cons] at distinct
  refine Ancestry.climbFrom_of_climb walk.climb ?_ distinct.2 ?_
  · intro ancestor member seen
    have same : ancestor.uid = item.uid := List.mem_singleton.1 seen
    exact distinct.1 (same ▸ List.mem_map_of_mem member)
  · intro again leads
    have seen := walk.stopped again leads
    rw [List.map_cons, List.mem_cons] at seen
    exact seen.imp_left List.mem_singleton.2

end ParentWalk

theorem exists_parentWalk (lookup : Lookup) (item : Item) :
    ∃ ancestors top, ParentWalk lookup item ancestors top := by
  obtain ⟨ancestors, top, climb, fresh, distinct, stopped⟩ :=
    Ancestry.exists_climb lookup (Visited.start item) item
  refine ⟨ancestors, top, climb, ?_, ?_⟩
  · rw [List.map_cons, List.nodup_cons]
    refine ⟨?_, distinct⟩
    intro again
    obtain ⟨ancestor, member, same⟩ := List.mem_map.1 again
    exact fresh ancestor member (List.mem_singleton.2 same)
  · intro again leads
    rw [List.map_cons, List.mem_cons]
    exact (stopped again leads).imp_left List.mem_singleton.1

namespace Climb

variable {lookup : Lookup} {item top : Item} {ancestors : List Item}

theorem top_mem (climb : Climb lookup item ancestors top) : top ∈ item :: ancestors := by
  induction climb with
  | here => exact List.mem_cons_self
  | step _ _ ih => exact List.mem_cons_of_mem _ ih

theorem mem_items (climb : Climb lookup item ancestors top) :
    ∀ ancestor ∈ ancestors, ancestor ∈ lookup.catalog.items := by
  induction climb with
  | here => simp
  | step found _ ih => exact List.forall_mem_cons.2 ⟨Item.mem_of_parent? found, ih⟩

theorem ancestors_filed (climb : Climb lookup item ancestors top)
    (catalog : lookup.catalog.Reachable) :
    ∀ ancestor ∈ ancestors, ancestor.Reachable ∧ ancestor.kind.hasTree = true := by
  induction climb with
  | here => simp
  | @step item parent above top found _ ih =>
      obtain ⟨reachable, parentKind⟩ := Item.parent?_filed catalog found
      intro ancestor member
      rcases List.mem_cons.1 member with rfl | later
      · exact ⟨reachable, Kind.hasTree_of_parentKind? parentKind⟩
      · exact ih ancestor later

theorem reachable_of_mem (climb : Climb lookup item ancestors top) (reachable : item.Reachable)
    (catalog : lookup.catalog.Reachable) : ∀ other ∈ item :: ancestors, other.Reachable :=
  List.forall_mem_cons.2
    ⟨reachable, fun other member => (climb.ancestors_filed catalog other member).1⟩

theorem height_le (climb : Climb lookup item ancestors top)
    (catalog : lookup.catalog.Reachable) :
    ∀ ancestor ∈ ancestors, item.kind.height ≤ ancestor.kind.height := by
  induction climb with
  | here => simp
  | @step item parent above top found _ ih =>
      obtain ⟨_, parentKind⟩ := Item.parent?_filed catalog found
      have lower := Kind.height_le_of_parentKind? parentKind
      intro ancestor member
      rcases List.mem_cons.1 member with rfl | later
      · exact lower
      · exact Nat.le_trans lower (ih ancestor later)

/-- Above an item that lacks a field which an item below it has, no item has the field. -/
theorem undeclared_above (climb : Climb lookup item ancestors top)
    (catalog : lookup.catalog.Reachable) {base : Kind} {name : String}
    (declared : base.hasField name = true) (below : base.height ≤ item.kind.height)
    (undeclared : item.hasProperty name = false) :
    ∀ other ∈ item :: ancestors, other.hasProperty name = false := by
  refine List.forall_mem_cons.2 ⟨undeclared, ?_⟩
  intro other member
  obtain ⟨field, fieldMember, rfl⟩ := Kind.hasField_iff.1 declared
  cases declaredAbove : other.hasProperty field.name with
  | false => rfl
  | true =>
      have between := Kind.declared_between below (climb.height_le catalog other member) field
        fieldMember declaredAbove
      exact absurd (undeclared.symm.trans between) Bool.false_ne_true

end Climb

end Provisioning
