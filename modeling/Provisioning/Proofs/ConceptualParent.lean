import Provisioning.Proofs.Layers

/-!
The conceptual parent of an item is the first item of another kind on its parent walk. It is found
there even when the walk closes on itself further up; the walk has to end only where there is none.
-/

namespace Provisioning

def Layer.item? : Layer → Option Item
  | .item held => some held
  | .settings _ => none

namespace ParentWalk

variable {lookup : Lookup} {item top : Item} {ancestors : List Item}

theorem conceptualParent_eq (walk : ParentWalk lookup item ancestors top) :
    item.conceptualParent lookup =
      match ancestors.find? (fun ancestor => ancestor.kind != item.kind) with
      | some nearest => .ok (some nearest)
      | none =>
          match top.parent? lookup with
          | some again => .error (.cycle again.name)
          | none => .ok none := by
  rewrite [Item.conceptualParent_eq_ancestry, walk.ancestry_eq]
  rfl

theorem conceptualParent_nearest {below above : List Item} {nearest : Item}
    (walk : ParentWalk lookup item (below ++ nearest :: above) top)
    (alike : ∀ other ∈ below, other.kind = item.kind) (differs : nearest.kind ≠ item.kind) :
    item.conceptualParent lookup = .ok (some nearest) := by
  have first : (below ++ nearest :: above).find? (fun ancestor => ancestor.kind != item.kind) =
      some nearest := by
    refine List.find?_eq_some_iff_append.2 ⟨by simpa using differs, below, above, rfl, ?_⟩
    intro other member
    simp [alike other member]
  rw [walk.conceptualParent_eq, first]

theorem conceptualParent_alike (walk : ParentWalk lookup item ancestors top)
    (alike : ∀ other ∈ ancestors, other.kind = item.kind) :
    item.conceptualParent lookup =
      match top.parent? lookup with
      | some again => .error (.cycle again.name)
      | none => .ok none := by
  have nowhere : ancestors.find? (fun ancestor => ancestor.kind != item.kind) = none := by
    refine List.find?_eq_none.2 ?_
    intro other member
    simp [alike other member]
  rw [walk.conceptualParent_eq, nowhere]

theorem conceptualParent_of_layers (walk : ParentWalk lookup item ancestors top)
    {layers : List Layer} (had : item.layers lookup = .ok layers) :
    item.conceptualParent lookup =
      .ok ((layers.filterMap Layer.item?).find? fun other => other.kind != item.kind) := by
  rw [walk.layers_eq] at had
  cases ends : top.parent? lookup with
  | some again =>
      rw [ends] at had
      cases had
  | none =>
      rw [ends] at had
      cases had
      have items : ((item :: ancestors).map Layer.item ++ [Layer.settings item.settings]).filterMap
          Layer.item? = item :: ancestors := by
        simp [List.filterMap_map, Function.comp_def, Layer.item?]
      rw [items, List.find?_cons_of_neg (by simp), walk.conceptualParent_eq, ends]
      cases ancestors.find? (fun ancestor => ancestor.kind != item.kind) <;> rfl

end ParentWalk

theorem Item.noteConceptualParent_of_ok {item : Item} {lookup : Lookup} {found : Option Item}
    (searched : item.conceptualParent lookup = .ok found) :
    item.noteConceptualParent lookup = { item with foundParent := found.map Item.name } := by
  unfold noteConceptualParent
  rw [searched]

theorem Item.noteConceptualParent_of_error {item : Item} {lookup : Lookup} {cause : ItemError}
    (searched : item.conceptualParent lookup = .error cause) :
    item.noteConceptualParent lookup = item := by
  unfold noteConceptualParent
  rw [searched]

/-- The nearest ancestor of another kind is found and its name is kept, wherever the walk leads from
there. Where every ancestor is of the same kind, a walk that ends finds nothing and keeps nothing,
and a walk that closes on itself fails as the layers do and leaves the item as it was. -/
theorem conceptualParent_of_parentWalk (item : Item) (lookup : Lookup) :
    (∃ ancestors top, ParentWalk lookup item ancestors top) ∧
    (∀ ancestors top, ParentWalk lookup item ancestors top →
      (∀ below nearest above, ancestors = below ++ nearest :: above →
        (∀ other ∈ below, other.kind = item.kind) → nearest.kind ≠ item.kind →
          item.conceptualParent lookup = .ok (some nearest) ∧
          item.noteConceptualParent lookup = { item with foundParent := some nearest.name }) ∧
      ((∀ other ∈ ancestors, other.kind = item.kind) →
        (top.parent? lookup = none →
          item.conceptualParent lookup = .ok none ∧
          item.noteConceptualParent lookup = { item with foundParent := none }) ∧
        ∀ again, top.parent? lookup = some again →
          item.conceptualParent lookup = .error (.cycle again.name) ∧
          item.layers lookup = .error (.cycle again.name) ∧
          item.noteConceptualParent lookup = item)) ∧
    ∀ layers, item.layers lookup = .ok layers →
      item.conceptualParent lookup =
        .ok ((layers.filterMap Layer.item?).find? fun other => other.kind != item.kind) := by
  refine ⟨exists_parentWalk lookup item, ?_, ?_⟩
  · intro ancestors top walk
    constructor
    · rintro below nearest above rfl alike differs
      have searched := walk.conceptualParent_nearest alike differs
      exact ⟨searched, Item.noteConceptualParent_of_ok searched⟩
    · intro alike
      have searched := walk.conceptualParent_alike alike
      constructor
      · intro ended
        rw [ended] at searched
        exact ⟨searched, Item.noteConceptualParent_of_ok searched⟩
      · intro again leads
        have layers := walk.layers_eq
        rw [leads] at searched layers
        exact ⟨searched, layers, Item.noteConceptualParent_of_error searched⟩
  · intro layers had
    obtain ⟨ancestors, top, walk⟩ := exists_parentWalk lookup item
    exact walk.conceptualParent_of_layers had

theorem conceptualParent_below_loop :
    let web := (Edit.run (Edit.run (Item.newSubobject .profile "a" {}) (.setName "web")).1
      (.setParent "db")).1
    let db := (Edit.run (Edit.run (Item.newSubobject .profile "b" {}) (.setName "db")).1
      (.setParent "web")).1
    let system := (Edit.run (Item.new .system "c" {}) (.setParent "web")).1
    let lookup : Lookup := ⟨(Catalog.empty.insert web).insert db, .byKind⟩
    (system.noteConceptualParent lookup).foundParent = some "web" ∧
      web.conceptualParent lookup = .error (.cycle "web") := by
  intro web db system lookup
  have foundWeb : lookup.find? .profile "web" = some web := by
    change ((Catalog.empty.insert web).insert db).get? .profile "web" = some web
    rw [Catalog.get?_insert, if_neg (by decide), Catalog.get?_insert, if_pos (by decide)]
  have foundDb : lookup.find? .profile "db" = some db := by
    change ((Catalog.empty.insert web).insert db).get? .profile "db" = some db
    rw [Catalog.get?_insert, if_pos (by decide)]
  have closes (again : Item) (leads : db.parent? lookup = some again) : again = web :=
    (Option.some.inj (foundWeb.symm.trans leads)).symm
  have systemWalk : ParentWalk lookup system [web, db] db := by
    refine ⟨.step foundWeb (.step foundDb .here), by decide, ?_⟩
    intro again leads
    rw [closes again leads]
    decide
  have webWalk : ParentWalk lookup web [db] db := by
    refine ⟨.step foundDb .here, by decide, ?_⟩
    intro again leads
    rw [closes again leads]
    decide
  obtain ⟨_, systemSearch, _⟩ := conceptualParent_of_parentWalk system lookup
  obtain ⟨_, webSearch, _⟩ := conceptualParent_of_parentWalk web lookup
  have kept := (systemSearch [web, db] db systemWalk).1 [] web [db] rfl (by simp) (by decide)
  have alike : ∀ other ∈ [db], other.kind = web.kind := List.forall_mem_singleton.2 (by rfl)
  have failed := (webSearch [db] db webWalk).2 alike
  exact ⟨congrArg Item.foundParent kept.2, (failed.2 web foundWeb).1⟩

end Provisioning
