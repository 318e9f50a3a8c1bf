import Provisioning.Item.Flat
import Provisioning.Proofs.Layers

/-!
What an item resolves to depends on its parent walk only. An item that the walk does not come to may
be replaced by any other, and nothing that is read through the walk changes.
-/

namespace Provisioning

/-- The same places are taken in both catalogs, and by the same items but perhaps in one place. -/
structure Catalog.DiffersAt (left right : Catalog) (kind : Kind) (name : String) : Prop where
  places : ∀ other key, (left.get? other key).isSome = (right.get? other key).isSome
  elsewhere : ∀ other key, (other, key) ≠ (kind, name) → left.get? other key = right.get? other key

theorem Catalog.differsAt_insert (catalog : Catalog) {old new : Item} (kind : old.kind = new.kind)
    (name : old.name = new.name) :
    (catalog.insert old).DiffersAt (catalog.insert new) new.kind new.name where
  places := by
    intro other key
    rw [get?_insert, get?_insert, kind, name]
    by_cases there : other = new.kind ∧ new.name = key
    · rw [if_pos there, if_pos there]
      rfl
    · rw [if_neg there, if_neg there]
  elsewhere := by
    intro other key apart
    rw [get?_insert, get?_insert, kind, name]
    have absent : ¬(other = new.kind ∧ new.name = key) := by
      rintro ⟨rfl, rfl⟩
      exact apart rfl
    rw [if_neg absent, if_neg absent]

section Finding

variable {left right : Catalog} {rule : LookupRule} {kind : Kind} {name : String}

theorem Catalog.DiffersAt.findSome?_agree (differs : left.DiffersAt right kind name)
    (leftShelved : left.Shelved) (rightShelved : right.Shelved) (wanted : Kind) (key : String)
    (kinds : List Kind) :
    let find (catalog : Catalog) : Option Item :=
      (kinds.findSome? fun other => catalog.get? other key).filter fun item => item.kind = wanted
    (find left).isSome = (find right).isSome ∧
      ((wanted, key) ≠ (kind, name) → find left = find right) := by
  intro find
  induction kinds with
  | nil => exact ⟨rfl, fun _ => rfl⟩
  | cons other rest ih =>
      simp only [find, List.findSome?_cons]
      have places := differs.places other key
      cases leftHeld : left.get? other key with
      | none =>
          have rightHeld : right.get? other key = none := by simpa [leftHeld] using places.symm
          rw [rightHeld]
          exact ih
      | some leftItem =>
          rw [leftHeld] at places
          obtain ⟨rightItem, rightHeld⟩ := Option.isSome_iff_exists.1 places.symm
          have leftKind := leftShelved other key leftItem leftHeld
          have rightKind := rightShelved other key rightItem rightHeld
          rw [rightHeld]
          by_cases hit : other = wanted
          · subst hit
            simp only [Option.filter_some, leftKind, rightKind, decide_true, if_true]
            refine ⟨rfl, ?_⟩
            intro apart
            rw [← leftHeld, ← rightHeld]
            exact differs.elsewhere other key apart
          · simp only [Option.filter_some, leftKind, rightKind, hit, decide_false,
              Bool.false_eq_true, if_false, implies_true, and_self]

theorem Lookup.find?_agree (differs : left.DiffersAt right kind name)
    (shelved : rule = .byName → left.Shelved ∧ right.Shelved) (wanted : Kind) (key : String) :
    ((⟨left, rule⟩ : Lookup).find? wanted key).isSome =
        ((⟨right, rule⟩ : Lookup).find? wanted key).isSome ∧
      ((wanted, key) ≠ (kind, name) →
        (⟨left, rule⟩ : Lookup).find? wanted key = (⟨right, rule⟩ : Lookup).find? wanted key) := by
  cases rule with
  | byKind => exact ⟨differs.places wanted key, differs.elsewhere wanted key⟩
  | byName =>
      obtain ⟨leftShelved, rightShelved⟩ := shelved rfl
      exact differs.findSome?_agree leftShelved rightShelved wanted key Kind.all

theorem Item.parent?_agree (differs : left.DiffersAt right kind name)
    (shelved : rule = .byName → left.Shelved ∧ right.Shelved) (item : Item)
    (unvisited : item.parentPlace? = some (kind, name) → item.parent? ⟨left, rule⟩ = none) :
    item.parent? ⟨left, rule⟩ = item.parent? ⟨right, rule⟩ := by
  unfold parent? at unvisited ⊢
  cases filing : item.parentPlace? with
  | none => rfl
  | some place =>
      obtain ⟨wanted, key⟩ := place
      obtain ⟨present, same⟩ := Lookup.find?_agree differs shelved wanted key
      by_cases there : (wanted, key) = (kind, name)
      · -- Nothing is found in the one place that differs, so nothing is found there either way.
        rw [filing, there] at unvisited
        have missing := unvisited rfl
        simp only [Option.bind_some] at missing ⊢
        rw [Prod.mk.injEq] at there
        obtain ⟨rfl, rfl⟩ := there
        rw [missing] at present ⊢
        exact (Option.not_isSome_iff_eq_none.1 (by simp [← present])).symm
      · exact same there

end Finding

section Climbing

variable {left right : Lookup} {item top : Item} {ancestors : List Item}

theorem Climb.transfer (climb : Climb left item ancestors top)
    (agree : ∀ other ∈ item :: ancestors, other.parent? left = other.parent? right) :
    Climb right item ancestors top := by
  induction climb with
  | here => exact .here
  | @step item parent above top found _ ih =>
      have foundThere : item.parent? right = some parent := by
        rw [← agree item List.mem_cons_self]
        exact found
      exact .step foundThere (ih fun other member => agree other (List.mem_cons_of_mem _ member))

theorem ParentWalk.transfer (walk : ParentWalk left item ancestors top)
    (agree : ∀ other ∈ item :: ancestors, other.parent? left = other.parent? right) :
    ParentWalk right item ancestors top where
  climb := walk.climb.transfer agree
  distinct := walk.distinct
  stopped := by
    intro again leads
    rw [← agree top walk.climb.top_mem] at leads
    exact walk.stopped again leads

theorem ParentWalk.ancestry_agree (walk : ParentWalk left item ancestors top)
    (agree : ∀ other ∈ item :: ancestors, other.parent? left = other.parent? right) :
    item.ancestry left = item.ancestry right := by
  rw [walk.ancestry_eq, (walk.transfer agree).ancestry_eq, agree top walk.climb.top_mem]

end Climbing

namespace Item

variable {item : Item} {left right : Lookup}

theorem nearestOwn?_congr (same : item.ancestry left = item.ancestry right) {α : Type}
    (field : String) (state : Item → Except ItemError (Inheritable α)) :
    item.nearestOwn? field state left = item.nearestOwn? field state right := by
  rw [nearestOwn?_eq_ancestry, nearestOwn?_eq_ancestry, same]

theorem resolveScalar_congr (same : item.ancestry left = item.ancestry right) (property : String) :
    item.resolveScalar property left = item.resolveScalar property right := by
  unfold resolveScalar
  simp only [nearestOwn?_congr same]

theorem resolveChoice_congr (same : item.ancestry left = item.ancestry right) (property : String) :
    item.resolveChoice property left = item.resolveChoice property right := by
  unfold resolveChoice
  simp only [nearestOwn?_congr same]

theorem resolveMapping_congr (same : item.ancestry left = item.ancestry right)
    (property : String) :
    item.resolveMapping property left = item.resolveMapping property right := by
  unfold resolveMapping
  rw [mergedFrom_eq_ancestry, mergedFrom_eq_ancestry, same]

theorem resolvedDict_congr (same : item.ancestry left = item.ancestry right) :
    item.resolvedDict left = item.resolvedDict right := by
  have entries : item.resolvedEntry left = item.resolvedEntry right := by
    funext field
    unfold resolvedEntry resolvedValue
    rw [resolveMapping_congr same, resolveChoice_congr same, resolveScalar_congr same]
  unfold resolvedDict
  rw [entries]

theorem layers_congr (same : item.ancestry left = item.ancestry right) :
    item.layers left = item.layers right := by
  rw [layers_eq_ancestry, layers_eq_ancestry, same]

theorem conceptualParent_congr (same : item.ancestry left = item.ancestry right) :
    item.conceptualParent left = item.conceptualParent right := by
  rw [conceptualParent_eq_ancestry, conceptualParent_eq_ancestry, same]

end Item

/-- Replacing an item that the walk does not come to changes nothing that is read through the walk,
errors included. The walk does not go past a repeated uid, so nothing behind one is come to. -/
theorem same_results_of_unvisited {left right : Catalog} {rule : LookupRule} {kind : Kind}
    {name : String} (differs : left.DiffersAt right kind name)
    (shelved : rule = .byName → left.Shelved ∧ right.Shelved) {item top : Item}
    {ancestors : List Item} (walk : ParentWalk ⟨left, rule⟩ item ancestors top)
    (unvisited : ∀ other ∈ item :: ancestors, other.parentPlace? = some (kind, name) →
      other.parent? ⟨left, rule⟩ = none) :
    ParentWalk ⟨right, rule⟩ item ancestors top ∧
    item.resolvedDict ⟨left, rule⟩ = item.resolvedDict ⟨right, rule⟩ ∧
    (∀ property,
      item.resolveScalar property ⟨left, rule⟩ = item.resolveScalar property ⟨right, rule⟩ ∧
      item.resolveChoice property ⟨left, rule⟩ = item.resolveChoice property ⟨right, rule⟩ ∧
      item.resolveMapping property ⟨left, rule⟩ = item.resolveMapping property ⟨right, rule⟩) ∧
    item.layers ⟨left, rule⟩ = item.layers ⟨right, rule⟩ ∧
    item.conceptualParent ⟨left, rule⟩ = item.conceptualParent ⟨right, rule⟩ ∧
    item.noteConceptualParent ⟨left, rule⟩ = item.noteConceptualParent ⟨right, rule⟩ := by
  have agree : ∀ other ∈ item :: ancestors,
      other.parent? ⟨left, rule⟩ = other.parent? ⟨right, rule⟩ := by
    intro other member
    exact other.parent?_agree differs shelved (unvisited other member)
  have same := walk.ancestry_agree agree
  have parents := Item.conceptualParent_congr same
  refine ⟨walk.transfer agree, Item.resolvedDict_congr same, ?_, Item.layers_congr same, parents,
    ?_⟩
  · intro property
    exact ⟨Item.resolveScalar_congr same property, Item.resolveChoice_congr same property,
      Item.resolveMapping_congr same property⟩
  · unfold Item.noteConceptualParent
    rw [parents]

theorem same_results_beside_namesake :
    let web := (Edit.run (Item.new .profile "b" {}) (.setName "web")).1
    let old := (Edit.run (Item.new .distro "a" {}) (.setName "web")).1
    let new := (Edit.run (Item.new .distro "c" Settings.builtin) (.setName "web")).1
    let system := (Edit.run (Item.new .system "c" {}) (.setParent "web")).1
    let left := (Catalog.empty.insert web).insert old
    let right := (Catalog.empty.insert web).insert new
    left.DiffersAt right .distro "web" ∧ left.Shelved ∧ right.Shelved ∧ new.uid = system.uid ∧
    system.resolvedDict ⟨left, .byName⟩ = system.resolvedDict ⟨right, .byName⟩ := by
  intro web old new system left right
  have differs : left.DiffersAt right .distro "web" :=
    (Catalog.empty.insert web).differsAt_insert (by rfl : old.kind = new.kind) (by rfl)
  have shelved : (Catalog.empty.insert web).Shelved := Catalog.Shelved.empty.insert web
  have orphan : system.parent? ⟨left, .byName⟩ = none := by rfl
  have walk : ParentWalk ⟨left, .byName⟩ system [] system := .of_ended .here (by decide) orphan
  have unvisited : ∀ other ∈ [system], other.parentPlace? = some (.distro, "web") →
      other.parent? ⟨left, .byName⟩ = none :=
    List.forall_mem_singleton.2 fun _ => orphan
  obtain ⟨_, resolved, _⟩ := same_results_of_unvisited differs
    (fun _ => ⟨shelved.insert old, shelved.insert new⟩) walk unvisited
  exact ⟨differs, shelved.insert old, shelved.insert new, rfl, resolved⟩

end Provisioning
