import Provisioning.Proofs.ParentWalk
import Provisioning.Resolution

/-!
Which value a scalar or a choice resolves to: the own value of the nearest item that has one, and
the settings of the item itself where no item on the way up has one.
-/

namespace Provisioning

namespace Item

def ownValue? (field : String) (item : Item) : Option Value :=
  match item.slot? field with
  | some (.scalar state) => state.own?
  | some (.choice state) => state.own?.map .str
  | _ => none

def ownMember? (field : String) (item : Item) : Option String :=
  match item.slot? field with
  | some (.choice state) => state.own?
  | _ => none

end Item

/-- The first own value on a walk. Where there is none the search fails if the walk closes on itself
through items that all declare the field. -/
def nearestOutcome {α : Type} (field : String) (own? : Item → Option α) (walk : List Item)
    (repeated : Option Item) : Except ItemError (Option α) :=
  match walk.findSome? own? with
  | some value => .ok (some value)
  | none =>
      match repeated with
      | some again =>
          if (again :: walk).all fun item => item.hasProperty field then
            .error (.cycle again.name)
          else
            .ok none
      | none => .ok none

section Nearest

variable {α : Type} {field : String} {state : Item → Except ItemError (Inheritable α)}
  {own? : Item → Option α} {lookup : Lookup} {current top : Item} {ancestors : List Item}

/-- Along a walk `state` reads what the items that declare the field hold themselves, and the others
hold nothing. -/
structure Reads (field : String) (state : Item → Except ItemError (Inheritable α))
    (own? : Item → Option α) (walk : List Item) : Prop where
  declared : ∀ item ∈ walk, item.hasProperty field = true →
    ∃ held, state item = .ok held ∧ held.own? = own? item
  undeclared : ∀ item ∈ walk, item.hasProperty field = false → own? item = none

theorem Reads.tail {walk : List Item} {item : Item}
    (reads : Reads field state own? (item :: walk)) : Reads field state own? walk where
  declared := fun other member => reads.declared other (List.mem_cons_of_mem _ member)
  undeclared := fun other member => reads.undeclared other (List.mem_cons_of_mem _ member)

theorem nearestOutcome_cons_own {item : Item} {walk : List Item} {value : α}
    (own : own? item = some value) (repeated : Option Item) :
    nearestOutcome field own? (item :: walk) repeated = .ok (some value) := by
  simp [nearestOutcome, own]

theorem nearestOutcome_cons_inherit {item : Item} {walk : List Item} (inherits : own? item = none)
    (declared : item.hasProperty field = true) (repeated : Option Item) :
    nearestOutcome field own? (item :: walk) repeated =
      nearestOutcome field own? walk repeated := by
  simp [nearestOutcome, inherits, declared]

theorem nearestOutcome_undeclared {walk : List Item} (none : ∀ item ∈ walk, own? item = none)
    {item : Item} (member : item ∈ walk) (undeclared : item.hasProperty field = false)
    (repeated : Option Item) : nearestOutcome field own? walk repeated = .ok Option.none := by
  unfold nearestOutcome
  rw [List.findSome?_eq_none_iff.2 none]
  cases repeated with
  | none => rfl
  | some again =>
      refine if_neg ?_
      intro all
      have declared := List.all_eq_true.1 all item (List.mem_cons_of_mem again member)
      exact Bool.false_ne_true (undeclared.symm.trans declared)

theorem nearestAlong_of_climb (climb : Climb lookup current ancestors top)
    (catalog : lookup.catalog.Reachable) (declared : current.hasProperty field = true)
    (reads : Reads field state own? (current :: ancestors)) (repeated : Option Item) :
    Item.nearestAlong field state repeated current ancestors =
      nearestOutcome field own? (current :: ancestors) repeated := by
  induction climb with
  | @here item =>
      obtain ⟨held, read, own⟩ := reads.declared item List.mem_cons_self declared
      unfold Item.nearestAlong
      rw [read, Outcome.ok_bind]
      cases held with
      | own value => rw [nearestOutcome_cons_own own.symm]; rfl
      | inherit =>
          rw [nearestOutcome_cons_inherit own.symm declared]
          cases repeated with
          | none => rfl
          | some again =>
              simp only [nearestOutcome, List.findSome?_nil, List.all_cons, List.all_nil,
                Bool.and_true]
              split <;> rfl
  | @step item parent above top found climb ih =>
      obtain ⟨held, read, own⟩ := reads.declared item List.mem_cons_self declared
      unfold Item.nearestAlong
      rw [read, Outcome.ok_bind]
      cases held with
      | own value => rw [nearestOutcome_cons_own own.symm]; rfl
      | inherit =>
          rw [nearestOutcome_cons_inherit own.symm declared]
          dsimp only
          split
          · rename_i parentDeclared
            exact ih parentDeclared reads.tail
          · rename_i parentLacks
            -- The search stops at the parent. The walk goes on, but no item on it has the field.
            have undeclared : parent.hasProperty field = false := by simpa using parentLacks
            obtain ⟨_, parentKind⟩ := Item.parent?_filed catalog found
            have lacking := climb.undeclared_above catalog declared
              (Kind.height_le_of_parentKind? parentKind) undeclared
            have none : ∀ other ∈ parent :: above, own? other = Option.none := by
              intro other member
              exact reads.tail.undeclared other member (lacking other member)
            rw [nearestOutcome_undeclared none List.mem_cons_self undeclared]
            rfl

end Nearest

section Walking

variable {lookup : Lookup} {item top : Item} {ancestors : List Item} {field : String}

theorem Climb.reads_scalar (climb : Climb lookup item ancestors top) (reachable : item.Reachable)
    (catalog : lookup.catalog.Reachable) {shape : Shape}
    (stored : item.kind.storedShape? field = some shape) (resolvable : shape.isResolvable = true)
    (unmapped : shape.isMapping = false) :
    Reads field (Item.scalarState field) (Item.ownValue? field) (item :: ancestors) where
  declared := by
    intro other member declared
    have wellFormed := (climb.reachable_of_mem reachable catalog other member).wellFormed
    obtain ⟨slot, found, fits⟩ :=
      wellFormed.exists_slot (Kind.storedShape?_agree stored declared)
    unfold Item.scalarState Item.ownValue?
    rw [found]
    rcases fits.isScalar resolvable unmapped with ⟨state, rfl⟩ | ⟨state, rfl⟩
    · exact ⟨state, rfl, rfl⟩
    · exact ⟨state.map .str, rfl, by cases state <;> rfl⟩
  undeclared := by
    intro other member undeclared
    have wellFormed := (climb.reachable_of_mem reachable catalog other member).wellFormed
    rw [Item.ownValue?, wellFormed.slot?_eq_none undeclared]

theorem Climb.reads_choice (climb : Climb lookup item ancestors top) (reachable : item.Reachable)
    (catalog : lookup.catalog.Reachable) {members : List String}
    (stored : item.kind.storedShape? field = some (.inheritChoice members)) :
    Reads field (Item.choiceState field) (Item.ownMember? field) (item :: ancestors) where
  declared := by
    intro other member declared
    have wellFormed := (climb.reachable_of_mem reachable catalog other member).wellFormed
    obtain ⟨slot, found, fits⟩ :=
      wellFormed.exists_slot (Kind.storedShape?_agree stored declared)
    obtain ⟨state, rfl⟩ := fits.isChoice
    unfold Item.choiceState Item.ownMember?
    rw [found]
    exact ⟨state, rfl, rfl⟩
  undeclared := by
    intro other member undeclared
    have wellFormed := (climb.reachable_of_mem reachable catalog other member).wellFormed
    rw [Item.ownMember?, wellFormed.slot?_eq_none undeclared]

theorem ParentWalk.nearestOwn?_eq {α : Type} (walk : ParentWalk lookup item ancestors top)
    (catalog : lookup.catalog.Reachable) {state : Item → Except ItemError (Inheritable α)}
    {own? : Item → Option α} (declared : item.hasProperty field = true)
    (reads : Reads field state own? (item :: ancestors)) :
    item.nearestOwn? field state lookup =
      nearestOutcome field own? (item :: ancestors) (top.parent? lookup) := by
  rw [Item.nearestOwn?_eq_ancestry, walk.ancestry_eq]
  exact nearestAlong_of_climb walk.climb catalog declared reads _

end Walking

/-- A resolution takes the nearest own value on a walk. Where there is none it fails if the walk
closes on itself through items that all declare the field, and is settled otherwise. -/
def ResolvesNearest {α : Type} (field : String) (own? : Item → Option α) (walk : List Item)
    (repeated : Option Item) (settled outcome : Except ItemError α) : Prop :=
  (∀ value, walk.findSome? own? = some value → outcome = .ok value) ∧
  (walk.findSome? own? = none →
    (∀ again, repeated = some again →
      (∀ item ∈ again :: walk, item.hasProperty field = true) →
        outcome = .error (.cycle again.name)) ∧
    ((∀ again, repeated = some again →
      ∃ item ∈ again :: walk, item.hasProperty field = false) → outcome = settled))

def orSettled {α : Type} (settled : Except ItemError α)
    (found : Except ItemError (Option α)) : Except ItemError α :=
  found.bind fun hit => hit.elim settled .ok

theorem resolvesNearest_orSettled {α : Type} {field : String} {own? : Item → Option α}
    {walk : List Item} {repeated : Option Item} (settled : Except ItemError α) :
    ResolvesNearest field own? walk repeated settled
      (orSettled settled (nearestOutcome field own? walk repeated)) := by
  unfold nearestOutcome
  refine ⟨?_, fun none => ⟨?_, ?_⟩⟩
  · intro value nearest
    rw [nearest]
    rfl
  · intro again closes declared
    rw [none, closes]
    dsimp only
    rw [if_pos (List.all_eq_true.2 declared)]
    rfl
  · intro stays
    rw [none]
    cases repeated with
    | none => rfl
    | some again =>
        obtain ⟨item, member, undeclared⟩ := stays again rfl
        dsimp only
        rw [if_neg]
        · rfl
        · intro all
          exact Bool.false_ne_true (undeclared.symm.trans (List.all_eq_true.1 all item member))

namespace Item

/-- What the settings of an item say under a key, or else under the default for it, unless they only
say to inherit. -/
def setting? (item : Item) (key : String) : Option Value :=
  ((item.settings.get? key).or (item.settings.get? ("default_" ++ key))).filter fun value =>
    !Convert.isInheritToken value

def settledScalar (item : Item) (property key : String) (shape : Shape) :
    Except ItemError Value :=
  match item.setting? key with
  | none => .error (.unresolved item.name property)
  | some value =>
      if shape = .inheritList then (Convert.texts key value).map Value.ofTexts else .ok value

def settledMember (item : Item) (property key : String) (members : List String) :
    Except ItemError String :=
  match item.setting? key with
  | none => .error (.unresolved item.name property)
  | some (.str token) => memberFor key members token
  | some other => .error (.refused key (.settingType other.type))

variable {item : Item} {property field key : String}

theorem terminus?_eq (settings : Settings) (key : String) :
    settings.terminus? key = (settings.get? key).or (settings.get? ("default_" ++ key)) := by
  unfold Settings.terminus? Settings.defaultKey
  cases settings.get? key <;> rfl

theorem scalarTerminus_eq {shape : Shape} (keys : item.propertyKeys property = ⟨field, key⟩)
    (stored : item.kind.storedShape? field = some shape) :
    item.scalarTerminus property = item.settledScalar property key shape := by
  obtain ⟨declaration, found, access, _⟩ := Kind.storedShape?_eq_some_iff.1 stored
  have shapeOfField : (item.kind.field? field).bind Field.shape? = some shape := by
    simp [found, Field.shape?, access]
  unfold scalarTerminus settledScalar setting?
  simp only [keys, terminus?_eq]
  cases (item.settings.get? key).or (item.settings.get? ("default_" ++ key)) with
  | none => rfl
  | some value =>
      cases inherits : Convert.isInheritToken value with
      | true => simp [Option.filter, inherits, unresolved]
      | false =>
          simp only [Option.filter, inherits, Bool.false_eq_true, if_false, coerceTerminus,
            shapeOfField, Bool.not_false, if_true]
          cases shape <;> rfl

theorem choiceTerminus_eq (members : List String)
    (keys : item.propertyKeys property = ⟨field, key⟩) :
    item.choiceTerminus property members = item.settledMember property key members := by
  unfold choiceTerminus settledMember setting?
  simp only [keys, terminus?_eq]
  cases (item.settings.get? key).or (item.settings.get? ("default_" ++ key)) with
  | none => rfl
  | some value =>
      cases value with
      | str token =>
          by_cases inherits : token = inheritToken <;>
            simp [Option.filter, inherits, Convert.isInheritToken, unresolved]
      | _ => rfl

theorem property_eq_field {members : List String}
    (keys : item.propertyKeys property = ⟨field, key⟩)
    (stored : item.kind.storedShape? field = some (.inheritChoice members)) : property = field := by
  have fieldOf := congrArg PropertyKeys.field keys
  unfold propertyKeys at fieldOf
  dsimp only at fieldOf
  split at fieldOf
  · subst fieldOf
    have proxy := item.kind.proxy_members
    simp [stored, Shape.members?] at proxy
  · exact fieldOf

theorem resolveScalar_eq (keys : item.propertyKeys property = ⟨field, key⟩) (lookup : Lookup) :
    item.resolveScalar property lookup =
      orSettled (item.scalarTerminus property)
        (item.nearestOwn? field (scalarState field) lookup) := by
  unfold resolveScalar
  rw [keys]
  dsimp only
  cases item.nearestOwn? field (scalarState field) lookup with
  | error cause => rfl
  | ok hit => cases hit <;> rfl

theorem resolveChoice_eq {members : List String}
    (stored : item.kind.storedShape? property = some (.inheritChoice members)) (lookup : Lookup) :
    item.resolveChoice property lookup =
      orSettled (item.choiceTerminus property members)
        (item.nearestOwn? property (choiceState property) lookup) := by
  obtain ⟨declaration, declared, access, _⟩ := Kind.storedShape?_eq_some_iff.1 stored
  unfold resolveChoice
  rw [field_eq_ok_iff.2 declared, Outcome.ok_bind]
  simp only [Field.shape?, access, Option.bind_some, Shape.members?]
  cases item.nearestOwn? property (choiceState property) lookup with
  | error cause => rfl
  | ok hit => cases hit <;> rfl

end Item

section Resolving

variable {item top : Item} {ancestors : List Item} {lookup : Lookup} {property field key : String}

theorem ParentWalk.resolveScalar_nearest (walk : ParentWalk lookup item ancestors top)
    (reachable : item.Reachable) (catalog : lookup.catalog.Reachable) {shape : Shape}
    (keys : item.propertyKeys property = ⟨field, key⟩)
    (stored : item.kind.storedShape? field = some shape) (resolvable : shape.isResolvable = true)
    (unmapped : shape.isMapping = false) :
    ResolvesNearest field (Item.ownValue? field) (item :: ancestors) (top.parent? lookup)
      (item.settledScalar property key shape) (item.resolveScalar property lookup) := by
  have declared := Kind.hasField_of_stored stored
  have reads := walk.climb.reads_scalar reachable catalog stored resolvable unmapped
  rw [Item.resolveScalar_eq keys, Item.scalarTerminus_eq keys stored,
    walk.nearestOwn?_eq catalog declared reads]
  exact resolvesNearest_orSettled _

theorem ParentWalk.resolveChoice_nearest (walk : ParentWalk lookup item ancestors top)
    (reachable : item.Reachable) (catalog : lookup.catalog.Reachable) {members : List String}
    (keys : item.propertyKeys field = ⟨field, key⟩)
    (stored : item.kind.storedShape? field = some (.inheritChoice members)) :
    ResolvesNearest field (Item.ownMember? field) (item :: ancestors) (top.parent? lookup)
      (item.settledMember field key members) (item.resolveChoice field lookup) := by
  have declared := Kind.hasField_of_stored stored
  have reads := walk.climb.reads_choice reachable catalog stored
  rw [Item.resolveChoice_eq stored, Item.choiceTerminus_eq members keys,
    walk.nearestOwn?_eq catalog declared reads]
  exact resolvesNearest_orSettled _

end Resolving

/-- Nearest own values win, for scalars and for choices; the settings of the item come last. -/
theorem resolvesNearest_of_parentWalk {item : Item} {lookup : Lookup} (reachable : item.Reachable)
    (catalog : lookup.catalog.Reachable) {property field key : String} {shape : Shape}
    (keys : item.propertyKeys property = ⟨field, key⟩)
    (stored : item.kind.storedShape? field = some shape) (resolvable : shape.isResolvable = true)
    (unmapped : shape.isMapping = false) :
    (∃ ancestors top, ParentWalk lookup item ancestors top) ∧
    ∀ ancestors top, ParentWalk lookup item ancestors top →
      ResolvesNearest field (Item.ownValue? field) (item :: ancestors) (top.parent? lookup)
        (item.settledScalar property key shape) (item.resolveScalar property lookup) ∧
      ∀ members, shape = .inheritChoice members →
        ResolvesNearest field (Item.ownMember? field) (item :: ancestors) (top.parent? lookup)
          (item.settledMember property key members) (item.resolveChoice property lookup) := by
  refine ⟨exists_parentWalk lookup item, ?_⟩
  intro ancestors top walk
  refine ⟨walk.resolveScalar_nearest reachable catalog keys stored resolvable unmapped, ?_⟩
  rintro members rfl
  obtain rfl := Item.property_eq_field keys stored
  exact walk.resolveChoice_nearest reachable catalog keys stored

theorem resolveScalar_from_distro :
    let distro := (Edit.run (Edit.run (Item.new .distro "0123456789abcdef0123456789abcdef" {})
      (.setName "f40")).1 (.set "owners" (.list [.str "ops"]))).1
    let profile := (Edit.run (Item.new .profile "fedcba9876543210fedcba9876543210" {})
      (.setParent "f40")).1
    let lookup : Lookup := ⟨Catalog.empty.insert distro, .byKind⟩
    profile.resolveScalar "owners" lookup = .ok (.list [.str "ops"]) := by
  intro distro profile lookup
  have distroFresh : IsFreshUid "0123456789abcdef0123456789abcdef" := by decide
  have profileFresh : IsFreshUid "fedcba9876543210fedcba9876543210" := by decide
  have owned : Edit.Possible (.set "owners" (.list [.str "ops"])) :=
    Value.ofTexts_ordered ["ops"]
  have named : Edit.Possible (.setName "f40") := trivial
  have placed : Edit.Possible (.setParent "f40") := trivial
  have distroReachable : distro.Reachable :=
    .edit (.edit (.new .distro distroFresh OrderedMapping.nil) named) owned
  have profileReachable : profile.Reachable :=
    .edit (.new .profile profileFresh OrderedMapping.nil) placed
  have catalog : lookup.catalog.Reachable := .insert .empty distroReachable
  have walk : ParentWalk lookup profile [distro] distro :=
    .of_ended (.step (by rfl) .here) (by decide) rfl
  have keys : profile.propertyKeys "owners" = ⟨"owners", "default_ownership"⟩ := by rfl
  have stored : profile.kind.storedShape? "owners" = some .inheritList := by rfl
  obtain ⟨_, outcome⟩ := resolvesNearest_of_parentWalk profileReachable catalog keys stored rfl rfl
  exact (outcome [distro] distro walk).1.1 _ rfl

/-- A choice that is resolved as a scalar may come out in the spelling of the settings. -/
theorem resolveScalar_choice_as_spelled :
    let item := Item.new .profile "0123456789abcdef0123456789abcdef"
      ⟨[("default_virt_disk_driver", .str "QCOW2")]⟩
    let lookup : Lookup := ⟨Catalog.empty, .byKind⟩
    item.Reachable ∧ lookup.catalog.Reachable ∧
    item.propertyKeys "virt_disk_driver" = ⟨"virt_disk_driver", "virt_disk_driver"⟩ ∧
    item.kind.storedShape? "virt_disk_driver" =
      some (.inheritChoice (Choice.tokens DiskDriver)) ∧
    ParentWalk lookup item [] item ∧ item.parent? lookup = none ∧
    item.ownValue? "virt_disk_driver" = none ∧
    memberFor "virt_disk_driver" (Choice.tokens DiskDriver) "QCOW2" = .ok "qcow2" ∧
    item.resolveScalar "virt_disk_driver" lookup ≠ .ok (.str "qcow2") := by
  intro item lookup
  have fresh : IsFreshUid "0123456789abcdef0123456789abcdef" := by decide
  have ordered : Settings.Ordered ⟨[("default_virt_disk_driver", .str "QCOW2")]⟩ :=
    OrderedMapping.nil.insert "default_virt_disk_driver" (Value.ordered_str "QCOW2")
  have walk : ParentWalk lookup item [] item := .of_ended .here (by decide) rfl
  have keys : item.propertyKeys "virt_disk_driver" = ⟨"virt_disk_driver", "virt_disk_driver"⟩ := by
    rfl
  refine ⟨.new .profile fresh ordered, .empty, keys, by rfl, walk, by rfl, by rfl, ?_, ?_⟩
  · have canonical : (Choice.tokens DiskDriver).find? (fun member =>
        Text.sameIgnoringCase member (Text.trim "QCOW2")) = some "qcow2" := by decide +kernel
    simp only [memberFor, canonical]
  · have spelled : item.resolveScalar "virt_disk_driver" lookup = .ok (.str "QCOW2") := by
      rw [Item.resolveScalar_eq keys]
      rw [Item.nearestOwn?_eq_ancestry, walk.ancestry_eq]
      rfl
    simp [spelled]

end Provisioning
