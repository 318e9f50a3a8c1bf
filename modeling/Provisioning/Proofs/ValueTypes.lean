import Provisioning.Proofs.ResolvedForm

/-!
The type of a resolved value. Own values are converted when they are stored, and lists when they are
read from the settings. Any other setting is passed on as it is, whatever its type.
-/

namespace Provisioning

/-- Whether a value is what an inheritable field of this shape is declared to hold. -/
def Shape.describes : Shape → Value → Bool
  | .inheritText, .str _ => true
  | .inheritList, .list items => items.all fun item => item.text?.isSome
  | .inheritBool, .bool _ => true
  | .inheritInt, .int _ => true
  | .inheritFloat, .float _ => true
  | .inheritChoice members, .str token => members.contains token
  | _, _ => false

theorem Shape.describes_ofTexts (texts : List String) :
    inheritList.describes (.ofTexts texts) = true := by
  simp [describes, Value.ofTexts, Value.text?]

theorem Slot.Fits.describes_toValue {shape : Shape} {slot : Slot} (fits : slot.Fits shape)
    (resolvable : shape.isResolvable = true) (unmapped : shape.isMapping = false)
    (owned : slot.isInherit = false) : shape.describes slot.toValue = true := by
  cases fits with
  | inheritText | inheritBool | inheritInt | inheritFloat => rfl
  | inheritList texts => exact Shape.describes_ofTexts texts
  | inheritChoice listed => exact List.contains_iff_mem.2 listed
  | inheritMap | inheritYamlMap => cases unmapped
  | inheritedScalar | inheritedChoice | inheritedMapping => cases owned
  | text | bool | int | float | choice | map | interfaces => cases resolvable

namespace Item

variable {item : Item} {property key : String} {shape : Shape} {value : Value}

theorem setting?_of_settledScalar (unlisted : shape ≠ .inheritList)
    (settled : item.settledScalar property key shape = .ok value) :
    item.setting? key = some value := by
  rcases settledScalar_eq_ok settled with ⟨list, _⟩ | ⟨_, given⟩
  · exact absurd list unlisted
  · exact given

theorem describes_of_settledList
    (settled : item.settledScalar property key .inheritList = .ok value) :
    Shape.inheritList.describes value = true := by
  rcases settledScalar_eq_ok settled with ⟨_, texts, rfl⟩ | ⟨unlisted, _⟩
  · exact Shape.describes_ofTexts texts
  · exact absurd rfl unlisted

end Item

section Resolving

variable {item top : Item} {ancestors : List Item} {lookup : Lookup} {field key : String}
  {shape : Shape} {value : Value}

theorem Climb.describes_ownValue (climb : Climb lookup item ancestors top)
    (reachable : item.Reachable) (catalog : lookup.catalog.Reachable)
    (stored : item.kind.storedShape? field = some shape) (resolvable : shape.isResolvable = true)
    (unmapped : shape.isMapping = false) {other : Item} (member : other ∈ item :: ancestors)
    (own : other.ownValue? field = some value) : shape.describes value = true := by
  have wellFormed := (climb.reachable_of_mem reachable catalog other member).wellFormed
  obtain ⟨slot, held, owned, rfl⟩ := Item.exists_slot_of_ownValue? own
  exact (wellFormed.fits_shared stored held).describes_toValue resolvable unmapped owned

theorem ParentWalk.memberFor_resolveScalar (walk : ParentWalk lookup item ancestors top)
    (reachable : item.Reachable) (catalog : lookup.catalog.Reachable) {members : List String}
    (keys : item.propertyKeys field = ⟨field, key⟩)
    (stored : item.kind.storedShape? field = some (.inheritChoice members)) {member : String}
    (resolved : item.resolveScalar field lookup = .ok value)
    (chosen : item.resolveChoice field lookup = .ok member) :
    ∃ token, value = .str token ∧ memberFor key members token = .ok member := by
  have scalar := walk.resolveScalar_nearest reachable catalog keys stored rfl rfl
  have choice := walk.resolveChoice_nearest reachable catalog keys stored
  have same := walk.climb.ownValue?_eq_ownMember? reachable catalog stored
  cases own : (item :: ancestors).findSome? (Item.ownMember? field) with
  | some held =>
      have owned : (item :: ancestors).findSome? (Item.ownValue? field) = some (.str held) := by
        rw [ResolvesNearest.findSome?_map same, own]
        rfl
      cases (scalar.1 _ owned).symm.trans resolved
      cases (choice.1 held own).symm.trans chosen
      obtain ⟨holder, listed, given⟩ := List.exists_of_findSome?_eq_some owned
      have described :=
        walk.climb.describes_ownValue reachable catalog stored rfl rfl listed given
      have canonical := Kind.isCanonical_of_stored stored
      have known : member ∈ members := List.contains_iff_mem.1 described
      exact ⟨member, rfl, (Shape.memberFor_self canonical rfl known key).2⟩
  | none =>
      have unowned : (item :: ancestors).findSome? (Item.ownValue? field) = none := by
        rw [ResolvesNearest.findSome?_map same, own]
        rfl
      have settled := scalar.settled_of_unowned unowned resolved
      have given := Item.setting?_of_settledScalar (by simp) settled
      obtain ⟨token, said, read⟩ :=
        Item.settledMember_eq_ok (choice.settled_of_unowned own chosen)
      exact ⟨token, Option.some.inj (given.symm.trans said), read⟩

end Resolving

/-- A value that an item of the walk owns, and any list, has the type that its field declares. What
comes from the settings instead is the setting itself. A choice reads as the member that it resolves
to as a choice. -/
theorem resolveScalar_described {item : Item} {lookup : Lookup} (reachable : item.Reachable)
    (catalog : lookup.catalog.Reachable) {field : Field} {shape : Shape}
    (declared : field ∈ item.kind.fields) (access : field.access = .property shape)
    (resolvable : shape.isResolvable = true) (unmapped : shape.isMapping = false) {value : Value}
    (resolved : item.resolveScalar field.resolutionName lookup = .ok value) :
    (∃ ancestors top, ParentWalk lookup item ancestors top) ∧
    ∀ ancestors top, ParentWalk lookup item ancestors top →
      ((∃ other ∈ item :: ancestors, other.ownValue? field.name ≠ none) ∨ shape = .inheritList →
        shape.describes value = true) ∧
      ((∀ other ∈ item :: ancestors, other.ownValue? field.name = none) → shape ≠ .inheritList →
        item.setting? field.terminusKey = some value) ∧
      ∀ members member, shape = .inheritChoice members →
        item.resolveChoice field.resolutionName lookup = .ok member →
        ∃ token, value = .str token ∧ memberFor field.terminusKey members token = .ok member := by
  refine ⟨exists_parentWalk lookup item, ?_⟩
  intro ancestors top walk
  have stored := Kind.storedShape?_of_mem declared access resolvable
  have keys := Item.propertyKeys_resolutionName declared access resolvable unmapped
  have nearest := walk.resolveScalar_nearest reachable catalog keys stored resolvable unmapped
  refine ⟨?_, ?_, ?_⟩
  · rintro (⟨other, member, owned⟩ | rfl)
    · cases found : (item :: ancestors).findSome? (Item.ownValue? field.name) with
      | none => exact absurd (List.findSome?_eq_none_iff.1 found other member) owned
      | some held =>
          cases (nearest.1 held found).symm.trans resolved
          obtain ⟨holder, listed, own⟩ := List.exists_of_findSome?_eq_some found
          exact walk.climb.describes_ownValue reachable catalog stored resolvable unmapped
            listed own
    · rcases nearest.source resolved with ⟨holder, listed, own⟩ | settled
      · exact walk.climb.describes_ownValue reachable catalog stored resolvable unmapped
          listed own
      · exact Item.describes_of_settledList settled
  · intro unowned unlisted
    have none := List.findSome?_eq_none_iff.2 unowned
    exact Item.setting?_of_settledScalar unlisted (nearest.settled_of_unowned none resolved)
  · rintro members member rfl chosen
    have named : field.resolutionName = field.name :=
      Kind.choice_resolutionName item.kind field declared members access
    rw [named] at keys resolved chosen
    exact walk.memberFor_resolveScalar reachable catalog keys stored resolved chosen

theorem resolveScalar_described_spelling :
    let item := Item.new .profile "0123456789abcdef0123456789abcdef"
      ⟨[("default_virt_disk_driver", .str " QCOW2")]⟩
    let lookup : Lookup := ⟨Catalog.empty, .byKind⟩
    item.resolveScalar "virt_disk_driver" lookup = .ok (.str " QCOW2") ∧
    item.resolveChoice "virt_disk_driver" lookup = .ok "qcow2" ∧
    item.setting? "virt_disk_driver" = some (.str " QCOW2") ∧
    ∃ token, Value.str " QCOW2" = .str token ∧
      memberFor "virt_disk_driver" (Choice.tokens DiskDriver) token = .ok "qcow2" := by
  intro item lookup
  have fresh : IsFreshUid "0123456789abcdef0123456789abcdef" := by decide
  have ordered : Settings.Ordered ⟨[("default_virt_disk_driver", .str " QCOW2")]⟩ :=
    OrderedMapping.nil.insert "default_virt_disk_driver" (Value.ordered_str " QCOW2")
  have reachable : item.Reachable := .new .profile fresh ordered
  have walk : ParentWalk lookup item [] item := .of_ended .here (by decide) rfl
  have keys : item.propertyKeys "virt_disk_driver" = ⟨"virt_disk_driver", "virt_disk_driver"⟩ := by
    rfl
  have stored : item.kind.storedShape? "virt_disk_driver" =
      some (.inheritChoice (Choice.tokens DiskDriver)) := by rfl
  have resolved : item.resolveScalar "virt_disk_driver" lookup = .ok (.str " QCOW2") := by
    rw [Item.resolveScalar_eq keys]
    rw [Item.nearestOwn?_eq_ancestry, walk.ancestry_eq]
    rfl
  have chosen : item.resolveChoice "virt_disk_driver" lookup = .ok "qcow2" := by
    have canonical : (Choice.tokens DiskDriver).find? (fun member =>
        Text.sameIgnoringCase member (Text.trim " QCOW2")) = some "qcow2" := by decide +kernel
    have settled : item.choiceTerminus "virt_disk_driver" (Choice.tokens DiskDriver) =
        .ok "qcow2" := by
      rw [Item.choiceTerminus_eq _ keys]
      change memberFor "virt_disk_driver" (Choice.tokens DiskDriver) " QCOW2" = _
      simp only [memberFor, canonical]
    rw [Item.resolveChoice_eq stored, settled]
    rw [Item.nearestOwn?_eq_ancestry, walk.ancestry_eq]
    rfl
  have declared : Schema.diskDriverField ∈ Kind.profile.fields := by decide +kernel
  obtain ⟨_, outcome⟩ :=
    resolveScalar_described reachable .empty declared (by rfl) (by rfl) (by rfl) resolved
  obtain ⟨_, passedOn, reads⟩ := outcome [] item walk
  refine ⟨resolved, chosen, ?_, reads (Choice.tokens DiskDriver) "qcow2" rfl chosen⟩
  exact passedOn (List.forall_mem_singleton.2 (by rfl)) (by simp)

/-- A number in the settings that is written as a text is resolved as a text. -/
theorem resolveScalar_undescribed :
    let item := Item.new .profile "0123456789abcdef0123456789abcdef"
      ⟨[("default_virt_ram", .str "2048")]⟩
    let lookup : Lookup := ⟨Catalog.empty, .byKind⟩
    item.Reachable ∧ lookup.catalog.Reachable ∧
    (∃ field ∈ item.kind.fields, field.resolutionName = "virt_ram" ∧
      field.access = .property .inheritInt) ∧
    item.resolveScalar "virt_ram" lookup = .ok (.str "2048") ∧
    Shape.inheritInt.describes (.str "2048") = false := by
  intro item lookup
  have fresh : IsFreshUid "0123456789abcdef0123456789abcdef" := by decide
  have ordered : Settings.Ordered ⟨[("default_virt_ram", .str "2048")]⟩ :=
    OrderedMapping.nil.insert "default_virt_ram" (Value.ordered_str "2048")
  have walk : ParentWalk lookup item [] item := .of_ended .here (by decide) rfl
  refine ⟨.new .profile fresh ordered, .empty, by decide +kernel, ?_, rfl⟩
  rw [Item.resolveScalar_eq (by rfl : item.propertyKeys "virt_ram" = ⟨"virt_ram", "virt_ram"⟩)]
  rw [Item.nearestOwn?_eq_ancestry, walk.ancestry_eq]
  rfl

end Provisioning
