import Provisioning.Proofs.ItemWrites
import Provisioning.Proofs.Schema

/-!
The states that items can reach. An item is made new or as a copy and changed by edits, refused
ones included; every state on the way has one fitting slot for each stored field of its kind.
-/

namespace Provisioning

def hexDigits : List Char :=
  "0123456789abcdef".toList

def IsFreshUid (uid : String) : Prop :=
  uid.toList.length = 32 ∧ uid.toList.all hexDigits.contains = true

instance (uid : String) : Decidable (IsFreshUid uid) :=
  inferInstanceAs (Decidable (_ ∧ _))

/-- Edits with values in key order and with a clock that shows a time. -/
def Edit.Possible : Edit → Prop
  | .set _ value => value.Ordered
  | .applyDict dictionary => OrderedMapping dictionary
  | .touch now => now.isFinite = true
  | _ => True

inductive Item.Reachable : Item → Prop
  | new {uid settings} (kind) : IsFreshUid uid → Settings.Ordered settings →
      Reachable (Item.new kind uid settings)
  | newSubobject {uid settings} (kind) : IsFreshUid uid → Settings.Ordered settings →
      Reachable (Item.newSubobject kind uid settings)
  | edit {item edit} : Reachable item → Edit.Possible edit → Reachable (edit.run item).1
  | duplicate {item uid} : Reachable item → IsFreshUid uid → Reachable (item.duplicate uid)
  | search {item} (lookup) : Reachable item → Reachable (item.noteConceptualParent lookup)

/-- The item after a run of edits, each of which may be accepted, refused or written in part. -/
def Item.after (item : Item) (edits : List Edit) : Item :=
  edits.foldl (fun item edit => (edit.run item).1) item

theorem Item.Reachable.after {item : Item} (reachable : item.Reachable) {edits : List Edit}
    (possible : ∀ edit ∈ edits, edit.Possible) : (item.after edits).Reachable := by
  induction edits generalizing item with
  | nil => exact reachable
  | cons edit edits ih =>
      obtain ⟨first, rest⟩ := List.forall_mem_cons.1 possible
      exact ih (reachable.edit first) rest

structure Item.WellFormed (item : Item) : Prop where
  sorted : Dict.Sorted item.slots
  stored : ∀ name, (item.slot? name).isSome = (item.kind.storedShape? name).isSome
  fits : ∀ name shape slot, item.kind.storedShape? name = some shape →
    item.slot? name = some slot → slot.Fits shape
  settings : item.settings.Ordered
  uidShown : isBlankText item.uid = false
  uidPlain : item.uid ≠ inheritToken
  name : item.name.toList.all Item.isNameCharacter = true
  parent : item.parentName.toList.all Item.isNameCharacter = true
  ctime : item.ctime.isFinite = true
  mtime : item.mtime.isFinite = true
  depth : 0 ≤ item.depth
  treeless : item.kind.hasTree = false →
    item.parentName = "" ∧ item.depth = 0 ∧ item.isSubobject = false
  childless : item.kind.hasChildren = false → item.childNames = []

theorem Text.trimChars_eq_self {characters : List Char}
    (shown : ∀ character ∈ characters, isBlank character = false) :
    trimChars characters = characters := by
  have keep (kept : List Char) (nonblank : ∀ character ∈ kept, isBlank character = false) :
      kept.dropWhile isBlank = kept := by
    cases kept with
    | nil => rfl
    | cons first rest => simp [nonblank first List.mem_cons_self]
  unfold trimChars trimEnd trimStart
  rw [keep characters shown, keep characters.reverse, List.reverse_reverse]
  intro character member
  exact shown character (List.mem_reverse.1 member)

theorem hexDigits_shown : hexDigits.all (fun digit => !Text.isBlank digit) = true := by
  decide

theorem IsFreshUid.shown {uid : String} (fresh : IsFreshUid uid) : isBlankText uid = false := by
  obtain ⟨length, hexadecimal⟩ := fresh
  have shown : ∀ character ∈ uid.toList, Text.isBlank character = false := by
    intro character member
    have digit := List.contains_iff_mem.1 (List.all_eq_true.1 hexadecimal character member)
    simpa using List.all_eq_true.1 hexDigits_shown character digit
  unfold isBlankText
  rw [Text.trimChars_eq_self shown]
  cases given : uid.toList with
  | nil => simp [given] at length
  | cons first rest => rfl

theorem IsFreshUid.plain {uid : String} (fresh : IsFreshUid uid) : uid ≠ inheritToken := by
  rintro rfl
  have length := fresh.1
  revert length
  decide

namespace Item

theorem initialSlot?_eq (field : Field) :
    initialSlot? field =
      field.storedShape?.map fun shape => (field.name, Slot.initial shape field.initial) := by
  unfold initialSlot? Field.storedShape? Field.shape?
  cases field.access with
  | core core => rfl
  | property shape => cases shape <;> rfl

theorem get?_initialSlots_of_fields {fields : List Field}
    (distinct : (fields.map Field.name).Nodup) (name : String) :
    Dict.get? (fields.filterMap initialSlot?) name =
      (fields.find? fun field => field.name == name).bind fun field =>
        field.storedShape?.map fun shape => Slot.initial shape field.initial := by
  induction fields with
  | nil => rfl
  | cons field fields ih =>
      obtain ⟨absent, rest⟩ := List.nodup_cons.1 distinct
      have later := ih rest
      rw [List.filterMap_cons, initialSlot?_eq]
      by_cases hit : field.name = name
      · subst hit
        have notBelow : (fields.find? fun other => other.name == field.name) = none := by
          refine List.find?_eq_none.2 ?_
          intro other member same
          exact absent (List.mem_map.2 ⟨other, member, by simpa using same⟩)
        rw [notBelow] at later
        cases start : field.storedShape? <;> simp [Dict.get?, start, later]
      · cases start : field.storedShape? <;> simp [Dict.get?, hit, later]

theorem nodup_initialSlot_keys {fields : List Field}
    (distinct : (fields.map Field.name).Nodup) :
    (Dict.keys (fields.filterMap initialSlot?)).Nodup := by
  unfold Dict.keys
  rw [List.nodup_iff_pairwise_ne, List.pairwise_map] at distinct ⊢
  refine List.Pairwise.filterMap initialSlot? ?_ distinct
  intro left right different entry start other otherStart
  rw [initialSlot?_eq] at start otherStart
  obtain ⟨_, _, rfl⟩ := Option.map_eq_some_iff.1 start
  obtain ⟨_, _, rfl⟩ := Option.map_eq_some_iff.1 otherStart
  exact different

theorem slot?_new (kind : Kind) (uid : String) (settings : Settings) (name : String) :
    (Item.new kind uid settings).slot? name =
      (kind.field? name).bind fun field =>
        field.storedShape?.map fun shape => Slot.initial shape field.initial := by
  change Dict.get? (Dict.ofList (kind.fields.filterMap initialSlot?)) name = _
  rw [Dict.get?_ofList (nodup_initialSlot_keys kind.nodup_names),
    get?_initialSlots_of_fields kind.nodup_names]
  rfl

theorem wellFormed_new (kind : Kind) {uid : String} {settings : Settings}
    (fresh : IsFreshUid uid) (ordered : settings.Ordered) :
    (Item.new kind uid settings).WellFormed where
  sorted := Dict.Sorted.ofList _
  stored := by
    intro name
    rw [slot?_new, Kind.storedShape?]
    change _ = ((kind.field? name).bind Field.storedShape?).isSome
    cases kind.field? name <;> simp
  fits := by
    intro name shape slot stored found
    rw [slot?_new] at found
    obtain ⟨field, declared, start⟩ := Option.bind_eq_some_iff.1 found
    obtain ⟨given, shapeOfField, rfl⟩ := Option.map_eq_some_iff.1 start
    have stored : kind.storedShape? name = some shape := stored
    have sameShape : given = shape := by
      rw [Kind.storedShape?, declared] at stored
      exact Option.some.inj (shapeOfField.symm.trans stored)
    subst sameShape
    exact Slot.initial_fits (Kind.admits_of_stored declared stored).1
  settings := ordered
  uidShown := fresh.shown
  uidPlain := fresh.plain
  name := rfl
  parent := rfl
  ctime := (by decide : (0.0 : Float).isFinite = true)
  mtime := (by decide : (0.0 : Float).isFinite = true)
  depth := (by decide : (0 : Int64) ≤ 0)
  treeless := fun _ => ⟨rfl, rfl, rfl⟩
  childless := fun _ => rfl

namespace WellFormed

variable {item written : Item}

theorem newSubobject (kind : Kind) {uid : String} {settings : Settings}
    (fresh : IsFreshUid uid) (ordered : settings.Ordered) :
    (Item.newSubobject kind uid settings).WellFormed :=
  { wellFormed_new kind fresh ordered with
    treeless := fun treeless => ⟨rfl, rfl, treeless⟩ }

theorem setSlot (wellFormed : item.WellFormed) {name : String} {shape : Shape} {slot : Slot}
    (stored : item.kind.storedShape? name = some shape) (fits : slot.Fits shape) :
    (item.setSlot name slot).WellFormed :=
  { wellFormed with
    sorted := wellFormed.sorted.insert name slot
    stored := by
      intro other
      change (Dict.get? (Dict.insert item.slots name slot) other).isSome = _
      rw [Dict.get?_insert]
      split
      · rename_i same
        subst same
        change _ = (item.kind.storedShape? name).isSome
        rw [stored]
        rfl
      · exact wellFormed.stored other
    fits := by
      intro other otherShape otherSlot otherStored found
      change Dict.get? (Dict.insert item.slots name slot) other = _ at found
      change item.kind.storedShape? other = _ at otherStored
      rw [Dict.get?_insert] at found
      split at found
      · rename_i same
        subst same
        cases found
        rw [stored] at otherStored
        cases otherStored
        exact fits
      · exact wellFormed.fits other otherShape otherSlot otherStored found }

theorem setUid (wellFormed : item.WellFormed) {uid : String} (plain : uid ≠ inheritToken)
    (accepted : item.setUid uid = .ok written) : written.WellFormed := by
  obtain ⟨shown, rfl⟩ := setUid_eq_ok_iff.1 accepted
  exact { wellFormed with uidShown := shown, uidPlain := plain }

theorem setName (wellFormed : item.WellFormed) {name : String}
    (accepted : item.setName name = .ok written) : written.WellFormed := by
  obtain ⟨allowed, rfl⟩ := setName_eq_ok_iff.1 accepted
  exact { wellFormed with name := allowed }

theorem setCreatedAt (wellFormed : item.WellFormed) {seconds : Float}
    (accepted : item.setCreatedAt seconds = .ok written) : written.WellFormed := by
  obtain ⟨finite, rfl⟩ := setCreatedAt_eq_ok_iff.1 accepted
  exact { wellFormed with ctime := finite }

theorem setModifiedAt (wellFormed : item.WellFormed) {seconds : Float}
    (accepted : item.setModifiedAt seconds = .ok written) : written.WellFormed := by
  obtain ⟨finite, rfl⟩ := setModifiedAt_eq_ok_iff.1 accepted
  exact { wellFormed with mtime := finite }

theorem setParent (wellFormed : item.WellFormed) {parent : String}
    (accepted : item.setParent parent = .ok written) : written.WellFormed := by
  obtain ⟨hasTree, allowed, rfl⟩ := setParent_eq_ok_iff.1 accepted
  exact { wellFormed with
    parent := allowed
    treeless := fun treeless => absurd hasTree (by simp [treeless]) }

theorem setDepth (wellFormed : item.WellFormed) {depth : Int64}
    (accepted : item.setDepth depth = .ok written) : written.WellFormed := by
  obtain ⟨hasTree, nonnegative, rfl⟩ := setDepth_eq_ok_iff.1 accepted
  exact { wellFormed with
    depth := nonnegative
    treeless := fun treeless => absurd hasTree (by simp [treeless]) }

theorem setIsSubobject (wellFormed : item.WellFormed) {isSubobject : Bool}
    (accepted : item.setIsSubobject isSubobject = .ok written) : written.WellFormed := by
  obtain ⟨hasTree, rfl⟩ := setIsSubobject_eq_ok_iff.1 accepted
  exact { wellFormed with treeless := fun treeless => absurd hasTree (by simp [treeless]) }

theorem setChildren (wellFormed : item.WellFormed) (names : List String) :
    (item.setChildren names).WellFormed := by
  unfold Item.setChildren
  split
  · rename_i hasChildren
    exact { wellFormed with childless := fun childless => absurd hasChildren (by simp [childless]) }
  · exact wellFormed

theorem addChild (wellFormed : item.WellFormed) (name : String) :
    (item.addChild name).WellFormed := by
  unfold Item.addChild
  split
  · rename_i accepted
    have hasChildren := (Bool.and_eq_true _ _ ▸ accepted : _ ∧ _).1
    exact { wellFormed with childless := fun childless => absurd hasChildren (by simp [childless]) }
  · exact wellFormed

theorem removeChild (wellFormed : item.WellFormed) (name : String) :
    (item.removeChild name).WellFormed :=
  { wellFormed with
    childless := by
      intro childless
      have none : item.childNames = [] := wellFormed.childless childless
      simp [Item.removeChild, none] }

theorem setCore (wellFormed : item.WellFormed) {core : CoreField} {value : Value}
    (accepted : item.setCore core value = .ok written) : written.WellFormed := by
  cases core <;> simp only [Item.setCore, Outcome.bind_eq_ok_iff, Outcome.pure_eq_ok,
    Except.ok.injEq, Convert.notInherited_eq_ok_iff] at accepted
  case uid =>
    obtain ⟨_, plain, uid, read, accepted⟩ := accepted
    exact wellFormed.setUid (Convert.text_ne_token read plain) accepted
  case name =>
    obtain ⟨_, _, accepted⟩ := accepted
    split at accepted
    · exact wellFormed.setName accepted
    · simp [Convert.refuse] at accepted
  case comment =>
    obtain ⟨comment, _, rfl⟩ := accepted
    exact { wellFormed with }
  case ctime =>
    obtain ⟨seconds, _, accepted⟩ := accepted
    exact wellFormed.setCreatedAt accepted
  case mtime =>
    obtain ⟨seconds, _, accepted⟩ := accepted
    exact wellFormed.setModifiedAt accepted
  case parent =>
    obtain ⟨_, _, parent, _, accepted⟩ := accepted
    exact wellFormed.setParent accepted
  case depth =>
    split at accepted
    · exact wellFormed.setDepth accepted
    · simp [Convert.refuse] at accepted
  case isSubobject =>
    split at accepted
    · exact wellFormed.setIsSubobject accepted
    · simp [Convert.refuse] at accepted
  case children =>
    obtain ⟨names, _, rfl⟩ := accepted
    exact wellFormed.setChildren names

theorem set (wellFormed : item.WellFormed) {name : String} {value : Value}
    (ordered : value.Ordered) (accepted : item.set name value = .ok written) :
    written.WellFormed := by
  obtain ⟨field, declared, ⟨core, _, accepted⟩ | ⟨shape, slot, access, read, rfl⟩⟩ :=
    set_eq_ok_iff.1 accepted
  · exact wellFormed.setCore accepted
  · have named := (Kind.mem_fields_of_field? declared).2
    have stored : item.kind.storedShape? field.name = some shape :=
      Kind.storedShape?_eq_some_iff.2
        ⟨field, named ▸ declared, access, Slot.isStored_of_coerce read⟩
    exact wellFormed.setSlot stored (Slot.coerce_fits read ordered)

theorem exists_slot (wellFormed : item.WellFormed) {name : String} {shape : Shape}
    (stored : item.kind.storedShape? name = some shape) :
    ∃ slot, item.slot? name = some slot ∧ slot.Fits shape := by
  have present := wellFormed.stored name
  rw [stored, Option.isSome_some, Option.isSome_iff_exists] at present
  obtain ⟨slot, found⟩ := present
  exact ⟨slot, found, wellFormed.fits name shape slot stored found⟩

theorem slot?_eq_none (wellFormed : item.WellFormed) {name : String}
    (undeclared : item.hasProperty name = false) : item.slot? name = none := by
  have unstored : item.kind.storedShape? name = none := by
    unfold hasProperty Kind.hasField at undeclared
    simp only [Option.isSome_eq_false_iff, Option.isNone_iff_eq_none] at undeclared
    simp [Kind.storedShape?, undeclared]
  have absent := wellFormed.stored name
  simpa [unstored] using absent

theorem inherit (wellFormed : item.WellFormed) {name : String}
    (accepted : item.inherit name = .ok written) : written.WellFormed := by
  simp only [Item.inherit, Outcome.bind_eq_ok_iff, field_eq_ok_iff] at accepted
  obtain ⟨field, declared, accepted⟩ := accepted
  split at accepted
  · rename_i resolvable
    cases accepted
    obtain ⟨shape, given, resolvable⟩ := (Option.any_eq_true _ _).1 resolvable
    have access : field.access = .property shape := by
      unfold Field.shape? at given
      split at given
      · rename_i other
        rw [other, Option.some.inj given]
      · simp at given
    have kept : shape.isStored = true := by
      cases shape with
      | derived _ => simp [Shape.isResolvable] at resolvable
      | _ => rfl
    have stored : item.kind.storedShape? name = some shape :=
      Kind.storedShape?_eq_some_iff.2 ⟨field, declared, access, kept⟩
    obtain ⟨slot, found, fits⟩ := wellFormed.exists_slot stored
    rw [(Kind.mem_fields_of_field? declared).2, found]
    exact wellFormed.setSlot stored (fits.inherited resolvable)
  · simp [Convert.refuse] at accepted

theorem applyEntries (entries : List (String × Value))
    (ordered : ∀ entry ∈ entries, entry.2.Ordered) (wellFormed : item.WellFormed) :
    (item.applyEntries entries).1.WellFormed := by
  induction entries generalizing item with
  | nil => exact wellFormed
  | cons entry entries ih =>
      have later := fun other member => ordered other (List.mem_cons_of_mem entry member)
      unfold Item.applyEntries
      dsimp only
      split
      · split
        · rename_i accepted
          exact ih later (wellFormed.set (ordered entry List.mem_cons_self) accepted)
        · exact wellFormed
      · exact ih later wellFormed

theorem applyDict (wellFormed : item.WellFormed) {dictionary : Mapping}
    (ordered : OrderedMapping dictionary) : (item.applyDict dictionary).1.WellFormed := by
  have applied := applyEntries dictionary (Value.ordered_dict_iff.1 ordered).2 wellFormed
  unfold Item.applyDict
  split <;> simpa only [*] using applied

theorem whole (wellFormed : item.WellFormed) {outcome : Except ItemError Item}
    (each : ∀ written, outcome = .ok written → written.WellFormed) :
    (Edit.whole item outcome).1.WellFormed := by
  cases outcome with
  | ok written => exact each written rfl
  | error cause => exact wellFormed

theorem edit (wellFormed : item.WellFormed) {edit : Edit} (possible : edit.Possible) :
    (edit.run item).1.WellFormed := by
  cases edit with
  | set name value => exact wellFormed.whole fun _ => wellFormed.set possible
  | inherit name => exact wellFormed.whole fun _ => wellFormed.inherit
  | setName name => exact wellFormed.whole fun _ => wellFormed.setName
  | setComment comment => exact { wellFormed with }
  | setCreatedAt seconds => exact wellFormed.whole fun _ => wellFormed.setCreatedAt
  | setModifiedAt seconds => exact wellFormed.whole fun _ => wellFormed.setModifiedAt
  | touch now => exact { wellFormed with mtime := possible }
  | setParent parent => exact wellFormed.whole fun _ => wellFormed.setParent
  | setDepth depth => exact wellFormed.whole fun _ => wellFormed.setDepth
  | setIsSubobject flag => exact wellFormed.whole fun _ => wellFormed.setIsSubobject
  | setChildren names => exact wellFormed.setChildren names
  | addChild name => exact wellFormed.addChild name
  | removeChild name => exact wellFormed.removeChild name
  | applyDict dictionary => exact wellFormed.applyDict possible

theorem noteConceptualParent (wellFormed : item.WellFormed) (lookup : Lookup) :
    (item.noteConceptualParent lookup).WellFormed := by
  unfold Item.noteConceptualParent
  split
  · exact { wellFormed with }
  · exact wellFormed

end WellFormed

theorem Reachable.wellFormed {item : Item} (reachable : item.Reachable) : item.WellFormed := by
  induction reachable with
  | new kind fresh ordered => exact wellFormed_new kind fresh ordered
  | newSubobject kind fresh ordered => exact .newSubobject kind fresh ordered
  | edit _ possible ih => exact ih.edit possible
  | duplicate _ fresh ih => exact { ih with uidShown := fresh.shown, uidPlain := fresh.plain }
  | search lookup _ ih => exact ih.noteConceptualParent lookup

theorem WellFormed.slot_fits {item : Item} (wellFormed : item.WellFormed) {name : String}
    {slot : Slot} (member : (name, slot) ∈ item.slots) :
    ∃ shape, item.kind.storedShape? name = some shape ∧ slot.Fits shape := by
  have found : item.slot? name = some slot :=
    (Dict.get?_eq_some_iff wellFormed.sorted.nodup_keys).2 member
  have stored : (item.kind.storedShape? name).isSome = true := by
    rw [← wellFormed.stored name, found]
    rfl
  obtain ⟨shape, stored⟩ := Option.isSome_iff_exists.1 stored
  exact ⟨shape, stored, wellFormed.fits name shape slot stored found⟩

theorem WellFormed.fits_shared {item : Item} (wellFormed : item.WellFormed) {base : Kind}
    {name : String} {shape : Shape} {slot : Slot} (stored : base.storedShape? name = some shape)
    (held : item.slot? name = some slot) : slot.Fits shape := by
  obtain ⟨given, storedThere, fits⟩ := wellFormed.slot_fits (Dict.mem_of_get? held)
  have agreed := Kind.storedShape?_agree stored (Kind.hasField_of_stored storedThere)
  obtain rfl : shape = given := Option.some.inj (agreed.symm.trans storedThere)
  exact fits

/-- What holds of an item after any run of edits, refused ones and partial ones included. -/
theorem reachable_state {item : Item} (reachable : item.Reachable) :
    (Dict.keys item.slots).Nodup ∧
    (∀ name, name ∈ Dict.keys item.slots ↔ ∃ shape, item.kind.storedShape? name = some shape) ∧
    (∀ name slot, (name, slot) ∈ item.slots →
      ∃ shape, item.kind.storedShape? name = some shape ∧ slot.Fits shape) ∧
    (∀ name text, (name, Slot.scalar (.own (.str text))) ∈ item.slots → text ≠ inheritToken) ∧
    (∀ name overlay, (name, Slot.mapping (.own overlay)) ∈ item.slots →
      (∀ key, (key, MapEntry.set (.str removalMarker)) ∉ overlay.entries) ∧
      (item.kind.storedShape? name ≠ some .inheritYamlMap → "" ∉ Dict.keys overlay.entries)) ∧
    item.name.toList.all isNameCharacter = true ∧
    item.parentName.toList.all isNameCharacter = true ∧
    isBlankText item.uid = false ∧
    item.ctime.isFinite = true ∧ item.mtime.isFinite = true ∧
    0 ≤ item.depth ∧
    (item.kind = .template → item.parentName = "" ∧ item.depth = 0 ∧ item.isSubobject = false) ∧
    (item.kind = .template ∨ item.kind = .system → item.childNames = []) := by
  have wellFormed := reachable.wellFormed
  refine ⟨wellFormed.sorted.nodup_keys, ?_, fun _ _ => wellFormed.slot_fits, ?_, ?_,
    wellFormed.name, wellFormed.parent, wellFormed.uidShown, wellFormed.ctime, wellFormed.mtime,
    wellFormed.depth, ?_, ?_⟩
  · intro name
    rw [Dict.mem_keys_iff, ← Option.isSome_iff_exists, ← wellFormed.stored name]
    rfl
  · intro name text member
    obtain ⟨shape, _, fits⟩ := wellFormed.slot_fits member
    exact fits.text_ne_token
  · intro name overlay member
    obtain ⟨shape, stored, fits⟩ := wellFormed.slot_fits member
    refine ⟨fits.overlay_stored.unmarked, ?_⟩
    intro notYaml
    exact Dict.get?_eq_none_iff.1 (fits.overlay_get?_empty fun yaml => notYaml (yaml ▸ stored))
  · intro template
    exact wellFormed.treeless (by rw [template]; rfl)
  · intro childless
    exact wellFormed.childless (by rcases childless with kind | kind <;> rw [kind] <;> rfl)

theorem state_after_partial_edit :
    let edits : List Edit := [.set "hostname" (.str "web01"),
      .set "virt_disk_driver" (.str "QCOW2"),
      .set "kernel_options" (.str "console=ttyS0 quiet=~"),
      .set "interfaces" (.dict [("eth0", .dict [("mtu", .int 1500)])]),
      .setDepth (-1),
      .applyDict [("hostname", .str "db01"), ("power_type", .str "steam")]]
    let item := (Item.new .system "0123456789abcdef0123456789abcdef" {}).after edits
    let options : Overlay := ⟨[("console", .set (.str "ttyS0")), ("quiet", .remove)]⟩
    (Dict.keys item.slots).Nodup ∧
    item.slot? "hostname" = some (.scalar (.own (.str "db01"))) ∧ "db01" ≠ inheritToken ∧
    (∃ shape, item.kind.storedShape? "virt_disk_driver" = some shape ∧
      (Slot.choice (.own "qcow2")).Fits shape) ∧
    (∃ shape, item.kind.storedShape? "interfaces" = some shape ∧
      (Slot.interfaces [("eth0", [("mtu", .int 1500)])]).Fits shape) ∧
    item.slot? "kernel_options" = some (.mapping (.own options)) ∧
    (∀ key, (key, .set (.str removalMarker)) ∉ options.entries) ∧
    "" ∉ Dict.keys options.entries ∧ 0 ≤ item.depth ∧ item.childNames = [] := by
  intro edits item options
  have fresh : IsFreshUid "0123456789abcdef0123456789abcdef" := by decide
  have possible : ∀ edit ∈ edits, edit.Possible := by
    have dictionary : OrderedMapping [("hostname", .str "db01"), ("power_type", .str "steam")] :=
      (OrderedMapping.nil.insert "power_type" (Value.ordered_str "steam")).insert "hostname"
        (Value.ordered_str "db01")
    simp [edits, Edit.Possible, dictionary, Value.Ordered, Value.OrderedEntries, Dict.Sorted]
  have reachable : item.Reachable := .after (.new .system fresh OrderedMapping.nil) possible
  have hostname : item.slot? "hostname" = some (.scalar (.own (.str "db01"))) := by rfl
  have driver : item.slot? "virt_disk_driver" = some (.choice (.own "qcow2")) := by rfl
  have held : item.slot? "kernel_options" = some (.mapping (.own options)) := by rfl
  have interfaces : item.slot? "interfaces" =
      some (.interfaces [("eth0", [("mtu", .int 1500)])]) := by rfl
  obtain ⟨nodup, _, fits, texts, overlays, _, _, _, _, _, depth, _, childless⟩ :=
    reachable_state reachable
  obtain ⟨unmarked, noEmptyKey⟩ := overlays "kernel_options" _ (Dict.mem_of_get? held)
  exact ⟨nodup, hostname, texts _ _ (Dict.mem_of_get? hostname),
    fits _ _ (Dict.mem_of_get? driver), fits _ _ (Dict.mem_of_get? interfaces), held, unmarked,
    noEmptyKey (by decide), depth, childless (Or.inr rfl)⟩

end Item

end Provisioning
