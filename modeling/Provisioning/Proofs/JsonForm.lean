import Provisioning.Proofs.JsonValue
import Provisioning.Proofs.RawForm

/-!
Items that are kept as JSON. A kept item comes back with null for the numbers that JSON has not;
only where a property itself holds such a number is it refused.
-/

namespace Provisioning

namespace MapEntry

def carried : MapEntry → MapEntry
  | .set value => .set value.carried
  | .remove => .remove

theorem toValue_carried (entry : MapEntry) : entry.carried.toValue = entry.toValue.carried := by
  cases entry <;> simp [carried, toValue, Value.carried]

end MapEntry

namespace Overlay

def carried (overlay : Overlay) : Overlay :=
  ⟨overlay.entries.mapValues MapEntry.carried⟩

theorem get?_carried (overlay : Overlay) (key : String) :
    overlay.carried.get? key = (overlay.get? key).map MapEntry.carried :=
  Dict.get?_mapValues MapEntry.carried overlay.entries key

theorem toMapping_carried (overlay : Overlay) :
    overlay.carried.toMapping = overlay.toMapping.mapValues Value.carried := by
  simp [toMapping, carried, Dict.mapValues, MapEntry.toValue_carried]

theorem Stored.carried {overlay : Overlay} (stored : overlay.Stored) : overlay.carried.Stored where
  sorted := Dict.sorted_mapValues_iff.2 stored.sorted
  ordered := by
    intro key value member
    obtain ⟨⟨name, entry⟩, listed, same⟩ := List.mem_map.1 member
    obtain ⟨rfl, image⟩ := Prod.mk.inj same
    cases entry with
    | remove => cases image
    | set held => exact MapEntry.set.inj image ▸ (stored.ordered name held listed).carried
  unmarked := by
    intro key member
    obtain ⟨⟨name, entry⟩, listed, same⟩ := List.mem_map.1 member
    obtain ⟨rfl, image⟩ := Prod.mk.inj same
    cases entry with
    | remove => cases image
    | set held =>
        have marker : held = .str removalMarker :=
          Value.carried_eq_str_iff.1 (MapEntry.set.inj image)
        exact stored.unmarked name (marker ▸ listed)

end Overlay

theorem StoredInterfaces.carried {records : Dict Mapping} (stored : StoredInterfaces records) :
    StoredInterfaces (records.mapValues fun record => record.mapValues Value.carried) where
  sorted := Dict.sorted_mapValues_iff.2 stored.sorted
  ordered := by
    intro entry member
    obtain ⟨record, listed, rfl⟩ := List.mem_map.1 member
    have ordered := (stored.ordered record listed).carried
    rwa [Value.carried, Value.carriedEntries_eq] at ordered
  known := by
    intro entry member key listedKey
    obtain ⟨record, listed, rfl⟩ := List.mem_map.1 member
    refine stored.known record listed key ?_
    simpa [Dict.keys, Dict.mapValues, Function.comp_def] using listedKey

namespace Slot

def carried : Slot → Slot
  | .scalar (.own value) => .scalar (.own value.carried)
  | .mapping (.own overlay) => .mapping (.own overlay.carried)
  | .interfaces records =>
      .interfaces (records.mapValues fun record => record.mapValues Value.carried)
  | slot => slot

theorem toValue_carried (slot : Slot) : slot.carried.toValue = slot.toValue.carried := by
  cases slot with
  | scalar state => cases state <;> simp [carried, toValue, Value.carried]
  | choice state => cases state <;> simp [carried, toValue, Value.carried]
  | mapping state =>
      cases state with
      | inherit => simp [carried, toValue, Value.carried]
      | own overlay =>
          rw [carried, toValue, toValue, Value.carried, Value.carriedEntries_eq,
            overlay.toMapping_carried]
  | interfaces records =>
      rw [carried, toValue, toValue, Value.carried, Value.carriedEntries_eq]
      simp [Dict.mapValues, Value.carried, Value.carriedEntries_eq]

theorem carried_float {number : Float} (finite : number.isFinite = true) :
    carried (.scalar (.own (.float number))) = .scalar (.own (.float number)) := by
  rw [carried, Value.carried, if_pos finite]

theorem Fits.carried {shape : Shape} {slot : Slot} (fits : slot.Fits shape)
    (finite : ∀ number, slot = .scalar (.own (.float number)) → number.isFinite = true) :
    slot.carried.Fits shape := by
  have unchanged := fits
  cases fits with
  | float number | inheritFloat number => rwa [carried_float (finite number rfl)]
  | inheritList texts => rwa [Slot.carried, Value.carried_ofTexts]
  | map stored absent => exact .map stored.carried (by rw [Overlay.get?_carried, absent]; rfl)
  | inheritMap stored absent =>
      exact .inheritMap stored.carried (by rw [Overlay.get?_carried, absent]; rfl)
  | inheritYamlMap stored => exact .inheritYamlMap stored.carried
  | interfaces stored => exact .interfaces stored.carried
  | _ => exact unchanged

end Slot

theorem addAliases_mapValues (change : Value → Value) (dictionary : Mapping) :
    addAliases (dictionary.mapValues change) = (addAliases dictionary).mapValues change := by
  unfold addAliases
  generalize legacyAliases = aliases
  induction aliases generalizing dictionary with
  | nil => rfl
  | cons pair aliases ih =>
      rw [List.foldl_cons, List.foldl_cons, ← ih]
      congr 1
      rw [Dict.get?_mapValues]
      cases dictionary.get? pair.1 with
      | none => rfl
      | some value => exact (Dict.mapValues_insert change dictionary pair.2 value).symm

namespace Item

def carried (item : Item) : Item :=
  { item with slots := item.slots.mapValues Slot.carried }

theorem slot?_carried (item : Item) (name : String) :
    item.carried.slot? name = (item.slot? name).map Slot.carried :=
  Dict.get?_mapValues Slot.carried item.slots name

/-- Every float property that the item has a value of its own for holds a finite number. -/
def OwnsFinite (item : Item) : Prop :=
  ∀ name number, item.slot? name = some (.scalar (.own (.float number))) → number.isFinite = true

theorem ownsFinite_new (kind : Kind) (uid : String) (settings : Settings) :
    (Item.new kind uid settings).OwnsFinite := by
  intro name number found
  rw [slot?_new] at found
  obtain ⟨field, _, given⟩ := Option.bind_eq_some_iff.1 found
  obtain ⟨shape, _, start⟩ := Option.map_eq_some_iff.1 given
  generalize field.initial = given at start
  have zero : number = 0.0 := by
    cases shape <;> cases given <;> cases start <;> rfl
  rw [zero]
  decide

theorem OwnsFinite.setSlot {item : Item} (finite : item.OwnsFinite) (name : String) {slot : Slot}
    (slotFinite : ∀ number, slot = .scalar (.own (.float number)) → number.isFinite = true) :
    (item.setSlot name slot).OwnsFinite := by
  intro other number found
  unfold Item.setSlot slot? at found
  rw [Dict.get?_insert] at found
  split at found
  · exact slotFinite number (Option.some.inj found)
  · exact finite other number found

theorem WellFormed.carried {item : Item} (wellFormed : item.WellFormed)
    (finite : item.OwnsFinite) : item.carried.WellFormed :=
  { wellFormed with
    sorted := Dict.sorted_mapValues_iff.2 wellFormed.sorted
    stored := by
      intro name
      rw [slot?_carried, Option.isSome_map]
      exact wellFormed.stored name
    fits := by
      intro name shape slot stored found
      rw [slot?_carried] at found
      obtain ⟨held, hit, rfl⟩ := Option.map_eq_some_iff.1 found
      refine (wellFormed.fits name shape held stored hit).carried ?_
      rintro number rfl
      exact finite name number hit }

theorem derivationSource_carried (item : Item) (derivation : Derivation) :
    item.carried.derivationSource derivation = item.derivationSource derivation := by
  unfold derivationSource
  rw [slot?_carried]
  cases item.slot? derivation.sourceField with
  | none => rfl
  | some slot =>
      cases slot with
      | scalar state =>
          cases state with
          | inherit => rfl
          | own value =>
              cases value with
              | float number =>
                  by_cases finite : number.isFinite = true <;>
                    simp [Slot.carried, Value.carried, finite]
              | _ => rfl
      | choice state => rfl
      | mapping state => cases state <;> rfl
      | interfaces records => rfl

theorem coreValue_carried {item : Item} (wellFormed : item.WellFormed) (core : CoreField) :
    (item.coreValue core).carried = item.coreValue core := by
  cases core with
  | ctime => rw [coreValue, Value.carried, if_pos wellFormed.ctime]
  | mtime => rw [coreValue, Value.carried, if_pos wellFormed.mtime]
  | children => exact Value.carried_ofTexts item.children
  | _ => rfl

theorem rawValue_carried {item : Item} (wellFormed : item.WellFormed) (field : Field) :
    item.carried.rawValue field = (item.rawValue field).carried := by
  unfold rawValue
  split
  · exact (coreValue_carried wellFormed _).symm
  · simp only [derive, derivationSource_carried, Value.carried]
  · rw [slot?_carried]
    cases item.slot? field.name with
    | none => rfl
    | some slot => exact slot.toValue_carried

theorem rawDict_carried {item : Item} (wellFormed : item.WellFormed) :
    item.carried.rawDict = item.rawDict.mapValues Value.carried := by
  have entries : item.carried.kind.fields.map item.carried.rawEntry =
      Dict.mapValues Value.carried (item.kind.fields.map item.rawEntry) := by
    unfold Dict.mapValues
    rw [List.map_map]
    exact List.map_congr_left fun field _ => Prod.ext rfl (rawValue_carried wellFormed field)
  rw [rawDict, rawDict, entries, ← Dict.mapValues_ofList, addAliases_mapValues]

theorem serialize_carried {item : Item} (wellFormed : item.WellFormed) :
    item.carried.serialize = item.serialize.mapValues Value.carried := by
  rw [serialize_eq, serialize_eq, stripAliases_eq, stripAliases_eq, rawDict_carried wellFormed,
    Dict.mapValues_foldl_erase, Dict.mapValues_foldl_erase]
  rfl

theorem ofJson_toJson_serialize (item : Item) :
    Value.ofJson (Value.toJson (.dict item.serialize)) =
      .dict (item.serialize.mapValues Value.carried) := by
  rw [Value.ofJson_toJson, Value.carried, Value.carriedEntries_eq]

section Restoring

variable {kept current : Item}

theorem WellFormed.exists_restored_carried (keptFormed : kept.WellFormed)
    (currentFormed : current.WellFormed) (sameKind : current.kind = kept.kind)
    (finite : kept.OwnsFinite) :
    ∃ restored, current.applyDict (kept.serialize.mapValues Value.carried) = (restored, .ok ()) ∧
      restored.rawDict = kept.rawDict.mapValues Value.carried := by
  obtain ⟨restored, written, same⟩ := (keptFormed.carried finite).exists_restored currentFormed
    sameKind fun _ => mem_serialize_iff
  refine ⟨restored, ?_, ?_⟩
  · rw [← serialize_carried keptFormed]
    exact written
  · rw [← rawDict_carried keptFormed, same]
    rfl

/-- What a way through JSON leaves of a kept item is accepted by every item of its kind. It is the
kept item with null for each number in its mappings that is not finite. -/
theorem applyDict_json (keptReachable : kept.Reachable) (currentReachable : current.Reachable)
    (sameKind : current.kind = kept.kind) (finite : kept.OwnsFinite) :
    ∃ image restored, Value.ofJson (Value.toJson (.dict kept.serialize)) = .dict image ∧
      image = kept.serialize.mapValues Value.carried ∧
      current.applyDict image = (restored, .ok ()) ∧
      restored.rawDict = kept.rawDict.mapValues Value.carried ∧
      ((∀ entry ∈ kept.rawDict, entry.2.Finite) → restored.rawDict = kept.rawDict) := by
  obtain ⟨restored, written, raw⟩ := keptReachable.wellFormed.exists_restored_carried
    currentReachable.wellFormed sameKind finite
  refine ⟨_, restored, kept.ofJson_toJson_serialize, rfl, written, raw, ?_⟩
  intro allFinite
  have same : Dict.mapValues Value.carried kept.rawDict = Dict.mapValues id kept.rawDict :=
    List.map_congr_left fun entry member => by rw [(allFinite entry member).carried_eq]; rfl
  rw [raw, same]
  exact List.map_id _

end Restoring

theorem applyDict_json_named :
    let edits : List Edit := [.setName "web", .set "virt_file_size" (.float 2.5),
      .set "kernel_options" (.dict [("nice", .float 0.5)])]
    let changes : List Edit := [.setName "db", .set "virt_file_size" (.float 8.0)]
    let kept := (Item.new .profile "0123456789abcdef0123456789abcdef" {}).after edits
    let current := (Item.new .profile "fedcba9876543210fedcba9876543210" {}).after changes
    kept.OwnsFinite ∧ ∃ image restored,
      Value.ofJson (Value.toJson (.dict kept.serialize)) = .dict image ∧
      current.applyDict image = (restored, .ok ()) ∧
      restored.rawDict = kept.rawDict.mapValues Value.carried ∧
      Dict.get? restored.rawDict "virt_file_size" = some (.float 2.5) ∧
      Dict.get? restored.rawDict "kernel_options" = some (.dict [("nice", .float 0.5)]) := by
  intro edits changes kept current
  have keptFresh : IsFreshUid "0123456789abcdef0123456789abcdef" := by decide
  have currentFresh : IsFreshUid "fedcba9876543210fedcba9876543210" := by decide
  have editsPossible : ∀ edit ∈ edits, edit.Possible := by
    simp [edits, Edit.Possible, Value.Ordered, Value.OrderedEntries, Dict.Sorted]
  have changesPossible : ∀ edit ∈ changes, edit.Possible := by
    simp [changes, Edit.Possible, Value.Ordered]
  have keptReachable : kept.Reachable :=
    .after (.new .profile keptFresh OrderedMapping.nil) editsPossible
  have currentReachable : current.Reachable :=
    .after (.new .profile currentFresh OrderedMapping.nil) changesPossible
  let size := Slot.scalar (.own (.float 2.5))
  let options := Slot.mapping (.own ⟨[("nice", .set (.float 0.5))]⟩)
  have finite : kept.OwnsFinite := by
    let start := (Item.new .profile "0123456789abcdef0123456789abcdef" {}).after [.setName "web"]
    have startFinite : start.OwnsFinite := fun name number found =>
      ownsFinite_new .profile "0123456789abcdef0123456789abcdef" {} name number found
    have stored : kept = (start.setSlot "virt_file_size" size).setSlot "kernel_options" options := by
      rfl
    rw [stored]
    refine (startFinite.setSlot _ ?_).setSlot _ (by simp [options])
    intro number same
    rw [← Value.float.inj (Inheritable.own.inj (Slot.scalar.inj same))]
    decide
  have sameKind : current.kind = kept.kind :=
    (by rfl : current.kind = .profile).trans (by rfl : Kind.profile = kept.kind)
  obtain ⟨image, restored, carried, _, written, raw, _⟩ :=
    applyDict_json keptReachable currentReachable sameKind finite
  have sizeKept : Dict.get? kept.rawDict "virt_file_size" = some size.toValue :=
    get?_rawDict_of_slot (by rfl : kept.kind.storedShape? "virt_file_size" = some .inheritFloat)
      (by rfl)
  have optionsKept : Dict.get? kept.rawDict "kernel_options" = some options.toValue :=
    get?_rawDict_of_slot (by rfl : kept.kind.storedShape? "kernel_options" = some (.inheritMap true))
      (by rfl)
  refine ⟨finite, image, restored, carried, written, raw, ?_, ?_⟩
  · rw [raw, Dict.get?_mapValues, sizeKept]
    rfl
  · rw [raw, Dict.get?_mapValues, optionsKept]
    rfl

/-- A number that is not finite is lost from a mapping, and keeps an item from being restored where
it is a property. -/
theorem applyDict_json_infinite :
    let nice := (Edit.run (Item.new .profile "0123456789abcdef0123456789abcdef" {})
      (.set "kernel_options" (.dict [("nice", .float (1.0 / 0.0))]))).1
    let sized := (Edit.run (Item.new .profile "0123456789abcdef0123456789abcdef" {})
      (.set "virt_file_size" (.float (1.0 / 0.0)))).1
    let current := Item.new .profile "fedcba9876543210fedcba9876543210" {}
    nice.Reachable ∧ sized.Reachable ∧ current.Reachable ∧
    (∃ image restored, Value.ofJson (Value.toJson (.dict nice.serialize)) = .dict image ∧
      current.applyDict image = (restored, .ok ()) ∧ restored.rawDict ≠ nice.rawDict) ∧
    ∃ image, Value.ofJson (Value.toJson (.dict sized.serialize)) = .dict image ∧
      (current.applyDict image).2 =
        .error (.refused "virt_file_size" (.wrongType "float" .null)) := by
  intro nice sized current
  have fresh : IsFreshUid "0123456789abcdef0123456789abcdef" := by decide
  have currentFresh : IsFreshUid "fedcba9876543210fedcba9876543210" := by decide
  have start : (Item.new .profile "0123456789abcdef0123456789abcdef" {}).Reachable :=
    .new .profile fresh OrderedMapping.nil
  have nicePossible :
      Edit.Possible (.set "kernel_options" (.dict [("nice", .float (1.0 / 0.0))])) :=
    OrderedMapping.nil.insert "nice" (by simp [Value.Ordered])
  have sizedPossible : Edit.Possible (.set "virt_file_size" (.float (1.0 / 0.0))) := by
    simp [Edit.Possible, Value.Ordered]
  have niceReachable : nice.Reachable := .edit start nicePossible
  have currentReachable : current.Reachable := .new .profile currentFresh OrderedMapping.nil
  refine ⟨niceReachable, .edit start sizedPossible, currentReachable, ?_,
    _, sized.ofJson_toJson_serialize, by decide +kernel⟩
  have stored : nice = (Item.new .profile "0123456789abcdef0123456789abcdef" {}).setSlot
      "kernel_options" (.mapping (.own ⟨[("nice", .set (.float (1.0 / 0.0)))]⟩)) := by rfl
  have finite : nice.OwnsFinite := stored ▸ (ownsFinite_new _ _ _).setSlot _ (by simp)
  obtain ⟨restored, written, raw⟩ := niceReachable.wellFormed.exists_restored_carried
    currentReachable.wellFormed rfl finite
  refine ⟨_, restored, nice.ofJson_toJson_serialize, written, ?_⟩
  have shape : nice.kind.storedShape? "kernel_options" = some (.inheritMap true) := by rfl
  have held : nice.slot? "kernel_options" =
      some (.mapping (.own ⟨[("nice", .set (.float (1.0 / 0.0)))]⟩)) := by rfl
  have value : Dict.get? nice.rawDict "kernel_options" =
      some (.dict [("nice", .float (1.0 / 0.0))]) := get?_rawDict_of_slot shape held
  intro same
  have lost := congrArg (Dict.get? · "kernel_options") (raw.symm.trans same)
  simp only [Dict.get?_mapValues, value] at lost
  have nulled : Value.carried (.dict [("nice", .float (1.0 / 0.0))]) = .dict [("nice", .null)] := by
    rfl
  rw [Option.map_some, nulled] at lost
  cases lost

end Item

end Provisioning
