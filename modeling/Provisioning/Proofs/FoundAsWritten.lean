import Provisioning.Proofs.FieldWrites
import Provisioning.Proofs.Lowercase
import Provisioning.Proofs.OptionValues
import Provisioning.Query

/-!
Finding an item by what was written to it. A stored mapping answers a criterion exactly where every
pair that the criterion names is a pair of the text the mapping was written as. A stored flag
answers the text it was written as, unless that is the word `on`, which a criterion does not know.
-/

namespace Provisioning

theorem MapEntry.toValue_ofValue (value : Value) : (MapEntry.ofValue value).toValue = value := by
  by_cases marked : value = .str removalMarker
  · rw [marked, ofValue_marker, toValue]
  · rw [ofValue_eq_set marked, toValue]

theorem Overlay.toMapping_ofMapping (mapping : Mapping) :
    (ofMapping mapping).toMapping = mapping := by
  simp [toMapping, ofMapping, Dict.mapValues, Function.comp_def, MapEntry.toValue_ofValue]

namespace Options

theorem Single.same_iff {value other : Value} (single : Single value) :
    value.same other = true ↔ value = other := by
  cases single <;> cases other <;> simp [Value.same]

theorem sameItems_iff {values others : List Value} (single : ∀ value ∈ values, Single value) :
    Value.sameItems values others = true ↔ values = others := by
  induction values generalizing others with
  | nil => cases others <;> simp [Value.sameItems]
  | cons value values ih =>
      obtain ⟨here, later⟩ := List.forall_mem_cons.1 single
      cases others with
      | nil => simp [Value.sameItems]
      | cons other others => simp [Value.sameItems, here.same_iff, ih later]

theorem Gathered.same_iff {value other : Value} (gathered : Gathered value) :
    value.same other = true ↔ value = other := by
  cases gathered with
  | single single => exact single.same_iff
  | several single => cases other <;> simp [Value.same, sameItems_iff single]

/-- Trimming changes no text of options that can be read after it. -/
theorem read_of_trimmed {multiple : Bool} {text : String} {options : Mapping}
    (trimmed : read multiple (Text.trim text) = .ok options) :
    read multiple text = .ok options := by
  obtain ⟨given, found, same⟩ := Outcome.map_eq_ok_iff.1 trimmed
  obtain ⟨words, split, read⟩ := Outcome.map_eq_ok_iff.1 found
  rw [Options.read, pairs, Text.words_of_trimmed split]
  simp only [Except.map, read, same]

end Options

theorem Convert.overlay_text {field text : String} {multiple : Bool} {overlay : Overlay}
    (kept : Text.trim text ≠ clearWord)
    (accepted : Convert.overlay field multiple (.str text) = .ok overlay) :
    Options.read multiple text = .ok overlay.toMapping := by
  have notCleared : Text.trimChars text.toList ≠ clearWord.toList := Text.trim_eq_iff.not.1 kept
  apply Options.read_of_trimmed
  unfold Convert.overlay at accepted
  by_cases empty : Text.trimChars text.toList = []
  · rw [Text.trim, empty]
    simp only [empty] at accepted
    cases accepted
    rfl
  · have shown : isCleared (Text.trimChars text.toList) = false := by
      simp [isCleared, empty, notCleared]
    simp only [shown, Bool.false_eq_true, if_false] at accepted
    rw [Text.trim]
    cases read : Options.read multiple (String.ofList (Text.trimChars text.toList)) with
    | error cause => simp [read] at accepted
    | ok options =>
        simp only [read, Except.ok.injEq] at accepted
        rw [← accepted, Overlay.toMapping_ofMapping]

namespace Query

variable {multiple : Bool} {text criterion : String} {options : Mapping}

theorem holdsEntry_iff (read : Options.read multiple text = .ok options) (pair : String × Value) :
    holdsEntry options pair = true ↔ pair ∈ options := by
  obtain ⟨key, wanted⟩ := pair
  rw [← Dict.get?_eq_some_iff (Options.read_ok read).1.sorted.nodup_keys, holdsEntry]
  cases held : Dict.get? options key with
  | none => simp
  | some value => simp [(Options.gathered_of_read read held).same_iff]

theorem compare_dict_iff (read : Options.read multiple text = .ok options) :
    compare criterion (.dict options) = .ok true ↔
      ∃ wanted, Options.read true criterion = .ok wanted ∧ wanted ⊆ options := by
  unfold compare
  cases Options.read true criterion with
  | error cause => simp
  | ok wanted => simp [List.all_eq_true, holdsEntry_iff read, List.subset_def]

theorem compare_dict_fails_iff :
    (∃ cause, compare criterion (.dict options) = .error cause) ↔
      ∃ cause, Options.read true criterion = .error cause := by
  unfold compare
  cases Options.read true criterion <;> simp

end Query

theorem Slot.coerce_options {field text : String} {multiple : Bool} {slot : Slot}
    (own : text ≠ inheritToken)
    (accepted : Slot.coerce field (.inheritMap multiple) (.str text) = .ok slot) :
    ∃ overlay, Convert.overlay field multiple (.str text) = .ok overlay ∧
      slot = .mapping (.own overlay) := by
  simp only [coerce, Outcome.bind_eq_ok_iff, Outcome.pure_eq_ok, Except.ok.injEq] at accepted
  obtain ⟨state, read, rfl⟩ := accepted
  rcases Convert.inheritable_eq_ok_iff.1 read with ⟨token, _⟩ | ⟨_, overlay, converted, rfl⟩
  · exact absurd (by simpa [Convert.isInheritToken] using token) own
  · exact ⟨overlay, converted, rfl⟩

theorem Slot.coerce_flag {field text : String} {slot : Slot}
    (accepted : Slot.coerce field .bool (.str text) = .ok slot) :
    slot = .scalar (.own (.bool
      (Convert.isTruthy text || Text.sameIgnoringCase (Text.trim text) "on"))) := by
  simp only [coerce, Outcome.bind_eq_ok_iff, Outcome.pure_eq_ok, Except.ok.injEq] at accepted
  obtain ⟨state, read, rfl⟩ := accepted
  obtain ⟨_, flag, converted, rfl⟩ := coerceOwn_eq_ok_iff.1 read
  rw [← Except.ok.inj converted]
  rfl

theorem Convert.isTruthy_of_on {text : String}
    (on : Text.sameIgnoringCase (Text.trim text) "on" = true) : isTruthy text = false := by
  have ascii : ∀ character ∈ "on".toList, character.toLower.toNat < 0x80 := by simp
  rw [isTruthy, Text.lower_of_sameIgnoringCase ascii on]
  decide

namespace Item

theorem get_of_set_property {item written : Item} {field : Field} {shape : Shape} {value : Value}
    (declared : field ∈ item.kind.fields) (access : field.access = .property shape)
    (accepted : item.set field.name value = .ok written) :
    ∃ slot, Slot.coerce field.name shape value = .ok slot ∧
      written.get field.name = .ok slot.toValue := by
  obtain ⟨other, found, write⟩ := set_eq_ok_iff.1 accepted
  obtain rfl : other = field := Kind.field?_agree found (Kind.field?_of_mem declared)
  rcases write with ⟨core, coreAccess, _⟩ | ⟨given, slot, givenAccess, read, rfl⟩
  · rw [access] at coreAccess
    cases coreAccess
  · obtain rfl : shape = given := Access.property.inj (access.symm.trans givenAccess)
    have declaredAfter : other ∈ (item.setSlot other.name slot).kind.fields := declared
    refine ⟨slot, read, ?_⟩
    rw [get_of_mem declaredAfter, rawValue_setSlot access (Slot.isStored_of_coerce read)]

def collectingFields : List String :=
  ["kernel_options", "kernel_options_post", "autoinstall_meta"]

theorem access_of_collecting {kind : Kind} : ∀ field ∈ kind.fields, field.name ∈ collectingFields →
    field.access = .property (.inheritMap true) :=
  kind.forall_fields (by decide)

theorem get_of_set_options {item written : Item} {name text : String}
    (collecting : name ∈ collectingFields) (own : text ≠ inheritToken)
    (kept : Text.trim text ≠ Convert.clearWord)
    (accepted : item.set name (.str text) = .ok written) :
    ∃ options, Options.read true text = .ok options ∧ written.get name = .ok (.dict options) := by
  obtain ⟨field, found, _⟩ := set_eq_ok_iff.1 accepted
  obtain ⟨declared, rfl⟩ := Kind.mem_fields_of_field? found
  obtain ⟨slot, read, shown⟩ :=
    get_of_set_property declared (access_of_collecting field declared collecting) accepted
  obtain ⟨overlay, converted, rfl⟩ := Slot.coerce_options own read
  exact ⟨overlay.toMapping, Convert.overlay_text kept converted, shown⟩

/-- A field of options is found by what was written to it: a criterion matches exactly where each
of its pairs is one of the text that was written, and fails exactly where it cannot be read. -/
theorem compare_of_set_options {item written : Item} {name text : String}
    (collecting : name ∈ collectingFields) (own : text ≠ inheritToken)
    (kept : Text.trim text ≠ Convert.clearWord)
    (accepted : item.set name (.str text) = .ok written) :
    ∃ stored options, written.get name = .ok stored ∧ Options.read true text = .ok options ∧
      (∀ criterion,
        (Query.compare criterion stored = .ok true ↔
          ∃ wanted, Options.read true criterion = .ok wanted ∧ wanted ⊆ options) ∧
        ((∃ cause, Query.compare criterion stored = .error cause) ↔
          ∃ cause, Options.read true criterion = .error cause)) ∧
      Query.compare text stored = .ok true := by
  obtain ⟨options, read, shown⟩ := get_of_set_options collecting own kept accepted
  refine ⟨.dict options, options, shown, read, ?_, ?_⟩
  · exact fun criterion => ⟨Query.compare_dict_iff read, Query.compare_dict_fails_iff⟩
  · exact (Query.compare_dict_iff read).2 ⟨options, read, List.Subset.refl options⟩

theorem compare_of_set_options_console :
    let item := Item.new .profile "0123456789abcdef0123456789abcdef" {}
    ∃ written stored,
      item.set "kernel_options" (.str " console=tty0 quiet=~ console=ttyS0,115200 ") = .ok written ∧
      written.get "kernel_options" = .ok stored ∧
      Query.compare "quiet=~" stored = .ok true ∧
      Query.compare "console=tty0" stored ≠ .ok true ∧
      ∃ cause, Query.compare "motd='hello" stored = .error cause := by
  intro item
  let options : Mapping :=
    [("console", .list [.str "tty0", .str "ttyS0,115200"]), ("quiet", .str "~")]
  let written := item.setSlot "kernel_options" (.mapping (.own (Overlay.ofMapping options)))
  have accepted : item.set "kernel_options"
      (.str " console=tty0 quiet=~ console=ttyS0,115200 ") = .ok written := by rfl
  obtain ⟨stored, given, shown, read, found, _⟩ :=
    compare_of_set_options (by decide) (by decide) (by decide) accepted
  have spelled : Options.read true " console=tty0 quiet=~ console=ttyS0,115200 " =
      .ok options := by rfl
  obtain rfl : options = given := Except.ok.inj (spelled.symm.trans read)
  refine ⟨written, stored, accepted, shown, ?_, ?_, ?_⟩
  · exact (found "quiet=~").1.2 ⟨[("quiet", .str "~")], by rfl, by simp [options]⟩
  · intro matched
    obtain ⟨wanted, wantedRead, listed⟩ := (found "console=tty0").1.1 matched
    have alone : Options.read true "console=tty0" = .ok [("console", .str "tty0")] := by rfl
    obtain rfl := Except.ok.inj (alone.symm.trans wantedRead)
    simp [options] at listed
  · exact (found "motd='hello").2.2 ⟨_, rfl⟩

/-- A flag is found by the text it was written as, except where that text is `on`: the write takes
this word for true, and a criterion takes it for false. -/
theorem compare_of_set_flag {item written : Item} {field : Field} {text : String}
    (declared : field ∈ item.kind.fields) (access : field.access = .property .bool)
    (accepted : item.set field.name (.str text) = .ok written) :
    let on := Text.sameIgnoringCase (Text.trim text) "on"
    ∃ flag, written.get field.name = .ok (.bool flag) ∧
      (Query.compare text (.bool flag) = .ok true ↔ on = false) ∧
      (on = true → flag = true ∧ Query.compare text (.bool flag) = .ok false) := by
  intro on
  obtain ⟨slot, read, shown⟩ := get_of_set_property declared access accepted
  rw [Slot.coerce_flag read] at shown
  refine ⟨Convert.isTruthy text || on, shown, ?_⟩
  have answer (flag : Bool) :
      Query.compare text (.bool flag) = .ok (Convert.isTruthy text == flag) := rfl
  rw [answer]
  cases spelled : on with
  | false => simp
  | true => simp [Convert.isTruthy_of_on spelled]

theorem compare_of_set_flag_yes :
    let item := Item.new .system "0123456789abcdef0123456789abcdef" {}
    ∃ written flag, item.set "netboot_enabled" (.str " Yes\t") = .ok written ∧
      written.get "netboot_enabled" = .ok (.bool flag) ∧
      Query.compare " Yes\t" (.bool flag) = .ok true := by
  intro item
  obtain ⟨field, declared, named, access⟩ : ∃ field ∈ item.kind.fields,
      field.name = "netboot_enabled" ∧ field.access = .property .bool := by decide
  let written := item.setSlot "netboot_enabled" (.scalar (.own (.bool true)))
  have accepted : item.set "netboot_enabled" (.str " Yes\t") = .ok written := by rfl
  obtain ⟨flag, shown, found, _⟩ := compare_of_set_flag declared access (named ▸ accepted)
  exact ⟨written, flag, accepted, named ▸ shown, found.2 (by decide)⟩

/-- The word `on` sets a flag and does not find it. -/
theorem compare_of_set_flag_on :
    let item := Item.new .system "0123456789abcdef0123456789abcdef" {}
    item.Reachable ∧ ∃ written, item.set "netboot_enabled" (.str "on") = .ok written ∧
      written.get "netboot_enabled" = .ok (.bool true) ∧
      Query.compare "on" (.bool true) = .ok false := by
  intro item
  have fresh : IsFreshUid "0123456789abcdef0123456789abcdef" := by decide
  have reachable : item.Reachable := .new .system fresh OrderedMapping.nil
  let written := item.setSlot "netboot_enabled" (.scalar (.own (.bool true)))
  exact ⟨reachable, written, by rfl, by rfl, by rfl⟩

end Item

end Provisioning
