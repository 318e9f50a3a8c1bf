import Provisioning.Proofs.OrderedValue
import Provisioning.Proofs.Outcome
import Provisioning.Slot

/-!
The states that a property of each shape can be in. A new property starts in such a state, every
accepted value leads to one, and the flat value of such a state is read back as the same state.
-/

namespace Provisioning

def Shape.isStored : Shape → Bool
  | .derived _ => false
  | _ => true

theorem Shape.isStored_of_isResolvable {shape : Shape} (resolvable : shape.isResolvable = true) :
    shape.isStored = true := by
  cases shape <;> first | rfl | contradiction

/-- An overlay as items hold it. The marker of a removal is never stored as a value. -/
structure Overlay.Stored (overlay : Overlay) : Prop where
  sorted : Dict.Sorted overlay.entries
  ordered : ∀ key value, (key, .set value) ∈ overlay.entries → value.Ordered
  unmarked : ∀ key, (key, .set (.str removalMarker)) ∉ overlay.entries

structure StoredInterfaces (records : Dict Mapping) : Prop where
  sorted : Dict.Sorted records
  ordered : ∀ record ∈ records, OrderedMapping record.2
  known : ∀ record ∈ records, ∀ key ∈ Dict.keys record.2, key ∈ interfaceFields

inductive Slot.Fits : Shape → Slot → Prop
  | text {text} : text ≠ inheritToken → Fits .text (.scalar (.own (.str text)))
  | bool flag : Fits .bool (.scalar (.own (.bool flag)))
  | int number : Fits .int (.scalar (.own (.int number)))
  | float number : Fits .float (.scalar (.own (.float number)))
  | choice {members member} : member ∈ members → Fits (.choice members) (.choice (.own member))
  | map {multiple overlay} : Overlay.Stored overlay → overlay.get? "" = none →
      Fits (.map multiple) (.mapping (.own overlay))
  | inheritText {text} : text ≠ inheritToken → Fits .inheritText (.scalar (.own (.str text)))
  | inheritList texts : Fits .inheritList (.scalar (.own (.ofTexts texts)))
  | inheritBool flag : Fits .inheritBool (.scalar (.own (.bool flag)))
  | inheritInt number : Fits .inheritInt (.scalar (.own (.int number)))
  | inheritFloat number : Fits .inheritFloat (.scalar (.own (.float number)))
  | inheritChoice {members member} : member ∈ members →
      Fits (.inheritChoice members) (.choice (.own member))
  | inheritMap {multiple overlay} : Overlay.Stored overlay → overlay.get? "" = none →
      Fits (.inheritMap multiple) (.mapping (.own overlay))
  | inheritYamlMap {overlay} : Overlay.Stored overlay →
      Fits .inheritYamlMap (.mapping (.own overlay))
  | interfaces {records} : StoredInterfaces records → Fits .interfaces (.interfaces records)
  | inheritedScalar {shape} : shape.isResolvable = true → shape.isMapping = false →
      shape.members? = none → Fits shape (.scalar .inherit)
  | inheritedChoice {members} : Fits (.inheritChoice members) (.choice .inherit)
  | inheritedMapping {shape} : shape.isResolvable = true → shape.isMapping = true →
      Fits shape (.mapping .inherit)

namespace Overlay

theorem stored_empty : Stored {} where
  sorted := List.Pairwise.nil
  ordered := by simp
  unmarked := by simp

theorem get?_ofMapping (mapping : Mapping) (key : String) :
    (ofMapping mapping).get? key = (Dict.get? mapping key).map MapEntry.ofValue :=
  Dict.get?_mapValues MapEntry.ofValue mapping key

end Overlay

namespace MapEntry

theorem ofValue_marker : ofValue (.str removalMarker) = .remove := by
  simp [ofValue]

theorem ofValue_eq_set {value : Value} (unmarked : value ≠ .str removalMarker) :
    ofValue value = .set value := by
  unfold ofValue
  split
  · rename_i text
    exact if_neg fun marked => unmarked (congrArg Value.str marked)
  · rfl

theorem eq_of_ofValue_eq_set {value stored : Value} (read : ofValue value = .set stored) :
    value = stored ∧ value ≠ .str removalMarker := by
  by_cases marked : value = .str removalMarker
  · simp [marked, ofValue_marker] at read
  · rw [ofValue_eq_set marked] at read
    exact ⟨MapEntry.set.inj read, marked⟩

end MapEntry

theorem Overlay.stored_ofMapping {mapping : Mapping} (ordered : OrderedMapping mapping) :
    (Overlay.ofMapping mapping).Stored where
  sorted := Dict.sorted_mapValues_iff.2 ordered.sorted
  ordered := by
    intro key stored member
    obtain ⟨⟨name, value⟩, present, read⟩ := List.mem_map.1 member
    obtain ⟨rfl, _⟩ := MapEntry.eq_of_ofValue_eq_set (Prod.mk.inj read).2
    exact (Value.ordered_dict_iff.1 ordered).2 _ present
  unmarked := by
    intro key member
    obtain ⟨⟨name, value⟩, _, read⟩ := List.mem_map.1 member
    obtain ⟨same, unmarked⟩ := MapEntry.eq_of_ofValue_eq_set (Prod.mk.inj read).2
    exact unmarked same

theorem MapEntry.ofValue_toValue_iff {entry : MapEntry} :
    ofValue entry.toValue = entry ↔ entry ≠ .set (.str removalMarker) := by
  cases entry with
  | remove => simp [toValue, ofValue_marker]
  | set value =>
      by_cases marked : value = .str removalMarker
      · simp [toValue, marked, ofValue_marker]
      · simp [toValue, marked, ofValue_eq_set marked]

theorem Overlay.ofMapping_toMapping_iff {overlay : Overlay} :
    ofMapping overlay.toMapping = overlay ↔
      ∀ key, (key, .set (.str removalMarker)) ∉ overlay.entries := by
  obtain ⟨entries⟩ := overlay
  have entrywise : ofMapping (toMapping ⟨entries⟩) = ⟨entries⟩ ↔
      ∀ entry ∈ entries, MapEntry.ofValue entry.2.toValue = entry.2 := by
    rw [Overlay.mk.injEq, ← List.forall₂_eq_eq_eq]
    simp only [ofMapping, toMapping, Dict.mapValues, List.map_map, List.forall₂_map_left_iff,
      List.forall₂_same, Function.comp_apply, Prod.ext_iff, true_and]
  rw [entrywise]
  constructor
  · intro kept key listed
    exact MapEntry.ofValue_toValue_iff.1 (kept _ listed) rfl
  · rintro unmarked ⟨key, entry⟩ listed
    refine MapEntry.ofValue_toValue_iff.2 ?_
    rintro rfl
    exact unmarked key listed

theorem Overlay.Stored.ofMapping_toMapping {overlay : Overlay} (stored : overlay.Stored) :
    Overlay.ofMapping overlay.toMapping = overlay :=
  ofMapping_toMapping_iff.2 stored.unmarked

theorem Overlay.get?_toMapping (overlay : Overlay) (key : String) :
    Dict.get? overlay.toMapping key = (overlay.get? key).map MapEntry.toValue :=
  Dict.get?_mapValues MapEntry.toValue overlay.entries key

theorem Overlay.Stored.toMapping_ordered {overlay : Overlay} (stored : overlay.Stored) :
    OrderedMapping overlay.toMapping := by
  refine Value.ordered_dict_iff.2 ⟨Dict.sorted_mapValues_iff.2 stored.sorted, ?_⟩
  intro entry member
  obtain ⟨⟨key, given⟩, listed, rfl⟩ := List.mem_map.1 member
  cases given with
  | set value => exact stored.ordered key value listed
  | remove => exact Value.ordered_str removalMarker

namespace Convert

theorem overlay_stored {field : String} {multiple : Bool} {value : Value} {result : Overlay}
    (found : overlay field multiple value = .ok result) (ordered : value.Ordered) :
    result.Stored ∧ result.get? "" = none := by
  unfold overlay at found
  split at found
  · cases found
    exact ⟨Overlay.stored_empty, rfl⟩
  · rename_i text
    dsimp only at found
    split at found
    · cases found
      exact ⟨Overlay.stored_empty, rfl⟩
    · split at found
      · rename_i options read
        cases found
        obtain ⟨optionsOrdered, absent⟩ := Options.read_ok read
        exact ⟨Overlay.stored_ofMapping optionsOrdered, by simp [Overlay.get?_ofMapping, absent]⟩
      · simp at found
  · rename_i entries
    cases found
    have erased : OrderedMapping (Dict.erase entries "") := OrderedMapping.erase ordered ""
    exact ⟨Overlay.stored_ofMapping erased, by simp [Overlay.get?_ofMapping, Dict.get?_erase]⟩
  · simp [refuse] at found

theorem yamlOverlay_stored {field : String} {value : Value} {result : Overlay}
    (found : yamlOverlay field value = .ok result) (ordered : value.Ordered) :
    result.Stored := by
  unfold yamlOverlay at found
  split at found
  · cases found
    exact Overlay.stored_empty
  · rename_i text
    split at found
    · cases found
      exact Overlay.stored_empty
    · split at found
      · simp at found
      · rename_i entries read
        cases found
        exact Overlay.stored_ofMapping (Yaml.read?_ordered read)
      · simp [refuse] at found
  · rename_i entries
    cases found
    exact Overlay.stored_ofMapping ordered
  · simp [refuse] at found

theorem overlay_toMapping {stored : Overlay} (kept : stored.Stored)
    (absent : stored.get? "" = none) (field : String) (multiple : Bool) :
    overlay field multiple (.dict stored.toMapping) = .ok stored := by
  have noEmptyKey : Dict.erase stored.toMapping "" = stored.toMapping := by
    apply Dict.erase_eq_self
    rw [Overlay.get?_toMapping, absent]
    rfl
  simp only [overlay, noEmptyKey, kept.ofMapping_toMapping]

theorem isInheritToken_eq_false_iff {value : Value} :
    isInheritToken value = false ↔ value ≠ .str inheritToken := by
  cases value <;> simp [isInheritToken]

theorem text_ne_token {field : String} {value : Value} {result : String}
    (found : text field value = .ok result) (plain : isInheritToken value = false) :
    result ≠ inheritToken := by
  unfold text at found
  split at found
  · cases found
    simpa using isInheritToken_eq_false_iff.1 plain
  · cases found
    decide
  · simp [refuse] at found

theorem texts_ofTexts (field : String) (items : List String) :
    texts field (.ofTexts items) = .ok items := by
  unfold texts Value.ofTexts
  dsimp only
  rw [Outcome.mapM_eq_ok_iff, List.forall₂_map_left_iff]
  exact List.forall₂_same.2 fun _ _ => rfl

theorem inheritable_eq_ok_iff {α : Type} {convert : Value → Except ItemError α} {value : Value}
    {state : Inheritable α} :
    inheritable convert value = .ok state ↔
      (isInheritToken value = true ∧ state = .inherit) ∨
        (isInheritToken value = false ∧
          ∃ converted, convert value = .ok converted ∧ state = .own converted) := by
  unfold inheritable
  cases isInheritToken value with
  | true => simp [eq_comm]
  | false => simp [Outcome.map_eq_ok_iff, @eq_comm _ _ state]

theorem notInherited_eq_ok_iff {field : String} {value : Value} {done : Unit} :
    notInherited field value = .ok done ↔ isInheritToken value = false := by
  unfold notInherited
  cases isInheritToken value <;> simp [refuse]

end Convert

namespace Slot

theorem coerceOwn_eq_ok_iff {α : Type} {field : String} {convert : Value → Except ItemError α}
    {value : Value} {state : Inheritable α} :
    coerceOwn field convert value = .ok state ↔
      Convert.isInheritToken value = false ∧
        ∃ converted, convert value = .ok converted ∧ state = .own converted := by
  simp only [coerceOwn, Outcome.bind_eq_ok_iff, Outcome.pure_eq_ok, Except.ok.injEq,
    Convert.notInherited_eq_ok_iff, exists_const, @eq_comm _ _ state]

theorem memberFor_mem {field : String} {members : List String} {token member : String}
    (found : memberFor field members token = .ok member) : member ∈ members := by
  unfold memberFor at found
  dsimp only at found
  split at found
  · rename_i hit
    cases found
    exact List.mem_of_find?_eq_some hit
  · simp at found

theorem memberValue_mem {field : String} {members : List String} {value : Value} {member : String}
    (found : memberValue field members value = .ok member) : member ∈ members := by
  unfold memberValue at found
  split at found
  · exact memberFor_mem found
  · simp [Convert.refuse] at found

theorem interfaceRecord_eq_ok_iff {field : String} {entry : String × Value}
    {record : String × Mapping} :
    interfaceRecord field entry = .ok record ↔
      entry = (record.1, .dict record.2) ∧ ∀ key ∈ Dict.keys record.2, key ∈ interfaceFields := by
  obtain ⟨name, value⟩ := entry
  obtain ⟨recordName, attributes⟩ := record
  cases value with
  | dict given =>
      simp only [interfaceRecord, Prod.mk.injEq, Value.dict.injEq]
      cases unknown : (Dict.keys given).find? fun key => !interfaceFields.contains key with
      | some key =>
          have member := List.mem_of_find?_eq_some unknown
          have strange := List.find?_some unknown
          simp only [Bool.not_eq_true', List.contains_eq_mem, decide_eq_false_iff_not] at strange
          simp only [Convert.refuse, reduceCtorEq, false_iff]
          rintro ⟨⟨_, rfl⟩, known⟩
          exact strange (known key member)
      | none =>
          have known := List.find?_eq_none.1 unknown
          simp only [Bool.not_eq_true', List.contains_eq_mem, decide_eq_false_iff_not,
            not_not] at known
          simp only [Except.ok.injEq, Prod.mk.injEq]
          constructor
          · rintro ⟨rfl, rfl⟩
            exact ⟨⟨rfl, rfl⟩, known⟩
          · exact fun accepted => accepted.1
  | _ => simp [interfaceRecord, Convert.refuse]

theorem interfaceRecords_dict_iff {field : String} {entries : Mapping} {records : Dict Mapping} :
    interfaceRecords field (.dict entries) = .ok records ↔
      entries = Dict.mapValues Value.dict records ∧
        ∀ record ∈ records, ∀ key ∈ Dict.keys record.2, key ∈ interfaceFields := by
  simp only [interfaceRecords, Outcome.mapM_eq_ok_iff, interfaceRecord_eq_ok_iff, Dict.mapValues]
  induction records generalizing entries with
  | nil => simp
  | cons record records ih =>
      rw [List.forall₂_cons_right_iff]
      simp only [ih, List.map_cons, List.forall_mem_cons]
      constructor
      · rintro ⟨entry, rest, ⟨rfl, known⟩, ⟨rfl, others⟩, rfl⟩
        exact ⟨rfl, known, others⟩
      · rintro ⟨rfl, known, others⟩
        exact ⟨_, _, ⟨rfl, known⟩, ⟨rfl, others⟩, rfl⟩

theorem interfaceRecords_stored {field : String} {value : Value} {records : Dict Mapping}
    (found : interfaceRecords field value = .ok records) (ordered : value.Ordered) :
    StoredInterfaces records := by
  cases value with
  | null =>
      simp only [interfaceRecords, Except.ok.injEq] at found
      subst found
      exact ⟨List.Pairwise.nil, by simp, by simp⟩
  | dict entries =>
      obtain ⟨rfl, known⟩ := interfaceRecords_dict_iff.1 found
      obtain ⟨sorted, members⟩ := Value.ordered_dict_iff.1 ordered
      refine ⟨Dict.sorted_mapValues_iff.1 sorted, ?_, known⟩
      intro record member
      exact members (record.1, .dict record.2) (List.mem_map.2 ⟨record, member, rfl⟩)
  | _ => simp [interfaceRecords, Convert.refuse] at found

theorem coerce_fits {field : String} {shape : Shape} {value : Value} {slot : Slot}
    (accepted : coerce field shape value = .ok slot) (ordered : value.Ordered) :
    slot.Fits shape := by
  cases shape <;> simp only [coerce, Outcome.bind_eq_ok_iff, Outcome.pure_eq_ok, Except.ok.injEq,
    coerceOwn_eq_ok_iff, Convert.inheritable_eq_ok_iff] at accepted
  case text =>
    obtain ⟨_, ⟨plain, text, read, rfl⟩, rfl⟩ := accepted
    exact .text (Convert.text_ne_token read plain)
  case bool =>
    obtain ⟨_, ⟨_, flag, _, rfl⟩, rfl⟩ := accepted
    exact .bool flag
  case int =>
    obtain ⟨_, ⟨_, number, _, rfl⟩, rfl⟩ := accepted
    exact .int number
  case float =>
    obtain ⟨_, ⟨_, number, _, rfl⟩, rfl⟩ := accepted
    exact .float number
  case choice members =>
    obtain ⟨_, ⟨_, member, read, rfl⟩, rfl⟩ := accepted
    exact .choice (memberValue_mem read)
  case map multiple =>
    obtain ⟨_, ⟨_, overlay, read, rfl⟩, rfl⟩ := accepted
    obtain ⟨stored, absent⟩ := Convert.overlay_stored read ordered
    exact .map stored absent
  case inheritText =>
    obtain ⟨_, ⟨_, rfl⟩ | ⟨plain, text, read, rfl⟩, rfl⟩ := accepted
    · exact .inheritedScalar rfl rfl rfl
    · exact .inheritText (Convert.text_ne_token read plain)
  case inheritList =>
    obtain ⟨_, ⟨_, rfl⟩ | ⟨_, texts, _, rfl⟩, rfl⟩ := accepted
    · exact .inheritedScalar rfl rfl rfl
    · exact .inheritList texts
  case inheritBool =>
    obtain ⟨_, ⟨_, rfl⟩ | ⟨_, flag, _, rfl⟩, rfl⟩ := accepted
    · exact .inheritedScalar rfl rfl rfl
    · exact .inheritBool flag
  case inheritInt =>
    obtain ⟨_, ⟨_, rfl⟩ | ⟨_, number, _, rfl⟩, rfl⟩ := accepted
    · exact .inheritedScalar rfl rfl rfl
    · exact .inheritInt number
  case inheritFloat =>
    obtain ⟨_, ⟨_, rfl⟩ | ⟨_, number, _, rfl⟩, rfl⟩ := accepted
    · exact .inheritedScalar rfl rfl rfl
    · exact .inheritFloat number
  case inheritChoice members =>
    obtain ⟨_, ⟨_, rfl⟩ | ⟨_, member, read, rfl⟩, rfl⟩ := accepted
    · exact .inheritedChoice
    · exact .inheritChoice (memberValue_mem read)
  case inheritMap multiple =>
    obtain ⟨_, ⟨_, rfl⟩ | ⟨_, overlay, read, rfl⟩, rfl⟩ := accepted
    · exact .inheritedMapping rfl rfl
    · obtain ⟨stored, absent⟩ := Convert.overlay_stored read ordered
      exact .inheritMap stored absent
  case inheritYamlMap =>
    obtain ⟨_, ⟨_, rfl⟩ | ⟨_, overlay, read, rfl⟩, rfl⟩ := accepted
    · exact .inheritedMapping rfl rfl
    · exact .inheritYamlMap (Convert.yamlOverlay_stored read ordered)
  case interfaces =>
    obtain ⟨records, read, rfl⟩ := accepted
    exact .interfaces (interfaceRecords_stored read ordered)
  case derived => simp at accepted

theorem isStored_of_coerce {field : String} {shape : Shape} {value : Value} {slot : Slot}
    (accepted : coerce field shape value = .ok slot) : shape.isStored = true := by
  cases shape with
  | derived _ => simp [coerce] at accepted
  | _ => rfl

theorem Fits.toValue_ordered {shape : Shape} {slot : Slot} (fits : slot.Fits shape) :
    slot.toValue.Ordered := by
  cases fits with
  | inheritList texts => exact Value.ofTexts_ordered texts
  | map stored _ => exact stored.toMapping_ordered
  | inheritMap stored _ => exact stored.toMapping_ordered
  | inheritYamlMap stored => exact stored.toMapping_ordered
  | interfaces stored =>
      refine Value.ordered_dict_iff.2 ⟨Dict.sorted_mapValues_iff.2 stored.sorted, ?_⟩
      intro entry member
      obtain ⟨record, listed, rfl⟩ := List.mem_map.1 member
      exact stored.ordered record listed
  | _ => simp [toValue, Value.Ordered]

theorem Fits.text_ne_token {shape : Shape} {text : String}
    (fits : Fits shape (.scalar (.own (.str text)))) : text ≠ inheritToken := by
  cases fits with
  | text plain => exact plain
  | inheritText plain => exact plain

theorem Fits.isMapping {shape : Shape} {slot : Slot} (fits : slot.Fits shape)
    (mapping : shape.isMapping = true) : ∃ state, slot = .mapping state := by
  cases fits with
  | map | inheritMap | inheritYamlMap | inheritedMapping => exact ⟨_, rfl⟩
  | inheritedScalar _ scalar _ => simp [mapping] at scalar
  | _ => simp [Shape.isMapping] at mapping

theorem Fits.isChoice {members : List String} {slot : Slot}
    (fits : slot.Fits (.inheritChoice members)) : ∃ state, slot = .choice state := by
  cases fits with
  | inheritChoice | inheritedChoice => exact ⟨_, rfl⟩
  | inheritedScalar _ _ plain => simp [Shape.members?] at plain
  | inheritedMapping _ mapping => simp [Shape.isMapping] at mapping

theorem Fits.isScalar {shape : Shape} {slot : Slot} (fits : slot.Fits shape)
    (resolvable : shape.isResolvable = true) (unmapped : shape.isMapping = false) :
    (∃ state, slot = .scalar state) ∨ ∃ state, slot = .choice state := by
  cases fits with
  | choice | inheritChoice | inheritedChoice => exact Or.inr ⟨_, rfl⟩
  | map | inheritMap | inheritYamlMap => simp [Shape.isMapping] at unmapped
  | inheritedMapping _ mapping => simp [mapping] at unmapped
  | interfaces => simp [Shape.isResolvable] at resolvable
  | _ => exact Or.inl ⟨_, rfl⟩

theorem Fits.isResolvable {shape : Shape} {slot : Slot} (fits : slot.Fits shape)
    (inherited : slot.isInherit = true) : shape.isResolvable = true := by
  cases fits with
  | inheritedScalar resolvable => exact resolvable
  | inheritedChoice => rfl
  | inheritedMapping resolvable => exact resolvable
  | _ => cases inherited

theorem Fits.overlay_stored {shape : Shape} {overlay : Overlay}
    (fits : Fits shape (.mapping (.own overlay))) : overlay.Stored := by
  cases fits with
  | map stored _ => exact stored
  | inheritMap stored _ => exact stored
  | inheritYamlMap stored => exact stored

theorem Fits.overlay_get?_empty {shape : Shape} {overlay : Overlay}
    (fits : Fits shape (.mapping (.own overlay))) (notYaml : shape ≠ .inheritYamlMap) :
    overlay.get? "" = none := by
  cases fits with
  | map _ absent => exact absent
  | inheritMap _ absent => exact absent
  | inheritYamlMap _ => exact absurd rfl notYaml

theorem Fits.inherited {shape : Shape} {slot : Slot} (fits : slot.Fits shape)
    (resolvable : shape.isResolvable = true) : slot.inherited.Fits shape := by
  cases fits with
  | inheritChoice member => exact .inheritedChoice
  | inheritedChoice => exact .inheritedChoice
  | inheritMap stored absent => exact .inheritedMapping rfl rfl
  | inheritYamlMap stored => exact .inheritedMapping rfl rfl
  | inheritedMapping _ mapping => exact .inheritedMapping resolvable mapping
  | inheritedScalar _ scalar plain => exact .inheritedScalar resolvable scalar plain
  | inheritText _ | inheritList _ | inheritBool _ | inheritInt _ | inheritFloat _ =>
      exact .inheritedScalar rfl rfl rfl
  | text _ | bool _ | int _ | float _ | choice _ | map _ _ | interfaces _ =>
      simp [Shape.isResolvable] at resolvable

end Slot

def Shape.admits (shape : Shape) : Initial → Bool
  | .inherit => shape.isResolvable
  | .empty => shape.members?.isNone && shape.isStored
  | .text content => (shape == .text || shape == .inheritText) && content != inheritToken
  | .bool _ => shape == .bool || shape == .inheritBool
  | .int _ => shape == .int || shape == .inheritInt
  | .member token => (shape.members?.getD []).contains token

theorem Slot.initial_fits {shape : Shape} {start : Initial} (admitted : shape.admits start = true) :
    (Slot.initial shape start).Fits shape := by
  cases start with
  | inherit =>
      cases shape <;> simp [Shape.admits, Shape.isResolvable] at admitted
      case inheritChoice => exact .inheritedChoice
      case inheritMap => exact .inheritedMapping rfl rfl
      case inheritYamlMap => exact .inheritedMapping rfl rfl
      all_goals exact .inheritedScalar rfl rfl rfl
  | empty =>
      cases shape <;> simp [Shape.admits, Shape.members?, Shape.isStored] at admitted
      case text => exact .text (by decide)
      case bool => exact .bool false
      case int => exact .int 0
      case float => exact .float 0.0
      case map => exact .map Overlay.stored_empty rfl
      case inheritText => exact .inheritText (by decide)
      case inheritList => exact .inheritList []
      case inheritBool => exact .inheritBool false
      case inheritInt => exact .inheritInt 0
      case inheritFloat => exact .inheritFloat 0.0
      case inheritMap => exact .inheritMap Overlay.stored_empty rfl
      case inheritYamlMap => exact .inheritYamlMap Overlay.stored_empty
      case interfaces => exact .interfaces ⟨List.Pairwise.nil, by simp, by simp⟩
  | text text =>
      simp only [Shape.admits, Bool.and_eq_true, Bool.or_eq_true, beq_iff_eq, bne_iff_ne]
        at admitted
      obtain ⟨rfl | rfl, plain⟩ := admitted
      · exact .text plain
      · exact .inheritText plain
  | bool flag =>
      simp only [Shape.admits, Bool.or_eq_true, beq_iff_eq] at admitted
      obtain rfl | rfl := admitted
      · exact .bool flag
      · exact .inheritBool flag
  | int number =>
      simp only [Shape.admits, Bool.or_eq_true, beq_iff_eq] at admitted
      obtain rfl | rfl := admitted
      · exact .int number
      · exact .inheritInt number
  | member token =>
      cases shape <;> simp [Shape.admits, Shape.members?] at admitted
      case choice => exact .choice admitted
      case inheritChoice => exact .inheritChoice admitted

/-- Whether the members of a choice are spelled so that each is read as itself. -/
def Shape.isCanonical (shape : Shape) : Bool :=
  let members := shape.members?.getD []
  members.all fun member =>
    member != inheritToken &&
      members.find? (fun other => Text.sameIgnoringCase other (Text.trim member)) == some member

theorem Shape.memberFor_self {shape : Shape} (canonical : shape.isCanonical = true)
    {members : List String} (given : shape.members? = some members) {member : String}
    (listed : member ∈ members) (field : String) :
    member ≠ inheritToken ∧ memberFor field members member = .ok member := by
  simp only [isCanonical, given, Option.getD_some, List.all_eq_true, Bool.and_eq_true, bne_iff_ne,
    beq_iff_eq] at canonical
  obtain ⟨plain, found⟩ := canonical member listed
  exact ⟨plain, by simp [memberFor, found]⟩

namespace Slot

theorem Fits.toValue_ne_token {shape : Shape} {slot : Slot} (fits : slot.Fits shape)
    (canonical : shape.isCanonical = true) (owned : slot.isInherit = false) :
    slot.toValue ≠ .str inheritToken := by
  cases fits with
  | text plain => simpa [toValue] using plain
  | inheritText plain => simpa [toValue] using plain
  | choice listed => simpa [toValue] using (Shape.memberFor_self canonical rfl listed "").1
  | inheritChoice listed => simpa [toValue] using (Shape.memberFor_self canonical rfl listed "").1
  | inheritedScalar | inheritedChoice | inheritedMapping => cases owned
  | _ => simp [toValue, Value.ofTexts]

theorem coerce_inherit (field : String) {shape : Shape} (resolvable : shape.isResolvable = true) :
    coerce field shape (.str inheritToken) =
      .ok (match shape with
        | .inheritChoice _ => .choice .inherit
        | .inheritMap _ | .inheritYamlMap => .mapping .inherit
        | _ => .scalar .inherit) := by
  cases shape <;> simp [Shape.isResolvable] at resolvable <;> rfl

theorem Fits.coerce_toValue {shape : Shape} {slot : Slot} (fits : slot.Fits shape)
    (canonical : shape.isCanonical = true) (field : String) :
    coerce field shape slot.toValue = .ok slot := by
  cases fits with
  | text plain =>
      simp [coerce, coerceOwn, toValue, Convert.notInherited, Convert.isInheritToken, plain,
        Convert.text, Inheritable.map, Outcome.pure_eq_ok]
  | inheritText plain =>
      simp [coerce, toValue, Convert.inheritable, Convert.isInheritToken, plain,
        Convert.text, Inheritable.map, Outcome.pure_eq_ok, Except.map]
  | bool flag => rfl
  | int number => rfl
  | float number => rfl
  | inheritBool flag => rfl
  | inheritInt number => rfl
  | inheritFloat number => rfl
  | choice listed =>
      obtain ⟨plain, found⟩ := Shape.memberFor_self canonical rfl listed field
      simp [coerce, coerceOwn, toValue, Convert.notInherited, Convert.isInheritToken, plain,
        memberValue, found, Outcome.pure_eq_ok]
  | inheritChoice listed =>
      obtain ⟨plain, found⟩ := Shape.memberFor_self canonical rfl listed field
      simp [coerce, toValue, Convert.inheritable, Convert.isInheritToken, plain,
        memberValue, found, Outcome.pure_eq_ok, Except.map]
  | inheritList texts =>
      have read := Convert.texts_ofTexts field texts
      unfold Value.ofTexts at read
      simp [coerce, toValue, Convert.inheritable, Convert.isInheritToken, Value.ofTexts, read,
        Inheritable.map, Outcome.pure_eq_ok, Except.map]
  | @map multiple overlay stored absent =>
      simp [coerce, coerceOwn, toValue, Convert.notInherited, Convert.isInheritToken,
        Convert.overlay_toMapping stored absent, Outcome.pure_eq_ok]
  | @inheritMap multiple overlay stored absent =>
      simp [coerce, toValue, Convert.inheritable, Convert.isInheritToken,
        Convert.overlay_toMapping stored absent, Outcome.pure_eq_ok, Except.map]
  | @inheritYamlMap overlay stored =>
      simp [coerce, toValue, Convert.inheritable, Convert.isInheritToken, Convert.yamlOverlay,
        stored.ofMapping_toMapping, Outcome.pure_eq_ok, Except.map]
  | @interfaces records stored =>
      have read : interfaceRecords field (.dict (records.mapValues Value.dict)) = .ok records :=
        interfaceRecords_dict_iff.2 ⟨rfl, stored.known⟩
      simp [coerce, toValue, read, Outcome.pure_eq_ok]
  | inheritedScalar resolvable scalar plain =>
      rw [toValue, coerce_inherit field resolvable]
      cases shape <;> simp_all [Shape.members?, Shape.isMapping]
  | inheritedChoice => rfl
  | inheritedMapping resolvable mapping =>
      rw [toValue, coerce_inherit field resolvable]
      cases shape <;> simp only [Shape.isMapping, Bool.false_eq_true] at mapping
      case map => simp [Shape.isResolvable] at resolvable
      case inheritMap => rfl
      case inheritYamlMap => rfl

end Slot

end Provisioning
