import Provisioning.Proofs.FlatForm

/-!
The form in which items are kept. It has one entry for each field that is not computed, every entry
is accepted by any item of the same kind, and writing them all leaves nothing of what was there.
-/

namespace Provisioning

namespace Item

theorem serialize_eq (item : Item) :
    item.serialize = ((item.kind.fields.filter Field.isDerived).map Field.name).foldl Dict.erase
      (stripAliases item.rawDict) :=
  List.foldl_map.symm

theorem sorted_serialize (item : Item) : Dict.Sorted item.serialize := by
  rw [serialize_eq]
  exact item.sorted_stripAliases_rawDict.foldl_erase _

theorem mem_serialize_iff {item : Item} {entry : String × Value} :
    entry ∈ item.serialize ↔
      ∃ field ∈ item.kind.fields, field.isDerived = false ∧ entry = item.rawEntry field := by
  obtain ⟨key, value⟩ := entry
  rw [← Dict.get?_eq_some_iff item.sorted_serialize.nodup_keys, serialize_eq,
    Dict.get?_foldl_erase]
  constructor
  · intro found
    split at found
    · cases found
    · rename_i computed
      obtain ⟨field, member, same⟩ := mem_stripAliases_rawDict_iff.1 (Dict.mem_of_get? found)
      refine ⟨field, member, ?_, same⟩
      by_contra derived
      exact computed (List.mem_map.2
        ⟨field, List.mem_filter.2 ⟨member, by simpa using derived⟩, (Prod.mk.inj same).1.symm⟩)
  · rintro ⟨field, member, notDerived, same⟩
    have listed := mem_stripAliases_rawDict_iff.2 ⟨field, member, same⟩
    obtain ⟨rfl, rfl⟩ := Prod.mk.inj same
    have kept : field.name ∉ (item.kind.fields.filter Field.isDerived).map Field.name := by
      intro computed
      obtain ⟨other, otherMember, sameName⟩ := List.mem_map.1 computed
      obtain ⟨otherDeclared, derived⟩ := List.mem_filter.1 otherMember
      have same := Kind.fields_agree item.kind item.kind other otherDeclared field member sameName
      rw [same, notDerived] at derived
      cases derived
    rw [if_neg kept]
    exact (Dict.get?_eq_some_iff item.sorted_stripAliases_rawDict.nodup_keys).2 listed

def withCoreOf (target source : Item) : CoreField → Item
  | .uid => { target with uid := source.uid }
  | .name => { target with name := source.name }
  | .comment => { target with comment := source.comment }
  | .ctime => { target with ctime := source.ctime }
  | .mtime => { target with mtime := source.mtime }
  | .parent => { target with parentName := source.parentName, foundParent := none }
  | .depth => { target with depth := source.depth }
  | .isSubobject => { target with isSubobject := source.isSubobject, foundParent := none }
  | .children => target.setChildren source.children

section WithCoreOf

variable {source target : Item}

theorem setChildren_eq (target : Item) (names : List String) :
    target.setChildren names = { target with
      childNames := if target.kind.hasChildren then names else target.childNames } := by
  unfold setChildren
  split <;> rfl

theorem withCoreOf_slots (target source : Item) (core : CoreField) :
    (target.withCoreOf source core).slots = target.slots := by
  cases core
  case children => simp [withCoreOf, setChildren_eq]
  all_goals rfl

theorem withCoreOf_coreValue (sameKind : target.kind = source.kind) (core other : CoreField) :
    (target.withCoreOf source core).coreValue other =
      if other = core then source.coreValue core else target.coreValue other := by
  by_cases same : other = core
  · subst same
    rw [if_pos rfl]
    cases other
    case children =>
      simp only [withCoreOf, coreValue, setChildren_eq, children, sameKind]
      split <;> rfl
    all_goals rfl
  · rw [if_neg same]
    cases core
    case children =>
      rw [withCoreOf, setChildren_eq]
      cases other
      case children => exact absurd rfl same
      all_goals rfl
    all_goals cases other <;> first | rfl | exact absurd rfl same

theorem name_ne_token {name : String} (allowed : name.toList.all isNameCharacter = true) :
    name ≠ inheritToken := by
  rintro rfl
  revert allowed
  decide

theorem notInherited_of_ne {field text : String} (plain : text ≠ inheritToken) :
    Convert.notInherited field (.str text) = .ok () := by
  rw [Convert.notInherited_eq_ok_iff, Convert.isInheritToken_eq_false_iff]
  simpa using plain

theorem setCore_coreValue (wellFormed : source.WellFormed) (sameKind : target.kind = source.kind)
    {core : CoreField} (declared : ∃ field ∈ source.kind.fields, field.access = .core core) :
    target.setCore core (source.coreValue core) = .ok (target.withCoreOf source core) := by
  rw [Kind.declares_core_iff, ← sameKind] at declared
  cases core
  case uid =>
    simp only [setCore, coreValue, notInherited_of_ne wellFormed.uidPlain, Convert.text,
      Outcome.ok_bind]
    exact setUid_eq_ok_iff.2 ⟨wellFormed.uidShown, rfl⟩
  case name =>
    simp only [setCore, coreValue, notInherited_of_ne (name_ne_token wellFormed.name),
      Outcome.ok_bind]
    exact setName_eq_ok_iff.2 ⟨wellFormed.name, rfl⟩
  case comment => rfl
  case ctime =>
    simp only [setCore, coreValue, Convert.timestamp, finite_eq_ok_iff.2 ⟨wellFormed.ctime, rfl⟩,
      Outcome.ok_bind]
    exact setCreatedAt_eq_ok_iff.2 ⟨wellFormed.ctime, rfl⟩
  case mtime =>
    simp only [setCore, coreValue, Convert.timestamp, finite_eq_ok_iff.2 ⟨wellFormed.mtime, rfl⟩,
      Outcome.ok_bind]
    exact setModifiedAt_eq_ok_iff.2 ⟨wellFormed.mtime, rfl⟩
  case parent =>
    have hasTree := declared.resolve_right (by decide)
    simp only [setCore, coreValue, notInherited_of_ne (name_ne_token wellFormed.parent),
      Convert.text, Outcome.ok_bind]
    exact setParent_eq_ok_iff.2 ⟨hasTree, wellFormed.parent, rfl⟩
  case depth =>
    have hasTree := declared.resolve_right (by decide)
    exact setDepth_eq_ok_iff.2 ⟨hasTree, wellFormed.depth, rfl⟩
  case isSubobject =>
    have hasTree := declared.resolve_right (by decide)
    exact setIsSubobject_eq_ok_iff.2 ⟨hasTree, rfl⟩
  case children =>
    simp only [setCore, coreValue, Convert.texts_ofTexts, Outcome.ok_bind]
    rfl

end WithCoreOf

theorem rawValue_eq_toValue {item : Item} {field : Field} {shape : Shape} {slot : Slot}
    (access : field.access = .property shape) (stored : shape.isStored = true)
    (found : item.slot? field.name = some slot) : item.rawValue field = slot.toValue := by
  unfold rawValue
  rw [access]
  cases shape with
  | derived _ => simp [Shape.isStored] at stored
  | _ => simp only [found]

theorem get?_rawDict_of_slot {item : Item} {name : String} {shape : Shape} {slot : Slot}
    (stored : item.kind.storedShape? name = some shape) (held : item.slot? name = some slot) :
    Dict.get? item.rawDict name = some slot.toValue := by
  obtain ⟨field, found, access, isStored⟩ := Kind.storedShape?_eq_some_iff.1 stored
  obtain ⟨declared, rfl⟩ := Kind.mem_fields_of_field? found
  rw [item.get?_rawDict declared, rawValue_eq_toValue access isStored held]

theorem WellFormed.exists_slot_of_mem {item : Item} (wellFormed : item.WellFormed) {field : Field}
    {shape : Shape} (declared : field ∈ item.kind.fields) (access : field.access = .property shape)
    (kept : field.isDerived = false) :
    ∃ slot, item.slot? field.name = some slot ∧ slot.Fits shape ∧
      item.rawValue field = slot.toValue ∧ shape.isCanonical = true := by
  have isStored : shape.isStored = true := by
    cases shape with
    | derived _ => simp [Field.isDerived, access] at kept
    | _ => rfl
  have found := Kind.field?_of_mem declared
  have stored : item.kind.storedShape? field.name = some shape :=
    Kind.storedShape?_eq_some_iff.2 ⟨field, found, access, isStored⟩
  obtain ⟨slot, held, fits⟩ := wellFormed.exists_slot stored
  exact ⟨slot, held, fits, rawValue_eq_toValue access isStored held,
    (Kind.admits_of_stored found stored).2⟩

def AgreesOn (left right : Item) (field : Field) : Prop :=
  match field.access with
  | .core core => left.coreValue core = right.coreValue core
  | .property _ => left.slot? field.name = right.slot? field.name

section Restoring

variable {source target : Item}

theorem set_rawValue (wellFormed : source.WellFormed) (sameKind : target.kind = source.kind)
    {field : Field} (declared : field ∈ source.kind.fields) (kept : field.isDerived = false) :
    ∃ written, target.set field.name (source.rawValue field) = .ok written ∧
      written.AgreesOn source field ∧
      ∀ other, target.AgreesOn source other → written.AgreesOn source other := by
  have found : target.kind.field? field.name = some field :=
    sameKind ▸ Kind.field?_of_mem declared
  cases access : field.access with
  | core core =>
      have values := withCoreOf_coreValue sameKind core
      have accepted := setCore_coreValue wellFormed sameKind ⟨field, declared, access⟩
      refine ⟨target.withCoreOf source core, ?_, ?_, ?_⟩
      · refine set_eq_ok_iff.2 ⟨field, found, Or.inl ⟨core, access, ?_⟩⟩
        rw [rawValue, access]
        exact accepted
      · simp [AgreesOn, access, values]
      · intro other agrees
        unfold AgreesOn at agrees ⊢
        split at agrees
        · rename_i otherCore _
          rw [values]
          split
          · rename_i same
            rw [same]
          · exact agrees
        · rw [← agrees, slot?, slot?, withCoreOf_slots]
  | property shape =>
      obtain ⟨slot, held, fits, raw, canonical⟩ :=
        wellFormed.exists_slot_of_mem declared access kept
      refine ⟨target.setSlot field.name slot, ?_, ?_, ?_⟩
      · refine set_eq_ok_iff.2 ⟨field, found, Or.inr ⟨shape, slot, access, ?_, rfl⟩⟩
        rw [raw]
        exact fits.coerce_toValue canonical field.name
      · simpa [AgreesOn, access, setSlot, slot?, Dict.get?_insert] using held.symm
      · intro other agrees
        unfold AgreesOn at agrees ⊢
        split at agrees
        · exact agrees
        · unfold setSlot slot?
          rw [Dict.get?_insert]
          split
          · rename_i same
            rw [← same]
            exact held.symm
          · exact agrees

theorem applyEntries_rawEntries (wellFormed : source.WellFormed)
    (sameKind : target.kind = source.kind) {entries : List (String × Value)}
    (ours : ∀ entry ∈ entries, ∃ field ∈ source.kind.fields,
      field.isDerived = false ∧ entry = source.rawEntry field) :
    ∃ written, target.applyEntries entries = (written, .ok []) ∧
      (∀ field, target.AgreesOn source field → written.AgreesOn source field) ∧
      ∀ field ∈ source.kind.fields, source.rawEntry field ∈ entries →
        written.AgreesOn source field := by
  induction entries generalizing target with
  | nil => exact ⟨target, rfl, fun _ agrees => agrees, by simp⟩
  | cons entry entries ih =>
      obtain ⟨field, declared, kept, rfl⟩ := ours entry List.mem_cons_self
      obtain ⟨middle, accepted, agreesHere, keeps⟩ :=
        set_rawValue wellFormed sameKind declared kept
      obtain ⟨written, applied, keepsLater, agreesLater⟩ :=
        ih ((set_keeps accepted).1.trans sameKind) fun other member =>
          ours other (List.mem_cons_of_mem _ member)
      have known : target.hasProperty field.name = true := by
        unfold hasProperty
        rw [sameKind]
        exact Kind.hasField_iff.2 ⟨field, declared, rfl⟩
      -- Later entries keep the agreement that this one brings, so no order of the keys is needed.
      refine ⟨written, ?_, fun other agrees => keepsLater other (keeps other agrees), ?_⟩
      · simp only [rawEntry, applyEntries, Kind.lower_name _ field declared, known, if_true,
          accepted]
        exact applied
      · intro other otherDeclared listed
        rcases List.mem_cons.1 listed with here | later
        · have same : other = field :=
            Kind.fields_agree _ _ other otherDeclared field declared (Prod.mk.inj here).1
          rw [same]
          exact keepsLater field agreesHere
        · exact agreesLater other otherDeclared later

end Restoring

theorem rawValue_ordered {item : Item} (wellFormed : item.WellFormed) {field : Field}
    (declared : field ∈ item.kind.fields) (kept : field.isDerived = false) :
    (item.rawValue field).Ordered := by
  cases access : field.access with
  | core core =>
      rw [rawValue, access]
      cases core
      case children => exact Value.ofTexts_ordered item.children
      all_goals simp [coreValue, Value.Ordered]
  | property shape =>
      obtain ⟨slot, _, fits, raw, _⟩ := wellFormed.exists_slot_of_mem declared access kept
      rw [raw]
      exact fits.toValue_ordered

theorem serialize_ordered {item : Item} (wellFormed : item.WellFormed) :
    OrderedMapping item.serialize := by
  refine Value.ordered_dict_iff.2 ⟨item.sorted_serialize, ?_⟩
  intro entry member
  obtain ⟨field, declared, kept, rfl⟩ := mem_serialize_iff.1 member
  exact rawValue_ordered wellFormed declared kept

section Agreeing

variable {source restored : Item}

theorem coreValue_eq_of_agreesOn
    (agrees : ∀ field ∈ source.kind.fields, field.isDerived = false →
      restored.AgreesOn source field)
    (core : CoreField)
    (declared : source.kind.hasTree = true ∨
      core ∉ [.parent, .depth, .isSubobject, .children]) :
    restored.coreValue core = source.coreValue core := by
  obtain ⟨field, member, access⟩ := (Kind.declares_core_iff source.kind core).2 declared
  have agreement := agrees field member (by simp [Field.isDerived, access])
  simpa [AgreesOn, access] using agreement

theorem slots_eq_of_agreesOn (sourceFormed : source.WellFormed)
    (restoredFormed : restored.WellFormed) (sameKind : restored.kind = source.kind)
    (agrees : ∀ field ∈ source.kind.fields, field.isDerived = false →
      restored.AgreesOn source field) : restored.slots = source.slots := by
  refine Dict.eq_of_get? restoredFormed.sorted sourceFormed.sorted ?_
  intro name
  change restored.slot? name = source.slot? name
  cases stored : source.kind.storedShape? name with
  | none =>
      have absent := sourceFormed.stored name
      have absentToo := restoredFormed.stored name
      rw [sameKind] at absentToo
      simp only [stored, Option.isSome_none, Option.isSome_eq_false_iff,
        Option.isNone_iff_eq_none] at absent absentToo
      rw [absent, absentToo]
  | some shape =>
      obtain ⟨field, found, access, isStored⟩ := Kind.storedShape?_eq_some_iff.1 stored
      obtain ⟨member, rfl⟩ := Kind.mem_fields_of_field? found
      have kept : field.isDerived = false := by
        cases shape <;> simp_all [Field.isDerived, Shape.isStored]
      simpa [AgreesOn, access] using agrees field member kept

theorem place_eq_of_agreesOn (sourceFormed : source.WellFormed)
    (restoredFormed : restored.WellFormed) (sameKind : restored.kind = source.kind)
    (agrees : ∀ field ∈ source.kind.fields, field.isDerived = false →
      restored.AgreesOn source field) :
    restored.parentName = source.parentName ∧ restored.depth = source.depth ∧
      restored.isSubobject = source.isSubobject := by
  cases hasTree : source.kind.hasTree with
  | true =>
      have sameParent := coreValue_eq_of_agreesOn agrees .parent (Or.inl hasTree)
      have sameDepth := coreValue_eq_of_agreesOn agrees .depth (Or.inl hasTree)
      have sameFlag := coreValue_eq_of_agreesOn agrees .isSubobject (Or.inl hasTree)
      exact ⟨Value.str.inj sameParent, Value.int.inj sameDepth, Value.bool.inj sameFlag⟩
  | false =>
      obtain ⟨parent, depth, flag⟩ := sourceFormed.treeless hasTree
      obtain ⟨restoredParent, restoredDepth, restoredFlag⟩ :=
        restoredFormed.treeless (sameKind ▸ hasTree)
      exact ⟨restoredParent.trans parent.symm, restoredDepth.trans depth.symm,
        restoredFlag.trans flag.symm⟩

theorem childNames_eq_of_agreesOn (sourceFormed : source.WellFormed)
    (restoredFormed : restored.WellFormed) (sameKind : restored.kind = source.kind)
    (agrees : ∀ field ∈ source.kind.fields, field.isDerived = false →
      restored.AgreesOn source field) : restored.childNames = source.childNames := by
  cases hasChildren : source.kind.hasChildren with
  | true =>
      have hasTree : source.kind.hasTree = true := by
        cases kind : source.kind <;> simp_all [Kind.hasChildren, Kind.hasTree]
      have same := coreValue_eq_of_agreesOn agrees .children (Or.inl hasTree)
      simp only [coreValue, children, sameKind, hasChildren, if_true, Value.ofTexts,
        Value.list.injEq] at same
      exact List.map_injective_iff.2 (fun _ _ => Value.str.inj) same
  | false =>
      rw [sourceFormed.childless hasChildren, restoredFormed.childless (sameKind ▸ hasChildren)]

theorem eq_of_agreesOn (sourceFormed : source.WellFormed) (restoredFormed : restored.WellFormed)
    (sameKind : restored.kind = source.kind)
    (agrees : ∀ field ∈ source.kind.fields, field.isDerived = false →
      restored.AgreesOn source field) :
    restored =
      { source with settings := restored.settings, foundParent := restored.foundParent } := by
  have sameSlots := slots_eq_of_agreesOn sourceFormed restoredFormed sameKind agrees
  have sameChildren := childNames_eq_of_agreesOn sourceFormed restoredFormed sameKind agrees
  obtain ⟨sameParent, sameDepth, sameFlag⟩ :=
    place_eq_of_agreesOn sourceFormed restoredFormed sameKind agrees
  have sameUid := coreValue_eq_of_agreesOn agrees .uid (Or.inr (by decide))
  have sameName := coreValue_eq_of_agreesOn agrees .name (Or.inr (by decide))
  have sameComment := coreValue_eq_of_agreesOn agrees .comment (Or.inr (by decide))
  have sameCtime := coreValue_eq_of_agreesOn agrees .ctime (Or.inr (by decide))
  have sameMtime := coreValue_eq_of_agreesOn agrees .mtime (Or.inr (by decide))
  simp only [coreValue, Value.str.injEq, Value.float.injEq]
    at sameUid sameName sameComment sameCtime sameMtime
  cases restored
  cases source
  simp_all

end Agreeing

/-- Writing the kept form of one item into any other of its kind leaves the first one there, with
the settings of the second. -/
theorem applyDict_serialize {kept current : Item} (keptReachable : kept.Reachable)
    (currentReachable : current.Reachable) (sameKind : current.kind = kept.kind) :
    ∃ restored, current.applyDict kept.serialize = (restored, .ok ()) ∧
      restored =
        { kept with settings := current.settings, foundParent := restored.foundParent } ∧
      restored.rawDict = kept.rawDict := by
  have keptFormed := keptReachable.wellFormed
  have currentFormed := currentReachable.wellFormed
  obtain ⟨restored, applied, _, agrees⟩ :=
    applyEntries_rawEntries keptFormed sameKind fun entry member => mem_serialize_iff.1 member
  obtain ⟨kind, settings⟩ : current.Keeps restored := by
    have kept := current.applyEntries_keeps kept.serialize
    rwa [applied] at kept
  have written : current.applyDict kept.serialize = (restored, .ok ()) := by
    simp only [applyDict, applied]
  have restoredFormed : restored.WellFormed := by
    have formed := currentFormed.applyDict (serialize_ordered keptFormed)
    rwa [written] at formed
  have agreesThroughout : ∀ field ∈ kept.kind.fields, field.isDerived = false →
      restored.AgreesOn kept field := by
    intro field declared stored
    exact agrees field declared (mem_serialize_iff.2 ⟨field, declared, stored, rfl⟩)
  have same := eq_of_agreesOn keptFormed restoredFormed (kind.trans sameKind) agreesThroughout
  refine ⟨restored, written, settings ▸ same, ?_⟩
  rw [same]
  rfl

theorem applyDict_serialize_named :
    let edits : List Edit := [.setName "web01",
      .set "kernel_options" (.str "console=ttyS0 quiet=~"),
      .set "virt_disk_driver" (.str "QCOW2"),
      .set "interfaces" (.dict [("eth0", .dict [("mtu", .int 1500)])])]
    let changes : List Edit := [.setName "db01", .setParent "db", .set "hostname" (.str "db01"),
      .set "kernel_options" (.str "splash=silent")]
    let kept := (Item.new .system "0123456789abcdef0123456789abcdef" {}).after edits
    let current := (Item.new .system "fedcba9876543210fedcba9876543210" {}).after changes
    ∃ restored, current.applyDict kept.serialize = (restored, .ok ()) ∧
      restored.name = "web01" ∧ restored.parentName = "" ∧
      restored.slot? "hostname" = some (.scalar (.own (.str ""))) ∧
      restored.slot? "kernel_options" =
        some (.mapping (.own ⟨[("console", .set (.str "ttyS0")), ("quiet", .remove)]⟩)) ∧
      restored.slot? "virt_disk_driver" = some (.choice (.own "qcow2")) ∧
      restored.slot? "interfaces" = some (.interfaces [("eth0", [("mtu", .int 1500)])]) ∧
      restored.rawDict = kept.rawDict := by
  intro edits changes kept current
  have keptFresh : IsFreshUid "0123456789abcdef0123456789abcdef" := by decide
  have currentFresh : IsFreshUid "fedcba9876543210fedcba9876543210" := by decide
  have editsPossible : ∀ edit ∈ edits, edit.Possible := by
    simp [edits, Edit.Possible, Value.Ordered, Value.OrderedEntries, Dict.Sorted]
  have changesPossible : ∀ edit ∈ changes, edit.Possible := by
    simp [changes, Edit.Possible]
  have keptReachable : kept.Reachable :=
    .after (.new .system keptFresh OrderedMapping.nil) editsPossible
  have currentReachable : current.Reachable :=
    .after (.new .system currentFresh OrderedMapping.nil) changesPossible
  have sameKind : current.kind = kept.kind :=
    (by rfl : current.kind = .system).trans (by rfl : Kind.system = kept.kind)
  obtain ⟨restored, written, same, raw⟩ :=
    applyDict_serialize keptReachable currentReachable sameKind
  refine ⟨restored, written, ?_, ?_, ?_, ?_, ?_, ?_, raw⟩
  all_goals
    rw [same]
    rfl

end Item

end Provisioning
