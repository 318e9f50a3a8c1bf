import Provisioning.Proofs.KeptForm

/-!
Writes of single fields. Whether a write is accepted depends on the kind of the item and on the
value alone. An accepted write changes its own field and what is computed from it, so writes of two
different fields leave the same item in either order.
-/

namespace Provisioning

def computedFields : List (String × String) := [
  ("remote_boot_kernel", "remote_grub_kernel"),
  ("remote_boot_initrd", "remote_grub_initrd")
]

namespace Kind

theorem core_fields_agree (kind : Kind) : ∀ field ∈ kind.fields, ∀ other ∈ kind.fields,
    field.shape? = none → field.access = other.access → field = other := by
  cases kind <;> decide

theorem mem_computedFields (kind : Kind) (derivation : Derivation) : ∀ field ∈ kind.fields,
    field.access = .property (.derived derivation) →
      (derivation.sourceField, field.name) ∈ computedFields := by
  refine kind.forall_fields ?_
  cases derivation <;> decide

theorem place_names (kind : Kind) : ∀ field ∈ kind.fields,
    (field.access = .core .parent ∨ field.access = .core .isSubobject ↔
      field.name = "parent" ∨ field.name = "is_subobject") :=
  kind.forall_fields (by decide)

end Kind

namespace Item

theorem withCoreOf_foundParent (target source : Item) (core : CoreField) :
    (target.withCoreOf source core).foundParent =
      if core = .parent ∨ core = .isSubobject then none else target.foundParent := by
  cases core <;> simp [withCoreOf, setChildren_eq]

theorem withCoreOf_comm (target left right : Item) {core other : CoreField}
    (different : core ≠ other) :
    (target.withCoreOf left core).withCoreOf right other =
      (target.withCoreOf right other).withCoreOf left core := by
  cases core <;> cases other <;>
    first
    | rfl
    | contradiction
    | simp [withCoreOf, setChildren_eq]

theorem withCoreOf_setSlot (target source : Item) (core : CoreField) (name : String) (slot : Slot) :
    (target.withCoreOf source core).setSlot name slot =
      (target.setSlot name slot).withCoreOf source core := by
  cases core
  case children => simp [withCoreOf, setChildren_eq, setSlot]
  all_goals rfl

theorem setSlot_comm {target : Item} (sorted : Dict.Sorted target.slots) {name other : String}
    (different : name ≠ other) (slot otherSlot : Slot) :
    (target.setSlot name slot).setSlot other otherSlot =
      (target.setSlot other otherSlot).setSlot name slot := by
  unfold setSlot
  rw [Dict.insert_comm sorted different]

def withFieldOf (target source : Item) (field : Field) : Item :=
  match field.access with
  | .core core => target.withCoreOf source core
  | .property _ =>
      match source.slot? field.name with
      | some slot => target.setSlot field.name slot
      | none => target

section Copying

variable {target : Item} {field other : Field}

theorem slot?_withFieldOf (target source : Item) {name : String} (different : field.name ≠ name) :
    (target.withFieldOf source field).slot? name = target.slot? name := by
  unfold withFieldOf
  split
  · unfold slot?
    rw [withCoreOf_slots]
  · split
    · unfold setSlot slot?
      rw [Dict.get?_insert, if_neg different]
    · rfl

theorem coreValue_withFieldOf {source : Item} (sameKind : target.kind = source.kind)
    {core : CoreField} (different : field.access ≠ .core core) :
    (target.withFieldOf source field).coreValue core = target.coreValue core := by
  unfold withFieldOf
  split
  · rename_i given access
    have apart : core ≠ given := fun same => different (same ▸ access)
    rw [withCoreOf_coreValue sameKind, if_neg apart]
  · split <;> rfl

theorem foundParent_withFieldOf (target source : Item) (field : Field) :
    (target.withFieldOf source field).foundParent =
      if field.access = .core .parent ∨ field.access = .core .isSubobject then none
      else target.foundParent := by
  unfold withFieldOf
  split
  · rename_i core access
    rw [withCoreOf_foundParent, access]
    simp
  · rename_i shape access
    rw [access]
    split <;> simp [setSlot]

theorem core_ne_of_name_ne (declared : field ∈ target.kind.fields)
    (otherDeclared : other ∈ target.kind.fields) (different : field.name ≠ other.name)
    {core otherCore : CoreField} (access : field.access = .core core)
    (otherAccess : other.access = .core otherCore) : core ≠ otherCore := by
  rintro rfl
  have plain : field.shape? = none := by simp [Field.shape?, access]
  have same := Kind.core_fields_agree target.kind field declared other otherDeclared plain
    (access.trans otherAccess.symm)
  exact different (congrArg Field.name same)

theorem rawValue_withFieldOf {source : Item} (sameKind : target.kind = source.kind)
    (declared : field ∈ target.kind.fields) (otherDeclared : other ∈ target.kind.fields)
    (different : field.name ≠ other.name) (apart : (field.name, other.name) ∉ computedFields) :
    (target.withFieldOf source field).rawValue other = target.rawValue other := by
  unfold rawValue
  split
  · rename_i core access
    refine coreValue_withFieldOf sameKind ?_
    intro same
    exact core_ne_of_name_ne declared otherDeclared different same access rfl
  · rename_i derivation access
    have sourceApart : field.name ≠ derivation.sourceField := by
      intro same
      have computed := Kind.mem_computedFields target.kind derivation other otherDeclared access
      exact apart (same ▸ computed)
    unfold derive derivationSource
    rw [slot?_withFieldOf target source sourceApart]
  · rw [slot?_withFieldOf target source different]

theorem withFieldOf_comm (sorted : Dict.Sorted target.slots) (left right : Item)
    (declared : field ∈ target.kind.fields) (otherDeclared : other ∈ target.kind.fields)
    (different : field.name ≠ other.name) :
    (target.withFieldOf left field).withFieldOf right other =
      (target.withFieldOf right other).withFieldOf left field := by
  unfold withFieldOf
  cases access : field.access with
  | core core =>
      cases otherAccess : other.access with
      | core otherCore =>
          exact withCoreOf_comm target left right
            (core_ne_of_name_ne declared otherDeclared different access otherAccess)
      | property otherShape =>
          dsimp only
          split
          · exact withCoreOf_setSlot target left core _ _
          · rfl
  | property shape =>
      cases otherAccess : other.access with
      | core otherCore =>
          dsimp only
          split
          · exact (withCoreOf_setSlot target right otherCore _ _).symm
          · rfl
      | property otherShape =>
          dsimp only
          split <;> split
          · exact setSlot_comm sorted different _ _
          all_goals rfl

theorem sorted_withFieldOf (sorted : Dict.Sorted target.slots) (source : Item) (field : Field) :
    Dict.Sorted (target.withFieldOf source field).slots := by
  unfold withFieldOf
  split
  · rw [withCoreOf_slots]
    exact sorted
  · split
    · exact sorted.insert field.name _
    · exact sorted

end Copying

section SameKind

variable {left right : Item}

theorem setUid_eq_map (left right : Item) (uid : String) :
    right.setUid uid = (left.setUid uid).map fun written => right.withCoreOf written .uid := by
  unfold setUid
  split <;> rfl

theorem setName_eq_map (left right : Item) (name : String) :
    right.setName name = (left.setName name).map fun written => right.withCoreOf written .name := by
  unfold setName
  cases checkName "name" name <;> rfl

theorem setCreatedAt_eq_map (left right : Item) (seconds : Float) :
    right.setCreatedAt seconds =
      (left.setCreatedAt seconds).map fun written => right.withCoreOf written .ctime := by
  unfold setCreatedAt
  cases Convert.finite "ctime" seconds <;> rfl

theorem setModifiedAt_eq_map (left right : Item) (seconds : Float) :
    right.setModifiedAt seconds =
      (left.setModifiedAt seconds).map fun written => right.withCoreOf written .mtime := by
  unfold setModifiedAt
  cases Convert.finite "mtime" seconds <;> rfl

theorem setParent_eq_map (leftTree : left.kind.hasTree = true)
    (rightTree : right.kind.hasTree = true) (parent : String) :
    right.setParent parent =
      (left.setParent parent).map fun written => right.withCoreOf written .parent := by
  simp only [setParent, requireTree, leftTree, rightTree, if_true, Outcome.ok_bind]
  cases checkName "parent" parent <;> rfl

theorem setDepth_eq_map (leftTree : left.kind.hasTree = true)
    (rightTree : right.kind.hasTree = true) (depth : Int64) :
    right.setDepth depth =
      (left.setDepth depth).map fun written => right.withCoreOf written .depth := by
  simp only [setDepth, requireTree, leftTree, rightTree, if_true, Outcome.ok_bind]
  split <;> rfl

theorem setIsSubobject_eq_map (leftTree : left.kind.hasTree = true)
    (rightTree : right.kind.hasTree = true) (flag : Bool) :
    right.setIsSubobject flag =
      (left.setIsSubobject flag).map fun written => right.withCoreOf written .isSubobject := by
  simp only [setIsSubobject, requireTree, leftTree, rightTree, if_true, Outcome.ok_bind]
  rfl

theorem setChildren_eq_withCoreOf (sameKind : right.kind = left.kind) (names : List String) :
    right.setChildren names = right.withCoreOf (left.setChildren names) .children := by
  simp only [withCoreOf, setChildren_eq, children, sameKind]
  split <;> simp

theorem setCore_eq_map (sameKind : right.kind = left.kind) {core : CoreField}
    (declared : ∃ field ∈ left.kind.fields, field.access = .core core) (value : Value) :
    right.setCore core value =
      (left.setCore core value).map fun written => right.withCoreOf written core := by
  rw [Kind.declares_core_iff] at declared
  have rightTree (leftTree : left.kind.hasTree = true) : right.kind.hasTree = true :=
    sameKind ▸ leftTree
  cases core
  case uid => simp only [setCore, Outcome.map_bind, setUid_eq_map left right]
  case name =>
    cases value with
    | str name => simp only [setCore, Outcome.map_bind, setName_eq_map left right]
    | _ => rfl
  case comment =>
    simp only [setCore]
    cases Convert.text "comment" value <;> rfl
  case ctime => simp only [setCore, Outcome.map_bind, setCreatedAt_eq_map left right]
  case mtime => simp only [setCore, Outcome.map_bind, setModifiedAt_eq_map left right]
  case parent =>
    have hasTree := declared.resolve_right (by decide)
    simp only [setCore, Outcome.map_bind, setParent_eq_map hasTree (rightTree hasTree)]
  case depth =>
    have hasTree := declared.resolve_right (by decide)
    cases value with
    | int depth => exact setDepth_eq_map hasTree (rightTree hasTree) depth
    | _ => rfl
  case isSubobject =>
    have hasTree := declared.resolve_right (by decide)
    cases value with
    | bool flag => exact setIsSubobject_eq_map hasTree (rightTree hasTree) flag
    | _ => rfl
  case children =>
    simp only [setCore]
    cases Convert.texts "children" value with
    | error cause => rfl
    | ok names => exact congrArg Except.ok (setChildren_eq_withCoreOf sameKind names)

theorem set_eq_map (sameKind : right.kind = left.kind) {field : Field}
    (declared : field ∈ left.kind.fields) (value : Value) :
    right.set field.name value =
      (left.set field.name value).map fun written => right.withFieldOf written field := by
  have leftField : left.field field.name = .ok field :=
    field_eq_ok_iff.2 (Kind.field?_of_mem declared)
  have rightField : right.field field.name = .ok field :=
    field_eq_ok_iff.2 (sameKind ▸ Kind.field?_of_mem declared)
  unfold Item.set
  rw [leftField, rightField, Outcome.ok_bind, Outcome.ok_bind]
  cases access : field.access with
  | core core =>
      simp only [withFieldOf, access]
      exact setCore_eq_map sameKind ⟨field, declared, access⟩ value
  | property shape =>
      simp only [withFieldOf, access]
      cases Slot.coerce field.name shape value with
      | error cause => rfl
      | ok slot => simp [Outcome.pure_eq_ok, Except.map, setSlot, slot?, Dict.get?_insert]

theorem set_undeclared {item : Item} {name : String} (undeclared : item.hasProperty name = false)
    (value : Value) : item.set name value = .error (item.unknownAttribute name) := by
  have missing : item.kind.field? name = none := by
    simpa [hasProperty, Kind.hasField] using undeclared
  unfold Item.set Item.field
  rw [missing]
  rfl

theorem set_error_of_sameKind (sameKind : right.kind = left.kind) {name : String} {value : Value}
    (known : left.hasProperty name = true) {cause : ItemError}
    (refused : left.set name value = .error cause) : right.set name value = .error cause := by
  obtain ⟨field, declared, rfl⟩ := Kind.hasField_iff.1 known
  rw [set_eq_map sameKind declared, refused]
  rfl

theorem isOk_set_eq (sameKind : right.kind = left.kind) (name : String) (value : Value) :
    (right.set name value).isOk = (left.set name value).isOk := by
  cases known : left.hasProperty name with
  | true =>
      obtain ⟨field, declared, rfl⟩ := Kind.hasField_iff.1 known
      rw [set_eq_map sameKind declared]
      cases left.set field.name value <;> rfl
  | false =>
      have unknown : right.hasProperty name = false := by rwa [hasProperty, sameKind]
      rw [set_undeclared known, set_undeclared unknown]
      rfl

end SameKind

section Writing

variable {item written left right : Item} {name otherName : String} {value otherValue : Value}

theorem exists_field_of_set (accepted : item.set name value = .ok written) :
    ∃ field ∈ item.kind.fields, field.name = name ∧ written = item.withFieldOf written field := by
  obtain ⟨field, found, _⟩ := set_eq_ok_iff.1 accepted
  obtain ⟨declared, rfl⟩ := Kind.mem_fields_of_field? found
  have mapped : item.set field.name value =
      (item.set field.name value).map fun written => item.withFieldOf written field :=
    set_eq_map rfl declared value
  rw [accepted] at mapped
  exact ⟨field, declared, rfl, Except.ok.inj mapped⟩

theorem get_of_mem {field : Field} (declared : field ∈ item.kind.fields) :
    item.get field.name = .ok (item.rawValue field) := by
  unfold Item.get
  rw [field_eq_ok_iff.2 (Kind.field?_of_mem declared)]
  rfl

theorem rawValue_setSlot {field : Field} {shape : Shape} {slot : Slot}
    (access : field.access = .property shape) (stored : shape.isStored = true) :
    (item.setSlot field.name slot).rawValue field = slot.toValue := by
  refine rawValue_eq_toValue access stored ?_
  simp [setSlot, slot?, Dict.get?_insert]

theorem exists_set_get_eq (sameKind : right.kind = left.kind)
    (accepted : left.set name value = .ok written) :
    ∃ same, right.set name value = .ok same ∧ same.get name = written.get name := by
  obtain ⟨field, found, write⟩ := set_eq_ok_iff.1 accepted
  obtain ⟨declared, rfl⟩ := Kind.mem_fields_of_field? found
  have mapped := set_eq_map sameKind declared value
  rw [accepted] at mapped
  have keepsKind : written.kind = left.kind := (set_keeps accepted).1
  have sameField : field ∈ right.kind.fields := sameKind ▸ declared
  have copied : (right.withFieldOf written field).kind = right.kind := (set_keeps mapped).1
  refine ⟨right.withFieldOf written field, mapped, ?_⟩
  rw [get_of_mem (copied ▸ sameField), get_of_mem (keepsKind ▸ declared)]
  refine congrArg Except.ok ?_
  rcases write with ⟨core, access, _⟩ | ⟨shape, slot, access, read, rfl⟩
  · simp only [rawValue, access, withFieldOf]
    rw [withCoreOf_coreValue (sameKind.trans keepsKind.symm), if_pos rfl]
  · have stored := Slot.isStored_of_coerce read
    rw [rawValue_setSlot access stored]
    have here : (left.setSlot field.name slot).slot? field.name = some slot := by
      simp [setSlot, slot?, Dict.get?_insert]
    simp only [withFieldOf, access, here]
    exact rawValue_setSlot access stored

theorem get_of_set (accepted : item.set name value = .ok written)
    (known : item.hasProperty otherName = true) (different : otherName ≠ name)
    (apart : (name, otherName) ∉ computedFields) :
    written.get otherName = item.get otherName := by
  obtain ⟨field, declared, rfl, same⟩ := exists_field_of_set accepted
  obtain ⟨other, otherDeclared, rfl⟩ := Kind.hasField_iff.1 known
  have sameKind := (set_keeps accepted).1
  rw [get_of_mem otherDeclared, get_of_mem (sameKind ▸ otherDeclared), same,
    rawValue_withFieldOf sameKind.symm declared otherDeclared different.symm apart]

theorem sorted_of_set (sorted : Dict.Sorted item.slots)
    (accepted : item.set name value = .ok written) : Dict.Sorted written.slots := by
  obtain ⟨field, _, _, same⟩ := exists_field_of_set accepted
  rw [same]
  exact sorted_withFieldOf sorted written field

theorem foundParent_of_set (accepted : item.set name value = .ok written) :
    written.foundParent =
      if name = "parent" ∨ name = "is_subobject" then none else item.foundParent := by
  obtain ⟨field, declared, rfl, same⟩ := exists_field_of_set accepted
  rw [same, foundParent_withFieldOf]
  exact if_congr (Kind.place_names item.kind field declared) rfl rfl

theorem exists_set_set (sorted : Dict.Sorted item.slots) (different : otherName ≠ name)
    (accepted : item.set name value = .ok left)
    (otherAccepted : item.set otherName otherValue = .ok right) :
    ∃ both, left.set otherName otherValue = .ok both ∧ right.set name value = .ok both := by
  obtain ⟨field, declared, rfl, same⟩ := exists_field_of_set accepted
  obtain ⟨other, otherDeclared, rfl, otherSame⟩ := exists_field_of_set otherAccepted
  have swapped : right.withFieldOf left field = left.withFieldOf right other := calc
    right.withFieldOf left field
    _ = (item.withFieldOf right other).withFieldOf left field :=
      congrArg (withFieldOf · left field) otherSame
    _ = (item.withFieldOf left field).withFieldOf right other :=
      withFieldOf_comm sorted right left otherDeclared declared different
    _ = left.withFieldOf right other := congrArg (withFieldOf · right other) same.symm
  refine ⟨left.withFieldOf right other, ?_, ?_⟩
  · rw [set_eq_map (set_keeps accepted).1 otherDeclared, otherAccepted]
    rfl
  · rw [set_eq_map (set_keeps otherAccepted).1 declared, accepted]
    exact congrArg Except.ok swapped

theorem run_set_of_ok (accepted : item.set name value = .ok written) :
    (Edit.set name value).run item = (written, .ok ()) := by
  simp only [Edit.run, accepted, Edit.whole]

theorem run_set_of_error {cause : ItemError} (refused : item.set name value = .error cause) :
    (Edit.set name value).run item = (item, .error cause) := by
  simp only [Edit.run, refused, Edit.whole]

theorem isOk_run_set (item : Item) (name : String) (value : Value) :
    ((Edit.set name value).run item).2.isOk = (item.set name value).isOk := by
  cases outcome : item.set name value with
  | ok written => rw [run_set_of_ok outcome]; rfl
  | error cause => rw [run_set_of_error outcome]; rfl

theorem exists_error_of_sameKind {cause : ItemError} (sameKind : right.kind = left.kind)
    (refused : left.set name value = .error cause) :
    ∃ reason, right.set name value = .error reason := by
  have refusedToo := isOk_set_eq sameKind name value
  rw [refused] at refusedToo
  cases outcome : right.set name value with
  | ok written =>
      rw [outcome] at refusedToo
      cases refusedToo
  | error reason => exact ⟨reason, rfl⟩

theorem run_set_comm (sorted : Dict.Sorted item.slots) (different : otherName ≠ name)
    (value otherValue : Value) :
    ((Edit.set otherName otherValue).run ((Edit.set name value).run item).1).1 =
      ((Edit.set name value).run ((Edit.set otherName otherValue).run item).1).1 := by
  cases outcome : item.set name value with
  | ok left =>
      cases otherOutcome : item.set otherName otherValue with
      | ok right =>
          obtain ⟨both, first, second⟩ := exists_set_set sorted different outcome otherOutcome
          rw [run_set_of_ok outcome, run_set_of_ok otherOutcome, run_set_of_ok first,
            run_set_of_ok second]
      | error cause =>
          obtain ⟨reason, refused⟩ := exists_error_of_sameKind (set_keeps outcome).1 otherOutcome
          rw [run_set_of_ok outcome, run_set_of_error otherOutcome, run_set_of_error refused,
            run_set_of_ok outcome]
  | error cause =>
      cases otherOutcome : item.set otherName otherValue with
      | ok right =>
          obtain ⟨reason, refused⟩ := exists_error_of_sameKind (set_keeps otherOutcome).1 outcome
          rw [run_set_of_error outcome, run_set_of_ok otherOutcome, run_set_of_error refused]
      | error otherCause =>
          rw [run_set_of_error outcome, run_set_of_error otherOutcome, run_set_of_error outcome]

end Writing

/-- A write is made as a whole or not at all, since it checks the value before it changes anything.
It changes no field but its own and those computed from it, and does not depend on what the other
fields hold, so writes of different fields commute. -/
theorem set_isolated {item : Item} (reachable : item.Reachable) (name : String) (value : Value) :
    let write := Edit.set name value
    (∀ cause, (write.run item).2 = .error cause → (write.run item).1 = item) ∧
    ((write.run item).2 = .ok () →
      item.Keeps (write.run item).1 ∧
      (∀ other, item.hasProperty other = true → other ≠ name → (name, other) ∉ computedFields →
        (write.run item).1.get other = item.get other) ∧
      (write.run item).1.foundParent =
        if name = "parent" ∨ name = "is_subobject" then none else item.foundParent) ∧
    (∀ other : Item, other.kind = item.kind →
      (write.run other).2.isOk = (write.run item).2.isOk) ∧
    ∀ second secondValue, second ≠ name →
      let next := Edit.set second secondValue
      (write.run (next.run item).1).2.isOk = (write.run item).2.isOk ∧
      (next.run (write.run item).1).2.isOk = (next.run item).2.isOk ∧
      (next.run (write.run item).1).1 = (write.run (next.run item).1).1 := by
  intro write
  refine ⟨?_, ?_, ?_, ?_⟩
  · intro cause failed
    cases outcome : item.set name value with
    | ok written =>
        rw [run_set_of_ok outcome] at failed
        cases failed
    | error reason => rw [run_set_of_error outcome]
  · intro succeeded
    cases outcome : item.set name value with
    | ok written =>
        rw [run_set_of_ok outcome]
        exact ⟨set_keeps outcome, fun _ => get_of_set outcome, foundParent_of_set outcome⟩
    | error cause =>
        rw [run_set_of_error outcome] at succeeded
        cases succeeded
  · intro other sameKind
    rw [isOk_run_set, isOk_run_set, isOk_set_eq sameKind]
  · intro second secondValue different next
    refine ⟨?_, ?_, run_set_comm reachable.wellFormed.sorted different value secondValue⟩
    · rw [isOk_run_set, isOk_run_set, isOk_set_eq (item.run_keeps next).1]
    · rw [isOk_run_set, isOk_run_set, isOk_set_eq (item.run_keeps write).1]

theorem set_isolated_parent :
    let item := Item.new .profile "0123456789abcdef0123456789abcdef" {}
    let place := Edit.set "parent" (.str "web")
    let flag := Edit.set "is_subobject" (.bool true)
    item.Reachable ∧ (place.run item).2 = .ok () ∧
      (place.run item).1.get "comment" = item.get "comment" ∧
      (flag.run (place.run item).1).1 = (place.run (flag.run item).1).1 := by
  intro item place flag
  have fresh : IsFreshUid "0123456789abcdef0123456789abcdef" := by decide
  have reachable : item.Reachable := .new .profile fresh OrderedMapping.nil
  have accepted : (place.run item).2 = .ok () := by rfl
  obtain ⟨_, framed, _, commutes⟩ := set_isolated reachable "parent" (.str "web")
  obtain ⟨_, unchanged, _⟩ := framed accepted
  exact ⟨reachable, accepted, unchanged "comment" (by rfl) (by decide) (by decide),
    (commutes "is_subobject" (.bool true) (by decide)).2.2⟩

end Item

end Provisioning
