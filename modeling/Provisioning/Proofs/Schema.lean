import Mathlib.Data.List.Nodup
import Provisioning.Proofs.SlotState

/-!
Facts about the fields of the four kinds: names are distinct and in lower case, a name stands for
the same field in every kind that declares it, and first states fit their shapes. What does not
depend on the kind is checked once, over the list of all fields.
-/

namespace Provisioning

def Field.storedShape? (field : Field) : Option Shape :=
  field.shape?.filter Shape.isStored

theorem Field.exists_derivation {field : Field} (derived : field.isDerived = true) :
    ∃ derivation, field.access = .property (.derived derivation) := by
  unfold isDerived at derived
  split at derived
  · rename_i derivation access
    exact ⟨derivation, access⟩
  · cases derived

theorem Shape.eq_inheritChoice {shape : Shape} {members : List String}
    (resolvable : shape.isResolvable = true) (listed : shape.members? = some members) :
    shape = .inheritChoice members := by
  cases shape <;> simp_all [members?, isResolvable]

namespace Schema

/-- The fields of all kinds, each once. Systems share their first three with profiles. -/
def declaredFields : List Field :=
  identityFields ++ treeFields ++ bootFields ++ distroFields ++ profileFields ++
    (systemFields.drop 3 ++ templateFields)

theorem nodup_declaredFields : (declaredFields.map Field.name).Nodup := by
  decide

end Schema

namespace Kind

def storedShape? (kind : Kind) (name : String) : Option Shape :=
  (kind.field? name).bind Field.storedShape?

theorem fields_sublist (kind : Kind) : kind.fields.Sublist Schema.declaredFields := by
  cases kind <;> decide

theorem mem_declaredFields {kind : Kind} {field : Field} (declared : field ∈ kind.fields) :
    field ∈ Schema.declaredFields :=
  kind.fields_sublist.subset declared

theorem forall_fields (kind : Kind) {check : Field → Prop}
    (checked : ∀ field ∈ Schema.declaredFields, check field) :
    ∀ field ∈ kind.fields, check field :=
  fun field declared => checked field (mem_declaredFields declared)

theorem nodup_names (kind : Kind) : (kind.fields.map Field.name).Nodup :=
  Schema.nodup_declaredFields.sublist (kind.fields_sublist.map Field.name)

theorem lower_name (kind : Kind) : ∀ field ∈ kind.fields, Text.lower field.name = field.name :=
  kind.forall_fields (by decide)

theorem fields_agree (left right : Kind) : ∀ field ∈ left.fields, ∀ other ∈ right.fields,
    field.name = other.name → field = other :=
  fun _ declared _ otherDeclared => List.inj_on_of_nodup_map Schema.nodup_declaredFields
    (mem_declaredFields declared) (mem_declaredFields otherDeclared)

theorem fields_admit (kind : Kind) : ∀ field ∈ kind.fields,
    field.storedShape?.all (fun shape =>
      shape.admits field.initial && shape.isCanonical) = true :=
  kind.forall_fields (by decide)

theorem hasTree_of_parentKind? {kind parent : Kind} {isSubobject : Bool}
    (above : kind.parentKind? isSubobject = some parent) : parent.hasTree = true := by
  cases kind <;> cases isSubobject <;> cases above <;> rfl

theorem declares_core_iff (kind : Kind) (core : CoreField) :
    (∃ field ∈ kind.fields, field.access = .core core) ↔
      kind.hasTree = true ∨ core ∉ [.parent, .depth, .isSubobject, .children] := by
  cases kind <;> cases core <;> decide

theorem mapping_is_boot (kind : Kind) : ∀ field ∈ kind.fields,
    field.shape?.any (fun shape => shape.isMapping && shape.isResolvable) = true →
      field ∈ Schema.bootFields :=
  kind.forall_fields (by decide)

theorem mapping_declared (kind other : Kind) : other.hasTree = true → ∀ field ∈ kind.fields,
    field.shape?.any (fun shape => shape.isMapping && shape.isResolvable) = true →
      field ∈ other.fields := by
  intro hasTree field declared mapping
  have boot := kind.mapping_is_boot field declared mapping
  cases other
  case template => cases hasTree
  all_goals exact List.mem_append_left _ (List.mem_append_right _ boot)

theorem mem_fields_of_field? {kind : Kind} {name : String} {field : Field}
    (found : kind.field? name = some field) : field ∈ kind.fields ∧ field.name = name := by
  unfold field? at found
  exact ⟨List.mem_of_find?_eq_some found, by simpa using List.find?_some found⟩

theorem field?_of_mem {kind : Kind} {field : Field} (member : field ∈ kind.fields) :
    kind.field? field.name = some field := by
  obtain ⟨found, hit⟩ : ∃ found, kind.field? field.name = some found := by
    unfold field?
    rw [← Option.isSome_iff_exists, List.find?_isSome]
    exact ⟨field, member, by simp⟩
  obtain ⟨foundMember, sameName⟩ := mem_fields_of_field? hit
  rw [hit, fields_agree kind kind found foundMember field member sameName]

theorem hasField_iff {kind : Kind} {name : String} :
    kind.hasField name = true ↔ ∃ field ∈ kind.fields, field.name = name := by
  unfold hasField
  rw [Option.isSome_iff_exists]
  constructor
  · rintro ⟨field, found⟩
    exact ⟨field, mem_fields_of_field? found⟩
  · rintro ⟨field, member, rfl⟩
    exact ⟨field, field?_of_mem member⟩

/-- Where the items of a kind stand: parents stand no lower than their children. -/
def height : Kind → Nat
  | .system => 0
  | .profile => 1
  | .distro => 2
  | .template => 3

theorem height_le_of_parentKind? {kind parent : Kind} {isSubobject : Bool}
    (above : kind.parentKind? isSubobject = some parent) : kind.height ≤ parent.height := by
  cases kind <;> cases isSubobject <;> cases above <;> decide

/-- A field that two kinds share is declared by every kind between them. -/
theorem declared_between {lower middle upper : Kind} (below : lower.height ≤ middle.height)
    (above : middle.height ≤ upper.height) :
    ∀ field ∈ lower.fields, upper.hasField field.name = true →
      middle.hasField field.name = true := by
  by_cases sameAsLower : middle = lower
  · subst sameAsLower
    exact fun field member _ => hasField_iff.2 ⟨field, member, rfl⟩
  by_cases sameAsUpper : middle = upper
  · subst sameAsUpper
    exact fun _ _ declared => declared
  cases lower <;> cases middle <;> cases upper <;>
    first
    | contradiction
    | exact absurd below (by decide)
    | exact absurd above (by decide)
    | decide

theorem field?_agree {left right : Kind} {name : String} {field other : Field}
    (leftFound : left.field? name = some field) (rightFound : right.field? name = some other) :
    field = other := by
  obtain ⟨fieldMember, fieldName⟩ := mem_fields_of_field? leftFound
  obtain ⟨otherMember, otherName⟩ := mem_fields_of_field? rightFound
  exact fields_agree left right field fieldMember other otherMember (fieldName.trans otherName.symm)

theorem storedShape?_eq_some_iff {kind : Kind} {name : String} {shape : Shape} :
    kind.storedShape? name = some shape ↔
      ∃ field, kind.field? name = some field ∧ field.access = .property shape ∧
        shape.isStored = true := by
  simp only [storedShape?, Field.storedShape?, Field.shape?, Option.bind_eq_some_iff,
    Option.filter_eq_some_iff]
  constructor
  · rintro ⟨field, found, given, stored⟩
    refine ⟨field, found, ?_, stored⟩
    split at given
    · rename_i access
      rw [access, Option.some.inj given]
    · simp at given
  · rintro ⟨field, found, access, stored⟩
    exact ⟨field, found, by rw [access], stored⟩

theorem storedShape?_agree {kind other : Kind} {name : String} {shape : Shape}
    (stored : kind.storedShape? name = some shape) (declared : other.hasField name = true) :
    other.storedShape? name = some shape := by
  obtain ⟨field, found, access, isStored⟩ := storedShape?_eq_some_iff.1 stored
  obtain ⟨otherField, otherFound⟩ := Option.isSome_iff_exists.1 declared
  have same := field?_agree found otherFound
  subst same
  exact storedShape?_eq_some_iff.2 ⟨field, otherFound, access, isStored⟩

theorem hasField_of_stored {kind : Kind} {name : String} {shape : Shape}
    (stored : kind.storedShape? name = some shape) : kind.hasField name = true := by
  obtain ⟨field, found, _⟩ := storedShape?_eq_some_iff.1 stored
  exact Option.isSome_iff_exists.2 ⟨field, found⟩

theorem storedShape?_of_mapping {kind other : Kind} {name : String} {shape : Shape}
    (stored : kind.storedShape? name = some shape) (mapping : shape.isMapping = true)
    (resolvable : shape.isResolvable = true) (hasTree : other.hasTree = true) :
    other.storedShape? name = some shape := by
  obtain ⟨field, found, access, isStored⟩ := storedShape?_eq_some_iff.1 stored
  obtain ⟨member, rfl⟩ := mem_fields_of_field? found
  have inheritable :
      field.shape?.any (fun shape => shape.isMapping && shape.isResolvable) = true := by
    simp [Field.shape?, access, mapping, resolvable]
  have shared := mapping_declared kind other hasTree field member inheritable
  exact storedShape?_eq_some_iff.2 ⟨field, field?_of_mem shared, access, isStored⟩

theorem admits_of_stored {kind : Kind} {name : String} {shape : Shape} {field : Field}
    (found : kind.field? name = some field) (stored : kind.storedShape? name = some shape) :
    shape.admits field.initial = true ∧ shape.isCanonical = true := by
  have checked := fields_admit kind field (mem_fields_of_field? found).1
  have shapeOfField : field.storedShape? = some shape := by simpa [storedShape?, found] using stored
  simpa [shapeOfField] using checked

theorem storedShape?_of_mem {kind : Kind} {field : Field} {shape : Shape}
    (member : field ∈ kind.fields) (access : field.access = .property shape)
    (resolvable : shape.isResolvable = true) : kind.storedShape? field.name = some shape :=
  storedShape?_eq_some_iff.2
    ⟨field, field?_of_mem member, access, Shape.isStored_of_isResolvable resolvable⟩

theorem isCanonical_of_stored {kind : Kind} {name : String} {shape : Shape}
    (stored : kind.storedShape? name = some shape) : shape.isCanonical = true := by
  obtain ⟨field, found, _⟩ := storedShape?_eq_some_iff.1 stored
  exact (admits_of_stored found stored).2

theorem proxy_members (kind : Kind) : (kind.storedShape? "proxy").bind Shape.members? = none := by
  cases kind <;> decide

end Kind

end Provisioning
