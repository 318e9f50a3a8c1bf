import Provisioning.Proofs.FieldWrites
import Provisioning.Proofs.ResolvedForm

/-!
States of properties and their flat values. What a value is read as is read again from its own flat
value, and a flat value is the inherit token exactly where the state is the inherited one.
-/

namespace Provisioning

theorem Shape.isCanonical_of_memberless {shape : Shape} (memberless : shape.members? = none) :
    shape.isCanonical = true := by
  simp [isCanonical, memberless]

theorem Kind.isCanonical_of_mem {kind : Kind} {field : Field} {shape : Shape}
    (declared : field ∈ kind.fields) (access : field.access = .property shape)
    (stored : shape.isStored = true) : shape.isCanonical = true :=
  isCanonical_of_stored (storedShape?_eq_some_iff.2 ⟨field, field?_of_mem declared, access, stored⟩)

namespace Slot

/-- Reading is a normal form, for the shapes of all fields and for all shapes without members. -/
theorem coerce_toValue_of_coerce {name : String} {shape : Shape} {value : Value} {slot : Slot}
    (shaped : shape.members? = none ∨
      ∃ kind : Kind, ∃ field ∈ kind.fields, field.access = .property shape)
    (ordered : value.Ordered) (accepted : coerce name shape value = .ok slot) :
    coerce name shape slot.toValue = .ok slot := by
  have canonical : shape.isCanonical = true := by
    rcases shaped with memberless | ⟨kind, field, declared, access⟩
    · exact Shape.isCanonical_of_memberless memberless
    · exact Kind.isCanonical_of_mem declared access (isStored_of_coerce accepted)
  exact (coerce_fits accepted ordered).coerce_toValue canonical name

theorem coerce_toValue_of_options :
    let value := Value.str " quiet=~ console=tty0,console=ttyS0,115200"
    let slot := Slot.mapping (.own ⟨[
      ("console", .set (.list [.str "tty0", .str "ttyS0,115200"])), ("quiet", .remove)]⟩)
    coerce "kernel_options" (.inheritMap true) value = .ok slot ∧
      coerce "kernel_options" (.inheritMap true) slot.toValue = .ok slot := by
  intro value slot
  have accepted : coerce "kernel_options" (.inheritMap true) value = .ok slot := by rfl
  exact ⟨accepted, coerce_toValue_of_coerce (Or.inl rfl) (Value.ordered_str _) accepted⟩

theorem toValue_eq_token_of_isInherit {slot : Slot} (inherits : slot.isInherit = true) :
    slot.toValue = .str inheritToken := by
  cases slot with
  | interfaces records => cases inherits
  | scalar state | choice state | mapping state =>
      cases state with
      | own value => cases inherits
      | inherit => rfl

theorem isInherit_inherited (slot : Slot) : slot.inherited.isInherit = true := by
  cases slot <;> rfl

theorem coerce_token_eq_error (name : String) {shape : Shape}
    (plain : shape.isResolvable = false) :
    ∃ cause, coerce name shape (.str inheritToken) = .error cause := by
  cases shape <;> simp only [Shape.isResolvable, Bool.true_eq_false] at plain <;> exact ⟨_, rfl⟩

end Slot

namespace Item

variable {item : Item} {field : Field} {shape : Shape}

theorem isInherited_of_mem (declared : field ∈ item.kind.fields) :
    item.isInherited field.name = .ok (item.isInheriting field.name) := by
  unfold isInherited
  rw [field_eq_ok_iff.2 (Kind.field?_of_mem declared)]
  rfl

theorem isInheriting_iff (wellFormed : item.WellFormed) (declared : field ∈ item.kind.fields)
    (access : field.access = .property shape) :
    item.isInheriting field.name = true ↔ item.rawValue field = .str inheritToken := by
  constructor
  · intro inheriting
    obtain ⟨slot, held, inherits⟩ := (Option.any_eq_true _ _).1 inheriting
    obtain ⟨given, stored, _⟩ := wellFormed.slot_fits (Dict.mem_of_get? held)
    obtain ⟨other, found, otherAccess, isStored⟩ := Kind.storedShape?_eq_some_iff.1 stored
    have same : other = field := Kind.field?_agree found (Kind.field?_of_mem declared)
    subst same
    rw [rawValue_eq_toValue otherAccess isStored held]
    exact Slot.toValue_eq_token_of_isInherit inherits
  · intro token
    cases resolvable : shape.isResolvable with
    | false =>
        have plain : field.shape?.any Shape.isResolvable = false := by
          simp [Field.shape?, access, resolvable]
        exact absurd token (rawValue_ne_token wellFormed declared (by simp [access]) plain)
    | true =>
        obtain ⟨slot, held, _⟩ :=
          wellFormed.exists_slot (Kind.storedShape?_of_mem declared access resolvable)
        rw [rawValue_eq_toValue access (Shape.isStored_of_isResolvable resolvable) held] at token
        by_contra owned
        refine wellFormed.toValue_ne_token held ?_ token
        simpa [isInheriting, held] using owned

theorem isInherited_setSlot (declared : field ∈ item.kind.fields) {slot : Slot}
    (inherits : slot.isInherit = true) :
    (item.setSlot field.name slot).isInherited field.name = .ok true := by
  have kept : field ∈ (item.setSlot field.name slot).kind.fields := declared
  have held : (item.setSlot field.name slot).slot? field.name = some slot := by
    change Dict.get? (item.slots.insert field.name slot) field.name = some slot
    rw [Dict.get?_insert, if_pos rfl]
  rw [isInherited_of_mem kept, isInheriting, held, Option.any_some, inherits]

theorem exists_inherit_set (wellFormed : item.WellFormed) (declared : field ∈ item.kind.fields)
    (access : field.access = .property shape) (resolvable : shape.isResolvable = true) :
    ∃ written, item.inherit field.name = .ok written ∧
      item.set field.name (.str inheritToken) = .ok written ∧
      written.isInherited field.name = .ok true := by
  have stored := Kind.storedShape?_of_mem declared access resolvable
  have found : item.field field.name = .ok field :=
    field_eq_ok_iff.2 (Kind.field?_of_mem declared)
  obtain ⟨slot, held, fits⟩ := wellFormed.exists_slot stored
  have read : Slot.coerce field.name shape (.str inheritToken) = .ok slot.inherited := by
    have again := (fits.inherited resolvable).coerce_toValue (Kind.isCanonical_of_stored stored)
      field.name
    rwa [Slot.toValue_eq_token_of_isInherit slot.isInherit_inherited] at again
  refine ⟨item.setSlot field.name slot.inherited, ?_, ?_,
    isInherited_setSlot declared slot.isInherit_inherited⟩
  · unfold Item.inherit
    rw [found, Outcome.ok_bind, Field.shape?, access, held]
    simp only [Option.any_some, resolvable, if_true, Option.getD_some]
    rfl
  · exact set_eq_ok_iff.2 ⟨field, Kind.field?_of_mem declared, Or.inr
      ⟨shape, slot.inherited, access, read, rfl⟩⟩

theorem inherit_eq_error (declared : field ∈ item.kind.fields)
    (access : field.access = .property shape) (plain : shape.isResolvable = false) :
    item.inherit field.name = .error (.refused field.name .notInheritable) := by
  unfold Item.inherit
  rw [field_eq_ok_iff.2 (Kind.field?_of_mem declared), Outcome.ok_bind, Field.shape?, access]
  simp [plain, Convert.refuse]

theorem set_token_eq_error (declared : field ∈ item.kind.fields)
    (access : field.access = .property shape) (plain : shape.isResolvable = false) :
    ∃ cause, item.set field.name (.str inheritToken) = .error cause := by
  obtain ⟨cause, refused⟩ := Slot.coerce_token_eq_error field.name plain
  refine ⟨cause, ?_⟩
  unfold Item.set
  rw [field_eq_ok_iff.2 (Kind.field?_of_mem declared), Outcome.ok_bind, access]
  simp only [refused, Outcome.error_bind]

/-- The inherited state of a field and the inherit token stand for each other. -/
theorem isInherited_iff_token {item : Item} (reachable : item.Reachable) {field : Field}
    {shape : Shape} (declared : field ∈ item.kind.fields)
    (access : field.access = .property shape) :
    let giveBack := Edit.inherit field.name
    let writeToken := Edit.set field.name (.str inheritToken)
    (∃ inherits, item.isInherited field.name = .ok inherits ∧
      (inherits = true ↔ item.get field.name = .ok (.str inheritToken))) ∧
    (shape.isResolvable = true →
      ∃ written, giveBack.run item = (written, .ok ()) ∧ writeToken.run item = (written, .ok ()) ∧
        written.isInherited field.name = .ok true) ∧
    (shape.isResolvable = false →
      (∃ cause, giveBack.run item = (item, .error cause)) ∧
      ∃ cause, writeToken.run item = (item, .error cause)) := by
  intro giveBack writeToken
  have wellFormed := reachable.wellFormed
  refine ⟨⟨item.isInheriting field.name, isInherited_of_mem declared, ?_⟩, ?_, ?_⟩
  · rw [get_of_mem declared, Except.ok.injEq]
    exact isInheriting_iff wellFormed declared access
  · intro resolvable
    obtain ⟨written, given, set, inherits⟩ :=
      exists_inherit_set wellFormed declared access resolvable
    refine ⟨written, ?_, run_set_of_ok set, inherits⟩
    simp only [giveBack, Edit.run, given, Edit.whole]
  · intro plain
    obtain ⟨cause, refused⟩ := set_token_eq_error declared access plain
    refine ⟨⟨.refused field.name .notInheritable, ?_⟩, cause, run_set_of_error refused⟩
    simp only [giveBack, Edit.run, inherit_eq_error declared access plain, Edit.whole]

theorem isInherited_iff_token_owners :
    let item := Item.new .distro "0123456789abcdef0123456789abcdef" {}
    item.Reachable ∧ item.isInherited "owners" = .ok true ∧
      (∃ written, (Edit.inherit "kernel_options").run item = (written, .ok ()) ∧
        (Edit.set "kernel_options" (.str inheritToken)).run item = (written, .ok ()) ∧
        written.isInherited "kernel_options" = .ok true) ∧
      ∃ cause, (Edit.set "arch" (.str inheritToken)).run item = (item, .error cause) := by
  intro item
  have fresh : IsFreshUid "0123456789abcdef0123456789abcdef" := by decide
  have reachable : item.Reachable := .new .distro fresh OrderedMapping.nil
  obtain ⟨owners, ownersDeclared, ownersNamed, ownersAccess⟩ : ∃ field ∈ item.kind.fields,
      field.name = "owners" ∧ field.access = .property .inheritList := by decide
  obtain ⟨options, optionsDeclared, optionsNamed, optionsAccess⟩ : ∃ field ∈ item.kind.fields,
      field.name = "kernel_options" ∧ field.access = .property (.inheritMap true) := by
    decide
  obtain ⟨arch, archDeclared, archNamed, archAccess⟩ : ∃ field ∈ item.kind.fields,
      field.name = "arch" ∧ field.access = .property (.choice (Choice.tokens Arch)) := by
    decide
  obtain ⟨⟨inherits, outcome, same⟩, _⟩ :=
    isInherited_iff_token reachable ownersDeclared ownersAccess
  obtain ⟨_, alike, _⟩ := isInherited_iff_token reachable optionsDeclared optionsAccess
  obtain ⟨_, _, refused⟩ := isInherited_iff_token reachable archDeclared archAccess
  rw [ownersNamed] at outcome same
  rw [optionsNamed] at alike
  rw [archNamed] at refused
  rw [same.2 (by rfl)] at outcome
  exact ⟨reachable, outcome, alike rfl, (refused rfl).2⟩

end Item

end Provisioning
