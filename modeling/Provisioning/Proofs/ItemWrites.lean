import Provisioning.Item.Edit
import Provisioning.Proofs.Outcome

/-!
When a write is accepted and what it leads to, for each way in which an item is written. No write
moves an item to another kind or to other settings.
-/

namespace Provisioning

def isBlankText (text : String) : Bool :=
  (Text.trimChars text.toList).isEmpty

namespace Item

variable {item written : Item}

theorem checkName_eq_ok_iff {field name : String} {done : Unit} :
    checkName field name = .ok done ↔ name.toList.all isNameCharacter = true := by
  unfold checkName
  split <;> simp_all [Convert.refuse]

theorem finite_eq_ok_iff {field : String} {given seconds : Float} :
    Convert.finite field given = .ok seconds ↔ given.isFinite = true ∧ seconds = given := by
  unfold Convert.finite
  cases given.isFinite <;> simp [Convert.refuse, eq_comm]

theorem requireTree_eq_ok_iff {field : String} {done : Unit} :
    item.requireTree field = .ok done ↔ item.kind.hasTree = true := by
  unfold requireTree
  split <;> simp_all

theorem field_eq_ok_iff {name : String} {field : Field} :
    item.field name = .ok field ↔ item.kind.field? name = some field := by
  unfold Item.field
  cases item.kind.field? name <;> simp

theorem setUid_eq_ok_iff {uid : String} :
    item.setUid uid = .ok written ↔ isBlankText uid = false ∧ written = { item with uid } := by
  unfold setUid isBlankText
  cases (Text.trimChars uid.toList).isEmpty <;> simp [Convert.refuse, eq_comm]

theorem setName_eq_ok_iff {name : String} :
    item.setName name = .ok written ↔
      name.toList.all isNameCharacter = true ∧ written = { item with name } := by
  simp only [setName, Outcome.bind_eq_ok_iff, checkName_eq_ok_iff, Outcome.pure_eq_ok,
    Except.ok.injEq, exists_const, @eq_comm _ written]

theorem setCreatedAt_eq_ok_iff {seconds : Float} :
    item.setCreatedAt seconds = .ok written ↔
      seconds.isFinite = true ∧ written = { item with ctime := seconds } := by
  simp only [setCreatedAt, Outcome.bind_eq_ok_iff, finite_eq_ok_iff, Outcome.pure_eq_ok,
    Except.ok.injEq, and_assoc, exists_and_left, exists_eq_left, @eq_comm _ written]

theorem setModifiedAt_eq_ok_iff {seconds : Float} :
    item.setModifiedAt seconds = .ok written ↔
      seconds.isFinite = true ∧ written = { item with mtime := seconds } := by
  simp only [setModifiedAt, Outcome.bind_eq_ok_iff, finite_eq_ok_iff, Outcome.pure_eq_ok,
    Except.ok.injEq, and_assoc, exists_and_left, exists_eq_left, @eq_comm _ written]

theorem setParent_eq_ok_iff {parent : String} :
    item.setParent parent = .ok written ↔
      item.kind.hasTree = true ∧ parent.toList.all isNameCharacter = true ∧
        written = { item with parentName := parent, foundParent := none } := by
  simp only [setParent, Outcome.bind_eq_ok_iff, requireTree_eq_ok_iff, checkName_eq_ok_iff,
    Outcome.pure_eq_ok, Except.ok.injEq, exists_const, @eq_comm _ written]

theorem setDepth_eq_ok_iff {depth : Int64} :
    item.setDepth depth = .ok written ↔
      item.kind.hasTree = true ∧ 0 ≤ depth ∧ written = { item with depth } := by
  simp only [setDepth, Outcome.bind_eq_ok_iff, requireTree_eq_ok_iff, exists_const]
  refine and_congr_right fun _ => ?_
  split
  · rename_i negative
    simp [Convert.refuse, Int64.not_le.2 negative]
  · rename_i nonnegative
    simp [Outcome.pure_eq_ok, Int64.not_lt.1 nonnegative, eq_comm]

theorem setIsSubobject_eq_ok_iff {isSubobject : Bool} :
    item.setIsSubobject isSubobject = .ok written ↔
      item.kind.hasTree = true ∧ written = { item with isSubobject, foundParent := none } := by
  simp only [setIsSubobject, Outcome.bind_eq_ok_iff, requireTree_eq_ok_iff, Outcome.pure_eq_ok,
    Except.ok.injEq, exists_const, @eq_comm _ written]

theorem set_eq_ok_iff {name : String} {value : Value} :
    item.set name value = .ok written ↔
      ∃ field, item.kind.field? name = some field ∧
        ((∃ core, field.access = .core core ∧ item.setCore core value = .ok written) ∨
          ∃ shape slot, field.access = .property shape ∧
            Slot.coerce field.name shape value = .ok slot ∧
            written = item.setSlot field.name slot) := by
  simp only [Item.set, Outcome.bind_eq_ok_iff, field_eq_ok_iff]
  refine exists_congr fun field => and_congr_right fun _ => ?_
  cases field.access with
  | core core => simp
  | property shape =>
      simp [Outcome.bind_eq_ok_iff, Outcome.pure_eq_ok, @eq_comm _ written]

def Keeps (item written : Item) : Prop :=
  written.kind = item.kind ∧ written.settings = item.settings

theorem Keeps.trans {middle : Item} (first : item.Keeps middle) (second : middle.Keeps written) :
    item.Keeps written :=
  ⟨second.1.trans first.1, second.2.trans first.2⟩

theorem setChildren_keeps (names : List String) : item.Keeps (item.setChildren names) := by
  unfold setChildren
  split <;> exact ⟨rfl, rfl⟩

theorem setCore_keeps {core : CoreField} {value : Value}
    (accepted : item.setCore core value = .ok written) : item.Keeps written := by
  cases core <;> simp only [setCore, Outcome.bind_eq_ok_iff, Outcome.pure_eq_ok,
    Except.ok.injEq] at accepted
  case uid =>
    obtain ⟨_, _, uid, _, accepted⟩ := accepted
    obtain ⟨_, rfl⟩ := setUid_eq_ok_iff.1 accepted
    exact ⟨rfl, rfl⟩
  case name =>
    obtain ⟨_, _, accepted⟩ := accepted
    split at accepted
    · obtain ⟨_, rfl⟩ := setName_eq_ok_iff.1 accepted
      exact ⟨rfl, rfl⟩
    · simp [Convert.refuse] at accepted
  case comment =>
    obtain ⟨comment, _, rfl⟩ := accepted
    exact ⟨rfl, rfl⟩
  case ctime =>
    obtain ⟨seconds, _, accepted⟩ := accepted
    obtain ⟨_, rfl⟩ := setCreatedAt_eq_ok_iff.1 accepted
    exact ⟨rfl, rfl⟩
  case mtime =>
    obtain ⟨seconds, _, accepted⟩ := accepted
    obtain ⟨_, rfl⟩ := setModifiedAt_eq_ok_iff.1 accepted
    exact ⟨rfl, rfl⟩
  case parent =>
    obtain ⟨_, _, parent, _, accepted⟩ := accepted
    obtain ⟨_, _, rfl⟩ := setParent_eq_ok_iff.1 accepted
    exact ⟨rfl, rfl⟩
  case depth =>
    split at accepted
    · obtain ⟨_, _, rfl⟩ := setDepth_eq_ok_iff.1 accepted
      exact ⟨rfl, rfl⟩
    · simp [Convert.refuse] at accepted
  case isSubobject =>
    split at accepted
    · obtain ⟨_, rfl⟩ := setIsSubobject_eq_ok_iff.1 accepted
      exact ⟨rfl, rfl⟩
    · simp [Convert.refuse] at accepted
  case children =>
    obtain ⟨names, _, rfl⟩ := accepted
    exact setChildren_keeps names

theorem set_keeps {name : String} {value : Value} (accepted : item.set name value = .ok written) :
    item.Keeps written := by
  obtain ⟨_, _, ⟨core, _, accepted⟩ | ⟨_, slot, _, _, rfl⟩⟩ := set_eq_ok_iff.1 accepted
  · exact setCore_keeps accepted
  · exact ⟨rfl, rfl⟩

theorem inherit_keeps {name : String} (accepted : item.inherit name = .ok written) :
    item.Keeps written := by
  simp only [Item.inherit, Outcome.bind_eq_ok_iff] at accepted
  obtain ⟨field, _, accepted⟩ := accepted
  split at accepted
  · cases accepted
    exact ⟨rfl, rfl⟩
  · simp [Convert.refuse] at accepted

theorem applyEntries_keeps (item : Item) (entries : List (String × Value)) :
    item.Keeps (item.applyEntries entries).1 := by
  induction entries generalizing item with
  | nil => exact ⟨rfl, rfl⟩
  | cons entry entries ih =>
      unfold applyEntries
      dsimp only
      split
      · split
        · rename_i written accepted
          exact (set_keeps accepted).trans (ih written)
        · exact ⟨rfl, rfl⟩
      · exact ih item

theorem whole_keeps {outcome : Except ItemError Item}
    (each : ∀ written, outcome = .ok written → item.Keeps written) :
    item.Keeps (Edit.whole item outcome).1 := by
  cases outcome with
  | ok written => exact each written rfl
  | error cause => exact ⟨rfl, rfl⟩

theorem run_keeps (item : Item) (edit : Edit) : item.Keeps (edit.run item).1 := by
  cases edit with
  | set name value => exact whole_keeps fun _ => set_keeps
  | inherit name => exact whole_keeps fun _ => inherit_keeps
  | setName name =>
      exact whole_keeps fun _ accepted => (setName_eq_ok_iff.1 accepted).2 ▸ ⟨rfl, rfl⟩
  | setComment comment => exact ⟨rfl, rfl⟩
  | setCreatedAt seconds =>
      exact whole_keeps fun _ accepted => (setCreatedAt_eq_ok_iff.1 accepted).2 ▸ ⟨rfl, rfl⟩
  | setModifiedAt seconds =>
      exact whole_keeps fun _ accepted => (setModifiedAt_eq_ok_iff.1 accepted).2 ▸ ⟨rfl, rfl⟩
  | touch now => exact ⟨rfl, rfl⟩
  | setParent parent =>
      exact whole_keeps fun _ accepted => (setParent_eq_ok_iff.1 accepted).2.2 ▸ ⟨rfl, rfl⟩
  | setDepth depth =>
      exact whole_keeps fun _ accepted => (setDepth_eq_ok_iff.1 accepted).2.2 ▸ ⟨rfl, rfl⟩
  | setIsSubobject flag =>
      exact whole_keeps fun _ accepted => (setIsSubobject_eq_ok_iff.1 accepted).2 ▸ ⟨rfl, rfl⟩
  | setChildren names => exact setChildren_keeps names
  | addChild name =>
      unfold Edit.run addChild
      dsimp only
      split <;> exact ⟨rfl, rfl⟩
  | removeChild name => exact ⟨rfl, rfl⟩
  | applyDict dictionary =>
      have kept := item.applyEntries_keeps dictionary
      unfold Edit.run applyDict
      dsimp only
      split <;> simpa only [*] using kept

theorem noteConceptualParent_keeps (item : Item) (lookup : Lookup) :
    item.Keeps (item.noteConceptualParent lookup) := by
  unfold noteConceptualParent
  split <;> exact ⟨rfl, rfl⟩

end Item

end Provisioning
