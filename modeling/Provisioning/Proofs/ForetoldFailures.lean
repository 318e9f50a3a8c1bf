import Provisioning.Proofs.Fallback
import Provisioning.Proofs.FlatState
import Provisioning.Proofs.Obstacle
import Provisioning.Proofs.SettingsCheck
import Provisioning.Proofs.SettingsFaults
import Provisioning.Proofs.Unvisited

/-!
Every fault that the check of the settings reports shows. An item without a parent that leaves the
field to its ancestors cannot be resolved, and fails in the way that goes with the fault.
-/

namespace Provisioning

namespace Item

variable {item : Item} {lookup : Lookup} {field : Field} {shape : Shape}

theorem parent?_empty (item : Item) : item.parent? ⟨Catalog.empty, .byKind⟩ = none := by
  unfold parent?
  cases item.parentPlace? <;> rfl

theorem ancestry_of_parentless (parentless : item.parent? lookup = none) :
    item.ancestry lookup = item.ancestry ⟨Catalog.empty, .byKind⟩ := by
  have single : ([item].map Item.uid).Nodup := List.nodup_singleton _
  have walk : ParentWalk lookup item [] item := .of_ended .here single parentless
  refine walk.ancestry_agree ?_
  rw [List.forall_mem_singleton, parentless, parent?_empty]

theorem parentWalk_empty (item : Item) :
    ParentWalk ⟨Catalog.empty, .byKind⟩ item [] item :=
  .of_ended .here (List.nodup_singleton _) item.parent?_empty

theorem ownValue?_of_inheriting {name : String} (inherited : item.isInheriting name = true) :
    item.ownValue? name = none := by
  obtain ⟨slot, held, inherits⟩ := (Option.any_eq_true _ _).1 inherited
  unfold ownValue?
  rw [held]
  cases slot with
  | scalar state => cases state <;> first | rfl | cases inherits
  | choice state => cases state <;> first | rfl | cases inherits
  | mapping state => rfl
  | interfaces records => rfl

section Parentless

variable (reachable : item.Reachable) (parentless : item.parent? lookup = none)
  (declared : field ∈ item.kind.fields)

include reachable parentless declared

theorem resolveScalar_of_parentless (access : field.access = .property shape)
    (resolvable : shape.isResolvable = true) (unmapped : shape.isMapping = false)
    (inherited : item.isInheriting field.name = true) :
    item.resolveScalar field.resolutionName lookup =
      item.settledScalar field.resolutionName field.terminusKey shape := by
  rw [resolveScalar_congr (ancestry_of_parentless parentless)]
  exact item.parentWalk_empty.resolveScalar_of_unowned item.parent?_empty reachable .empty
    (propertyKeys_resolutionName declared access resolvable unmapped)
    (Kind.storedShape?_of_mem declared access resolvable) resolvable unmapped
    (List.forall_mem_singleton.2 (ownValue?_of_inheriting inherited))

theorem resolveChoice_of_parentless {members : List String}
    (access : field.access = .property (.inheritChoice members))
    (inherited : item.isInheriting field.name = true) :
    item.resolveChoice field.resolutionName lookup =
      item.settledMember field.resolutionName field.terminusKey members := by
  have named := Kind.choice_resolutionName item.kind field declared members access
  have keys := propertyKeys_resolutionName declared access rfl rfl
  rw [named] at keys ⊢
  rw [resolveChoice_congr (ancestry_of_parentless parentless)]
  exact item.parentWalk_empty.resolveChoice_of_unowned item.parent?_empty reachable .empty keys
    (Kind.storedShape?_of_mem declared access rfl)
    (List.forall_mem_singleton.2 (ownValue?_of_inheriting inherited))

theorem resolveMapping_of_parentless (access : field.access = .property shape)
    (resolvable : shape.isResolvable = true) (mapping : shape.isMapping = true) :
    item.resolveMapping field.name lookup =
      (item.mappingTerminus field.name).map (layered field.name [item]) := by
  have stored := Kind.storedShape?_of_mem declared access resolvable
  rw [resolveMapping_congr (ancestry_of_parentless parentless),
    item.parentWalk_empty.resolveMapping_eq reachable .empty stored mapping resolvable,
    item.parent?_empty]

end Parentless

theorem settledScalar_of_unsaid {property key : String} (unsaid : item.setting? key = none)
    (shape : Shape) :
    item.settledScalar property key shape = .error (.unresolved item.name property) := by
  unfold settledScalar
  rw [unsaid]

theorem settledMember_of_unsaid {property key : String} (unsaid : item.setting? key = none)
    (members : List String) :
    item.settledMember property key members = .error (.unresolved item.name property) := by
  unfold settledMember
  rw [unsaid]

theorem settledMember_of_unlisted {property key : String} {members : List String} {value : Value}
    (said : item.setting? key = some value)
    (unlisted : Settings.isMember key members value = false) :
    ∃ reason, item.settledMember property key members = .error (.refused key reason) := by
  cases settled : item.settledMember property key members with
  | ok member =>
      obtain ⟨token, saidToo, read⟩ := settledMember_eq_ok settled
      cases said.symm.trans saidToo
      change (memberFor key members token).isOk = false at unlisted
      rw [read] at unlisted
      cases unlisted
  | error cause =>
      rcases settledMember_eq_error settled with ⟨unsaid, _⟩ | ⟨_, reason, _, rfl, _⟩
      · cases said.symm.trans unsaid
      · exact ⟨reason, rfl⟩

theorem mappingTerminus_of_noTable {property : String} {value : Value}
    (found : item.settings.get? property = some value) (notNull : value ≠ .null)
    (notDict : ∀ entries, value ≠ .dict entries) :
    item.mappingTerminus property = .error (.wrongShape property .settingsDict) := by
  unfold mappingTerminus
  rw [found]
  cases value with
  | null => exact absurd rfl notNull
  | dict entries => exact absurd rfl (notDict entries)
  | _ => rfl

def LeftOpen (item : Item) (lookup : Lookup) (field : Field) : Prop :=
  item.resolveScalar field.resolutionName lookup =
      .error (.unresolved item.name field.resolutionName) ∧
    ((field.shape?.bind Shape.members?).isSome = true →
      item.resolveChoice field.resolutionName lookup =
        .error (.unresolved item.name field.resolutionName))

end Item

/-- How the field resolves on account of a fault, for an item that has nothing but the settings. -/
def SettingsFault.Foretells (item : Item) (lookup : Lookup) (field : Field) :
    SettingsFault → Prop
  | .missing _ _ _ | .unusable _ _ _ .inheritToken => item.LeftOpen lookup field
  | .unusable _ _ key (.notMember _) =>
      ∃ reason, item.resolveChoice field.resolutionName lookup = .error (.refused key reason)
  | .unusable _ _ _ (.notTable _) =>
      item.resolveMapping field.name lookup = .error (.wrongShape field.name .settingsDict)
  | .logging _ => True

section Foretelling

variable {item : Item} {lookup : Lookup} {field : Field} {shape : Shape} {fault : SettingsFault}

theorem Item.leftOpen_of_unsaid (reachable : item.Reachable)
    (parentless : item.parent? lookup = none) (declared : field ∈ item.kind.fields)
    (access : field.access = .property shape) (resolvable : shape.isResolvable = true)
    (unmapped : shape.isMapping = false) (inherited : item.isInheriting field.name = true)
    (unsaid : item.setting? field.terminusKey = none) : item.LeftOpen lookup field := by
  constructor
  · rw [resolveScalar_of_parentless reachable parentless declared access resolvable unmapped
      inherited]
    exact settledScalar_of_unsaid unsaid shape
  · intro listed
    obtain ⟨members, listed⟩ := Option.isSome_iff_exists.1 listed
    rw [Field.shape?, access, Option.bind_some] at listed
    obtain rfl := Shape.eq_inheritChoice resolvable listed
    rw [resolveChoice_of_parentless reachable parentless declared access inherited]
    exact settledMember_of_unsaid unsaid members

theorem Settings.Fails.foretells
    (fails : item.settings.Fails item.kind field shape fault) (reachable : item.Reachable)
    (parentless : item.parent? lookup = none) (declared : field ∈ item.kind.fields)
    (access : field.access = .property shape) (resolvable : shape.isResolvable = true)
    (inherited : item.isInheriting field.name = true) : fault.Foretells item lookup field := by
  cases fails with
  | missing unmapped absent =>
      refine Item.leftOpen_of_unsaid reachable parentless declared access resolvable unmapped
        inherited (Item.setting?_eq_none_iff.2 ?_)
      intro value found
      cases absent.symm.trans found
  | inherited unmapped token =>
      refine Item.leftOpen_of_unsaid reachable parentless declared access resolvable unmapped
        inherited (Item.setting?_eq_none_iff.2 ?_)
      intro value found
      exact (Option.some.inj (token.symm.trans found)).symm
  | noMember listed found plain unlisted =>
      obtain rfl := Shape.eq_inheritChoice resolvable listed
      have said := Item.setting?_eq_some_iff.2 ⟨found, plain⟩
      obtain ⟨reason, refused⟩ := Item.settledMember_of_unlisted said unlisted
      refine ⟨reason, ?_⟩
      rw [Item.resolveChoice_of_parentless reachable parentless declared access inherited]
      exact refused
  | noTable mapping found notNull notDict =>
      have key := Kind.mapping_terminusKey item.kind field declared
        (Field.any_shape?_iff.2 ⟨shape, access, by rw [mapping, resolvable]; rfl⟩)
      rw [key] at found
      change item.resolveMapping field.name lookup = _
      rw [Item.resolveMapping_of_parentless reachable parentless declared access resolvable mapping,
        Item.mappingTerminus_of_noTable found notNull notDict]
      rfl

end Foretelling

namespace Configuration

/-- No field of a kind is reported twice, and no fault is reported in vain: an item of the kind that
holds the settings, has no parent and inherits the field fails to resolve it as the fault says. -/
theorem check_foretells (configuration : Configuration) :
    (configuration.check.filterMap SettingsFault.place?).Nodup ∧
    ∀ fault ∈ configuration.check, ∀ kind property, fault.place? = some (kind, property) →
      ∃ field, kind.field? property = some field ∧
        ∀ (item : Item) (lookup : Lookup), item.Reachable → item.kind = kind →
          item.settings = configuration.settings → item.parent? lookup = none →
          item.isInherited property = .ok true → fault.Foretells item lookup field := by
  refine ⟨?_, ?_⟩
  · rw [places_of_check]
    exact configuration.settings.nodup_places
  · intro fault reported kind property place
    obtain ⟨field, declared, rfl, faulty⟩ := reported_iff.1 ⟨reported, place⟩
    refine ⟨field, Kind.field?_of_mem declared, ?_⟩
    rintro item lookup reachable rfl ours parentless inherits
    obtain ⟨shape, access, resolvable, fails⟩ := Settings.checkField_eq_some_iff.1 faulty
    rw [← ours] at fails
    rw [Item.isInherited_of_mem declared, Except.ok.injEq] at inherits
    exact fails.foretells reachable parentless declared access resolvable inherits

theorem check_foretells_boot_files :
    let configuration : Configuration := ⟨⟨[("boot_files", .int 5)]⟩, {}⟩
    let fault : SettingsFault := .unusable .profile "boot_files" "boot_files" (.notTable .int)
    let profile := (Edit.run (Item.new .profile "0123456789abcdef0123456789abcdef"
      configuration.settings) (.inherit "boot_files")).1
    let lookup : Lookup := ⟨Catalog.empty, .byKind⟩
    fault ∈ configuration.check ∧ profile.Reachable ∧
      profile.isInherited "boot_files" = .ok true ∧
      profile.resolveMapping "boot_files" lookup =
        .error (.wrongShape "boot_files" .settingsDict) := by
  intro configuration fault profile lookup
  have fresh : IsFreshUid "0123456789abcdef0123456789abcdef" := by decide
  have ordered : configuration.settings.Ordered :=
    OrderedMapping.nil.insert "boot_files" (by simp [Value.Ordered])
  have reachable : profile.Reachable := .edit (.new .profile fresh ordered) trivial
  have inherits : profile.isInherited "boot_files" = .ok true := by rfl
  have reported : fault ∈ configuration.check ∧
      fault.place? = some (.profile, "boot_files") := by
    refine reported_iff.2 ⟨Schema.bootFields[4], ?_, by rfl, by rfl⟩
    decide
  obtain ⟨field, found, foretold⟩ :=
    configuration.check_foretells.2 fault reported.1 .profile "boot_files" reported.2
  have failed := foretold profile lookup reachable (by rfl) (by rfl) (by rfl) inherits
  obtain ⟨_, named⟩ := Kind.mem_fields_of_field? found
  change profile.resolveMapping field.name lookup = .error (.wrongShape field.name .settingsDict)
    at failed
  rw [named] at failed
  exact ⟨reported.1, reachable, inherits, failed⟩

end Configuration

end Provisioning
