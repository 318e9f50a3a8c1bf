import Provisioning.Proofs.ResolvedForm
import Provisioning.Proofs.SettingsFaults

/-!
What the check of the settings is good for. Settings that pass it resolve every field of every item,
but for lists: whether a list can be read from the settings is not looked at before it is needed.
-/

namespace Provisioning

theorem Kind.mapping_terminusKey (kind : Kind) : ∀ field ∈ kind.fields,
    field.shape?.any (fun shape => shape.isMapping && shape.isResolvable) = true →
      field.terminusKey = field.name :=
  kind.forall_fields (by decide)

theorem Configuration.checkField_eq_none {configuration : Configuration}
    (valid : configuration.check = []) {kind : Kind} {field : Field}
    (declared : field ∈ kind.fields) : configuration.settings.checkField kind field = none := by
  refine Option.eq_none_iff_forall_ne_some.2 ?_
  intro fault faulty
  have reported := (reported_iff.2 ⟨field, declared, rfl, faulty⟩).1
  rw [valid] at reported
  cases reported

namespace Settings

variable {settings : Settings} {kind : Kind} {field : Field} {shape : Shape}

theorem checkTable_of_checkField (checked : settings.checkField kind field = none)
    (access : field.access = .property shape) (resolvable : shape.isResolvable = true)
    (mapping : shape.isMapping = true) : settings.checkTable field.terminusKey = none := by
  rw [checkField_of_mapping access resolvable mapping] at checked
  exact Option.map_eq_none_iff.1 checked

theorem terminus_of_checkField (checked : settings.checkField kind field = none)
    (access : field.access = .property shape) (resolvable : shape.isResolvable = true)
    (unmapped : shape.isMapping = false) :
    ∃ value, settings.terminus? field.terminusKey = some value ∧
      Convert.isInheritToken value = false ∧
      ∀ members, shape.members? = some members →
        isMember field.terminusKey members value = true := by
  have faultless (fault : SettingsFault) : ¬ settings.Fails kind field shape fault := by
    intro fails
    cases checked.symm.trans (fails.checkField_eq access resolvable)
  cases found : settings.terminus? field.terminusKey with
  | none => exact absurd (.missing unmapped found) (faultless _)
  | some value =>
      have plain : value ≠ .str inheritToken := by
        rintro rfl
        exact faultless _ (.inherited unmapped found)
      refine ⟨value, rfl, Convert.isInheritToken_eq_false_iff.2 plain, ?_⟩
      intro members listed
      by_contra unlisted
      exact faultless _ (.noMember listed found plain (Bool.eq_false_iff.2 unlisted))

theorem memberFor_of_isMember {key : String} {members : List String} {value : Value}
    (checked : isMember key members value = true) :
    ∃ token member, value = .str token ∧ memberFor key members token = .ok member := by
  unfold isMember at checked
  split at checked
  · rename_i token
    cases read : memberFor key members token with
    | ok member => exact ⟨token, member, rfl, read⟩
    | error cause =>
        rw [read] at checked
        cases checked
  · cases checked

end Settings

namespace Item

variable {item : Item} {field : Field} {shape : Shape}

theorem mappingTerminus_of_checkTable {property : String}
    (checked : item.settings.checkTable property = none) :
    ∃ entries, item.mappingTerminus property = .ok entries := by
  unfold Settings.checkTable at checked
  unfold mappingTerminus
  split at checked
  · rename_i absent
    rw [absent]
    exact ⟨[], rfl⟩
  · rename_i null
    rw [null]
    exact ⟨[], rfl⟩
  · rename_i entries given
    rw [given]
    exact ⟨entries, rfl⟩
  · cases checked

theorem exists_settledValue_iff (checked : item.settings.checkField item.kind field = none)
    (access : field.access = .property shape) (resolvable : shape.isResolvable = true)
    (unmapped : shape.isMapping = false) :
    (∃ value, item.settledValue field shape = .ok value) ↔
      (shape = .inheritList → ∃ value texts,
        item.settings.terminus? field.terminusKey = some value ∧
          Convert.texts field.terminusKey value = .ok texts) := by
  obtain ⟨given, found, plain, isMember⟩ :=
    Settings.terminus_of_checkField checked access resolvable unmapped
  have setting : item.setting? field.terminusKey = some given :=
    setting?_eq_some_iff.2 ⟨found, Convert.isInheritToken_eq_false_iff.1 plain⟩
  unfold settledValue
  cases memberless : shape.members? with
  | some members =>
      obtain ⟨token, member, rfl, read⟩ :=
        Settings.memberFor_of_isMember (isMember members memberless)
      have settled : item.settledMember field.name field.terminusKey members = .ok member := by
        unfold settledMember
        rw [setting]
        exact read
      constructor
      · rintro _ rfl
        cases memberless
      · intro _
        exact ⟨.str member, congrArg (Except.map Value.str) settled⟩
  | none =>
      unfold settledScalar
      rw [setting, found]
      by_cases list : shape = .inheritList
      · simp [list, Outcome.map_eq_ok_iff]
      · simp [list]

end Item

section Resolving

variable {configuration : Configuration} {item top : Item} {ancestors : List Item}
  {lookup : Lookup} {field : Field}

theorem Climb.settings_eq {settings : Settings} (climb : Climb lookup item ancestors top)
    (ours : item.settings = settings)
    (shared : ∀ other ∈ lookup.catalog.items, other.settings = settings) :
    top.settings = settings := by
  rcases List.mem_cons.1 climb.top_mem with rfl | above
  · exact ours
  · exact shared top (climb.mem_items top above)

theorem ParentWalk.exists_resolvedValue_iff (walk : ParentWalk lookup item ancestors top)
    (ended : top.parent? lookup = none) (valid : configuration.check = [])
    (reachable : item.Reachable) (catalog : lookup.catalog.Reachable)
    (ours : item.settings = configuration.settings)
    (shared : ∀ other ∈ lookup.catalog.items, other.settings = configuration.settings)
    (declared : field ∈ item.kind.fields) :
    (∃ value, item.resolvedValue lookup field = .ok value) ↔
      (field.shape? = some .inheritList →
        (item :: ancestors).findSome? (Item.ownValue? field.name) = none →
          ∃ value texts, configuration.settings.terminus? field.terminusKey = some value ∧
            Convert.texts field.terminusKey value = .ok texts) := by
  have checked := Configuration.checkField_eq_none valid declared
  rcases field.inheritable_or_not with plain | ⟨shape, access, resolvable⟩
  · rw [Item.resolvedValue_plain plain]
    constructor
    · intro _ list
      rw [list] at plain
      cases plain
    · intro _
      exact ⟨_, rfl⟩
  · have given : field.shape? = some shape := by rw [Field.shape?, access]
    cases mapping : shape.isMapping with
    | true =>
        have stored := Kind.storedShape?_of_mem declared access resolvable
        -- A mapping falls back to the settings of the last item, where its own name is the key.
        have table := Settings.checkTable_of_checkField checked access resolvable mapping
        rw [Kind.mapping_terminusKey item.kind field declared
          (Field.any_shape?_iff.2 ⟨shape, access, by rw [mapping, resolvable]; rfl⟩),
          ← walk.climb.settings_eq ours shared] at table
        obtain ⟨entries, settled⟩ := Item.mappingTerminus_of_checkTable table
        rw [Item.resolvedValue_mapping access resolvable mapping,
          walk.resolveMapping_eq reachable catalog stored mapping resolvable, ended]
        dsimp only
        rw [settled]
        constructor
        · intro _ list
          rw [given] at list
          cases list
          cases mapping
        · intro _
          exact ⟨_, rfl⟩
    | false =>
        have nearest :=
          walk.resolvedValue_nearest reachable catalog declared access resolvable mapping
        rw [ended] at nearest
        rw [← ours] at checked ⊢
        rw [nearest.exists_ok_iff,
          Item.exists_settledValue_iff checked access resolvable mapping, given,
          Option.some_inj]
        exact forall_comm

end Resolving

/-- Settings that pass the check give every item whose parent walk ends a resolved form exactly when
they can be read as the lists that nothing on the walk owns. -/
theorem exists_resolvedDict_iff_of_check {configuration : Configuration}
    (valid : configuration.check = []) {item : Item} {lookup : Lookup}
    (reachable : item.Reachable) (catalog : lookup.catalog.Reachable)
    (ours : item.settings = configuration.settings)
    (shared : ∀ other ∈ lookup.catalog.items, other.settings = configuration.settings)
    {ancestors : List Item} {top : Item} (walk : ParentWalk lookup item ancestors top)
    (ended : top.parent? lookup = none) :
    (∃ dictionary, item.resolvedDict lookup = .ok dictionary) ↔
      ∀ field ∈ item.kind.fields, field.shape? = some .inheritList →
        (item :: ancestors).findSome? (Item.ownValue? field.name) = none →
          ∃ value texts, configuration.settings.terminus? field.terminusKey = some value ∧
            Convert.texts field.terminusKey value = .ok texts := by
  rw [Item.exists_resolvedDict_iff]
  refine forall₂_congr ?_
  intro field declared
  exact walk.exists_resolvedValue_iff ended valid reachable catalog ours shared declared

theorem exists_resolvedDict_builtin :
    let distro := (Edit.run (Item.new .distro "0123456789abcdef0123456789abcdef" Settings.builtin)
      (.setName "f40")).1
    let profile := (Edit.run (Item.new .profile "fedcba9876543210fedcba9876543210" Settings.builtin)
      (.setParent "f40")).1
    let lookup : Lookup := ⟨Catalog.empty.insert distro, .byKind⟩
    ∃ dictionary, profile.resolvedDict lookup = .ok dictionary := by
  intro distro profile lookup
  have distroFresh : IsFreshUid "0123456789abcdef0123456789abcdef" := by decide
  have profileFresh : IsFreshUid "fedcba9876543210fedcba9876543210" := by decide
  have named : Edit.Possible (.setName "f40") := trivial
  have placed : Edit.Possible (.setParent "f40") := trivial
  have distroReachable : distro.Reachable :=
    .edit (.new .distro distroFresh Settings.builtin_ordered) named
  have profileReachable : profile.Reachable :=
    .edit (.new .profile profileFresh Settings.builtin_ordered) placed
  have catalog : lookup.catalog.Reachable := .insert .empty distroReachable
  have walk : ParentWalk lookup profile [distro] distro :=
    .of_ended (.step (by rfl) .here) (by decide) rfl
  have valid : (⟨Settings.builtin, {}⟩ : Configuration).check = [] := by decide +kernel
  have shared : ∀ other ∈ lookup.catalog.items, other.settings = Settings.builtin := by
    intro other member
    obtain rfl : other = distro := List.mem_singleton.1 (member : other ∈ [distro])
    rfl
  refine (exists_resolvedDict_iff_of_check valid profileReachable catalog rfl shared walk rfl).2 ?_
  intro field declared list _
  have keys : ∀ field ∈ Kind.profile.fields, field.shape? = some .inheritList →
      field.terminusKey = "default_ownership" ∨ field.terminusKey = "mgmt_classes" := by
    decide +kernel
  rcases keys field declared list with key | key
  · rw [key]
    exact ⟨.list [.str "admin"], ["admin"], by rfl, by rfl⟩
  · rw [key]
    exact ⟨.list [], [], by rfl, by rfl⟩

/-- A number passes the check where a list of owners is needed. -/
theorem resolvedDict_fails_after_check :
    let configuration : Configuration :=
      ⟨Settings.builtin.insert "default_ownership" (.int 5), {}⟩
    let item := Item.new .template "0123456789abcdef0123456789abcdef" configuration.settings
    let lookup : Lookup := ⟨Catalog.empty, .byKind⟩
    configuration.check = [] ∧ item.Reachable ∧ lookup.catalog.Reachable ∧
    item.settings = configuration.settings ∧
    (∀ other ∈ lookup.catalog.items, other.settings = configuration.settings) ∧
    ParentWalk lookup item [] item ∧ item.parent? lookup = none ∧
    ∀ dictionary, item.resolvedDict lookup ≠ .ok dictionary := by
  intro configuration item lookup
  have valid : configuration.check = [] := by decide +kernel
  have fresh : IsFreshUid "0123456789abcdef0123456789abcdef" := by decide
  have ordered : configuration.settings.Ordered :=
    Settings.builtin_ordered.insert "default_ownership" (by simp [Value.Ordered])
  have reachable : item.Reachable := .new .template fresh ordered
  have shared : ∀ other ∈ lookup.catalog.items, other.settings = configuration.settings := by
    intro other member
    cases member
  have walk : ParentWalk lookup item [] item := .of_ended .here (by decide) rfl
  refine ⟨valid, reachable, .empty, rfl, shared, walk, rfl, ?_⟩
  intro dictionary resolved
  obtain ⟨field, declared, name, list, key⟩ : ∃ field ∈ Kind.template.fields,
      field.name = "owners" ∧ field.shape? = some .inheritList ∧
        field.terminusKey = "default_ownership" := by
    decide +kernel
  have owners := Item.exists_resolvedDict_iff.1 ⟨dictionary, resolved⟩ field declared
  rw [walk.exists_resolvedValue_iff rfl valid reachable .empty rfl shared declared, name, key]
    at owners
  obtain ⟨value, texts, found, read⟩ := owners list rfl
  cases (found : some (Value.int 5) = some value)
  cases read

end Provisioning
