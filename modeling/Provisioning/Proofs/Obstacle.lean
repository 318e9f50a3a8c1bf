import Provisioning.Proofs.Layers
import Provisioning.Proofs.ResolvedForm
import Provisioning.Settings.Check

/-!
What can keep an item from being resolved: a parent walk that closes on itself, or settings that do
not give what every item of the walk leaves to them. No item that was reached by edits is at fault.
-/

namespace Provisioning

def ItemError.isEnvironmental : ItemError → Bool
  | .cycle _ | .unresolved _ _ | .refused _ _ | .wrongShape _ .settingsDict => true
  | _ => false

/-- A field for one value that no item of a walk has a value of its own for. -/
structure Unowned (item : Item) (ancestors : List Item) (field : Field) (shape : Shape) : Prop where
  declared : field ∈ item.kind.fields
  access : field.access = .property shape
  resolvable : shape.isResolvable = true
  unmapped : shape.isMapping = false
  inherited : ∀ other ∈ item :: ancestors, other.ownValue? field.name = none

inductive Obstacle (lookup : Lookup) (item : Item) (ancestors : List Item) (top : Item) :
    ItemError → Prop
  | loop {name} : item.layers lookup = .error (.cycle name) →
      Obstacle lookup item ancestors top (.cycle name)
  | missing {field shape} : Unowned item ancestors field shape →
      (∀ value, item.settings.terminus? field.terminusKey = some value →
        value = .str inheritToken) →
      Obstacle lookup item ancestors top (.unresolved item.name field.resolutionName)
  | unreadableList {field value reason} : Unowned item ancestors field .inheritList →
      item.settings.terminus? field.terminusKey = some value → value ≠ .str inheritToken →
      Convert.texts field.terminusKey value = .error (.refused field.terminusKey reason) →
      Obstacle lookup item ancestors top (.refused field.terminusKey reason)
  | noMember {field members value reason} :
      Unowned item ancestors field (.inheritChoice members) →
      item.settings.terminus? field.terminusKey = some value → value ≠ .str inheritToken →
      Settings.isMember field.terminusKey members value = false →
      Obstacle lookup item ancestors top (.refused field.terminusKey reason)
  | noTable {field shape value} : field ∈ item.kind.fields → field.access = .property shape →
      shape.isResolvable = true → shape.isMapping = true →
      top.settings.get? field.name = some value → value ≠ .null →
      (∀ entries, value ≠ .dict entries) →
      Obstacle lookup item ancestors top (.wrongShape field.name .settingsDict)

theorem Obstacle.isEnvironmental {lookup : Lookup} {item top : Item} {ancestors : List Item}
    {cause : ItemError} (obstacle : Obstacle lookup item ancestors top cause) :
    cause.isEnvironmental = true := by
  cases obstacle <;> rfl

theorem Convert.texts_eq_error {field : String} {value : Value} {cause : ItemError}
    (failed : texts field value = .error cause) : ∃ reason, cause = .refused field reason := by
  unfold texts at failed
  split at failed
  · cases failed
  · cases failed
  · obtain ⟨entry, _, refused⟩ := Outcome.exists_of_mapM_eq_error failed
    unfold listEntry at refused
    split at refused
    · cases refused
    · cases refused
      exact ⟨_, rfl⟩
  · cases failed
    exact ⟨_, rfl⟩

namespace Item

variable {item : Item} {property key : String} {cause : ItemError}

theorem setting?_eq_none_iff :
    item.setting? key = none ↔
      ∀ value, item.settings.terminus? key = some value → value = .str inheritToken := by
  constructor
  · intro absent value found
    by_contra plain
    rw [setting?_eq_some_iff.2 ⟨found, plain⟩] at absent
    cases absent
  · intro token
    refine Option.eq_none_iff_forall_ne_some.2 ?_
    intro value said
    obtain ⟨found, plain⟩ := setting?_eq_some_iff.1 said
    exact plain (token value found)

theorem settledScalar_eq_error {shape : Shape}
    (failed : item.settledScalar property key shape = .error cause) :
    (item.setting? key = none ∧ cause = .unresolved item.name property) ∨
      (shape = .inheritList ∧ ∃ value reason, item.setting? key = some value ∧
        cause = .refused key reason ∧ Convert.texts key value = .error (.refused key reason)) := by
  unfold settledScalar at failed
  split at failed
  · rename_i absent
    cases failed
    exact Or.inl ⟨absent, rfl⟩
  · rename_i value found
    split at failed
    · rename_i list
      have unread := Outcome.map_eq_error_iff.1 failed
      obtain ⟨reason, rfl⟩ := Convert.texts_eq_error unread
      exact Or.inr ⟨list, value, reason, found, rfl, unread⟩
    · cases failed

theorem settledMember_eq_error {members : List String}
    (failed : item.settledMember property key members = .error cause) :
    (item.setting? key = none ∧ cause = .unresolved item.name property) ∨
      ∃ value reason, item.setting? key = some value ∧ cause = .refused key reason ∧
        Settings.isMember key members value = false := by
  unfold settledMember at failed
  split at failed
  · rename_i absent
    cases failed
    exact Or.inl ⟨absent, rfl⟩
  · rename_i token found
    have unknown : Settings.isMember key members (.str token) = false := by
      change (memberFor key members token).isOk = false
      rw [failed]
      rfl
    unfold memberFor at failed
    dsimp only at failed
    split at failed
    · cases failed
    · cases failed
      exact Or.inr ⟨_, _, found, rfl, unknown⟩
  · rename_i other notText found
    cases failed
    have unknown : Settings.isMember key members other = false := by
      unfold Settings.isMember
      split
      · rename_i token
        exact absurd rfl (notText token)
      · rfl
    exact Or.inr ⟨other, _, found, rfl, unknown⟩

theorem mappingTerminus_eq_error (failed : item.mappingTerminus property = .error cause) :
    cause = .wrongShape property .settingsDict ∧
      ∃ value, item.settings.get? property = some value ∧ value ≠ .null ∧
        ∀ entries, value ≠ .dict entries := by
  unfold mappingTerminus at failed
  split at failed
  · cases failed
  · cases failed
  · cases failed
  · rename_i value notDict notNull found
    cases failed
    refine ⟨rfl, value, found, ?_, ?_⟩
    · rintro rfl
      exact notNull rfl
    · rintro entries rfl
      exact notDict entries rfl

end Item

section Resolving

variable {lookup : Lookup} {item top : Item} {ancestors : List Item} {field : Field}
  {cause : ItemError}

theorem Unowned.obstacle_of_settledValue {shape : Shape}
    (unowned : Unowned item ancestors field shape)
    (failed : item.settledValue field shape = .error cause) :
    Obstacle lookup item ancestors top cause := by
  unfold Item.settledValue at failed
  split at failed
  · rename_i members given
    obtain rfl := Shape.eq_inheritChoice unowned.resolvable given
    have named : field.resolutionName = field.name :=
      Kind.choice_resolutionName item.kind field unowned.declared members unowned.access
    rcases Item.settledMember_eq_error (Outcome.map_eq_error_iff.1 failed) with
      ⟨absent, rfl⟩ | ⟨value, reason, said, rfl, unknown⟩
    · rw [← named]
      exact .missing unowned (Item.setting?_eq_none_iff.1 absent)
    · obtain ⟨found, plain⟩ := Item.setting?_eq_some_iff.1 said
      exact .noMember unowned found plain unknown
  · rcases Item.settledScalar_eq_error failed with
      ⟨absent, rfl⟩ | ⟨rfl, value, reason, said, rfl, unread⟩
    · exact .missing unowned (Item.setting?_eq_none_iff.1 absent)
    · obtain ⟨found, plain⟩ := Item.setting?_eq_some_iff.1 said
      exact .unreadableList unowned found plain unread

theorem ParentWalk.loop (walk : ParentWalk lookup item ancestors top) {again : Item}
    (leads : top.parent? lookup = some again) :
    Obstacle lookup item ancestors top (.cycle again.name) := by
  apply Obstacle.loop
  rw [walk.layers_eq, leads]

theorem ParentWalk.obstacle_of_resolvedValue (walk : ParentWalk lookup item ancestors top)
    (reachable : item.Reachable) (catalog : lookup.catalog.Reachable)
    (declared : field ∈ item.kind.fields)
    (failed : item.resolvedValue lookup field = .error cause) :
    Obstacle lookup item ancestors top cause := by
  rcases field.inheritable_or_not with plain | ⟨shape, access, resolvable⟩
  · rw [Item.resolvedValue_plain plain] at failed
    cases failed
  cases mapping : shape.isMapping with
  | true =>
      -- A mapping is merged along the whole walk, so only the end of the walk can fail it.
      have stored := Kind.storedShape?_of_mem declared access resolvable
      rw [Item.resolvedValue_mapping access resolvable mapping,
        walk.resolveMapping_eq reachable catalog stored mapping resolvable,
        Outcome.map_eq_error_iff, Outcome.map_eq_error_iff] at failed
      split at failed
      · rename_i again leads
        cases failed
        exact walk.loop leads
      · obtain ⟨rfl, value, found, notNull, notDict⟩ := Item.mappingTerminus_eq_error failed
        exact .noTable declared access resolvable mapping found notNull notDict
  | false =>
      -- One value is enough for any other field, so a failure means that no item had one.
      have nearest :=
        walk.resolvedValue_nearest reachable catalog declared access resolvable mapping
      obtain ⟨none, ⟨again, leads, rfl⟩ | unsettled⟩ := nearest.failure failed
      · exact walk.loop leads
      · have inherited := List.findSome?_eq_none_iff.1 none
        have unowned : Unowned item ancestors field shape :=
          ⟨declared, access, resolvable, mapping, inherited⟩
        exact unowned.obstacle_of_settledValue unsettled

end Resolving

/-- An item that cannot be resolved has one of the obstacles in its way, and the error names it. -/
theorem Item.obstacle_of_resolvedDict {item : Item} {lookup : Lookup}
    (reachable : item.Reachable) (catalog : lookup.catalog.Reachable) {cause : ItemError}
    (failed : item.resolvedDict lookup = .error cause) :
    cause.isEnvironmental = true ∧
      ∃ ancestors top, ParentWalk lookup item ancestors top ∧
        Obstacle lookup item ancestors top cause := by
  obtain ⟨ancestors, top, walk⟩ := exists_parentWalk lookup item
  have obstacle : Obstacle lookup item ancestors top cause := by
    rcases Outcome.bind_eq_error_iff.1 failed with entries | ⟨_, _, done⟩
    · obtain ⟨field, declared, entry⟩ := Outcome.exists_of_mapM_eq_error entries
      have value := Outcome.map_eq_error_iff.1 entry
      exact walk.obstacle_of_resolvedValue reachable catalog declared value
    · cases done
  exact ⟨obstacle.isEnvironmental, ancestors, top, walk, obstacle⟩

theorem Item.obstacle_of_unreadable_owners :
    let distro := (Item.new .distro "0123456789abcdef0123456789abcdef" {}).after [.setName "f40"]
    let edits : List Edit := [.setName "web", .setParent "f40",
      .set "virt_disk_driver" (.str "QCOW2"), .set "kernel_options" (.str "quiet=~")]
    let profile := (Item.new .profile "fedcba9876543210fedcba9876543210"
      ⟨[("default_ownership", .int 5)]⟩).after edits
    let lookup : Lookup := ⟨Catalog.empty.insert distro, .byKind⟩
    let cause := ItemError.refused "default_ownership" (.wrongType "str or list" .int)
    ParentWalk lookup profile [distro] distro ∧
    profile.resolvedDict lookup = .error cause ∧
    ∃ ancestors top, ParentWalk lookup profile ancestors top ∧
      Obstacle lookup profile ancestors top cause := by
  intro distro edits profile lookup cause
  have distroFresh : IsFreshUid "0123456789abcdef0123456789abcdef" := by decide
  have profileFresh : IsFreshUid "fedcba9876543210fedcba9876543210" := by decide
  have ordered : Settings.Ordered ⟨[("default_ownership", .int 5)]⟩ :=
    OrderedMapping.nil.insert "default_ownership" (by simp [Value.Ordered])
  have possible : ∀ edit ∈ edits, edit.Possible := by simp [edits, Edit.Possible]
  have distroReachable : distro.Reachable :=
    .after (.new .distro distroFresh OrderedMapping.nil) (by simp [Edit.Possible])
  have reachable : profile.Reachable := .after (.new .profile profileFresh ordered) possible
  have catalog : lookup.catalog.Reachable := .insert .empty distroReachable
  have walk : ParentWalk lookup profile [distro] distro :=
    .of_ended (.step (by rfl) .here) (by decide) rfl
  have failed : profile.resolvedDict lookup = .error cause := by
    have keys : profile.propertyKeys "owners" = ⟨"owners", "default_ownership"⟩ := by rfl
    have scalar : profile.resolveScalar "owners" lookup = .error cause := by
      rw [resolveScalar_eq keys, nearestOwn?_eq_ancestry, walk.ancestry_eq]
      rfl
    let before := Schema.identityFields.take 5
    let owners := Schema.identityFields[5]
    have split : profile.kind.fields = before ++ owners ::
        (Schema.treeFields ++ Schema.bootFields ++ Schema.profileFields) := by rfl
    have entry : profile.resolvedEntry lookup owners = .error cause :=
      Outcome.map_eq_error_iff.2 scalar
    obtain ⟨entries, identity⟩ : ∃ entries,
        before.mapM (profile.resolvedEntry lookup) = .ok entries := ⟨_, by rfl⟩
    unfold resolvedDict
    rw [split, List.mapM_append, identity, List.mapM_cons, entry]
    rfl
  obtain ⟨_, obstacle⟩ := obstacle_of_resolvedDict reachable catalog failed
  exact ⟨walk, failed, obstacle⟩

end Provisioning
