import Provisioning.Proofs.MergedMapping
import Provisioning.Proofs.ResolvedValue

/-!
The resolved form of an item beside its raw form. It has the same keys, it shows what is not
inherited as it is stored, and no marker of inheritance or removal gets into it.
-/

namespace Provisioning

theorem DevicePath.ofText?_ne_token (text : String) : ofText? text ≠ some inheritToken := by
  intro derived
  obtain ⟨url, _, path⟩ := Option.bind_eq_some_iff.1 derived
  unfold ofUrl? at path
  dsimp only at path
  split at path
  · cases path
  · have first := congrArg (fun text => text.toList.head?) (Option.some.inj path)
    simp [toString, inheritToken] at first

namespace Item

variable {item : Item} {lookup : Lookup} {field : Field}

theorem resolvedDict_eq_ok_iff {dictionary : Mapping} :
    item.resolvedDict lookup = .ok dictionary ↔
      ∃ value : Field → Value,
        (∀ field ∈ item.kind.fields, item.resolvedValue lookup field = .ok (value field)) ∧
          dictionary = item.kind.flatForm value := by
  simp only [resolvedDict, Outcome.bind_eq_ok_iff, Outcome.mapM_eq_ok_iff_map, Outcome.pure_eq_ok,
    Except.ok.injEq, resolvedEntry, Outcome.map_eq_ok_iff]
  constructor
  · rintro ⟨_, ⟨entry, each, rfl⟩, rfl⟩
    refine ⟨fun field => (entry field).2, ?_, ?_⟩
    · intro field declared
      obtain ⟨value, resolved, same⟩ := each field declared
      rw [resolved]
      exact congrArg (fun entry => Except.ok entry.2) same
    · unfold Kind.flatForm
      congr 2
      refine List.map_congr_left ?_
      intro field declared
      obtain ⟨value, _, same⟩ := each field declared
      exact Prod.ext (congrArg Prod.fst same).symm rfl
  · rintro ⟨value, each, rfl⟩
    refine ⟨_, ⟨fun field => (field.name, value field), ?_, rfl⟩, rfl⟩
    intro field declared
    exact ⟨value field, each field declared, rfl⟩

theorem exists_resolvedDict_iff :
    (∃ dictionary, item.resolvedDict lookup = .ok dictionary) ↔
      ∀ field ∈ item.kind.fields, ∃ value, item.resolvedValue lookup field = .ok value := by
  constructor
  · rintro ⟨dictionary, resolved⟩ field declared
    obtain ⟨value, each, _⟩ := resolvedDict_eq_ok_iff.1 resolved
    exact ⟨value field, each field declared⟩
  · intro each
    let value field := (item.resolvedValue lookup field).toOption.getD .null
    refine ⟨_, resolvedDict_eq_ok_iff.2 ⟨value, ?_, rfl⟩⟩
    intro field declared
    obtain ⟨given, resolved⟩ := each field declared
    simp [value, resolved, Except.toOption]

theorem derive_ne_token (item : Item) (derivation : Derivation) :
    item.derive derivation ≠ .str inheritToken := by
  intro same
  have path : (DevicePath.ofText? (item.derivationSource derivation)).getD "" = inheritToken :=
    Value.str.inj same
  cases derived : DevicePath.ofText? (item.derivationSource derivation) with
  | none =>
      rw [derived] at path
      revert path
      decide
  | some text =>
      rw [derived] at path
      exact DevicePath.ofText?_ne_token _ (derived.trans (congrArg some path))

theorem coreValue_ne_token (wellFormed : item.WellFormed) {core : CoreField}
    (notComment : core ≠ .comment) : item.coreValue core ≠ .str inheritToken := by
  intro same
  cases core
  case uid => exact wellFormed.uidPlain (Value.str.inj same)
  case name => exact name_ne_token wellFormed.name (Value.str.inj same)
  case comment => exact notComment rfl
  case parent => exact name_ne_token wellFormed.parent (Value.str.inj same)
  all_goals cases same

theorem rawValue_ne_token (wellFormed : item.WellFormed) (declared : field ∈ item.kind.fields)
    (notComment : field.access ≠ .core .comment)
    (plain : field.shape?.any Shape.isResolvable = false) :
    item.rawValue field ≠ .str inheritToken := by
  cases access : field.access with
  | core core =>
      have raw : item.rawValue field = item.coreValue core := by rw [rawValue, access]
      rw [raw]
      exact coreValue_ne_token wellFormed fun comment => notComment (comment ▸ access)
  | property shape =>
      cases derived : field.isDerived with
      | true =>
          obtain ⟨derivation, computed⟩ := Field.exists_derivation derived
          have raw : item.rawValue field = item.derive derivation := by rw [rawValue, computed]
          rw [raw]
          exact item.derive_ne_token derivation
      | false =>
          obtain ⟨slot, held, fits, raw, _⟩ :=
            wellFormed.exists_slot_of_mem declared access derived
          rw [raw]
          refine wellFormed.toValue_ne_token held ?_
          cases inherited : slot.isInherit with
          | false => rfl
          | true =>
              have resolvable := fits.isResolvable inherited
              simp [Field.shape?, access, resolvable] at plain

theorem setting?_eq_some_iff {key : String} {value : Value} :
    item.setting? key = some value ↔
      item.settings.terminus? key = some value ∧ value ≠ .str inheritToken := by
  unfold setting?
  rw [← terminus?_eq, Option.filter_eq_some_iff, Bool.not_eq_true',
    Convert.isInheritToken_eq_false_iff]

theorem settledScalar_eq_ok {property key : String} {shape : Shape} {value : Value}
    (settled : item.settledScalar property key shape = .ok value) :
    (shape = .inheritList ∧ ∃ texts, value = .ofTexts texts) ∨
      (shape ≠ .inheritList ∧ item.setting? key = some value) := by
  unfold settledScalar at settled
  split at settled
  · cases settled
  · rename_i given found
    split at settled
    · rename_i list
      obtain ⟨texts, _, rfl⟩ := Outcome.map_eq_ok_iff.1 settled
      exact Or.inl ⟨list, texts, rfl⟩
    · rename_i unlisted
      cases settled
      exact Or.inr ⟨unlisted, found⟩

theorem settledScalar_ne_token {property key : String} {shape : Shape} {value : Value}
    (settled : item.settledScalar property key shape = .ok value) :
    value ≠ .str inheritToken := by
  rcases settledScalar_eq_ok settled with ⟨_, texts, rfl⟩ | ⟨_, given⟩
  · simp [Value.ofTexts]
  · exact (setting?_eq_some_iff.1 given).2

theorem settledMember_eq_ok {property key member : String} {members : List String}
    (settled : item.settledMember property key members = .ok member) :
    ∃ token, item.setting? key = some (.str token) ∧
      memberFor key members token = .ok member := by
  unfold settledMember at settled
  split at settled
  · cases settled
  · rename_i token found
    exact ⟨token, found, settled⟩
  · cases settled

theorem settledValue_ne_token {shape : Shape} (canonical : shape.isCanonical = true)
    {value : Value} (settled : item.settledValue field shape = .ok value) :
    value ≠ .str inheritToken := by
  unfold settledValue at settled
  split at settled
  · rename_i members given
    obtain ⟨member, read, rfl⟩ := Outcome.map_eq_ok_iff.1 settled
    obtain ⟨_, _, found⟩ := settledMember_eq_ok read
    have known : member ∈ members := Slot.memberFor_mem found
    obtain ⟨plain, _⟩ := Shape.memberFor_self canonical given known ""
    simpa using plain
  · exact settledScalar_ne_token settled

theorem WellFormed.mappingTerminus_sorted (wellFormed : item.WellFormed) {property : String}
    {entries : Mapping} (given : item.mappingTerminus property = .ok entries) :
    Dict.Sorted entries := by
  unfold mappingTerminus at given
  split at given
  · rename_i held
    cases given
    have ordered : OrderedMapping entries := wellFormed.settings.get? held
    exact ordered.sorted
  · cases given
    exact List.Pairwise.nil
  · cases given
    exact List.Pairwise.nil
  · cases given

end Item

/-- Whether the settings say something usable for a field: those of the item, and for a mapping
those of the last item of the walk. -/
def Item.settles (item top : Item) (field : Field) : Bool :=
  match field.shape? with
  | none => true
  | some shape =>
      if shape.isResolvable then
        if shape.isMapping then
          (top.mappingTerminus field.name).isOk
        else
          (item.settledValue field shape).isOk
      else
        true

section Resolving

variable {item top : Item} {ancestors : List Item} {lookup : Lookup} {field : Field}

theorem ParentWalk.resolvedValue_ne_token (walk : ParentWalk lookup item ancestors top)
    (reachable : item.Reachable) (catalog : lookup.catalog.Reachable)
    (declared : field ∈ item.kind.fields) (notComment : field.access ≠ .core .comment)
    {value : Value} (resolved : item.resolvedValue lookup field = .ok value) :
    value ≠ .str inheritToken := by
  rcases field.inheritable_or_not with plain | ⟨shape, access, resolvable⟩
  · rw [Item.resolvedValue_plain plain] at resolved
    cases resolved
    exact Item.rawValue_ne_token reachable.wellFormed declared notComment plain
  · cases mapping : shape.isMapping with
    | true =>
        rw [Item.resolvedValue_mapping access resolvable mapping] at resolved
        obtain ⟨merged, _, rfl⟩ := Outcome.map_eq_ok_iff.1 resolved
        simp
    | false =>
        have nearest :=
          walk.resolvedValue_nearest reachable catalog declared access resolvable mapping
        rcases nearest.source resolved with ⟨holder, member, own⟩ | settled
        · have holderReachable := walk.climb.reachable_of_mem reachable catalog holder member
          obtain ⟨slot, held, owned, rfl⟩ := Item.exists_slot_of_ownValue? own
          exact holderReachable.wellFormed.toValue_ne_token held owned
        · have stored := Kind.storedShape?_of_mem declared access resolvable
          exact Item.settledValue_ne_token (Kind.isCanonical_of_stored stored) settled

theorem ParentWalk.resolveMapping_unmarked (walk : ParentWalk lookup item ancestors top)
    (reachable : item.Reachable) (catalog : lookup.catalog.Reachable) {property : String}
    {shape : Shape} (stored : item.kind.storedShape? property = some shape)
    (mapping : shape.isMapping = true) (resolvable : shape.isResolvable = true)
    {merged : Mapping} (resolved : item.resolveMapping property lookup = .ok merged) :
    ∀ entry ∈ merged, entry.2 ≠ .str removalMarker := by
  have overlays : ∀ other ∈ item :: ancestors, ∀ overlay,
      other.ownOverlay? property = some overlay → overlay.Stored :=
    walk.climb.overlays_stored reachable catalog
  rw [walk.resolveMapping_eq reachable catalog stored mapping resolvable] at resolved
  obtain ⟨settings, given, rfl⟩ := Outcome.map_eq_ok_iff.1 resolved
  have sorted : Dict.Sorted settings := by
    split at given
    · cases given
    · have topReachable := walk.climb.reachable_of_mem reachable catalog top walk.climb.top_mem
      exact topReachable.wellFormed.mappingTerminus_sorted given
  rintro ⟨key, value⟩ member rfl
  have found := (Dict.get?_eq_some_iff (sorted_layered sorted _).nodup_keys).2 member
  have inherited := get?_layered_unmarked sorted
    (fun other listed => overlays other (List.mem_cons_of_mem _ listed)) key
  rw [get?_layered_cons sorted (overlays item List.mem_cons_self) inherited] at found
  -- Reading the value once more would drop a marker, yet it changes nothing.
  have same : (effectiveValue? property key (item :: ancestors) settings).bind unmarked? = _ :=
    effectiveValue?_unmarked overlays key
  rw [found] at same
  simp [unmarked?] at same

theorem ParentWalk.resolvedValue_unmarked (walk : ParentWalk lookup item ancestors top)
    (reachable : item.Reachable) (catalog : lookup.catalog.Reachable)
    (declared : field ∈ item.kind.fields)
    (inheritable :
      field.shape?.any (fun shape => shape.isMapping && shape.isResolvable) = true)
    {value : Value} (resolved : item.resolvedValue lookup field = .ok value) :
    ∃ entries, value = .dict entries ∧ ∀ entry ∈ entries, entry.2 ≠ .str removalMarker := by
  obtain ⟨shape, access, merging⟩ := Field.any_shape?_iff.1 inheritable
  obtain ⟨mapping, resolvable⟩ := Bool.and_eq_true_iff.1 merging
  have stored := Kind.storedShape?_of_mem declared access resolvable
  rw [Item.resolvedValue_mapping access resolvable mapping] at resolved
  obtain ⟨merged, resolvedTo, rfl⟩ := Outcome.map_eq_ok_iff.1 resolved
  refine ⟨merged, rfl, ?_⟩
  exact walk.resolveMapping_unmarked reachable catalog stored mapping resolvable resolvedTo

theorem ParentWalk.exists_resolvedValue (walk : ParentWalk lookup item ancestors top)
    (ended : top.parent? lookup = none) (reachable : item.Reachable)
    (catalog : lookup.catalog.Reachable) (declared : field ∈ item.kind.fields)
    (settles : item.settles top field = true) :
    ∃ value, item.resolvedValue lookup field = .ok value := by
  rcases field.inheritable_or_not with plain | ⟨shape, access, resolvable⟩
  · exact ⟨_, Item.resolvedValue_plain plain⟩
  · unfold Item.settles at settles
    rw [Field.shape?, access] at settles
    dsimp only at settles
    rw [if_pos resolvable] at settles
    cases mapping : shape.isMapping with
    | true =>
        rw [if_pos mapping] at settles
        obtain ⟨entries, settled⟩ := Outcome.isOk_iff.1 settles
        have stored := Kind.storedShape?_of_mem declared access resolvable
        rw [Item.resolvedValue_mapping access resolvable mapping,
          walk.resolveMapping_eq reachable catalog stored mapping resolvable, ended]
        dsimp only
        rw [settled]
        exact ⟨_, rfl⟩
    | false =>
        rw [if_neg (by simp [mapping])] at settles
        have nearest :=
          walk.resolvedValue_nearest reachable catalog declared access resolvable mapping
        rw [ended] at nearest
        exact nearest.exists_ok_iff.2 fun _ => Outcome.isOk_iff.1 settles

end Resolving

/-- The resolved form has the keys of the raw form and the values of all that is not inherited, and
shows neither the inherit token nor, in a mapping that is inherited, the marker of a removal. -/
theorem Item.resolvedDict_complete {item : Item} {lookup : Lookup} (reachable : item.Reachable)
    (catalog : lookup.catalog.Reachable) {dictionary : Mapping}
    (resolved : item.resolvedDict lookup = .ok dictionary) :
    Dict.keys dictionary = Dict.keys item.rawDict ∧
    (∀ field ∈ item.kind.fields,
      field.shape?.any Shape.isResolvable = false ∨
        (field.shape?.any Shape.isMapping = false ∧ item.isInheriting field.name = false) →
      ∃ value, Dict.get? item.rawDict field.name = some value ∧
        Dict.get? dictionary field.name = some value) ∧
    Dict.get? dictionary "kickstart" = Dict.get? dictionary "autoinstall" ∧
    Dict.get? dictionary "ks_meta" = Dict.get? dictionary "autoinstall_meta" ∧
    (∀ entry ∈ dictionary, entry.1 ≠ "comment" → entry.2 ≠ .str inheritToken) ∧
    ∀ field ∈ item.kind.fields,
      field.shape?.any (fun shape => shape.isMapping && shape.isResolvable) = true →
      ∃ entries, Dict.get? dictionary field.name = some (.dict entries) ∧
        ∀ entry ∈ entries, entry.2 ≠ .str removalMarker := by
  obtain ⟨ancestors, top, walk⟩ := exists_parentWalk lookup item
  obtain ⟨value, each, rfl⟩ := resolvedDict_eq_ok_iff.1 resolved
  refine ⟨item.kind.keys_flatForm value item.rawValue, ?_, ?_, ?_, ?_, ?_⟩
  · intro field declared kept
    have shown := (each field declared).symm.trans (resolvedValue_kept kept)
    refine ⟨item.rawValue field, Kind.get?_flatForm declared, ?_⟩
    rw [Kind.get?_flatForm declared, Except.ok.inj shown]
  · exact Kind.get?_flatForm_alias (by decide)
  · exact Kind.get?_flatForm_alias (by decide)
  · intro entry member notComment
    obtain ⟨field, declared, plain, same⟩ := Kind.mem_flatForm_of_ne_comment member notComment
    rw [← same]
    exact walk.resolvedValue_ne_token reachable catalog declared plain (each field declared)
  · intro field declared inheritable
    obtain ⟨entries, merged, unmarked⟩ :=
      walk.resolvedValue_unmarked reachable catalog declared inheritable (each field declared)
    refine ⟨entries, ?_, unmarked⟩
    rw [Kind.get?_flatForm declared, merged]

theorem Item.resolvedDict_below_distro :
    let above : List Edit := [.setName "f40", .set "kernel_options" (.str "console=ttyS0 quiet"),
      .set "kernel_options_post" (.str "splash=silent")]
    let below : List Edit := [.setName "web", .setParent "f40",
      .set "kernel_options" (.str "quiet=~ nomodeset"), .inherit "kernel_options_post"]
    let distro := (Item.new .distro "0123456789abcdef0123456789abcdef" Settings.builtin).after above
    let profile :=
      (Item.new .profile "fedcba9876543210fedcba9876543210" Settings.builtin).after below
    let lookup : Lookup := ⟨Catalog.empty.insert distro, .byKind⟩
    profile.isInheriting "virt_disk_driver" = true ∧
    profile.isInheriting "kernel_options_post" = true ∧
    profile.slot? "kernel_options" =
      some (.mapping (.own ⟨[("nomodeset", .set .null), ("quiet", .remove)]⟩)) ∧
    ∃ dictionary, profile.resolvedDict lookup = .ok dictionary ∧
      Dict.keys dictionary = Dict.keys profile.rawDict ∧
      Dict.get? dictionary "name" = some (.str "web") ∧
      Dict.get? dictionary "virt_disk_driver" ≠ some (.str inheritToken) ∧
      (∃ entries, Dict.get? dictionary "kernel_options" = some (.dict entries) ∧
        ∀ entry ∈ entries, entry.2 ≠ .str removalMarker) ∧
      ∃ entries, Dict.get? dictionary "kernel_options_post" = some (.dict entries) ∧
        ∀ entry ∈ entries, entry.2 ≠ .str removalMarker := by
  intro above below distro profile lookup
  have distroFresh : IsFreshUid "0123456789abcdef0123456789abcdef" := by decide
  have profileFresh : IsFreshUid "fedcba9876543210fedcba9876543210" := by decide
  have abovePossible : ∀ edit ∈ above, edit.Possible := by simp [above, Edit.Possible]
  have belowPossible : ∀ edit ∈ below, edit.Possible := by simp [below, Edit.Possible]
  have distroReachable : distro.Reachable :=
    .after (.new .distro distroFresh Settings.builtin_ordered) abovePossible
  have profileReachable : profile.Reachable :=
    .after (.new .profile profileFresh Settings.builtin_ordered) belowPossible
  have catalog : lookup.catalog.Reachable := .insert .empty distroReachable
  have walk : ParentWalk lookup profile [distro] distro :=
    .of_ended (.step (by rfl) .here) (by decide) rfl
  have kind : profile.kind = .profile := by rfl
  have settled : ∀ field ∈ profile.kind.fields, profile.settles distro field = true :=
    List.all_eq_true.1 (by rfl)
  obtain ⟨dictionary, resolved⟩ : ∃ dictionary, profile.resolvedDict lookup = .ok dictionary :=
    exists_resolvedDict_iff.2 fun field declared =>
      walk.exists_resolvedValue rfl profileReachable catalog declared (settled field declared)
  obtain ⟨keys, kept, _, _, plain, unmarked⟩ :=
    resolvedDict_complete profileReachable catalog resolved
  rw [kind] at kept unmarked
  have nameShown : Dict.get? dictionary "name" = some (.str "web") := by
    obtain ⟨value, stored, shown⟩ := kept (Schema.core "name" .name) (by decide) (Or.inl rfl)
    rw [get?_rawDict profile (by rw [kind]; decide)] at stored
    exact shown.trans (stored.symm.trans (by rfl))
  refine ⟨by rfl, by rfl, by rfl, dictionary, resolved, keys, nameShown, ?_, ?_, ?_⟩
  · intro shown
    exact plain ("virt_disk_driver", .str inheritToken) (Dict.mem_of_get? shown) (by decide) rfl
  · exact unmarked (Schema.property "kernel_options" (.inheritMap true) .empty) (by decide) rfl
  · exact unmarked (Schema.property "kernel_options_post" (.inheritMap true) .empty) (by decide) rfl

end Provisioning
