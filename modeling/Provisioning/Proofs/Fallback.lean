import Provisioning.Proofs.Layers
import Provisioning.Proofs.ResolvedForm

/-!
Which settings a property falls back to when no item on the way up has anything to say. A scalar or
a choice takes the settings that end the layers of the item, a mapping those of the last item.
-/

namespace Provisioning

namespace Item

def under (item : Item) (settings : Settings) : Item :=
  { item with settings }

/-- What the settings of an item alone make of a mapping: the keys marked as removed are left out. -/
def settledMapping (item : Item) (property : String) : Except ItemError Mapping :=
  (item.mappingTerminus property).map (Dict.pickValues unmarked?)

theorem under_self (item : Item) : item.under item.settings = item := rfl

theorem settledMapping_congr {left right : Item} {property : String}
    (same : left.settings.get? property = right.settings.get? property) :
    left.settledMapping property = right.settledMapping property := by
  unfold settledMapping mappingTerminus
  rw [same]

end Item

theorem layered_of_unsaid {property : String} {settings : Mapping} {item : Item}
    {above : List Item} (sorted : Dict.Sorted settings)
    (stored : ∀ other ∈ item :: above, ∀ overlay, other.ownOverlay? property = some overlay →
      overlay.Stored)
    (unsaid : ∀ other ∈ item :: above, ∀ key, other.entry? property key = none) :
    layered property (item :: above) settings = Dict.pickValues unmarked? settings := by
  apply Dict.eq_of_get? (sorted_layered sorted _) (sorted.pickValues unmarked?)
  intro key
  have inherited := get?_layered_unmarked sorted
    (fun other member => stored other (List.mem_cons_of_mem _ member)) key
  -- Keys that the settings mark as removed stay so through every layer, as no layer has an entry.
  have silent : (item :: above).findSome? (Item.entry? property key) = none :=
    List.findSome?_eq_none_iff.2 fun other member => unsaid other member key
  rw [get?_layered_cons sorted (stored item List.mem_cons_self) inherited,
    Dict.get?_pickValues sorted]
  unfold effectiveValue?
  rw [silent]

section Resolving

variable {item top : Item} {ancestors : List Item} {lookup : Lookup} {property field key : String}
  {shape : Shape}

theorem ParentWalk.resolveScalar_of_unowned (walk : ParentWalk lookup item ancestors top)
    (ended : top.parent? lookup = none) (reachable : item.Reachable)
    (catalog : lookup.catalog.Reachable) (keys : item.propertyKeys property = ⟨field, key⟩)
    (stored : item.kind.storedShape? field = some shape) (resolvable : shape.isResolvable = true)
    (unmapped : shape.isMapping = false)
    (unowned : ∀ other ∈ item :: ancestors, other.ownValue? field = none) :
    item.resolveScalar property lookup = item.settledScalar property key shape := by
  have nearest := walk.resolveScalar_nearest reachable catalog keys stored resolvable unmapped
  rw [ended] at nearest
  exact nearest.eq_settled (List.findSome?_eq_none_iff.2 unowned)

theorem ParentWalk.resolveChoice_of_unowned (walk : ParentWalk lookup item ancestors top)
    (ended : top.parent? lookup = none) (reachable : item.Reachable)
    (catalog : lookup.catalog.Reachable) {members : List String}
    (keys : item.propertyKeys field = ⟨field, key⟩)
    (stored : item.kind.storedShape? field = some (.inheritChoice members))
    (unowned : ∀ other ∈ item :: ancestors, other.ownValue? field = none) :
    item.resolveChoice field lookup = item.settledMember field key members := by
  have nearest := walk.resolveChoice_nearest reachable catalog keys stored
  rw [ended] at nearest
  -- A member is owned exactly where the same slot, read as a scalar, is owned.
  apply nearest.eq_settled
  apply List.findSome?_eq_none_iff.2
  intro other member
  have same := walk.climb.ownValue?_eq_ownMember? reachable catalog stored other member
  rw [unowned other member] at same
  exact Option.map_eq_none_iff.1 same.symm

theorem ParentWalk.resolveMapping_of_unsaid (walk : ParentWalk lookup item ancestors top)
    (ended : top.parent? lookup = none) (reachable : item.Reachable)
    (catalog : lookup.catalog.Reachable) (stored : item.kind.storedShape? property = some shape)
    (resolvable : shape.isResolvable = true) (mapping : shape.isMapping = true)
    (unsaid : ∀ other ∈ item :: ancestors, ∀ key, other.entry? property key = none) :
    item.resolveMapping property lookup = top.settledMapping property := by
  have overlays : ∀ other ∈ item :: ancestors, ∀ overlay,
      other.ownOverlay? property = some overlay → overlay.Stored :=
    walk.climb.overlays_stored reachable catalog
  have topReachable := walk.climb.reachable_of_mem reachable catalog top walk.climb.top_mem
  rw [walk.resolveMapping_eq reachable catalog stored mapping resolvable, ended]
  unfold Item.settledMapping
  dsimp only
  cases settled : top.mappingTerminus property with
  | error cause => rfl
  | ok entries =>
      have sorted := topReachable.wellFormed.mappingTerminus_sorted settled
      exact congrArg Except.ok (layered_of_unsaid sorted overlays unsaid)

end Resolving

/-- What an item whose walk ends resolves to where no item of the walk says anything. For scalars and
choices that is up to the settings that end its layers. For mappings it is up to the settings of the
last item, which are as good only where they have the same entry. -/
theorem fallbacks_of_parentWalk {item top : Item} {ancestors : List Item} {lookup : Lookup}
    (reachable : item.Reachable) (catalog : lookup.catalog.Reachable)
    (walk : ParentWalk lookup item ancestors top) (ended : top.parent? lookup = none) :
    ∃ settings,
      item.layers lookup = .ok ((item :: ancestors).map .item ++ [.settings settings]) ∧
      (∀ property field key shape, item.propertyKeys property = ⟨field, key⟩ →
        item.kind.storedShape? field = some shape → shape.isResolvable = true →
        shape.isMapping = false → (∀ other ∈ item :: ancestors, other.ownValue? field = none) →
          item.resolveScalar property lookup =
            (item.under settings).settledScalar property key shape ∧
          ∀ members, shape = .inheritChoice members →
            item.resolveChoice property lookup =
              (item.under settings).settledMember property key members) ∧
      ∀ property shape, item.kind.storedShape? property = some shape →
        shape.isResolvable = true → shape.isMapping = true →
        (∀ other ∈ item :: ancestors, ∀ key, other.entry? property key = none) →
          item.resolveMapping property lookup =
            (item.under top.settings).settledMapping property ∧
          (top.settings.get? property = settings.get? property →
            item.resolveMapping property lookup =
              (item.under settings).settledMapping property) := by
  have layers := walk.layers_eq
  rw [ended] at layers
  refine ⟨item.settings, layers, ?_, ?_⟩
  · intro property field key shape keys stored resolvable unmapped unowned
    rw [item.under_self]
    constructor
    · exact walk.resolveScalar_of_unowned ended reachable catalog keys stored resolvable unmapped
        unowned
    · rintro members rfl
      obtain rfl := Item.property_eq_field keys stored
      exact walk.resolveChoice_of_unowned ended reachable catalog keys stored unowned
  · intro property shape stored resolvable mapping unsaid
    have settled :=
      walk.resolveMapping_of_unsaid ended reachable catalog stored resolvable mapping unsaid
    constructor
    · exact settled
    · intro same
      rw [settled]
      exact Item.settledMapping_congr same

theorem walk_under_settings {older newer : Settings} (olderOrdered : older.Ordered)
    (newerOrdered : newer.Ordered) :
    let distro :=
      (Edit.run (Item.new .distro "0123456789abcdef0123456789abcdef" older) (.setName "f40")).1
    let profile :=
      (Edit.run (Item.new .profile "fedcba9876543210fedcba9876543210" newer) (.setParent "f40")).1
    let lookup : Lookup := ⟨Catalog.empty.insert distro, .byKind⟩
    profile.Reachable ∧ lookup.catalog.Reachable ∧
    ParentWalk lookup profile [distro] distro ∧ distro.parent? lookup = none ∧
    (∀ other ∈ [profile, distro], other.ownValue? "autoinstall" = none) ∧
    ∀ other ∈ [profile, distro], ∀ key, other.entry? "boot_files" key = none := by
  intro distro profile lookup
  have distroFresh : IsFreshUid "0123456789abcdef0123456789abcdef" := by decide
  have profileFresh : IsFreshUid "fedcba9876543210fedcba9876543210" := by decide
  have named : Edit.Possible (.setName "f40") := trivial
  have placed : Edit.Possible (.setParent "f40") := trivial
  have distroReachable : distro.Reachable := .edit (.new .distro distroFresh olderOrdered) named
  have profileReachable : profile.Reachable :=
    .edit (.new .profile profileFresh newerOrdered) placed
  have distinct : ([profile, distro].map Item.uid).Nodup :=
    (by decide : ["fedcba9876543210fedcba9876543210", "0123456789abcdef0123456789abcdef"].Nodup)
  have walk : ParentWalk lookup profile [distro] distro :=
    .of_ended (.step (by rfl) .here) distinct rfl
  refine ⟨profileReachable, .insert .empty distroReachable, walk, rfl, ?_, ?_⟩
  · exact List.forall_mem_cons.2 ⟨by rfl, List.forall_mem_singleton.2 (by rfl)⟩
  · exact List.forall_mem_cons.2
      ⟨fun key => by rfl, List.forall_mem_singleton.2 fun key => by rfl⟩

/-- After new settings are loaded, a profile takes its text from them and its mapping from those that
its distro still holds. -/
theorem fallbacks_after_reload :
    let distro := (Edit.run (Item.new .distro "0123456789abcdef0123456789abcdef"
      ⟨[("boot_files", .dict [("grub", .str "old"), ("quiet", .str "~")])]⟩) (.setName "f40")).1
    let profile := (Edit.run (Item.new .profile "fedcba9876543210fedcba9876543210"
      ⟨[("autoinstall", .str "new.ks"), ("boot_files", .dict [("grub", .str "new")])]⟩)
      (.setParent "f40")).1
    let lookup : Lookup := ⟨Catalog.empty.insert distro, .byKind⟩
    profile.resolveScalar "autoinstall" lookup = .ok (.str "new.ks") ∧
    profile.resolveMapping "boot_files" lookup = .ok [("grub", .str "old")] := by
  intro distro profile lookup
  have older : Settings.Ordered
      ⟨[("boot_files", .dict [("grub", .str "old"), ("quiet", .str "~")])]⟩ :=
    OrderedMapping.nil.insert "boot_files"
      ((OrderedMapping.nil.insert "quiet" (Value.ordered_str "~")).insert "grub"
        (Value.ordered_str "old"))
  have newer : Settings.Ordered
      ⟨[("autoinstall", .str "new.ks"), ("boot_files", .dict [("grub", .str "new")])]⟩ :=
    (OrderedMapping.nil.insert "boot_files"
      (OrderedMapping.nil.insert "grub" (Value.ordered_str "new"))).insert "autoinstall"
        (Value.ordered_str "new.ks")
  obtain ⟨reachable, catalog, walk, ended, unowned, unsaid⟩ := walk_under_settings older newer
  obtain ⟨settings, layers, scalars, mappings⟩ :=
    fallbacks_of_parentWalk reachable catalog walk ended
  have last : settings = profile.settings := by
    have same := walk.layers_eq.symm.trans layers
    simpa using (List.append_cancel_left (Except.ok.inj same)).symm
  subst last
  have text : profile.kind.storedShape? "autoinstall" = some .inheritText := by rfl
  have table : profile.kind.storedShape? "boot_files" = some (.inheritMap false) := by rfl
  have keys : profile.propertyKeys "autoinstall" = ⟨"autoinstall", "autoinstall"⟩ := by rfl
  exact ⟨(scalars _ _ _ _ keys text rfl rfl unowned).1, (mappings _ _ table rfl rfl unsaid).1⟩

theorem resolveMapping_ne_layer :
    let distro := (Edit.run (Item.new .distro "0123456789abcdef0123456789abcdef"
      ⟨[("boot_files", .dict [("grub", .str "old")])]⟩) (.setName "f40")).1
    let profile := (Edit.run (Item.new .profile "fedcba9876543210fedcba9876543210"
      ⟨[("boot_files", .dict [("grub", .str "new")])]⟩) (.setParent "f40")).1
    let lookup : Lookup := ⟨Catalog.empty.insert distro, .byKind⟩
    profile.Reachable ∧ lookup.catalog.Reachable ∧
    ParentWalk lookup profile [distro] distro ∧ distro.parent? lookup = none ∧
    profile.kind.storedShape? "boot_files" = some (.inheritMap false) ∧
    (∀ other ∈ [profile, distro], ∀ key, other.entry? "boot_files" key = none) ∧
    profile.layers lookup = .ok [.item profile, .item distro, .settings profile.settings] ∧
    profile.settledMapping "boot_files" = .ok [("grub", .str "new")] ∧
    profile.resolveMapping "boot_files" lookup = .ok [("grub", .str "old")] := by
  intro distro profile lookup
  have ordered (text : String) :
      Settings.Ordered ⟨[("boot_files", .dict [("grub", .str text)])]⟩ :=
    OrderedMapping.nil.insert "boot_files"
      (OrderedMapping.nil.insert "grub" (Value.ordered_str text))
  obtain ⟨reachable, catalog, walk, ended, _, unsaid⟩ :=
    walk_under_settings (ordered "old") (ordered "new")
  have stored : profile.kind.storedShape? "boot_files" = some (.inheritMap false) := by rfl
  refine ⟨reachable, catalog, walk, ended, stored, unsaid, walk.layers_eq, by rfl, ?_⟩
  rw [walk.resolveMapping_of_unsaid ended reachable catalog stored rfl rfl unsaid]
  rfl

end Provisioning
