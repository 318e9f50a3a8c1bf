import Provisioning.Proofs.ParentWalk
import Provisioning.Resolution

/-!
What a merged mapping holds under each key. The overlays are merged one ancestor after another, and
the result is what the nearest entry says, or the settings where no item has an entry.
-/

namespace Provisioning

/-- A value of the settings, unless it is the marker of a removal. -/
def unmarked? : Value → Option Value
  | .str text => if text = removalMarker then none else some (.str text)
  | value => some value

theorem unmarked?_of_ne {value : Value} (unmarked : value ≠ .str removalMarker) :
    unmarked? value = some value := by
  unfold unmarked?
  split
  · rename_i text
    exact if_neg fun marked => unmarked (congrArg Value.str marked)
  · rfl

theorem unmarked?_idem (value : Value) : (unmarked? value).bind unmarked? = unmarked? value := by
  by_cases marked : value = .str removalMarker
  · subst marked
    simp [unmarked?]
  · simp [unmarked?_of_ne marked]

theorem MapEntry.value?_ofValue (value : Value) : (ofValue value).value? = unmarked? value := by
  by_cases marked : value = .str removalMarker
  · subst marked
    simp [ofValue_marker, MapEntry.value?, unmarked?]
  · rw [ofValue_eq_set marked, unmarked?_of_ne marked]
    rfl

section MergeLayers

variable {inherited : Mapping}

theorem sorted_mergeLayers (sorted : Dict.Sorted inherited) (overlay : Option Overlay) :
    Dict.Sorted (mergeLayers inherited overlay) := by
  have flattened : Dict.Sorted (Dict.mapValues MapEntry.ofValue inherited) :=
    Dict.sorted_mapValues_iff.2 sorted
  unfold mergeLayers
  cases overlay with
  | none => exact flattened.pickValues MapEntry.value?
  | some overlay => exact (flattened.overlaid overlay.entries).pickValues MapEntry.value?

theorem get?_mergeLayers (sorted : Dict.Sorted inherited) {overlay : Option Overlay}
    (upperSorted : ∀ given, overlay = some given → Dict.Sorted given.entries) (key : String) :
    Dict.get? (mergeLayers inherited overlay) key =
      match overlay.bind fun given => given.get? key with
      | some entry => entry.value?
      | none => (Dict.get? inherited key).bind unmarked? := by
  have flattened : Dict.Sorted (Dict.mapValues MapEntry.ofValue inherited) :=
    Dict.sorted_mapValues_iff.2 sorted
  have below : (Dict.get? (Dict.mapValues MapEntry.ofValue inherited) key).bind MapEntry.value? =
      (Dict.get? inherited key).bind unmarked? := by
    rw [Dict.get?_mapValues]
    cases Dict.get? inherited key with
    | none => rfl
    | some value => exact MapEntry.value?_ofValue value
  unfold mergeLayers annihilate
  cases overlay with
  | none =>
      rw [Dict.get?_pickValues flattened, below]
      rfl
  | some given =>
      have distinct := (upperSorted given rfl).nodup_keys
      dsimp only
      unfold Overlay.applyTo
      rw [Dict.get?_pickValues (flattened.overlaid given.entries),
        Dict.get?_overlaid _ distinct]
      change ((given.get? key).or _).bind _ = _
      cases hit : given.get? key with
      | none => simpa [hit] using below
      | some entry => simp [hit]

end MergeLayers

namespace Item

def ownOverlay? (property : String) (item : Item) : Option Overlay :=
  match item.slot? property with
  | some (.mapping (.own overlay)) => some overlay
  | _ => none

def entry? (property key : String) (item : Item) : Option MapEntry :=
  (item.ownOverlay? property).bind fun overlay => overlay.get? key

end Item

/-- What a key comes to: the nearest entry of the walk decides, and then the settings. -/
def effectiveValue? (property key : String) (walk : List Item) (settings : Mapping) :
    Option Value :=
  match walk.findSome? (Item.entry? property key) with
  | some entry => entry.value?
  | none => (Dict.get? settings key).bind unmarked?

/-- The overlays of a walk laid over the settings, the farthest first. -/
def layered (property : String) (walk : List Item) (settings : Mapping) : Mapping :=
  walk.foldr (fun item inherited => mergeLayers inherited (item.ownOverlay? property)) settings

section Layered

variable {property : String} {settings : Mapping}

theorem sorted_layered (sorted : Dict.Sorted settings) (walk : List Item) :
    Dict.Sorted (layered property walk settings) := by
  induction walk with
  | nil => exact sorted
  | cons item walk ih => exact sorted_mergeLayers ih _

theorem effectiveValue?_unmarked {walk : List Item}
    (stored : ∀ item ∈ walk, ∀ overlay, item.ownOverlay? property = some overlay → overlay.Stored)
    (key : String) :
    (effectiveValue? property key walk settings).bind unmarked? =
      effectiveValue? property key walk settings := by
  unfold effectiveValue?
  split
  · rename_i entry found
    obtain ⟨item, member, said⟩ := List.exists_of_findSome?_eq_some found
    obtain ⟨overlay, own, hit⟩ := Option.bind_eq_some_iff.1 said
    cases entry with
    | remove => rfl
    | set value =>
        refine unmarked?_of_ne ?_
        rintro rfl
        exact (stored item member overlay own).unmarked key (Dict.mem_of_get? hit)
  · cases Dict.get? settings key with
    | none => rfl
    | some value => exact unmarked?_idem value

theorem get?_layered_cons (sorted : Dict.Sorted settings) {item : Item} {above : List Item}
    (stored : ∀ overlay, item.ownOverlay? property = some overlay → overlay.Stored) {key : String}
    (inherited : (Dict.get? (layered property above settings) key).bind unmarked? =
      effectiveValue? property key above settings) :
    Dict.get? (layered property (item :: above) settings) key =
      effectiveValue? property key (item :: above) settings := by
  change Dict.get? (mergeLayers (layered property above settings) _) key = _
  have upperSorted := fun overlay own => (stored overlay own).sorted
  rw [get?_mergeLayers (sorted_layered sorted above) upperSorted, inherited]
  unfold effectiveValue?
  rw [List.findSome?_cons, Item.entry?]
  cases (item.ownOverlay? property).bind fun overlay => overlay.get? key <;> rfl

theorem get?_layered_unmarked (sorted : Dict.Sorted settings) {walk : List Item}
    (stored : ∀ item ∈ walk, ∀ overlay, item.ownOverlay? property = some overlay → overlay.Stored)
    (key : String) :
    (Dict.get? (layered property walk settings) key).bind unmarked? =
      effectiveValue? property key walk settings := by
  -- Each layer reads the one above it through `unmarked?`, so that reading carries the induction.
  induction walk with
  | nil => rfl
  | cons item above ih =>
      have inherited := ih fun other member => stored other (List.mem_cons_of_mem _ member)
      rw [get?_layered_cons sorted (stored item List.mem_cons_self) inherited]
      exact effectiveValue?_unmarked stored key

end Layered

namespace Item

variable {property : String} {lookup : Lookup}

theorem mappingState_of_held {item : Item} {state : Inheritable Overlay}
    (held : item.slot? property = some (.mapping state)) :
    item.mappingState property = .ok state ∧ state.own? = item.ownOverlay? property := by
  unfold mappingState ownOverlay?
  rw [held]
  cases state <;> exact ⟨rfl, rfl⟩

theorem mergedAlong_climb {current top : Item} {ancestors : List Item}
    (climb : Climb lookup current ancestors top)
    (holds : ∀ item ∈ current :: ancestors, ∃ state, item.slot? property = some (.mapping state))
    (declared : ∀ item ∈ ancestors, item.hasProperty property = true) {repeated : Option Item}
    {base : Except ItemError Mapping}
    (atTop : mergedAlong property repeated top [] = base.map (layered property [top])) :
    mergedAlong property repeated current ancestors =
      base.map (layered property (current :: ancestors)) := by
  induction climb with
  | here => exact atTop
  | @step item parent above top found _ ih =>
      obtain ⟨state, held⟩ := holds item List.mem_cons_self
      obtain ⟨read, own⟩ := mappingState_of_held held
      have rest := ih (fun other member => holds other (List.mem_cons_of_mem _ member))
        (fun other member => declared other (List.mem_cons_of_mem _ member)) atTop
      rw [mergedAlong, read, Outcome.ok_bind, if_pos (declared parent List.mem_cons_self), rest, own]
      cases base <;> rfl

theorem mergedAlong_top {top : Item} {state : Inheritable Overlay}
    (held : top.slot? property = some (.mapping state)) :
    mergedAlong property none top [] =
      (top.mappingTerminus property).map (layered property [top]) := by
  obtain ⟨read, own⟩ := mappingState_of_held held
  rw [mergedAlong, read, Outcome.ok_bind, own]
  cases top.mappingTerminus property <;> rfl

theorem mergedAlong_repeated {top again : Item} {state : Inheritable Overlay}
    (held : top.slot? property = some (.mapping state))
    (declared : again.hasProperty property = true) :
    mergedAlong property (some again) top [] =
      (Except.error (ItemError.cycle again.name)).map (layered property [top]) := by
  obtain ⟨read, _⟩ := mappingState_of_held held
  rw [mergedAlong, read, Outcome.ok_bind]
  simp [declared, Except.map]

theorem Reachable.holds_mapping {item : Item} (reachable : item.Reachable) {shape : Shape}
    (stored : item.kind.storedShape? property = some shape) (mapping : shape.isMapping = true) :
    ∃ state, item.slot? property = some (.mapping state) := by
  obtain ⟨slot, found, fits⟩ := reachable.wellFormed.exists_slot stored
  obtain ⟨state, rfl⟩ := fits.isMapping mapping
  exact ⟨state, found⟩

theorem Reachable.ownOverlay_stored {item : Item} (reachable : item.Reachable) {overlay : Overlay}
    (own : item.ownOverlay? property = some overlay) : overlay.Stored := by
  unfold ownOverlay? at own
  split at own
  · rename_i held found
    cases own
    obtain ⟨shape, _, fits⟩ := reachable.wellFormed.slot_fits (Dict.mem_of_get? found)
    exact fits.overlay_stored
  · cases own

theorem resolveMapping_eq_mergedAlong {item : Item} {shape : Shape}
    (stored : item.kind.storedShape? property = some shape) (mapping : shape.isMapping = true)
    (resolvable : shape.isResolvable = true) :
    item.resolveMapping property lookup =
      let ancestry := item.ancestry lookup
      mergedAlong property ancestry.repeated item ancestry.ancestors := by
  obtain ⟨field, found, access, _⟩ := Kind.storedShape?_eq_some_iff.1 stored
  unfold resolveMapping
  rw [field_eq_ok_iff.2 found]
  simp [Field.shape?, access, mapping, resolvable, mergedFrom_eq_ancestry]

end Item

section Resolving

variable {item top : Item} {ancestors : List Item} {lookup : Lookup} {property : String}
  {shape : Shape}

theorem Climb.holds_mapping (climb : Climb lookup item ancestors top)
    (reachable : item.Reachable) (catalog : lookup.catalog.Reachable)
    (stored : item.kind.storedShape? property = some shape) (mapping : shape.isMapping = true)
    (resolvable : shape.isResolvable = true) :
    ∀ other ∈ item :: ancestors, other.hasProperty property = true ∧
      ∃ state, other.slot? property = some (.mapping state) := by
  refine List.forall_mem_cons.2
    ⟨⟨Kind.hasField_of_stored stored, reachable.holds_mapping stored mapping⟩, ?_⟩
  intro other member
  obtain ⟨otherReachable, hasTree⟩ := climb.ancestors_filed catalog other member
  have storedThere := Kind.storedShape?_of_mapping stored mapping resolvable hasTree
  exact ⟨Kind.hasField_of_stored storedThere, otherReachable.holds_mapping storedThere mapping⟩

theorem Climb.overlays_stored (climb : Climb lookup item ancestors top)
    (reachable : item.Reachable) (catalog : lookup.catalog.Reachable) :
    ∀ other ∈ item :: ancestors, ∀ overlay, other.ownOverlay? property = some overlay →
      overlay.Stored := by
  intro other member overlay
  exact (climb.reachable_of_mem reachable catalog other member).ownOverlay_stored

theorem ParentWalk.resolveMapping_eq (walk : ParentWalk lookup item ancestors top)
    (reachable : item.Reachable) (catalog : lookup.catalog.Reachable)
    (stored : item.kind.storedShape? property = some shape) (mapping : shape.isMapping = true)
    (resolvable : shape.isResolvable = true) :
    item.resolveMapping property lookup =
      (match top.parent? lookup with
        | some again => Except.error (ItemError.cycle again.name)
        | none => top.mappingTerminus property).map (layered property (item :: ancestors)) := by
  have holds := walk.climb.holds_mapping reachable catalog stored mapping resolvable
  obtain ⟨_, state, held⟩ := holds top walk.climb.top_mem
  rw [Item.resolveMapping_eq_mergedAlong stored mapping resolvable, walk.ancestry_eq]
  refine Item.mergedAlong_climb walk.climb (fun other member => (holds other member).2)
    (fun other member => (holds other (List.mem_cons_of_mem _ member)).1) ?_
  cases leads : top.parent? lookup with
  | none => exact Item.mergedAlong_top held
  | some again =>
      obtain ⟨_, above⟩ := Item.parent?_filed catalog leads
      have storedThere := Kind.storedShape?_of_mapping stored mapping resolvable
        (Kind.hasTree_of_parentKind? above)
      exact Item.mergedAlong_repeated held (Kind.hasField_of_stored storedThere)

end Resolving

def Item.ResolvesTo (item : Item) (property : String) (lookup : Lookup)
    (value? : String → Option Value) : Prop :=
  ∃ merged, item.resolveMapping property lookup = .ok merged ∧ Dict.Sorted merged ∧
    ∀ key, Dict.get? merged key = value? key

theorem Item.resolvesTo_of_layered {item : Item} {lookup : Lookup} {property : String}
    {above : List Item} {settings : Mapping} (sorted : Dict.Sorted settings)
    (stored : ∀ other ∈ item :: above, ∀ overlay, other.ownOverlay? property = some overlay →
      overlay.Stored)
    (resolved : item.resolveMapping property lookup =
      .ok (layered property (item :: above) settings)) :
    item.ResolvesTo property lookup fun key =>
      effectiveValue? property key (item :: above) settings := by
  refine ⟨_, resolved, sorted_layered sorted _, ?_⟩
  intro key
  have inherited := get?_layered_unmarked sorted
    (fun other member => stored other (List.mem_cons_of_mem _ member)) key
  exact get?_layered_cons sorted (stored item List.mem_cons_self) inherited

/-- The outcome of resolving a mapping, key by key, from the parent walk and the settings of its
last item. -/
theorem resolveMapping_of_parentWalk {item : Item} {lookup : Lookup} (reachable : item.Reachable)
    (catalog : lookup.catalog.Reachable) {property : String}
    (inheritable : (∃ multiple, item.kind.storedShape? property = some (.inheritMap multiple)) ∨
      item.kind.storedShape? property = some .inheritYamlMap) :
    (∃ ancestors top, ParentWalk lookup item ancestors top) ∧
    ∀ ancestors top, ParentWalk lookup item ancestors top →
      (∀ again, top.parent? lookup = some again →
        item.resolveMapping property lookup = .error (.cycle again.name)) ∧
      (top.parent? lookup = none →
        match top.settings.get? property with
        | some (.dict entries) => item.ResolvesTo property lookup fun key =>
            effectiveValue? property key (item :: ancestors) entries
        | some .null | none => item.ResolvesTo property lookup fun key =>
            effectiveValue? property key (item :: ancestors) []
        | some _ =>
            item.resolveMapping property lookup = .error (.wrongShape property .settingsDict)) := by
  obtain ⟨shape, stored, mapping, resolvable⟩ : ∃ shape,
      item.kind.storedShape? property = some shape ∧ shape.isMapping = true ∧
        shape.isResolvable = true := by
    rcases inheritable with ⟨multiple, stored⟩ | stored <;> exact ⟨_, stored, rfl, rfl⟩
  refine ⟨exists_parentWalk lookup item, ?_⟩
  intro ancestors top walk
  have resolved := walk.resolveMapping_eq reachable catalog stored mapping resolvable
  have overlays : ∀ other ∈ item :: ancestors, ∀ overlay,
      other.ownOverlay? property = some overlay → overlay.Stored :=
    walk.climb.overlays_stored reachable catalog
  constructor
  · intro again leads
    rw [leads] at resolved
    exact resolved
  · intro ended
    rw [ended] at resolved
    unfold Item.mappingTerminus at resolved
    split
    · rename_i entries given
      rw [given] at resolved
      have topReachable := walk.climb.reachable_of_mem reachable catalog top walk.climb.top_mem
      have ordered : OrderedMapping entries := topReachable.wellFormed.settings.get? given
      exact Item.resolvesTo_of_layered ordered.sorted overlays resolved
    · rename_i given
      rw [given] at resolved
      exact Item.resolvesTo_of_layered List.Pairwise.nil overlays resolved
    · rename_i given
      rw [given] at resolved
      exact Item.resolvesTo_of_layered List.Pairwise.nil overlays resolved
    · rename_i value notDict notNull given
      rw [given] at resolved
      cases value
      case dict entries => exact absurd rfl (notDict entries)
      case null => exact absurd rfl notNull
      all_goals exact resolved

theorem resolveMapping_over_distro :
    let distro := (Edit.run (Edit.run (Item.new .distro "0123456789abcdef0123456789abcdef" {})
      (.setName "f40")).1
      (.set "kernel_options" (.dict [("console", .str "tty0"), ("quiet", .null)]))).1
    let profile := (Edit.run (Edit.run (Item.new .profile "fedcba9876543210fedcba9876543210" {})
      (.setParent "f40")).1 (.set "kernel_options" (.dict [("quiet", .str "~")]))).1
    let lookup : Lookup := ⟨Catalog.empty.insert distro, .byKind⟩
    ∃ merged, profile.resolveMapping "kernel_options" lookup = .ok merged ∧
      Dict.get? merged "console" = some (.str "tty0") ∧ Dict.get? merged "quiet" = none := by
  intro distro profile lookup
  have distroFresh : IsFreshUid "0123456789abcdef0123456789abcdef" := by decide
  have profileFresh : IsFreshUid "fedcba9876543210fedcba9876543210" := by decide
  have options : Edit.Possible
      (.set "kernel_options" (.dict [("console", .str "tty0"), ("quiet", .null)])) :=
    (OrderedMapping.nil.insert "quiet" Value.ordered_null).insert "console"
      (Value.ordered_str "tty0")
  have removal : Edit.Possible (.set "kernel_options" (.dict [("quiet", .str "~")])) :=
    OrderedMapping.nil.insert "quiet" (Value.ordered_str "~")
  have named : Edit.Possible (.setName "f40") := trivial
  have placed : Edit.Possible (.setParent "f40") := trivial
  have distroReachable : distro.Reachable :=
    .edit (.edit (.new .distro distroFresh OrderedMapping.nil) named) options
  have profileReachable : profile.Reachable :=
    .edit (.edit (.new .profile profileFresh OrderedMapping.nil) placed) removal
  have catalog : lookup.catalog.Reachable := .insert .empty distroReachable
  have walk : ParentWalk lookup profile [distro] distro :=
    .of_ended (.step (by rfl) .here) (by decide) rfl
  have stored : profile.kind.storedShape? "kernel_options" = some (.inheritMap true) := by rfl
  obtain ⟨_, outcome⟩ :=
    resolveMapping_of_parentWalk profileReachable catalog (Or.inl ⟨true, stored⟩)
  obtain ⟨merged, resolved, _, values⟩ := (outcome [distro] distro walk).2 rfl
  exact ⟨merged, resolved, values "console", values "quiet"⟩

end Provisioning
