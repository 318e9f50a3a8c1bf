import Provisioning.Proofs.KeptForm
import Provisioning.Proofs.NearestValue

/-!
What the resolved form of an item shows for one field: the raw value of a field that is not
inheritable, the merged mapping, and for all other fields the nearest own value or the settings.
-/

namespace Provisioning

namespace Kind

theorem resolution_keys (kind : Kind) : ∀ field ∈ kind.fields,
    field.shape?.any (fun shape => shape.isResolvable && !shape.isMapping) = true →
      (if proxyPrefix.toList.isPrefixOf field.resolutionName.toList then "proxy"
        else field.resolutionName) = field.name ∧
      ((kind.resolvable? field.resolutionName).bind Field.settingsKey).getD field.resolutionName =
        field.terminusKey := by
  cases kind <;> decide

theorem choice_resolutionName (kind : Kind) : ∀ field ∈ kind.fields,
    ∀ members, field.access = .property (.inheritChoice members) →
      field.resolutionName = field.name := by
  have each : ∀ field ∈ kind.fields, (field.shape?.bind Shape.members?).isSome = true →
      field.resolutionName = field.name :=
    kind.forall_fields (by decide)
  intro field declared members access
  refine each field declared ?_
  rw [Field.shape?, access]
  rfl

end Kind

theorem Field.any_shape?_iff {field : Field} {check : Shape → Bool} :
    field.shape?.any check = true ↔
      ∃ shape, field.access = .property shape ∧ check shape = true := by
  unfold Field.shape?
  cases field.access <;> simp

theorem Field.inheritable_or_not (field : Field) :
    field.shape?.any Shape.isResolvable = false ∨
    ∃ shape, field.access = .property shape ∧ shape.isResolvable = true := by
  cases inheritable : field.shape?.any Shape.isResolvable with
  | false => exact Or.inl rfl
  | true => exact Or.inr (Field.any_shape?_iff.1 inheritable)

theorem Item.WellFormed.toValue_ne_token {item : Item} (wellFormed : item.WellFormed)
    {name : String} {slot : Slot} (held : item.slot? name = some slot)
    (owned : slot.isInherit = false) : slot.toValue ≠ .str inheritToken := by
  obtain ⟨shape, stored, fits⟩ := wellFormed.slot_fits (Dict.mem_of_get? held)
  exact fits.toValue_ne_token (Kind.isCanonical_of_stored stored) owned

theorem Item.exists_slot_of_ownValue? {item : Item} {name : String} {value : Value}
    (own : item.ownValue? name = some value) :
    ∃ slot, item.slot? name = some slot ∧ slot.isInherit = false ∧ slot.toValue = value := by
  unfold Item.ownValue? at own
  split at own
  · rename_i state held
    cases state with
    | inherit => cases own
    | own given =>
        cases own
        exact ⟨_, held, rfl, rfl⟩
  · rename_i state held
    cases state with
    | inherit => cases own
    | own given =>
        cases own
        exact ⟨_, held, rfl, rfl⟩
  · cases own

namespace ResolvesNearest

variable {α β : Type} {field : String} {own? : Item → Option α} {walk : List Item}
  {repeated : Option Item} {settled outcome : Except ItemError α}

theorem of_own {item : Item} {value : α} (own : own? item = some value) :
    ResolvesNearest field own? (item :: walk) repeated settled (.ok value) := by
  have nearest : (item :: walk).findSome? own? = some value := by simp [own]
  refine ⟨?_, ?_⟩
  · intro other found
    rw [nearest] at found
    cases found
    rfl
  · intro none
    rw [nearest] at none
    cases none

theorem findSome?_map {change : α → β} {other? : Item → Option β}
    (same : ∀ item ∈ walk, other? item = (own? item).map change) :
    walk.findSome? other? = (walk.findSome? own?).map change := by
  induction walk with
  | nil => rfl
  | cons item walk ih =>
      have later := ih fun other member => same other (List.mem_cons_of_mem _ member)
      rw [List.findSome?_cons, List.findSome?_cons, same item List.mem_cons_self, later]
      cases own? item <;> rfl

theorem map {change : α → β} {other? : Item → Option β}
    (same : ∀ item ∈ walk, other? item = (own? item).map change)
    (nearest : ResolvesNearest field own? walk repeated settled outcome) :
    ResolvesNearest field other? walk repeated (settled.map change) (outcome.map change) := by
  obtain ⟨owned, inherited⟩ := nearest
  rw [ResolvesNearest, findSome?_map same]
  refine ⟨?_, ?_⟩
  · intro value given
    obtain ⟨held, hit, rfl⟩ := Option.map_eq_some_iff.1 given
    rw [owned held hit]
    rfl
  · intro none
    obtain ⟨closes, settles⟩ := inherited (Option.map_eq_none_iff.1 none)
    refine ⟨?_, ?_⟩
    · intro again leads declared
      rw [closes again leads declared]
      rfl
    · intro stays
      rw [settles stays]

theorem source (nearest : ResolvesNearest field own? walk repeated settled outcome) {value : α}
    (resolved : outcome = .ok value) :
    (∃ item ∈ walk, own? item = some value) ∨ settled = .ok value := by
  obtain ⟨owned, inherited⟩ := nearest
  cases found : walk.findSome? own? with
  | some held =>
      cases (owned held found).symm.trans resolved
      exact Or.inl (List.exists_of_findSome?_eq_some found)
  | none =>
      obtain ⟨closes, settles⟩ := inherited found
      refine Or.inr ((settles ?_).symm.trans resolved)
      intro again leads
      by_contra stays
      have declared : ∀ item ∈ again :: walk, item.hasProperty field = true := by
        intro item member
        by_contra undeclared
        exact stays ⟨item, member, by simpa using undeclared⟩
      cases (closes again leads declared).symm.trans resolved

theorem settled_of_unowned (nearest : ResolvesNearest field own? walk repeated settled outcome)
    (unowned : walk.findSome? own? = none) {value : α} (resolved : outcome = .ok value) :
    settled = .ok value := by
  rcases nearest.source resolved with ⟨item, member, own⟩ | settled
  · rw [List.findSome?_eq_none_iff.1 unowned item member] at own
    cases own
  · exact settled

theorem failure (nearest : ResolvesNearest field own? walk repeated settled outcome)
    {cause : ItemError} (failed : outcome = .error cause) :
    walk.findSome? own? = none ∧
      ((∃ again, repeated = some again ∧ cause = .cycle again.name) ∨ settled = .error cause) := by
  obtain ⟨owned, inherited⟩ := nearest
  cases found : walk.findSome? own? with
  | some held => cases (owned held found).symm.trans failed
  | none =>
      obtain ⟨closes, settles⟩ := inherited found
      refine ⟨rfl, ?_⟩
      by_cases stays : ∀ again, repeated = some again →
          ∃ item ∈ again :: walk, item.hasProperty field = false
      · exact Or.inr ((settles stays).symm.trans failed)
      · push Not at stays
        obtain ⟨again, leads, declared⟩ := stays
        have closed := closes again leads (by simpa using declared)
        exact Or.inl ⟨again, leads, Except.error.inj (failed.symm.trans closed)⟩

theorem eq_settled (nearest : ResolvesNearest field own? walk none settled outcome)
    (unowned : walk.findSome? own? = none) : outcome = settled :=
  (nearest.2 unowned).2 (by simp)

theorem exists_ok_iff (nearest : ResolvesNearest field own? walk none settled outcome) :
    (∃ value, outcome = .ok value) ↔
      (walk.findSome? own? = none → ∃ value, settled = .ok value) := by
  cases found : walk.findSome? own? with
  | some held => simp [nearest.1 held found]
  | none => simp [nearest.eq_settled found]

end ResolvesNearest

namespace Item

variable {item : Item} {lookup : Lookup} {field : Field} {shape : Shape}

theorem resolvedValue_plain (plain : field.shape?.any Shape.isResolvable = false) :
    item.resolvedValue lookup field = .ok (item.rawValue field) := by
  unfold resolvedValue
  unfold Field.shape? at plain
  cases access : field.access with
  | core core => rfl
  | property shape =>
      rw [access] at plain
      cases shape <;> first | rfl | contradiction

theorem resolvedValue_mapping (access : field.access = .property shape)
    (resolvable : shape.isResolvable = true) (mapping : shape.isMapping = true) :
    item.resolvedValue lookup field = (item.resolveMapping field.name lookup).map .dict := by
  unfold resolvedValue
  rw [access]
  cases shape <;> first | rfl | contradiction

theorem resolvedValue_owned (access : field.access = .property shape)
    (unmapped : shape.isMapping = false) (owned : item.isInheriting field.name = false) :
    item.resolvedValue lookup field = .ok (item.rawValue field) := by
  unfold resolvedValue
  rw [access]
  cases shape <;> first | contradiction | simp [owned]

theorem resolvedValue_kept
    (kept : field.shape?.any Shape.isResolvable = false ∨
      (field.shape?.any Shape.isMapping = false ∧ item.isInheriting field.name = false)) :
    item.resolvedValue lookup field = .ok (item.rawValue field) := by
  rcases field.inheritable_or_not with plain | ⟨shape, access, resolvable⟩
  · exact resolvedValue_plain plain
  · have given : field.shape? = some shape := by rw [Field.shape?, access]
    rw [given, Option.any_some, Option.any_some] at kept
    rcases kept with plain | ⟨unmapped, owned⟩
    · rw [resolvable] at plain
      cases plain
    · exact resolvedValue_owned access unmapped owned

theorem resolvedValue_choice {members : List String}
    (access : field.access = .property (.inheritChoice members))
    (inherited : item.isInheriting field.name = true) :
    item.resolvedValue lookup field = (item.resolveChoice field.name lookup).map .str := by
  unfold resolvedValue
  rw [access]
  dsimp only
  rw [if_pos inherited]

theorem resolvedValue_scalar (access : field.access = .property shape)
    (resolvable : shape.isResolvable = true) (unmapped : shape.isMapping = false)
    (memberless : shape.members? = none) (inherited : item.isInheriting field.name = true) :
    item.resolvedValue lookup field = item.resolveScalar field.resolutionName lookup := by
  unfold resolvedValue
  rw [access]
  cases shape <;> first | contradiction | simp [inherited, Shape.isResolvable]

def settledValue (item : Item) (field : Field) (shape : Shape) : Except ItemError Value :=
  match shape.members? with
  | some members => (item.settledMember field.name field.terminusKey members).map .str
  | none => item.settledScalar field.resolutionName field.terminusKey shape

theorem ownValue?_eq_rawValue (reachable : item.Reachable) (declared : field ∈ item.kind.fields)
    (access : field.access = .property shape) (resolvable : shape.isResolvable = true)
    (unmapped : shape.isMapping = false) (owned : item.isInheriting field.name = false) :
    item.ownValue? field.name = some (item.rawValue field) := by
  have kept : field.isDerived = false := by
    unfold Field.isDerived
    rw [access]
    cases shape <;> first | rfl | contradiction
  obtain ⟨slot, held, fits, raw, _⟩ :=
    reachable.wellFormed.exists_slot_of_mem declared access kept
  unfold isInheriting at owned
  rw [held, Option.any_some] at owned
  unfold ownValue?
  rw [raw, held]
  rcases fits.isScalar resolvable unmapped with ⟨state, rfl⟩ | ⟨state, rfl⟩
  · cases state with
    | own value => rfl
    | inherit => cases owned
  · cases state with
    | own member => rfl
    | inherit => cases owned

theorem propertyKeys_resolutionName (declared : field ∈ item.kind.fields)
    (access : field.access = .property shape) (resolvable : shape.isResolvable = true)
    (unmapped : shape.isMapping = false) :
    item.propertyKeys field.resolutionName = ⟨field.name, field.terminusKey⟩ := by
  have nearest : field.shape?.any (fun shape => shape.isResolvable && !shape.isMapping) = true :=
    Field.any_shape?_iff.2 ⟨shape, access, by rw [resolvable, unmapped]; rfl⟩
  obtain ⟨name, key⟩ := Kind.resolution_keys item.kind field declared nearest
  unfold propertyKeys
  rw [name, ← key]
  congr 1
  cases (item.kind.resolvable? field.resolutionName).bind Field.settingsKey <;> rfl

end Item

section Resolving

variable {item top : Item} {ancestors : List Item} {lookup : Lookup} {field : Field}
  {shape : Shape}

theorem Climb.ownValue?_eq_ownMember? (climb : Climb lookup item ancestors top)
    (reachable : item.Reachable) (catalog : lookup.catalog.Reachable) {name : String}
    {members : List String} (stored : item.kind.storedShape? name = some (.inheritChoice members)) :
    ∀ other ∈ item :: ancestors,
      other.ownValue? name = (other.ownMember? name).map Value.str := by
  intro other member
  have wellFormed := (climb.reachable_of_mem reachable catalog other member).wellFormed
  unfold Item.ownValue? Item.ownMember?
  cases declared : other.hasProperty name with
  | false =>
      rw [wellFormed.slot?_eq_none declared]
      rfl
  | true =>
      obtain ⟨slot, held, fits⟩ := wellFormed.exists_slot (Kind.storedShape?_agree stored declared)
      obtain ⟨state, rfl⟩ := fits.isChoice
      rw [held]

theorem ParentWalk.resolvedValue_nearest (walk : ParentWalk lookup item ancestors top)
    (reachable : item.Reachable) (catalog : lookup.catalog.Reachable)
    (declared : field ∈ item.kind.fields) (access : field.access = .property shape)
    (resolvable : shape.isResolvable = true) (unmapped : shape.isMapping = false) :
    ResolvesNearest field.name (Item.ownValue? field.name) (item :: ancestors)
      (top.parent? lookup) (item.settledValue field shape) (item.resolvedValue lookup field) := by
  have stored := Kind.storedShape?_of_mem declared access resolvable
  have keys := Item.propertyKeys_resolutionName declared access resolvable unmapped
  cases inherited : item.isInheriting field.name with
  | false =>
      rw [Item.resolvedValue_owned access unmapped inherited]
      refine .of_own ?_
      exact Item.ownValue?_eq_rawValue reachable declared access resolvable unmapped inherited
  | true =>
      unfold Item.settledValue
      cases memberless : shape.members? with
      | none =>
          rw [Item.resolvedValue_scalar access resolvable unmapped memberless inherited]
          exact walk.resolveScalar_nearest reachable catalog keys stored resolvable unmapped
      | some members =>
          obtain rfl := Shape.eq_inheritChoice resolvable memberless
          have named : field.resolutionName = field.name :=
            Kind.choice_resolutionName item.kind field declared members access
          rw [named] at keys
          -- The search is for members, and the value is the member as a text.
          have same := walk.climb.ownValue?_eq_ownMember? reachable catalog stored
          rw [Item.resolvedValue_choice access inherited]
          exact .map same (walk.resolveChoice_nearest reachable catalog keys stored)

end Resolving

end Provisioning
