import Provisioning.Proofs.Schema
import Provisioning.Settings.Check

/-!
What the check of the settings reports: for a field the reason why the settings are of no use to it,
and for no field of a kind more than one.
-/

namespace Provisioning

def SettingsFault.place? : SettingsFault → Option (Kind × String)
  | .missing kind property _ | .unusable kind property _ _ => some (kind, property)
  | .logging _ => none

inductive Settings.Fails (settings : Settings) (kind : Kind) (field : Field) (shape : Shape) :
    SettingsFault → Prop
  | missing : shape.isMapping = false → settings.terminus? field.terminusKey = none →
      Fails settings kind field shape (.missing kind field.name field.terminusKey)
  | inherited : shape.isMapping = false →
      settings.terminus? field.terminusKey = some (.str inheritToken) →
      Fails settings kind field shape
        (.unusable kind field.name field.terminusKey .inheritToken)
  | noMember {value members} : shape.members? = some members →
      settings.terminus? field.terminusKey = some value → value ≠ .str inheritToken →
      Settings.isMember field.terminusKey members value = false →
      Fails settings kind field shape
        (.unusable kind field.name field.terminusKey (.notMember members))
  | noTable {value} : shape.isMapping = true → settings.get? field.terminusKey = some value →
      value ≠ .null → (∀ entries, value ≠ .dict entries) →
      Fails settings kind field shape
        (.unusable kind field.name field.terminusKey (.notTable value.type))

namespace Settings

variable {settings : Settings} {kind : Kind} {field : Field} {shape : Shape} {fault : SettingsFault}

theorem checkTable_eq_some_iff {key : String} {reason : TerminusFault} :
    settings.checkTable key = some reason ↔
      ∃ value, settings.get? key = some value ∧ value ≠ .null ∧
        (∀ entries, value ≠ .dict entries) ∧ reason = .notTable value.type := by
  unfold checkTable
  constructor
  · intro faulty
    split at faulty
    · cases faulty
    · cases faulty
    · cases faulty
    · rename_i value notNull notDict found
      cases faulty
      refine ⟨value, found, ?_, ?_, rfl⟩
      · rintro rfl
        exact notNull rfl
      · rintro entries rfl
        exact notDict entries rfl
  · rintro ⟨value, found, notNull, notDict, rfl⟩
    rw [found]
    cases value with
    | null => exact absurd rfl notNull
    | dict entries => exact absurd rfl (notDict entries)
    | _ => rfl

theorem checkTerminus_eq_some_iff {key : String} {value : Value} {reason : TerminusFault} :
    checkTerminus key shape value = some reason ↔
      (value = .str inheritToken ∧ reason = .inheritToken) ∨
      (value ≠ .str inheritToken ∧ ∃ members, shape.members? = some members ∧
        isMember key members value = false ∧ reason = .notMember members) := by
  unfold checkTerminus
  by_cases token : value = .str inheritToken
  · subst token
    have inherits : Convert.isInheritToken (.str inheritToken) = true := by decide
    rw [if_pos inherits]
    constructor
    · intro faulty
      cases faulty
      exact Or.inl ⟨rfl, rfl⟩
    · rintro (⟨_, rfl⟩ | ⟨plain, _⟩)
      · rfl
      · exact absurd rfl plain
  · rw [Convert.isInheritToken_eq_false_iff.2 token, if_neg Bool.false_ne_true]
    constructor
    · intro faulty
      refine Or.inr ⟨token, ?_⟩
      split at faulty
      · rename_i members listed
        split at faulty
        · cases faulty
        · rename_i unlisted
          cases faulty
          exact ⟨members, listed, Bool.eq_false_iff.2 unlisted, rfl⟩
      · cases faulty
    · rintro (⟨same, _⟩ | ⟨_, members, listed, unlisted, rfl⟩)
      · exact absurd same token
      · rw [listed]
        dsimp only
        rw [unlisted, if_neg Bool.false_ne_true]

theorem checkField_of_mapping (access : field.access = .property shape)
    (resolvable : shape.isResolvable = true) (mapping : shape.isMapping = true) :
    settings.checkField kind field =
      (settings.checkTable field.terminusKey).map
        (.unusable kind field.name field.terminusKey) := by
  simp [checkField, Field.shape?, access, resolvable, mapping]

theorem checkField_of_unmapped (access : field.access = .property shape)
    (resolvable : shape.isResolvable = true) (unmapped : shape.isMapping = false) :
    settings.checkField kind field =
      match settings.terminus? field.terminusKey with
      | none => some (.missing kind field.name field.terminusKey)
      | some value =>
          (checkTerminus field.terminusKey shape value).map
            (.unusable kind field.name field.terminusKey) := by
  cases found : settings.terminus? field.terminusKey <;>
    simp [checkField, Field.shape?, access, resolvable, unmapped, found]

theorem Fails.checkField_eq (fails : settings.Fails kind field shape fault)
    (access : field.access = .property shape) (resolvable : shape.isResolvable = true) :
    settings.checkField kind field = some fault := by
  cases fails with
  | missing unmapped absent => rw [checkField_of_unmapped access resolvable unmapped, absent]
  | inherited unmapped token =>
      rw [checkField_of_unmapped access resolvable unmapped, token]
      exact Option.map_eq_some_iff.2 ⟨_, checkTerminus_eq_some_iff.2 (Or.inl ⟨rfl, rfl⟩), rfl⟩
  | noMember listed found plain unlisted =>
      obtain rfl := Shape.eq_inheritChoice resolvable listed
      have reason := checkTerminus_eq_some_iff.2 (Or.inr ⟨plain, _, listed, unlisted, rfl⟩)
      rw [checkField_of_unmapped access resolvable rfl, found]
      exact Option.map_eq_some_iff.2 ⟨_, reason, rfl⟩
  | noTable mapping found notNull notDict =>
      have reason := checkTable_eq_some_iff.2 ⟨_, found, notNull, notDict, rfl⟩
      rw [checkField_of_mapping access resolvable mapping, reason]
      rfl

theorem checkField_eq_some_iff :
    settings.checkField kind field = some fault ↔
      ∃ shape, field.access = .property shape ∧ shape.isResolvable = true ∧
        settings.Fails kind field shape fault := by
  constructor
  · intro faulty
    cases access : field.access with
    | core core =>
        rw [checkField, Field.shape?, access] at faulty
        cases faulty
    | property shape =>
        have resolvable : shape.isResolvable = true := by
          by_contra plain
          simp [checkField, Field.shape?, access, plain] at faulty
        refine ⟨shape, rfl, resolvable, ?_⟩
        cases mapping : shape.isMapping with
        | true =>
            rw [checkField_of_mapping access resolvable mapping] at faulty
            obtain ⟨reason, checked, rfl⟩ := Option.map_eq_some_iff.1 faulty
            obtain ⟨value, found, notNull, notDict, rfl⟩ := checkTable_eq_some_iff.1 checked
            exact .noTable mapping found notNull notDict
        | false =>
            rw [checkField_of_unmapped access resolvable mapping] at faulty
            cases found : settings.terminus? field.terminusKey with
            | none =>
                rw [found] at faulty
                cases faulty
                exact .missing mapping found
            | some value =>
                rw [found] at faulty
                obtain ⟨reason, checked, rfl⟩ := Option.map_eq_some_iff.1 faulty
                rcases checkTerminus_eq_some_iff.1 checked with
                  ⟨rfl, rfl⟩ | ⟨plain, members, listed, unlisted, rfl⟩
                · exact .inherited mapping found
                · exact .noMember listed found plain unlisted
  · rintro ⟨shape, access, resolvable, fails⟩
    exact fails.checkField_eq access resolvable

theorem Fails.place?_eq (fails : settings.Fails kind field shape fault) :
    fault.place? = some (kind, field.name) := by
  cases fails <;> rfl

theorem place?_of_checkField (faulty : settings.checkField kind field = some fault) :
    fault.place? = some (kind, field.name) := by
  obtain ⟨_, _, _, fails⟩ := checkField_eq_some_iff.1 faulty
  exact fails.place?_eq

theorem nodup_places_of_kind (settings : Settings) (kind : Kind) :
    ((kind.fields.filterMap (settings.checkField kind)).filterMap
      SettingsFault.place?).Nodup := by
  have distinct := kind.nodup_names
  rw [List.nodup_iff_pairwise_ne, List.pairwise_map] at distinct
  rw [List.filterMap_filterMap, List.nodup_iff_pairwise_ne]
  refine List.Pairwise.filterMap _ ?_ distinct
  intro field other different place given otherPlace otherGiven
  obtain ⟨fault, faulty, here⟩ := Option.bind_eq_some_iff.1 given
  obtain ⟨otherFault, otherFaulty, there⟩ := Option.bind_eq_some_iff.1 otherGiven
  cases here.symm.trans (place?_of_checkField faulty)
  cases there.symm.trans (place?_of_checkField otherFaulty)
  intro same
  exact different (Prod.mk.inj same).2

theorem nodup_places (settings : Settings) :
    (settings.check.filterMap SettingsFault.place?).Nodup := by
  unfold check
  rw [List.filterMap_flatMap, List.nodup_flatMap]
  refine ⟨fun kind _ => settings.nodup_places_of_kind kind, ?_⟩
  have distinct : Kind.all.Pairwise (· ≠ ·) := by decide
  have ofKind (kind : Kind) : ∀ place ∈ (kind.fields.filterMap
      (settings.checkField kind)).filterMap SettingsFault.place?, place.1 = kind := by
    intro place listed
    obtain ⟨fault, reported, here⟩ := List.mem_filterMap.1 listed
    obtain ⟨field, _, faulty⟩ := List.mem_filterMap.1 reported
    cases here.symm.trans (place?_of_checkField faulty)
    rfl
  refine distinct.imp ?_
  intro kind other different
  refine List.disjoint_left.2 ?_
  intro place listed listedToo
  exact different ((ofKind kind place listed).symm.trans (ofKind other place listedToo))

end Settings

namespace Configuration

variable {configuration : Configuration}

theorem places_of_check (configuration : Configuration) :
    configuration.check.filterMap SettingsFault.place? =
      configuration.settings.check.filterMap SettingsFault.place? := by
  unfold check
  rw [List.filterMap_append]
  cases configuration.logging.validate <;> simp [SettingsFault.place?]

theorem reported_iff {fault : SettingsFault} {kind : Kind} {property : String} :
    fault ∈ configuration.check ∧ fault.place? = some (kind, property) ↔
      ∃ field ∈ kind.fields, field.name = property ∧
        configuration.settings.checkField kind field = some fault := by
  constructor
  · rintro ⟨reported, place⟩
    rcases List.mem_append.1 reported with ofSettings | ofLogging
    · obtain ⟨owner, _, among⟩ := List.mem_flatMap.1 ofSettings
      obtain ⟨field, declared, faulty⟩ := List.mem_filterMap.1 among
      cases place.symm.trans (Settings.place?_of_checkField faulty)
      exact ⟨field, declared, rfl, faulty⟩
    · split at ofLogging
      · cases ofLogging
      · obtain rfl := List.mem_singleton.1 ofLogging
        cases place
  · rintro ⟨field, declared, rfl, faulty⟩
    refine ⟨List.mem_append_left _ ?_, Settings.place?_of_checkField faulty⟩
    exact List.mem_flatMap.2
      ⟨kind, Kind.mem_all kind, List.mem_filterMap.2 ⟨field, declared, faulty⟩⟩

end Configuration

end Provisioning
