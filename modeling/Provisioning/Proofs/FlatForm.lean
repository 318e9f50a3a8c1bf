import Provisioning.Proofs.ItemState

/-!
Flat dictionaries. They hold one entry for each field of a kind, and some fields a second time under
an alias.
-/

namespace Provisioning

theorem alias_ne_name (kind : Kind) : ∀ field ∈ kind.fields,
    field.name ∉ legacyAliases.map Prod.snd :=
  kind.forall_fields (by decide)

theorem get?_addAliases {dictionary : Mapping} {key : String}
    (plain : key ∉ legacyAliases.map Prod.snd) :
    Dict.get? (addAliases dictionary) key = Dict.get? dictionary key := by
  unfold addAliases
  generalize legacyAliases = aliases at plain
  induction aliases generalizing dictionary with
  | nil => rfl
  | cons pair aliases ih =>
      rw [List.map_cons, List.mem_cons, not_or] at plain
      rw [List.foldl_cons, ih plain.2]
      split
      · rw [Dict.get?_insert, if_neg (Ne.symm plain.1)]
      · rfl

theorem sorted_addAliases {dictionary : Mapping} (sorted : Dict.Sorted dictionary) :
    Dict.Sorted (addAliases dictionary) := by
  unfold addAliases
  induction legacyAliases generalizing dictionary with
  | nil => exact sorted
  | cons pair aliases ih =>
      refine ih ?_
      dsimp only
      split
      · exact sorted.insert _ _
      · exact sorted

theorem stripAliases_eq (dictionary : Mapping) :
    stripAliases dictionary = (legacyAliases.map Prod.snd).foldl Dict.erase dictionary :=
  List.foldl_map.symm

theorem get?_addAliases_of_mem {dictionary : Mapping} {name other : String}
    (listed : (name, other) ∈ legacyAliases) :
    Dict.get? (addAliases dictionary) other =
      (Dict.get? dictionary name).or (Dict.get? dictionary other) := by
  simp only [legacyAliases, List.mem_cons, List.not_mem_nil, or_false, Prod.mk.injEq] at listed
  unfold addAliases legacyAliases
  rcases listed with ⟨rfl, rfl⟩ | ⟨rfl, rfl⟩ <;>
    cases first : Dict.get? dictionary "autoinstall_meta" <;>
    cases second : Dict.get? dictionary "autoinstall" <;>
    simp [first, second, Dict.get?_insert]

theorem aliased_not_alias {name other : String} (listed : (name, other) ∈ legacyAliases) :
    name ∉ legacyAliases.map Prod.snd := by
  have each : ∀ pair ∈ legacyAliases, pair.1 ∉ legacyAliases.map Prod.snd := by decide
  exact each (name, other) listed

namespace Kind

variable {kind : Kind} {value : Field → Value} {field : Field}

/-- A dictionary with one entry for each field of a kind, and with the aliases. -/
def flatForm (kind : Kind) (value : Field → Value) : Mapping :=
  addAliases (Dict.ofList (kind.fields.map fun field => (field.name, value field)))

theorem keys_entries (kind : Kind) (value : Field → Value) :
    Dict.keys (kind.fields.map fun field => (field.name, value field)) =
      kind.fields.map Field.name :=
  List.map_map

theorem nodup_entries (kind : Kind) (value : Field → Value) :
    (Dict.keys (kind.fields.map fun field => (field.name, value field))).Nodup := by
  rw [keys_entries]
  exact kind.nodup_names

theorem sorted_flatForm (kind : Kind) (value : Field → Value) :
    Dict.Sorted (kind.flatForm value) :=
  sorted_addAliases (Dict.Sorted.ofList _)

theorem get?_flatForm_plain {key : String} (plain : key ∉ legacyAliases.map Prod.snd) :
    Dict.get? (kind.flatForm value) key =
      Dict.get? (kind.fields.map fun field => (field.name, value field)) key := by
  rw [flatForm, get?_addAliases plain, Dict.get?_ofList (kind.nodup_entries value)]

theorem get?_flatForm (declared : field ∈ kind.fields) :
    Dict.get? (kind.flatForm value) field.name = some (value field) := by
  rw [get?_flatForm_plain (alias_ne_name kind field declared),
    Dict.get?_eq_some_iff (kind.nodup_entries value)]
  exact List.mem_map.2 ⟨field, declared, rfl⟩

theorem get?_flatForm_alias {name other : String} (listed : (name, other) ∈ legacyAliases) :
    Dict.get? (kind.flatForm value) other = Dict.get? (kind.flatForm value) name := by
  have unused : Dict.get? (Dict.ofList (kind.fields.map fun field => (field.name, value field)))
      other = none := by
    rw [Dict.get?_ofList (kind.nodup_entries value), Dict.get?_eq_none_iff, keys_entries]
    intro used
    obtain ⟨field, declared, rfl⟩ := List.mem_map.1 used
    exact alias_ne_name kind field declared (List.mem_map.2 ⟨_, listed, rfl⟩)
  unfold flatForm
  rw [get?_addAliases_of_mem listed, get?_addAliases (aliased_not_alias listed), unused,
    Option.or_none]

theorem mem_flatForm {entry : String × Value} (member : entry ∈ kind.flatForm value) :
    ∃ field ∈ kind.fields, value field = entry.2 ∧
      (field.name = entry.1 ∨ (field.name, entry.1) ∈ legacyAliases) := by
  obtain ⟨key, given⟩ := entry
  have found := (Dict.get?_eq_some_iff (kind.sorted_flatForm value).nodup_keys).2 member
  by_cases plain : key ∉ legacyAliases.map Prod.snd
  · rw [get?_flatForm_plain plain] at found
    obtain ⟨field, declared, same⟩ := List.mem_map.1 (Dict.mem_of_get? found)
    cases same
    exact ⟨field, declared, rfl, Or.inl rfl⟩
  · obtain ⟨⟨name, other⟩, listed, rfl⟩ := List.mem_map.1 (not_not.1 plain)
    rw [get?_flatForm_alias listed, get?_flatForm_plain (aliased_not_alias listed)] at found
    obtain ⟨field, declared, same⟩ := List.mem_map.1 (Dict.mem_of_get? found)
    cases same
    exact ⟨field, declared, rfl, Or.inr listed⟩

theorem keys_flatForm (kind : Kind) (left right : Field → Value) :
    Dict.keys (kind.flatForm left) = Dict.keys (kind.flatForm right) := by
  have plainly : ∀ key, key ∉ legacyAliases.map Prod.snd →
      (Dict.get? (kind.flatForm left) key).isSome =
        (Dict.get? (kind.flatForm right) key).isSome := by
    intro key plain
    rw [get?_flatForm_plain plain, get?_flatForm_plain plain, Bool.eq_iff_iff,
      ← Dict.mem_keys_iff, ← Dict.mem_keys_iff, keys_entries, keys_entries]
  refine Dict.keys_eq_of_isSome (kind.sorted_flatForm left) (kind.sorted_flatForm right) ?_
  intro key
  by_cases plain : key ∉ legacyAliases.map Prod.snd
  · exact plainly key plain
  · obtain ⟨⟨name, other⟩, listed, rfl⟩ := List.mem_map.1 (not_not.1 plain)
    rw [get?_flatForm_alias listed, get?_flatForm_alias listed]
    exact plainly name (aliased_not_alias listed)

theorem comment_name (kind : Kind) : ∀ field ∈ kind.fields,
    field.access = .core .comment → field.name = "comment" :=
  kind.forall_fields (by decide)

theorem mem_flatForm_of_ne_comment {entry : String × Value} (member : entry ∈ kind.flatForm value)
    (notComment : entry.1 ≠ "comment") :
    ∃ field ∈ kind.fields, field.access ≠ .core .comment ∧ value field = entry.2 := by
  obtain ⟨field, declared, same, named⟩ := mem_flatForm member
  refine ⟨field, declared, ?_, same⟩
  intro comment
  rw [comment_name kind field declared comment] at named
  rcases named with same | listed
  · exact notComment same.symm
  · simp [legacyAliases] at listed

end Kind

namespace Item

theorem rawDict_eq_flatForm (item : Item) : item.rawDict = item.kind.flatForm item.rawValue := rfl

theorem get?_rawDict (item : Item) {field : Field} (declared : field ∈ item.kind.fields) :
    Dict.get? item.rawDict field.name = some (item.rawValue field) :=
  Kind.get?_flatForm declared

theorem sorted_stripAliases_rawDict (item : Item) :
    Dict.Sorted (stripAliases item.rawDict) := by
  rw [stripAliases_eq]
  exact (item.kind.sorted_flatForm item.rawValue).foldl_erase _

theorem mem_stripAliases_rawDict_iff {item : Item} {entry : String × Value} :
    entry ∈ stripAliases item.rawDict ↔
      ∃ field ∈ item.kind.fields, entry = item.rawEntry field := by
  obtain ⟨key, value⟩ := entry
  rw [← Dict.get?_eq_some_iff item.sorted_stripAliases_rawDict.nodup_keys, stripAliases_eq,
    Dict.get?_foldl_erase]
  constructor
  · intro found
    split at found
    · cases found
    · rename_i plain
      rw [rawDict_eq_flatForm, Kind.get?_flatForm_plain plain] at found
      obtain ⟨field, member, same⟩ := List.mem_map.1 (Dict.mem_of_get? found)
      exact ⟨field, member, same.symm⟩
  · rintro ⟨field, member, same⟩
    obtain ⟨rfl, rfl⟩ := Prod.mk.inj same
    rw [if_neg (alias_ne_name item.kind field member)]
    exact item.get?_rawDict member

end Item

end Provisioning
