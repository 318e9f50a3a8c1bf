import Provisioning.Proofs.MergedTables

/-!
Merged sources, seen from one key. A key of a source may lead into a table, and merged sources are
laid over the base under the keys that their own merge gave them, so every key is read twice.
-/

namespace Provisioning

namespace Merge

def touched (key : String) : String :=
  match KeyPath.read? key with
  | none => Text.lower key
  | some path => if path.steps.isEmpty then Text.lower path.root else path.root

/-- The key of the settings that a key of a source ends up under. -/
def root (key : String) : String :=
  touched (touched key)

/-- The names of a path through tables, when they are in lower case. -/
def names? : List Step → Option (List String)
  | [] => some []
  | .key name :: steps =>
      if Text.lower name = name then (names? steps).map (name :: ·) else none
  | .index _ :: _ => none

/-- The place below its root that a key writes to. A key has none if it leads into a list, or if the
tables on its way are not named in lower case. -/
def below? (key : String) : Option (List String) :=
  if root key = touched key then
    names? (((KeyPath.read? key).map KeyPath.steps).getD [])
  else
    none

example : below? "kernel_options.console" = some ["console"] := by decide +kernel

example : below? "default_ownership[0]" = none := by decide +kernel

theorem root_of_below {key : String} {names : List String} (below : below? key = some names) :
    root key = touched key := by
  unfold below? at below
  split at below
  · assumption
  · cases below

theorem setKey_eq (entries : Mapping) (key : String) (value : Value) :
    ∃ inner, setKey entries key value = Dict.insert entries (touched key) inner := by
  cases read : KeyPath.read? key with
  | none =>
      simp only [setKey, touched, read]
      exact ⟨_, setEntry_eq entries key value⟩
  | some path =>
      simp only [setKey, touched, read]
      split
      · exact ⟨_, setEntry_eq entries _ value⟩
      · exact ⟨_, rfl⟩

theorem addSource_cons (entries : Mapping) (entry : String × Value) (source : Mapping) :
    addSource entries (entry :: source) =
      addSource (setKey entries entry.1 entry.2) source := rfl

theorem mem_keys_addSource {key : String} (entries source : Mapping) :
    key ∈ Dict.keys (addSource entries source) ↔
      key ∈ Dict.keys entries ∨ ∃ entry ∈ source, touched entry.1 = key := by
  induction source generalizing entries with
  | nil => simp [addSource]
  | cons entry source ih =>
      obtain ⟨inner, made⟩ := setKey_eq entries entry.1 entry.2
      rw [addSource_cons, ih, made, Dict.mem_keys_iff, Dict.mem_keys_iff, Dict.get?_insert]
      by_cases same : touched entry.1 = key <;> simp [same]

theorem keys_merged {key : String} {sources : Mapping} :
    key ∈ Dict.keys (addSource [] sources) ↔ ∃ entry ∈ sources, touched entry.1 = key := by
  rw [mem_keys_addSource]
  exact or_iff_right List.not_mem_nil

/-- Every entry that ends up under the key is merged into tables key by key, at its place below the
key, and not into an item of a list. -/
def KeyByKey (key : String) (source : Mapping) : Prop :=
  ∀ entry ∈ source, root entry.1 = key → (below? entry.1).isSome

instance (key : String) (source : Mapping) : Decidable (KeyByKey key source) :=
  inferInstanceAs (Decidable (∀ entry ∈ source, root entry.1 = key → (below? entry.1).isSome))

theorem KeyByKey.merged {key : String} {source : Mapping} (placed : KeyByKey key source) :
    ∀ entry ∈ addSource [] source, touched entry.1 = key → entry.1 = key := by
  intro entry member same
  obtain ⟨inner, written, reached⟩ := keys_merged.1 (List.mem_map_of_mem member)
  have rooted : root inner.1 = key := by rw [root, reached, same]
  obtain ⟨names, below⟩ := Option.isSome_iff_exists.1 (placed inner written rooted)
  rw [← reached, ← root_of_below below, rooted]

end Merge

end Provisioning
