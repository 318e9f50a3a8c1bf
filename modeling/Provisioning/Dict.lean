/-!
Text-keyed dictionaries as association lists in ascending key order. Looking up after a write
needs no order; the order makes two dictionaries with the same entries equal.
-/

namespace Provisioning

universe u v

abbrev Dict (α : Type u) := List (String × α)

namespace Dict

variable {α : Type u} {β : Type v}

def get? : Dict α → String → Option α
  | [], _ => none
  | (name, value) :: rest, key => if name = key then some value else get? rest key

def contains (entries : Dict α) (key : String) : Bool :=
  (get? entries key).isSome

def insert : Dict α → String → α → Dict α
  | [], key, value => [(key, value)]
  | (name, old) :: rest, key, value =>
      if key < name then
        (key, value) :: (name, old) :: rest
      else if key = name then
        (key, value) :: rest
      else
        (name, old) :: insert rest key value

def erase (entries : Dict α) (key : String) : Dict α :=
  entries.filter fun entry => entry.1 != key

def keys (entries : Dict α) : List String :=
  entries.map Prod.fst

/-- A later entry with the same key wins. -/
def ofList (entries : List (String × α)) : Dict α :=
  entries.foldl (fun collected entry => insert collected entry.1 entry.2) []

def mapValues (change : α → β) (entries : Dict α) : Dict β :=
  entries.map fun entry => (entry.1, change entry.2)

def pickValues (pick : α → Option β) (entries : Dict α) : Dict β :=
  entries.filterMap fun entry => (pick entry.2).map fun value => (entry.1, value)

def overlaid (lower upper : Dict α) : Dict α :=
  upper.foldl (fun merged entry => insert merged entry.1 entry.2) lower

def Sorted (entries : Dict α) : Prop :=
  entries.Pairwise fun left right => left.1 < right.1

@[simp] theorem get?_nil (key : String) : get? ([] : Dict α) key = none := rfl

theorem get?_insert (entries : Dict α) (key other : String) (value : α) :
    get? (insert entries key value) other =
      if key = other then some value else get? entries other := by
  induction entries with
  | nil => simp [insert, get?]
  | cons entry rest ih =>
      obtain ⟨name, old⟩ := entry
      simp only [insert]
      split
      · simp [get?]
      · split
        · rename_i same
          subst same
          by_cases hit : key = other <;> simp [get?, hit]
        · rename_i different
          by_cases hit : name = other
          · have apart : key ≠ other := fun equal => different (equal.trans hit.symm)
            simp [get?, hit, apart]
          · simp [get?, hit, ih]

theorem get?_erase (entries : Dict α) (key other : String) :
    get? (erase entries key) other = if key = other then none else get? entries other := by
  induction entries with
  | nil => simp [erase]
  | cons entry rest ih =>
      obtain ⟨name, value⟩ := entry
      have step : erase ((name, value) :: rest) key =
          if name = key then erase rest key else (name, value) :: erase rest key := by
        by_cases same : name = key <;> simp [erase, same]
      rw [step]
      split
      · rename_i same
        subst same
        by_cases hit : name = other
        · rw [ih, if_pos hit, if_pos hit]
        · simp [get?, ih, hit]
      · rename_i different
        by_cases hit : name = other
        · have apart : key ≠ other := fun equal => different (hit.trans equal.symm)
          simp [get?, hit, apart]
        · simp [get?, hit, ih]

theorem get?_mapValues (change : α → β) (entries : Dict α) (key : String) :
    get? (mapValues change entries) key = (get? entries key).map change := by
  induction entries with
  | nil => rfl
  | cons entry rest ih =>
      obtain ⟨name, value⟩ := entry
      simp only [mapValues, List.map_cons, get?] at ih ⊢
      split
      · rfl
      · exact ih

theorem mem_of_get? {entries : Dict α} {key : String} {value : α}
    (found : get? entries key = some value) : (key, value) ∈ entries := by
  induction entries with
  | nil => simp at found
  | cons entry rest ih =>
      obtain ⟨name, old⟩ := entry
      simp only [get?] at found
      split at found
      · rename_i same
        simp only [Option.some.injEq] at found
        simp [same, found]
      · exact List.mem_cons_of_mem _ (ih found)

theorem mem_insert {entries : Dict α} {key : String} {value : α} {entry : String × α}
    (member : entry ∈ insert entries key value) : entry = (key, value) ∨ entry ∈ entries := by
  induction entries with
  | nil => simpa [insert] using member
  | cons head rest ih =>
      obtain ⟨name, old⟩ := head
      simp only [insert] at member
      split at member
      · exact List.mem_cons.1 member
      · split at member
        · rcases List.mem_cons.1 member with hit | tail
          · exact Or.inl hit
          · exact Or.inr (List.mem_cons_of_mem _ tail)
        · rcases List.mem_cons.1 member with hit | tail
          · exact Or.inr (hit ▸ List.mem_cons_self)
          · rcases ih tail with hit | old
            · exact Or.inl hit
            · exact Or.inr (List.mem_cons_of_mem _ old)

theorem Sorted.insert {entries : Dict α} (sorted : Sorted entries) (key : String) (value : α) :
    Sorted (Dict.insert entries key value) := by
  induction entries with
  | nil => simp [Dict.insert, Sorted]
  | cons head rest ih =>
      obtain ⟨name, old⟩ := head
      have tailSorted : Sorted rest := (List.pairwise_cons.1 sorted).2
      have headLeast : ∀ entry ∈ rest, name < entry.1 := (List.pairwise_cons.1 sorted).1
      simp only [Dict.insert]
      split
      · rename_i before
        refine List.pairwise_cons.2 ⟨?_, sorted⟩
        intro entry member
        rcases List.mem_cons.1 member with hit | tail
        · exact hit ▸ before
        · exact String.lt_trans before (headLeast entry tail)
      · split
        · rename_i same
          exact List.pairwise_cons.2 ⟨fun entry member => same ▸ headLeast entry member, tailSorted⟩
        · rename_i notBefore different
          refine List.pairwise_cons.2 ⟨?_, ih tailSorted⟩
          intro entry member
          rcases mem_insert member with hit | tail
          · subst hit
            have atMost : name ≤ key := String.not_lt.1 notBefore
            rcases Decidable.em (name < key) with less | notLess
            · exact less
            · exact absurd (String.le_antisymm (String.not_lt.1 notLess) atMost) different
          · exact headLeast entry tail

theorem Sorted.ofList (entries : List (String × α)) : Sorted (Dict.ofList entries) := by
  unfold Dict.ofList
  suffices general : ∀ collected : Dict α, Sorted collected →
      Sorted (entries.foldl (fun collected entry => Dict.insert collected entry.1 entry.2)
        collected) from general [] List.Pairwise.nil
  induction entries with
  | nil => exact fun _ sorted => sorted
  | cons entry rest ih => exact fun _ sorted => ih _ (sorted.insert entry.1 entry.2)

end Dict

end Provisioning
