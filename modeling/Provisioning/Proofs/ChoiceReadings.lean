import Provisioning.Proofs.NearestValue

/-!
A choice is read as one of its members, or as the spelling of one. Both readings accept the same
texts, so that a choice resolves to a member wherever it resolves to a spelling.
-/

namespace Provisioning

namespace Text

theorem sameIgnoringCase_iff {left right : String} :
    sameIgnoringCase left right = true ↔
      left.toList.map Char.toLower = right.toList.map Char.toLower := by
  unfold sameIgnoringCase
  exact beq_iff_eq

end Text

/-- Every member is listed, and no two tokens are the same up to case. -/
class LawfulChoice (α : Type) [Choice α] : Prop where
  listed : ∀ member : α, member ∈ (Choice.all : List α)
  apart : ((Choice.all : List α).map fun member =>
    (Choice.token member).toList.map Char.toLower).Nodup

instance : LawfulChoice Arch where
  listed := by intro member; cases member <;> decide
  apart := by decide

instance : LawfulChoice DiskDriver where
  listed := by intro member; cases member <;> decide
  apart := by decide

instance : LawfulChoice PowerType where
  listed := by intro member; cases member <;> decide
  apart := by decide

namespace Choice

variable {α : Type} [Choice α]

theorem memberFor_eq_ok_iff (field key text : String) {spelling : String} :
    memberFor key (tokens α) text = .ok spelling ↔
      ∃ member : α, ofToken field text = .ok member ∧ token member = spelling := by
  unfold memberFor ofToken tokens
  dsimp only
  rw [List.find?_map]
  unfold Function.comp
  cases (all : List α).find? fun member => Text.sameIgnoringCase (token member) (Text.trim text) <;>
    simp

variable [LawfulChoice α]

theorem eq_of_sameIgnoringCase {left right : α} {text : String}
    (leftSame : Text.sameIgnoringCase (token left) text = true)
    (rightSame : Text.sameIgnoringCase (token right) text = true) : left = right := by
  rw [Text.sameIgnoringCase_iff] at leftSame rightSame
  exact List.inj_on_of_nodup_map LawfulChoice.apart (LawfulChoice.listed left)
    (LawfulChoice.listed right) (leftSame.trans rightSame.symm)

theorem ofToken_eq_ok_iff {field text : String} {member : α} :
    ofToken field text = .ok member ↔
      Text.sameIgnoringCase (token member) (Text.trim text) = true := by
  unfold ofToken
  dsimp only
  cases found : (all : List α).find? fun member =>
      Text.sameIgnoringCase (token member) (Text.trim text) with
  | none =>
      have unmatched := List.find?_eq_none.1 found member (LawfulChoice.listed member)
      simp [unmatched]
  | some other =>
      have matched := List.find?_some found
      constructor
      · rintro ⟨⟩
        exact matched
      · intro same
        rw [eq_of_sameIgnoringCase matched same]

variable (α) in
/-- A text names a member in any case and with white space around it. The member and its spelling
are read from the same texts. -/
structure ReadsAlike : Prop where
  named : ∀ field text (member : α), ofToken field text = .ok member ↔
    Text.sameIgnoringCase (token member) (Text.trim text) = true
  spelled : ∀ field key text (member : α), ofToken field text = .ok member ↔
    memberFor key (tokens α) text = .ok (token member)
  complete : ∀ field key text spelling, memberFor key (tokens α) text = .ok spelling →
    ∃ member : α, ofToken field text = .ok member ∧ token member = spelling

theorem token_injective {left right : α} (same : token left = token right) : left = right := by
  have itself : Text.sameIgnoringCase (token right) (token right) = true :=
    Text.sameIgnoringCase_iff.2 rfl
  have other : Text.sameIgnoringCase (token left) (token right) = true := same ▸ itself
  exact eq_of_sameIgnoringCase other itself

variable (α) in
theorem readsAlike : ReadsAlike α where
  named := fun _ _ _ => ofToken_eq_ok_iff
  spelled := by
    intro field key text member
    rw [memberFor_eq_ok_iff field key text]
    constructor
    · exact fun read => ⟨member, read, rfl⟩
    · rintro ⟨other, read, same⟩
      rwa [token_injective same] at read
  complete := fun field key text _ => (memberFor_eq_ok_iff field key text).1

end Choice

theorem Slot.Fits.mem_members {shape : Shape} {members : List String} {member : String}
    (fits : Slot.Fits shape (.choice (.own member))) (listed : shape.members? = some members) :
    member ∈ members := by
  cases fits with
  | choice known | inheritChoice known =>
      cases listed
      exact known

namespace Item

variable {item : Item} {lookup : Lookup} {property : String}

theorem nearestAlong_eq_ok_some {α : Type} {field : String}
    {state : Item → Except ItemError (Inheritable α)} {repeated : Option Item} {current : Item}
    {above : List Item} {value : α}
    (found : nearestAlong field state repeated current above = .ok (some value)) :
    ∃ holder ∈ current :: above, state holder = .ok (.own value) := by
  induction above generalizing current with
  | nil =>
      unfold nearestAlong at found
      obtain ⟨held, read, found⟩ := Outcome.bind_eq_ok_iff.1 found
      cases held with
      | own given =>
          cases found
          exact ⟨current, List.mem_cons_self, read⟩
      | inherit =>
          cases repeated with
          | none => cases found
          | some again =>
              dsimp only at found
              split at found <;> cases found
  | cons parent above ih =>
      unfold nearestAlong at found
      obtain ⟨held, read, found⟩ := Outcome.bind_eq_ok_iff.1 found
      cases held with
      | own given =>
          cases found
          exact ⟨current, List.mem_cons_self, read⟩
      | inherit =>
          dsimp only at found
          split at found
          · obtain ⟨holder, member, own⟩ := ih found
            exact ⟨holder, List.mem_cons_of_mem _ member, own⟩
          · cases found

theorem choiceState_eq_own {member : String}
    (read : item.choiceState property = .ok (.own member)) :
    item.slot? property = some (.choice (.own member)) := by
  unfold choiceState at read
  split at read
  · rename_i state held
    cases read
    exact held
  · cases read
  · cases read

section Resolving

variable (reachable : item.Reachable) (catalog : lookup.catalog.Reachable) {shape : Shape}
  {members : List String} (stored : item.kind.storedShape? property = some shape)
  (listed : shape.members? = some members)

include reachable catalog stored listed

theorem nearest_choice_mem {member : String}
    (found : item.nearestOwn? property (choiceState property) lookup = .ok (some member)) :
    member ∈ members := by
  obtain ⟨ancestors, top, walk⟩ := exists_parentWalk lookup item
  rw [nearestOwn?_eq_ancestry, walk.ancestry_eq] at found
  obtain ⟨holder, passed, own⟩ := nearestAlong_eq_ok_some found
  have wellFormed := (walk.climb.reachable_of_mem reachable catalog holder passed).wellFormed
  have fits := wellFormed.fits_shared stored (choiceState_eq_own own)
  exact fits.mem_members listed

theorem resolveChoice_mem {member : String}
    (resolved : item.resolveChoice property lookup = .ok member) : member ∈ members := by
  obtain ⟨field, declared, access, _⟩ := Kind.storedShape?_eq_some_iff.1 stored
  have choices : field.shape?.bind Shape.members? = some members := by
    rw [Field.shape?, access, Option.bind_some, listed]
  unfold resolveChoice at resolved
  rw [field_eq_ok_iff.2 declared, Outcome.ok_bind, choices] at resolved
  obtain ⟨hit, found, settled⟩ := Outcome.bind_eq_ok_iff.1 resolved
  cases hit with
  | some nearest =>
      cases settled
      exact nearest_choice_mem reachable catalog stored listed found
  | none =>
      unfold choiceTerminus at settled
      dsimp only at settled
      split at settled
      · cases settled
      · split at settled
        · cases settled
        · exact Slot.memberFor_mem settled
      · cases settled

end Resolving

/-- A property with the members of `α` resolves to a member exactly as it resolves to a spelling,
and fails in the same way. -/
def ResolvesAlike (α : Type) [Choice α] (item : Item) (lookup : Lookup) : Prop :=
  ∀ property, (item.kind.storedShape? property).bind Shape.members? = some (Choice.tokens α) →
    (item.resolveChoiceAs α property lookup).map Choice.token = item.resolveChoice property lookup

theorem resolvesAlike (α : Type) [Choice α] (reachable : item.Reachable)
    (catalog : lookup.catalog.Reachable) : item.ResolvesAlike α lookup := by
  intro property choices
  obtain ⟨shape, stored, listed⟩ := Option.bind_eq_some_iff.1 choices
  unfold resolveChoiceAs
  cases resolved : item.resolveChoice property lookup with
  | error cause => rfl
  | ok spelling =>
      -- Slots and settings hold spellings as they were declared, so the second reading is of one.
      have known := resolveChoice_mem reachable catalog stored listed resolved
      have canonical := Kind.isCanonical_of_stored stored
      obtain ⟨_, read⟩ := Shape.memberFor_self canonical listed known property
      obtain ⟨member, named, rfl⟩ := (Choice.memberFor_eq_ok_iff property property _).1 read
      rw [Outcome.ok_bind, named]
      rfl

end Item

/-- The two readings of a choice agree on every text, and resolving a property as a member of its
own choice succeeds exactly where resolving its spelling does, with that spelling. -/
theorem Item.resolveChoiceAs_agrees {item : Item} {lookup : Lookup} (reachable : item.Reachable)
    (catalog : lookup.catalog.Reachable) :
    (Choice.ReadsAlike Arch ∧ item.ResolvesAlike Arch lookup) ∧
    (Choice.ReadsAlike DiskDriver ∧ item.ResolvesAlike DiskDriver lookup) ∧
    (Choice.ReadsAlike PowerType ∧ item.ResolvesAlike PowerType lookup) :=
  ⟨⟨Choice.readsAlike Arch, resolvesAlike Arch reachable catalog⟩,
    ⟨Choice.readsAlike DiskDriver, resolvesAlike DiskDriver reachable catalog⟩,
    ⟨Choice.readsAlike PowerType, resolvesAlike PowerType reachable catalog⟩⟩

theorem Item.resolveChoiceAs_agrees_inherited :
    let profile := (Edit.run (Edit.run (Item.new .profile "0123456789abcdef0123456789abcdef" {})
      (.setName "web")).1 (.set "virt_disk_driver" (.str " QCOW2"))).1
    let system := (Edit.run (Item.new .system "fedcba9876543210fedcba9876543210" {})
      (.setParent "web")).1
    let lookup : Lookup := ⟨Catalog.empty.insert profile, .byKind⟩
    system.Reachable ∧ lookup.catalog.Reachable ∧
    (system.kind.storedShape? "virt_disk_driver").bind Shape.members? =
      some (Choice.tokens DiskDriver) ∧
    system.resolveChoice "virt_disk_driver" lookup = .ok "qcow2" ∧
    system.resolveChoiceAs DiskDriver "virt_disk_driver" lookup = .ok .qcow2 := by
  intro profile system lookup
  have profileFresh : IsFreshUid "0123456789abcdef0123456789abcdef" := by decide
  have systemFresh : IsFreshUid "fedcba9876543210fedcba9876543210" := by decide
  have named : Edit.Possible (.setName "web") := trivial
  have placed : Edit.Possible (.setParent "web") := trivial
  have driver : Edit.Possible (.set "virt_disk_driver" (.str " QCOW2")) :=
    Value.ordered_str " QCOW2"
  have profileReachable : profile.Reachable :=
    .edit (.edit (.new .profile profileFresh OrderedMapping.nil) named) driver
  have reachable : system.Reachable :=
    .edit (.new .system systemFresh OrderedMapping.nil) placed
  have catalog : lookup.catalog.Reachable := .insert .empty profileReachable
  have choices : (system.kind.storedShape? "virt_disk_driver").bind Shape.members? =
      some (Choice.tokens DiskDriver) := by rfl
  have walk : ParentWalk lookup system [profile] profile :=
    .of_ended (.step (by rfl) .here) (by decide) rfl
  have keys : system.propertyKeys "virt_disk_driver" =
      ⟨"virt_disk_driver", "virt_disk_driver"⟩ := by rfl
  have stored : system.kind.storedShape? "virt_disk_driver" =
      some (.inheritChoice (Choice.tokens DiskDriver)) := by rfl
  have nearest := walk.resolveChoice_nearest reachable catalog keys stored
  have resolved : system.resolveChoice "virt_disk_driver" lookup = .ok "qcow2" :=
    nearest.1 "qcow2" (by rfl)
  obtain ⟨_, ⟨_, alike⟩, _⟩ := Item.resolveChoiceAs_agrees reachable catalog
  obtain ⟨member, asMember, spelled⟩ :=
    Outcome.map_eq_ok_iff.1 ((alike "virt_disk_driver" choices).trans resolved)
  obtain rfl : member = .qcow2 := Choice.token_injective spelled
  exact ⟨reachable, catalog, choices, resolved, asMember⟩

end Provisioning
