import Provisioning.Proofs.KeptForm

/-!
Writing the raw form back. Its aliases are no fields, so they have to go first; the fields that an
item computes are in it as well, and the first of them refuses the write.
-/

namespace Provisioning

theorem Kind.derived_names (kind : Kind) :
    (kind.fields.filter Field.isDerived).map Field.name =
      if kind = .distro then ["remote_grub_kernel", "remote_grub_initrd"] else [] := by
  cases kind <;> decide

namespace Item

theorem applyEntries_append {item written : Item} {before : List (String × Value)}
    {leftover : List String} (applied : item.applyEntries before = (written, .ok leftover))
    (after : List (String × Value)) :
    item.applyEntries (before ++ after) =
      ((written.applyEntries after).1, (written.applyEntries after).2.map (leftover ++ ·)) := by
  induction before generalizing item leftover with
  | nil =>
      cases applied
      have nothing (outcome : Except ItemError (List String)) :
          outcome.map ([] ++ ·) = outcome := by cases outcome <;> rfl
      exact Prod.ext rfl (nothing _).symm
  | cons entry before ih =>
      simp only [applyEntries, List.cons_append] at applied ⊢
      split at applied
      · rename_i known
        rw [if_pos known]
        split at applied
        · exact ih applied
        · cases applied
      · rename_i unknown
        obtain ⟨rfl, outcome⟩ := Prod.mk.inj applied
        obtain ⟨later, read, rfl⟩ := Outcome.map_eq_ok_iff.1 outcome
        rw [if_neg unknown, ih (Prod.ext rfl read)]
        cases ((item.applyEntries before).1.applyEntries after).2 <;> rfl

theorem set_derived {item : Item} {field : Field} (declared : field ∈ item.kind.fields)
    (computed : field.isDerived = true) (value : Value) :
    item.set field.name value = .error (.readOnly field.name) := by
  have found : item.field field.name = .ok field := field_eq_ok_iff.2 (Kind.field?_of_mem declared)
  unfold Item.set
  rw [found, Outcome.ok_bind]
  obtain ⟨derivation, access⟩ := Field.exists_derivation computed
  rw [access]
  rfl

section Feeding

variable {kept current : Item}

theorem WellFormed.exists_restored (keptFormed : kept.WellFormed)
    (currentFormed : current.WellFormed) (sameKind : current.kind = kept.kind)
    {dictionary : Mapping}
    (listed : ∀ entry, entry ∈ dictionary ↔
      ∃ field ∈ kept.kind.fields, field.isDerived = false ∧ entry = kept.rawEntry field) :
    ∃ restored, current.applyDict dictionary = (restored, .ok ()) ∧
      restored =
        { kept with settings := current.settings, foundParent := restored.foundParent } := by
  obtain ⟨restored, applied, _, agrees⟩ :=
    applyEntries_rawEntries keptFormed sameKind fun entry member => (listed entry).1 member
  have ordered : ∀ entry ∈ dictionary, entry.2.Ordered := by
    intro entry member
    obtain ⟨field, declared, stored, rfl⟩ := (listed entry).1 member
    exact rawValue_ordered keptFormed declared stored
  obtain ⟨kind, settings⟩ : current.Keeps restored := by
    have keeps := current.applyEntries_keeps dictionary
    rwa [applied] at keeps
  have restoredFormed : restored.WellFormed := by
    have formed := WellFormed.applyEntries dictionary ordered currentFormed
    rwa [applied] at formed
  have agreesThroughout : ∀ field ∈ kept.kind.fields, field.isDerived = false →
      restored.AgreesOn kept field := by
    intro field declared stored
    exact agrees field declared ((listed _).2 ⟨field, declared, stored, rfl⟩)
  have same := eq_of_agreesOn keptFormed restoredFormed (kind.trans sameKind) agreesThroughout
  refine ⟨restored, ?_, settings ▸ same⟩
  simp only [Item.applyDict, applied]

theorem applyDict_at_derived (keptFormed : kept.WellFormed) (sameKind : current.kind = kept.kind)
    {before after : Mapping}
    (ours : ∀ entry ∈ before, ∃ field ∈ kept.kind.fields,
      field.isDerived = false ∧ entry = kept.rawEntry field)
    {field : Field} (declared : field ∈ kept.kind.fields) (computed : field.isDerived = true)
    (value : Value) :
    (current.applyDict (before ++ (field.name, value) :: after)).2 =
      .error (.readOnly field.name) := by
  obtain ⟨written, applied, _, _⟩ := applyEntries_rawEntries keptFormed sameKind ours
  have sameKindStill : written.kind = kept.kind := by
    have keeps := current.applyEntries_keeps before
    rw [applied] at keeps
    exact keeps.1.trans sameKind
  have known : written.hasProperty field.name = true := by
    unfold hasProperty
    rw [sameKindStill]
    exact Kind.hasField_iff.2 ⟨field, declared, rfl⟩
  have declaredStill : field ∈ written.kind.fields := sameKindStill ▸ declared
  have refused := set_derived declaredStill computed value
  have stopped : current.applyEntries (before ++ (field.name, value) :: after) =
      (written, .error (.readOnly field.name)) := by
    rw [applyEntries_append applied]
    simp only [applyEntries, Kind.lower_name _ field declared, known, if_true, refused, Except.map]
  simp only [applyDict, stopped]

theorem applyDict_distro_rawDict (keptFormed : kept.WellFormed)
    (sameKind : current.kind = kept.kind) (distro : kept.kind = .distro) :
    (current.applyDict (stripAliases kept.rawDict)).2 =
      .error (.readOnly "remote_grub_initrd") := by
  obtain ⟨field, declared, computed, named⟩ : ∃ field ∈ kept.kind.fields,
      field.isDerived = true ∧ field.name = "remote_grub_initrd" := by
    rw [distro]
    decide +kernel
  obtain ⟨before, after, split⟩ :=
    List.append_of_mem (mem_stripAliases_rawDict_iff.2 ⟨field, declared, rfl⟩)
  have sorted := sorted_stripAliases_rawDict kept
  rw [split] at sorted ⊢
  rw [← named]
  refine applyDict_at_derived keptFormed sameKind ?_ declared computed _
  intro entry member
  obtain ⟨other, otherDeclared, rfl⟩ := mem_stripAliases_rawDict_iff.1
    (split ▸ List.mem_append_left _ member)
  refine ⟨other, otherDeclared, ?_, rfl⟩
  have earlier : other.name < "remote_grub_initrd" :=
    named ▸ (List.pairwise_append.1 sorted).2.2 _ member _ List.mem_cons_self
  have least : ∀ other ∈ Kind.distro.fields, other.isDerived = true →
      ¬ other.name < "remote_grub_initrd" := by
    decide +kernel
  by_contra derived
  exact least other (distro ▸ otherDeclared) (by simpa using derived) earlier

end Feeding

/-- The raw form without its aliases is written back as it is, except that a distro refuses the
fields that it computes. -/
theorem applyDict_stripAliases {kept current : Item} (keptReachable : kept.Reachable)
    (currentReachable : current.Reachable) (sameKind : current.kind = kept.kind) :
    let dictionary := stripAliases kept.rawDict
    (kept.kind ≠ .distro → ∃ restored, current.applyDict dictionary = (restored, .ok ()) ∧
      restored.rawDict = kept.rawDict) ∧
    (kept.kind = .distro →
      (current.applyDict dictionary).2 = .error (.readOnly "remote_grub_initrd") ∧
      ∃ restored, current.applyDict ((dictionary.erase "remote_grub_kernel").erase
          "remote_grub_initrd") = (restored, .ok ()) ∧
        restored.rawDict = kept.rawDict) := by
  intro dictionary
  have keptFormed := keptReachable.wellFormed
  obtain ⟨restored, written, same⟩ :=
    keptFormed.exists_restored currentReachable.wellFormed sameKind fun entry => mem_serialize_iff
  have sameRaw : restored.rawDict = kept.rawDict := by
    rw [same]
    rfl
  have fed := kept.serialize_eq
  rw [Kind.derived_names] at fed
  refine ⟨?_, ?_⟩
  · intro plain
    rw [if_neg plain] at fed
    change kept.serialize = dictionary at fed
    rw [fed] at written
    exact ⟨restored, written, sameRaw⟩
  · intro distro
    rw [if_pos distro] at fed
    change kept.serialize =
      (dictionary.erase "remote_grub_kernel").erase "remote_grub_initrd" at fed
    rw [fed] at written
    exact ⟨applyDict_distro_rawDict keptFormed sameKind distro, restored, written, sameRaw⟩

theorem applyDict_stripAliases_profile :
    let edits : List Edit := [.setName "web", .set "autoinstall" (.str "web.ks"),
      .set "autoinstall_meta" (.str "lang=de tree=~")]
    let changes : List Edit := [.setName "db", .set "autoinstall" (.str "db.ks")]
    let kept := (Item.new .profile "0123456789abcdef0123456789abcdef" {}).after edits
    let current := (Item.new .profile "fedcba9876543210fedcba9876543210" {}).after changes
    Dict.get? kept.rawDict "kickstart" = some (.str "web.ks") ∧
    Dict.get? kept.rawDict "ks_meta" = some (.dict [("lang", .str "de"), ("tree", .str "~")]) ∧
    ∃ restored, current.applyDict (stripAliases kept.rawDict) = (restored, .ok ()) ∧
      restored.rawDict = kept.rawDict := by
  intro edits changes kept current
  have keptFresh : IsFreshUid "0123456789abcdef0123456789abcdef" := by decide
  have currentFresh : IsFreshUid "fedcba9876543210fedcba9876543210" := by decide
  have editsPossible : ∀ edit ∈ edits, edit.Possible := by simp [edits, Edit.Possible]
  have changesPossible : ∀ edit ∈ changes, edit.Possible := by simp [changes, Edit.Possible]
  have keptReachable : kept.Reachable :=
    .after (.new .profile keptFresh OrderedMapping.nil) editsPossible
  have currentReachable : current.Reachable :=
    .after (.new .profile currentFresh OrderedMapping.nil) changesPossible
  have keptKind : kept.kind = .profile := by rfl
  have sameKind : current.kind = kept.kind := (by rfl : current.kind = .profile).trans keptKind.symm
  have plain : kept.kind ≠ .distro := by
    rw [keptKind]
    decide
  have script : Dict.get? kept.rawDict "autoinstall" = some (.str "web.ks") :=
    get?_rawDict_of_slot (by rfl : kept.kind.storedShape? "autoinstall" = some .inheritText)
      (by rfl : kept.slot? "autoinstall" = some (.scalar (.own (.str "web.ks"))))
  have options : Dict.get? kept.rawDict "autoinstall_meta" =
      some (.dict [("lang", .str "de"), ("tree", .str "~")]) :=
    get?_rawDict_of_slot
      (by rfl : kept.kind.storedShape? "autoinstall_meta" = some (.inheritMap true))
      (by rfl : kept.slot? "autoinstall_meta" =
        some (.mapping (.own ⟨[("lang", .set (.str "de")), ("tree", .remove)]⟩)))
  refine ⟨?_, ?_, (applyDict_stripAliases keptReachable currentReachable sameKind).1 plain⟩
  · exact (Kind.get?_flatForm_alias (by decide)).trans script
  · exact (Kind.get?_flatForm_alias (by decide)).trans options

theorem applyDict_stripAliases_refused :
    let kept := Item.new .distro "0123456789abcdef0123456789abcdef" {}
    let current := Item.new .distro "fedcba9876543210fedcba9876543210" {}
    kept.Reachable ∧ current.Reachable ∧ current.kind = kept.kind ∧
      (current.applyDict (stripAliases kept.rawDict)).2 =
        .error (.readOnly "remote_grub_initrd") := by
  intro kept current
  have keptFresh : IsFreshUid "0123456789abcdef0123456789abcdef" := by decide
  have currentFresh : IsFreshUid "fedcba9876543210fedcba9876543210" := by decide
  have keptReachable : kept.Reachable := .new .distro keptFresh OrderedMapping.nil
  exact ⟨keptReachable, .new .distro currentFresh OrderedMapping.nil, rfl,
    applyDict_distro_rawDict keptReachable.wellFormed rfl rfl⟩

end Item

end Provisioning
