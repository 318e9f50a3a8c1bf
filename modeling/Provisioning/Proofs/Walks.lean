import Provisioning.Proofs.Outcome
import Provisioning.Resolution

/-!
Each walk up the parents stops where it has what it looks for. What it comes to can be read off the
whole ancestry of the item.
-/

namespace Provisioning

theorem Ancestry.climbFrom_eq (lookup : Lookup) (visited : Visited) (current : Item) :
    climbFrom lookup visited current =
      match current.parent? lookup with
      | none => ⟨[], none⟩
      | some parent =>
          match visited.enter parent with
          | .error _ => ⟨[], some parent⟩
          | .ok met =>
              let above := climbFrom lookup met parent
              ⟨parent :: above.ancestors, above.repeated⟩ := by
  rw [climbFrom]
  split
  · simp only [*]
  · simp only [*]
    split <;> simp only [*]

namespace Item

section Steps

variable (lookup : Lookup) (visited : Visited) (current : Item)

theorem layersFrom_eq (settings : Settings) :
    layersFrom lookup settings visited current =
      (match current.parent? lookup with
      | none => .ok [.item current, .settings settings]
      | some parent => do
          let met ← visited.enter parent
          let above ← layersFrom lookup settings met parent
          return .item current :: above) := by
  rw [layersFrom]
  split
  · simp only [*]
  · simp only [*]
    split <;> simp only [*] <;> rfl

theorem otherKindFrom_eq (kind : Kind) :
    otherKindFrom lookup kind visited current =
      (match current.parent? lookup with
      | none => .ok none
      | some parent => do
          let met ← visited.enter parent
          if parent.kind != kind then
            return some parent
          else
            otherKindFrom lookup kind met parent) := by
  rw [otherKindFrom]
  split
  · simp only [*]
  · simp only [*]
    split <;> simp only [*] <;> rfl

theorem nearestFrom_eq {α : Type} (field : String)
    (state : Item → Except ItemError (Inheritable α)) :
    nearestFrom lookup field state visited current = (do
      match ← state current with
      | .own value => return some value
      | .inherit =>
          match current.parent? lookup with
          | none => return none
          | some parent =>
              if parent.hasProperty field then
                let met ← visited.enter parent
                nearestFrom lookup field state met parent
              else
                return none) := by
  rw [nearestFrom]
  congr 1
  funext held
  cases held with
  | own value => rfl
  | inherit =>
      dsimp only
      split
      · simp only [*]
      · simp only [*]
        congr 1
        split <;> simp only [*] <;> rfl

theorem mergedFrom_eq (property : String) :
    mergedFrom lookup property visited current = (do
      let own ← mappingState property current
      let inherited ← match current.parent? lookup with
        | none => current.mappingTerminus property
        | some parent =>
            if parent.hasProperty property then
              let met ← visited.enter parent
              mergedFrom lookup property met parent
            else
              current.mappingTerminus property
      return mergeLayers inherited own.own?) := by
  rw [mergedFrom]
  congr 1
  funext own
  split
  · simp only [*]
  · simp only [*]
    congr 1
    split <;> simp only [*] <;> rfl

end Steps

def nearestAlong {α : Type} (field : String) (state : Item → Except ItemError (Inheritable α))
    (repeated : Option Item) (current : Item) : List Item → Except ItemError (Option α)
  | [] => do
      match ← state current with
      | .own value => return some value
      | .inherit =>
          match repeated with
          | some again =>
              if again.hasProperty field then .error (.cycle again.name) else return none
          | none => return none
  | parent :: above => do
      match ← state current with
      | .own value => return some value
      | .inherit =>
          if parent.hasProperty field then
            nearestAlong field state repeated parent above
          else
            return none

def mergedAlong (property : String) (repeated : Option Item) (current : Item) : List Item →
    Except ItemError Mapping
  | [] => do
      let own ← mappingState property current
      let inherited ← match repeated with
        | some again =>
            if again.hasProperty property then
              .error (.cycle again.name)
            else
              current.mappingTerminus property
        | none => current.mappingTerminus property
      return mergeLayers inherited own.own?
  | parent :: above => do
      let own ← mappingState property current
      let inherited ←
        if parent.hasProperty property then
          mergedAlong property repeated parent above
        else
          current.mappingTerminus property
      return mergeLayers inherited own.own?

section Agreement

-- A walk takes the steps of the climb, only to stop earlier, so the induction is on the climb.
variable {lookup : Lookup}

theorem layersFrom_eq_climbFrom (settings : Settings) (visited : Visited) (current : Item) :
    layersFrom lookup settings visited current =
      let above := Ancestry.climbFrom lookup visited current
      match above.repeated with
      | some again => .error (.cycle again.name)
      | none => .ok ((current :: above.ancestors).map .item ++ [.settings settings]) := by
  induction visited, current using Ancestry.climbFrom.induct lookup with
  | case1 visited current ended =>
      rw [layersFrom_eq, Ancestry.climbFrom_eq, ended]
      rfl
  | case2 visited current parent found cause refused =>
      obtain ⟨_, rfl⟩ := Visited.enter_eq_error_iff.1 refused
      rw [layersFrom_eq, Ancestry.climbFrom_eq, found]
      simp only [refused, Outcome.error_bind]
  | case3 visited current parent found met entered _ ih =>
      rw [layersFrom_eq, Ancestry.climbFrom_eq, found]
      simp only [entered, Outcome.ok_bind, ih]
      cases (Ancestry.climbFrom lookup met parent).repeated <;> rfl

theorem otherKindFrom_eq_climbFrom (kind : Kind) (visited : Visited) (current : Item) :
    otherKindFrom lookup kind visited current =
      let above := Ancestry.climbFrom lookup visited current
      match above.ancestors.find? fun ancestor => ancestor.kind != kind with
      | some ancestor => .ok (some ancestor)
      | none =>
          match above.repeated with
          | some again => .error (.cycle again.name)
          | none => .ok none := by
  induction visited, current using Ancestry.climbFrom.induct lookup with
  | case1 visited current ended =>
      rw [otherKindFrom_eq, Ancestry.climbFrom_eq, ended]
      rfl
  | case2 visited current parent found cause refused =>
      obtain ⟨_, rfl⟩ := Visited.enter_eq_error_iff.1 refused
      rw [otherKindFrom_eq, Ancestry.climbFrom_eq, found]
      simp only [refused, Outcome.error_bind, List.find?_nil]
  | case3 visited current parent found met entered _ ih =>
      rw [otherKindFrom_eq, Ancestry.climbFrom_eq, found]
      simp only [entered, Outcome.ok_bind, ih, List.find?_cons]
      cases parent.kind != kind <;> rfl

theorem nearestFrom_eq_nearestAlong {α : Type} (field : String)
    (state : Item → Except ItemError (Inheritable α)) (visited : Visited) (current : Item) :
    nearestFrom lookup field state visited current =
      let above := Ancestry.climbFrom lookup visited current
      nearestAlong field state above.repeated current above.ancestors := by
  induction visited, current using Ancestry.climbFrom.induct lookup with
  | case1 visited current ended =>
      rw [nearestFrom_eq, Ancestry.climbFrom_eq, ended]
      rfl
  | case2 visited current parent found cause refused =>
      obtain ⟨_, rfl⟩ := Visited.enter_eq_error_iff.1 refused
      rw [nearestFrom_eq, Ancestry.climbFrom_eq, found]
      simp only [refused, Outcome.error_bind]
      rfl
  | case3 visited current parent found met entered _ ih =>
      rw [nearestFrom_eq, Ancestry.climbFrom_eq, found]
      simp only [entered, Outcome.ok_bind, ih]
      rfl

theorem mergedFrom_eq_mergedAlong (property : String) (visited : Visited) (current : Item) :
    mergedFrom lookup property visited current =
      let above := Ancestry.climbFrom lookup visited current
      mergedAlong property above.repeated current above.ancestors := by
  induction visited, current using Ancestry.climbFrom.induct lookup with
  | case1 visited current ended =>
      rw [mergedFrom_eq, Ancestry.climbFrom_eq, ended]
      rfl
  | case2 visited current parent found cause refused =>
      obtain ⟨_, rfl⟩ := Visited.enter_eq_error_iff.1 refused
      rw [mergedFrom_eq, Ancestry.climbFrom_eq, found]
      simp only [refused, Outcome.error_bind]
      rfl
  | case3 visited current parent found met entered _ ih =>
      rw [mergedFrom_eq, Ancestry.climbFrom_eq, found]
      simp only [entered, Outcome.ok_bind, ih]
      rfl

variable (item : Item)

theorem layers_eq_ancestry :
    item.layers lookup =
      let ancestry := item.ancestry lookup
      match ancestry.repeated with
      | some again => .error (.cycle again.name)
      | none => .ok ((item :: ancestry.ancestors).map .item ++ [.settings item.settings]) :=
  layersFrom_eq_climbFrom item.settings (Visited.start item) item

theorem conceptualParent_eq_ancestry :
    item.conceptualParent lookup =
      let ancestry := item.ancestry lookup
      match ancestry.ancestors.find? fun ancestor => ancestor.kind != item.kind with
      | some ancestor => .ok (some ancestor)
      | none =>
          match ancestry.repeated with
          | some again => .error (.cycle again.name)
          | none => .ok none :=
  otherKindFrom_eq_climbFrom item.kind (Visited.start item) item

theorem nearestOwn?_eq_ancestry {α : Type} (field : String)
    (state : Item → Except ItemError (Inheritable α)) :
    item.nearestOwn? field state lookup =
      let ancestry := item.ancestry lookup
      nearestAlong field state ancestry.repeated item ancestry.ancestors :=
  nearestFrom_eq_nearestAlong field state (Visited.start item) item

theorem mergedFrom_eq_ancestry (property : String) :
    mergedFrom lookup property (Visited.start item) item =
      let ancestry := item.ancestry lookup
      mergedAlong property ancestry.repeated item ancestry.ancestors :=
  mergedFrom_eq_mergedAlong property (Visited.start item) item

end Agreement

end Item

end Provisioning
