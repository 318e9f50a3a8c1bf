import Provisioning.Value

/-!
Dictionaries that are laid over inherited ones. An overlay may remove a key that it inherits
without knowing the inherited value; the removal shows in no merged result.
-/

namespace Provisioning

def removalMarker : String := "~"

inductive MapEntry where
  | set (value : Value)
  | remove

namespace MapEntry

def ofValue : Value → MapEntry
  | .str text => if text = removalMarker then .remove else .set (.str text)
  | value => .set value

def toValue : MapEntry → Value
  | .set value => value
  | .remove => .str removalMarker

def value? : MapEntry → Option Value
  | .set value => some value
  | .remove => none

end MapEntry

structure Overlay where
  entries : Dict MapEntry := []

namespace Overlay

def ofMapping (mapping : Mapping) : Overlay :=
  ⟨mapping.mapValues .ofValue⟩

def ofEntries (entries : List (String × MapEntry)) : Overlay :=
  ⟨Dict.ofList entries⟩

def set (overlay : Overlay) (key : String) (value : Value) : Overlay :=
  ⟨overlay.entries.insert key (.set value)⟩

def remove (overlay : Overlay) (key : String) : Overlay :=
  ⟨overlay.entries.insert key .remove⟩

def get? (overlay : Overlay) (key : String) : Option MapEntry :=
  overlay.entries.get? key

def toMapping (overlay : Overlay) : Mapping :=
  overlay.entries.mapValues MapEntry.toValue

def applyTo (overlay : Overlay) (merged : Dict MapEntry) : Dict MapEntry :=
  merged.overlaid overlay.entries

end Overlay

def annihilate (merged : Dict MapEntry) : Mapping :=
  merged.pickValues MapEntry.value?

/-- The overlay's entries over the inherited ones. A removal marker that reached the inherited
mapping as a plain value removes its key as well. -/
def mergeLayers (inherited : Mapping) (overlay : Option Overlay) : Mapping :=
  let merged := inherited.mapValues MapEntry.ofValue
  match overlay with
  | some overlay => annihilate (overlay.applyTo merged)
  | none => annihilate merged

end Provisioning
