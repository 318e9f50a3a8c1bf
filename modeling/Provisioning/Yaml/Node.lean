/-!
The tree that a YAML document describes, before aliases are followed and scalars are given types.
-/

namespace Provisioning.Yaml

inductive Node where
  | alias (number : Nat)
  | scalar (anchor : Option Nat) (tag : Option String) (plain : Bool) (text : String)
  | sequence (anchor : Option Nat) (tag : Option String) (items : List Node)
  | mapping (anchor : Option Nat) (tag : Option String) (entries : List (Node × Node))
  deriving Inhabited

namespace Node

def absent : Node :=
  .scalar none none true ""

mutual

def size : Node → Nat
  | .alias _ => 1
  | .scalar _ _ _ _ => 1
  | .sequence _ _ items => itemsSize items + 2
  | .mapping _ _ entries => entriesSize entries + 2

def itemsSize : List Node → Nat
  | [] => 0
  | item :: items => size item + itemsSize items

def entriesSize : List (Node × Node) → Nat
  | [] => 0
  | (key, member) :: entries => size key + size member + entriesSize entries

end

mutual

def anchored : Node → List (Nat × Node)
  | .alias _ => []
  | .scalar anchor tag plain text =>
      anchor.toList.map fun number => (number, .scalar anchor tag plain text)
  | .sequence anchor tag items =>
      anchor.toList.map (fun number => (number, .sequence anchor tag items)) ++ anchoredItems items
  | .mapping anchor tag entries =>
      anchor.toList.map (fun number => (number, .mapping anchor tag entries)) ++
        anchoredEntries entries

def anchoredItems : List Node → List (Nat × Node)
  | [] => []
  | item :: items => anchored item ++ anchoredItems items

def anchoredEntries : List (Node × Node) → List (Nat × Node)
  | [] => []
  | (key, member) :: entries => anchored key ++ anchored member ++ anchoredEntries entries

end

end Node

end Provisioning.Yaml
