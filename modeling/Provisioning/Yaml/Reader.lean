import Provisioning.Yaml.Node.Reader
import Provisioning.Yaml.Scalar
import Provisioning.Yaml.Token.Lexer

/-!
Reading a YAML document as a value. Keys are text, a repeated key keeps its last value, and an
alias stands for the node with its anchor.
-/

namespace Provisioning.Yaml

def depthLimit : Nat := 128

/-- Per node of the document, how many times aliases may be followed. -/
def aliasLimit : Nat := 100

namespace Node

abbrev Follow := StateT Nat Option

def target (named : List (Nat × Node)) (node : Node) : Follow Node := do
  match node with
  | .alias number =>
      match ← get with
      | 0 => failure
      | left + 1 =>
          set left
          match named.lookup number with
          | some node => return node
          | none => failure
  | other => return other

def isPlainTag (tag : Option String) : Bool :=
  !tag.any isOwnTag

def refusing (value : Option Value) : Follow Value :=
  match value with
  | some value => return value
  | none => failure

def keyText (key : Value) : Follow String :=
  match key.text? with
  | some text => return text
  | none => failure

def valueFrom (named : List (Nat × Node)) : Nat → Node → Follow Value
  | 0, node => do
      match ← target named node with
      | .scalar _ tag plain text => refusing (scalarValue? tag plain text)
      | _ => failure
  | depth + 1, node => do
      match ← target named node with
      | .scalar _ tag plain text => refusing (scalarValue? tag plain text)
      | .sequence _ tag items =>
          if isPlainTag tag then
            return .list (← items.mapM (valueFrom named depth))
          else
            failure
      | .mapping _ tag entries =>
          if isPlainTag tag then
            let entries ← entries.mapM fun (key, member) => do
              let key ← valueFrom named depth key
              let member ← valueFrom named depth member
              return (← keyText key, member)
            return .dict (Dict.ofList entries)
          else
            failure
      | .alias _ => failure

/-- The value of a whole document. A number given to several nodes stands for the last of them. -/
def value? (node : Node) : Option Value :=
  ((valueFrom node.anchored.reverse depthLimit node).run (node.size * aliasLimit)).map (·.1)

end Node

def read? (text : String) : Option Value := do
  let characters := text.toList
  if characters.all isAllowed then
    let tokens ← Token.scan? characters
    let node ← Node.ofTokens? tokens
    node.value?
  else
    none

end Provisioning.Yaml
