import Provisioning.Dict
import Provisioning.Yaml.Node
import Provisioning.Yaml.Token

/-!
From the tokens of one document to its tree.
-/

namespace Provisioning.Yaml.Node

structure Rest where
  tokens : List Token
  names : Dict Nat

abbrev Read := StateT Rest Option

def peek : Read (Option Token) := do
  return (← get).tokens.head?

def drop : Read Unit :=
  modify fun rest => { rest with tokens := rest.tokens.drop 1 }

def accept (token : Token) : Read Bool := do
  if (← peek) == some token then
    drop
    return true
  else
    return false

/-- A name is numbered by how many names are known when it is given. -/
def noteName (name : String) : Read Nat := do
  let rest ← get
  let number := rest.names.length
  set { rest with names := Dict.insert rest.names name number }
  return number

def numberOf (name : String) : Read Nat := do
  match Dict.get? (← get).names name with
  | some number => return number
  | none => failure

abbrev Handles := Dict String

def defaultHandles : Handles :=
  Dict.ofList [("!", "!"), ("!!", "tag:yaml.org,2002:")]

def expandTag (handles : Handles) (handle suffix : String) : Read String :=
  if handle.isEmpty then
    return suffix
  else
    match Dict.get? handles handle with
    | some lead => return lead ++ suffix
    | none => failure

def readAnchor : Read (Option Nat) := do
  match ← peek with
  | some (.anchor name) =>
      drop
      return some (← noteName name)
  | _ => return none

def readTag (handles : Handles) : Read (Option String) := do
  match ← peek with
  | some (.tag handle suffix) =>
      drop
      return some (← expandTag handles handle suffix)
  | _ => return none

def properties (handles : Handles) : Read (Option Nat × Option String) := do
  match ← readAnchor with
  | some anchor => return (some anchor, ← readTag handles)
  | none =>
      let tag ← readTag handles
      return (← if tag.isSome then readAnchor else pure none, tag)

def scalarTag (tag : Option String) : Option String :=
  if tag == some "!" then none else tag

mutual

/-- The node that starts here. Block collections count only where `block` holds, and a sequence
that is not indented only where `indentless` does. -/
def nodeFrom (handles : Handles) (block indentless : Bool) : Nat → Read Node
  | 0 => failure
  | fuel + 1 => do
      match ← peek with
      | some (.alias name) =>
          drop
          return .alias (← numberOf name)
      | _ =>
          let (anchor, tag) ← properties handles
          match ← peek, block, indentless with
          | some .blockEntry, _, true =>
              return .sequence anchor tag (← indentlessItemsFrom handles fuel)
          | some (.scalar plain text), _, _ =>
              drop
              return .scalar anchor (scalarTag tag) plain text
          | some .flowSequenceStart, _, _ =>
              drop
              return .sequence anchor tag (← flowItemsFrom handles true fuel)
          | some .flowMappingStart, _, _ =>
              drop
              return .mapping anchor tag (← flowEntriesFrom handles true fuel)
          | some .blockSequenceStart, true, _ =>
              drop
              return .sequence anchor tag (← blockItemsFrom handles fuel)
          | some .blockMappingStart, true, _ =>
              drop
              return .mapping anchor tag (← blockEntriesFrom handles fuel)
          | _, _, _ =>
              if anchor.isSome || tag.isSome then
                return .scalar anchor tag true ""
              else
                failure

def blockItemsFrom (handles : Handles) : Nat → Read (List Node)
  | 0 => failure
  | fuel + 1 => do
      match ← peek with
      | some .blockEntry =>
          drop
          let item ← match ← peek with
            | some .blockEntry | some .blockEnd => pure .absent
            | _ => nodeFrom handles true false fuel
          return item :: (← blockItemsFrom handles fuel)
      | some .blockEnd =>
          drop
          return []
      | _ => failure

def indentlessItemsFrom (handles : Handles) : Nat → Read (List Node)
  | 0 => failure
  | fuel + 1 => do
      match ← peek with
      | some .blockEntry =>
          drop
          let item ← match ← peek with
            | some .blockEntry | some .key | some .value | some .blockEnd => pure .absent
            | _ => nodeFrom handles true false fuel
          return item :: (← indentlessItemsFrom handles fuel)
      | _ => return []

def blockPartFrom (handles : Handles) : Nat → Read Node
  | 0 => failure
  | fuel + 1 => do
      match ← peek with
      | some .key | some .value | some .blockEnd => return .absent
      | _ => nodeFrom handles true true fuel

def blockEntriesFrom (handles : Handles) : Nat → Read (List (Node × Node))
  | 0 => failure
  | fuel + 1 => do
      match ← peek with
      | some .key =>
          drop
          let key ← blockPartFrom handles fuel
          let member ← if ← accept .value then blockPartFrom handles fuel else pure .absent
          return (key, member) :: (← blockEntriesFrom handles fuel)
      | some .blockEnd =>
          drop
          return []
      | _ => failure

def flowPartFrom (handles : Handles) (close : Token) : Nat → Read Node
  | 0 => failure
  | fuel + 1 => do
      match ← peek with
      | some token =>
          if token == .value || token == .flowEntry || token == close then
            return .absent
          else
            nodeFrom handles false false fuel
      | none => failure

/-- A key inside a sequence in brackets makes a mapping of one entry. -/
def flowItemsFrom (handles : Handles) (first : Bool) : Nat → Read (List Node)
  | 0 => failure
  | fuel + 1 => do
      if ← accept .flowSequenceEnd then
        return []
      if !first then
        if !(← accept .flowEntry) then
          failure
        if ← accept .flowSequenceEnd then
          return []
      let item ← if ← accept .key then
          let key ← flowPartFrom handles .flowSequenceEnd fuel
          let member ← if ← accept .value then
              flowPartFrom handles .flowSequenceEnd fuel
            else
              pure .absent
          pure (.mapping none none [(key, member)])
        else
          nodeFrom handles false false fuel
      return item :: (← flowItemsFrom handles false fuel)

def flowEntriesFrom (handles : Handles) (first : Bool) : Nat → Read (List (Node × Node))
  | 0 => failure
  | fuel + 1 => do
      if ← accept .flowMappingEnd then
        return []
      if !first then
        if !(← accept .flowEntry) then
          failure
        if ← accept .flowMappingEnd then
          return []
      let entry ← if ← accept .key then
          let key ← flowPartFrom handles .flowMappingEnd fuel
          let member ← if ← accept .value then
              flowPartFrom handles .flowMappingEnd fuel
            else
              pure .absent
          pure (key, member)
        else
          pure (← nodeFrom handles false false fuel, .absent)
      return entry :: (← flowEntriesFrom handles false fuel)

end

/-- The directives before a document. At most one gives the version, `1.1` or `1.2`, and each
handle is given at most once. -/
def directivesFrom (versioned : Bool) (handles : Handles) :
    List Token → Option (Handles × List Token)
  | .versionDirective major minor :: tokens =>
      if !versioned && major == 1 && (minor == 1 || minor == 2) then
        directivesFrom true handles tokens
      else
        none
  | .tagDirective handle lead :: tokens =>
      if (Dict.get? handles handle).isSome then
        none
      else
        directivesFrom versioned (Dict.insert handles handle lead) tokens
  | tokens => some (handles, tokens)

def isDocumentEnd (tokens : List Token) : Bool :=
  (tokens.dropWhile (· == .documentEnd)).isEmpty

def ofContent? (handles : Handles) (tokens : List Token) : Option Node :=
  match (nodeFrom handles true false (4 * tokens.length + 4)).run ⟨tokens, []⟩ with
  | some (node, rest) => if isDocumentEnd rest.tokens then some node else none
  | none => none

def ofTokens? (tokens : List Token) : Option Node :=
  match tokens with
  | [] => some .absent
  | .versionDirective _ _ :: _ | .tagDirective _ _ :: _ | .documentStart :: _ =>
      match directivesFrom false [] tokens with
      | some (handles, .documentStart :: tokens) =>
          let handles := Dict.overlaid defaultHandles handles
          if isDocumentEnd tokens then some .absent else ofContent? handles tokens
      | _ => none
  | _ => ofContent? defaultHandles tokens

end Provisioning.Yaml.Node
