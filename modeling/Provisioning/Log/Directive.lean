import Provisioning.Log.Threshold
import Provisioning.Text.AlphanumericTable
import Provisioning.Text.Lowercase

/-!
Directives of a log filter. A directive names a threshold, and the target, the span and the fields
that it is for: `target[span{field=value}]=threshold`, where each part may be missing.
-/

namespace Provisioning.Log

structure FieldTest where
  name : String
  value : Option String
  deriving DecidableEq, Repr

def FieldTest.ofText (text : String) : FieldTest :=
  match text.splitOn "=" with
  | name :: value :: _ => ⟨name, some value⟩
  | _ => ⟨text, none⟩

structure Directive where
  target : Option String := none
  span : Option String := none
  fields : List FieldTest := []
  threshold : Threshold := .upTo .trace
  deriving DecidableEq, Repr

inductive DirectiveFault where
  | form
  | threshold
  deriving DecidableEq, Repr

def DirectiveFault.message : DirectiveFault → String
  | .form => "invalid filter directive"
  | .threshold =>
      "error parsing level filter: expected one of \"off\", \"error\", \"warn\", \"info\", " ++
        "\"debug\", \"trace\", or a number 0-5"

namespace Directive

inductive Stage where
  | start
  | word (start : Nat)
  | span (start : Nat)
  | field (start : Nat)
  | fields
  | target
  | threshold (start : Nat)
  | finished

def opensWord (character : Char) : Bool :=
  character == '-' || character == ':' || character == '_' || character.isAlphanum ||
    Text.inRanges Text.alphanumericRanges character

def cutFrom (position start stop : Nat) : List Char → List Char
  | [] => []
  | character :: rest =>
      let cut := cutFrom (position + character.utf8Size) start stop rest
      if start ≤ position ∧ position < stop then character :: cut else cut

def cut (whole : String) (start stop : Nat) : String :=
  String.ofList (cutFrom 0 start stop whole.toList)

/-- A word alone is a threshold if it reads as one, or else a target. -/
def ofWord (word : String) : Directive :=
  match Threshold.read? word with
  | some threshold => { threshold }
  | none => { target := some word }

def withThreshold (directive : Directive) (text : String) : Except DirectiveFault Directive :=
  if text = "" then
    .ok directive
  else
    match Threshold.read? text with
    | some threshold => .ok { directive with threshold }
    | none => .error .threshold

def withField (directive : Directive) (text : String) : Except DirectiveFault Directive :=
  if text = "" then
    .error .form
  else
    .ok { directive with fields := directive.fields ++ [.ofText text] }

def step (whole : String) (position : Nat) (directive : Directive) (character : Char) :
    Stage → Except DirectiveFault (Stage × Directive)
  | .start =>
      if character = '[' then .ok (.span (position + 1), directive)
      else if opensWord character then .ok (.word position, directive)
      else .error .form
  | .word start =>
      let targeted := { directive with target := some (cut whole start position) }
      if character = '=' then .ok (.threshold (position + 1), targeted)
      else if character = '[' then .ok (.span (position + 1), targeted)
      else if character = ',' then .error .form
      else .ok (.word start, directive)
  | .span start =>
      let name := cut whole start position
      if character = ']' then
        .ok (.target, { directive with span := some name })
      else if character = '\x7b' then
        .ok (.field (position + 1), { directive with span := if name = "" then none else some name })
      else
        .ok (.span start, directive)
  | .field start => do
      if character = '\x7d' then
        return (.fields, ← directive.withField (cut whole start position))
      else if character = ',' then
        return (.field (position + 1), ← directive.withField (cut whole start position))
      else
        return (.field start, directive)
  | .fields => if character = ']' then .ok (.target, directive) else .error .form
  | .target => if character = '=' then .ok (.threshold (position + 1), directive) else .error .form
  | .threshold start => do
      if character = ',' then
        return (.finished, ← directive.withThreshold (cut whole start position))
      else
        return (.threshold start, directive)
  | .finished => .error .form

def finish (whole : String) (directive : Directive) : Stage → Except DirectiveFault Directive
  | .word start => .ok (ofWord (cut whole start whole.utf8ByteSize))
  | .threshold start => directive.withThreshold (cut whole start whole.utf8ByteSize)
  | .target | .finished => .ok directive
  | .start | .span _ | .field _ | .fields => .error .form

def readFrom (whole : String) (position : Nat) (stage : Stage) (directive : Directive) :
    List Char → Except DirectiveFault Directive
  | [] => directive.finish whole stage
  | character :: rest => do
      let (stage, directive) ← directive.step whole position character stage
      readFrom whole (position + character.utf8Size) stage directive rest

/-- Space around a directive is passed over where its parts are found, but counts again where they
are cut out. -/
def read (text : String) : Except DirectiveFault Directive :=
  readFrom text 0 .start {} (Text.trimChars text.toList)

end Directive

end Provisioning.Log
