import Provisioning.Yaml.Block
import Provisioning.Yaml.Plain
import Provisioning.Yaml.Quoted
import Provisioning.Yaml.Tag
import Provisioning.Yaml.Token

/-!
From a YAML text to its tokens. Whether a token starts a mapping key shows only at the colon after
it, so the places where a key may have started are remembered and marked late.
-/

namespace Provisioning.Yaml

/-- A token that turns into a key if a colon follows it. -/
structure Candidate where
  number : Nat
  index : Nat
  line : Nat
  column : Nat
  required : Bool

structure Scan where
  cursor : Cursor
  /-- The last token first. -/
  tokens : List Token
  count : Nat
  /-- The column of the innermost block collection, `-1` outside all of them. -/
  indent : Int
  outerIndents : List Int
  candidate : Option Candidate
  /-- The candidates around the open brackets, innermost first. -/
  outerCandidates : List (Option Candidate)
  keyAllowed : Bool

namespace Scan

def keyLimit : Nat := 1024

def start (characters : List Char) : Scan where
  cursor := Cursor.start characters
  tokens := []
  count := 0
  indent := -1
  outerIndents := []
  candidate := none
  outerCandidates := []
  keyAllowed := true

def inFlow (scan : Scan) : Bool :=
  !scan.outerCandidates.isEmpty

def add (scan : Scan) (token : Token) : Scan :=
  { scan with tokens := token :: scan.tokens, count := scan.count + 1 }

def insertAt (scan : Scan) (number : Nat) (token : Token) : Scan :=
  { scan with
    tokens := scan.tokens.insertIdx (scan.count - number) token
    count := scan.count + 1 }

def skip (scan : Scan) (count : Nat) : Scan :=
  { scan with cursor := scan.cursor.skip count }

def allowKey (scan : Scan) (allowed : Bool) : Scan :=
  { scan with keyAllowed := allowed }

/-- Moves to the next token. Tabs are no indentation, so they are passed over only where no key may
start. -/
def toTokenFrom : Nat → Scan → Scan
  | 0, scan => scan
  | fuel + 1, scan =>
      let cursor := scan.cursor
      let cursor :=
        if cursor.index == 0 && cursor.peek == some '\ufeff' then cursor.skip 1 else cursor
      let tabs := scan.inFlow || !scan.keyAllowed
      let cursor := cursor.skipWhile fun character =>
        character == ' ' || (tabs && character == '\t')
      let cursor := if cursor.peek == some '#' then cursor.toLineEnd else cursor
      if cursor.peek.any isBreak then
        toTokenFrom fuel
          { scan with cursor := cursor.skipBreak, keyAllowed := scan.keyAllowed || !scan.inFlow }
      else
        { scan with cursor }

def toToken (scan : Scan) : Scan :=
  toTokenFrom (scan.cursor.rest.length + 1) scan

/-- A candidate lapses at the end of its line or when its text grows too long, unless it is
required. -/
def Candidate.renew? (cursor : Cursor) (candidate : Option Candidate) :
    Option (Option Candidate) :=
  match candidate with
  | none => some none
  | some candidate =>
      if candidate.line < cursor.line || candidate.index + keyLimit < cursor.index then
        if candidate.required then none else some none
      else
        some (some candidate)

def renewCandidates? (scan : Scan) : Option Scan := do
  let candidate ← Candidate.renew? scan.cursor scan.candidate
  let outerCandidates ← scan.outerCandidates.mapM (Candidate.renew? scan.cursor)
  some { scan with candidate, outerCandidates }

def dropCandidate? (scan : Scan) : Option Scan :=
  if scan.candidate.any Candidate.required then none else some { scan with candidate := none }

def noteCandidate? (scan : Scan) : Option Scan :=
  if scan.keyAllowed then
    (scan.dropCandidate?).map fun scan =>
      { scan with
        candidate := some
          { number := scan.count
            index := scan.cursor.index
            line := scan.cursor.line
            column := scan.cursor.column
            required := !scan.inFlow && scan.indent == scan.cursor.column } }
  else
    some scan

def indentTo (scan : Scan) (column number : Nat) (token : Token) : Scan :=
  if !scan.inFlow && scan.indent < column then
    { scan.insertAt number token with
      indent := column
      outerIndents := scan.indent :: scan.outerIndents }
  else
    scan

def indentHere (scan : Scan) (token : Token) : Scan :=
  scan.indentTo scan.cursor.column scan.count token

def closeIndents (column indent : Int) (closed : Nat) : List Int → Int × List Int × Nat
  | [] => (indent, [], closed)
  | outer :: outers =>
      if column < indent then
        closeIndents column outer (closed + 1) outers
      else
        (indent, outer :: outers, closed)

def outdentTo (scan : Scan) (column : Int) : Scan :=
  if scan.inFlow then
    scan
  else
    let (indent, outerIndents, closed) := closeIndents column scan.indent 0 scan.outerIndents
    { scan with
      indent
      outerIndents
      tokens := List.replicate closed .blockEnd ++ scan.tokens
      count := scan.count + closed }

def closeDocument? (scan : Scan) : Option Scan :=
  ((scan.outdentTo (-1)).dropCandidate?).map fun scan => scan.allowKey false

def directive? (scan : Scan) : Option Scan := do
  let scan ← scan.closeDocument?
  let (directive, cursor) ← Yaml.directive? scan.cursor
  let token := match directive with
    | .version major minor => Token.versionDirective major minor
    | .tag handle lead => .tagDirective (String.ofList handle) (String.ofList lead)
  some ({ scan with cursor }.add token)

def documentMark? (scan : Scan) (token : Token) : Option Scan :=
  (scan.closeDocument?).map fun scan => (scan.skip 3).add token

def openFlow? (scan : Scan) (token : Token) : Option Scan :=
  (scan.noteCandidate?).map fun scan =>
    ({ scan with
      candidate := none
      outerCandidates := scan.candidate :: scan.outerCandidates
      keyAllowed := true }.skip 1).add token

def closeFlow? (scan : Scan) (token : Token) : Option Scan :=
  (scan.dropCandidate?).map fun scan =>
    let scan := match scan.outerCandidates with
      | candidate :: outerCandidates => { scan with candidate, outerCandidates }
      | [] => scan
    ((scan.allowKey false).skip 1).add token

def flowEntry? (scan : Scan) : Option Scan :=
  (scan.dropCandidate?).map fun scan => ((scan.allowKey true).skip 1).add .flowEntry

def openBlock? (scan : Scan) (token : Token) : Option Scan :=
  if scan.inFlow then some scan
  else if scan.keyAllowed then some (scan.indentHere token)
  else none

def blockEntry? (scan : Scan) : Option Scan := do
  let scan ← scan.openBlock? .blockSequenceStart
  let scan ← scan.dropCandidate?
  some (((scan.allowKey true).skip 1).add .blockEntry)

def key? (scan : Scan) : Option Scan := do
  let scan ← scan.openBlock? .blockMappingStart
  let scan ← scan.dropCandidate?
  some (((scan.allowKey !scan.inFlow).skip 1).add .key)

/-- A colon makes the candidate a key. Without one it follows a key of its own line. -/
def value? (scan : Scan) : Option Scan :=
  match scan.candidate with
  | some candidate =>
      let scan := scan.insertAt candidate.number .key
      let scan := scan.indentTo candidate.column candidate.number .blockMappingStart
      some (({ scan with candidate := none, keyAllowed := false }.skip 1).add .value)
  | none =>
      (scan.openBlock? .blockMappingStart).map fun scan =>
        ((scan.allowKey !scan.inFlow).skip 1).add .value

def anchorEnds : List Char := ['?', ':', ',', ']', '\x7d', '%', '@', '\x60']

def name? (scan : Scan) (token : String → Token) : Option Scan := do
  let scan ← scan.noteCandidate?
  let (name, cursor) := (scan.cursor.skip 1).span isNameChar
  if name.isEmpty || !(isEdge cursor.peek || cursor.peek.any anchorEnds.contains) then
    none
  else
    some (({ scan with cursor }.allowKey false).add (token (String.ofList name)))

def tag? (scan : Scan) : Option Scan := do
  let scan ← scan.noteCandidate?
  let ((handle, suffix), cursor) ← Yaml.tag? scan.inFlow scan.cursor
  some (({ scan with cursor }.allowKey false).add
    (.tag (String.ofList handle) (String.ofList suffix)))

def block? (scan : Scan) (literal : Bool) : Option Scan := do
  let scan ← scan.dropCandidate?
  let (text, cursor) ← Yaml.block? literal scan.indent scan.cursor
  some (({ scan with cursor }.allowKey true).add (.scalar false (String.ofList text)))

def quoted? (scan : Scan) (style : QuoteStyle) : Option Scan := do
  let scan ← scan.noteCandidate?
  let (text, cursor) ← Yaml.quoted? style scan.cursor
  some (({ scan with cursor }.allowKey false).add (.scalar false (String.ofList text)))

def plain? (scan : Scan) : Option Scan := do
  let scan ← scan.noteCandidate?
  let plain ← Yaml.plain? scan.inFlow (scan.indent + 1).toNat scan.cursor
  some (({ scan with cursor := plain.after }.allowKey plain.endsLine).add
    (.scalar true (String.ofList plain.text)))

def indicators : List Char := "-?:,[]\x7b\x7d#&*!|>'\"%@\x60".toList

def startsPlain (inFlow : Bool) (character : Char) (next : Option Char) : Bool :=
  !(isGap character || indicators.contains character) ||
    (character == '-' && !next.any isBlank) ||
    (!inFlow && (character == '?' || character == ':') && !isEdge next)

def token? (scan : Scan) (character : Char) : Option Scan :=
  let cursor := scan.cursor
  let next := cursor.peekAt 1
  let loose := scan.inFlow || isEdge next
  if cursor.column == 0 && character == '%' then scan.directive?
  else if cursor.atMark '-' then scan.documentMark? .documentStart
  else if cursor.atMark '.' then scan.documentMark? .documentEnd
  else if character == '[' then scan.openFlow? .flowSequenceStart
  else if character == '\x7b' then scan.openFlow? .flowMappingStart
  else if character == ']' then scan.closeFlow? .flowSequenceEnd
  else if character == '\x7d' then scan.closeFlow? .flowMappingEnd
  else if character == ',' then scan.flowEntry?
  else if character == '-' && isEdge next then scan.blockEntry?
  else if character == '?' && loose then scan.key?
  else if character == ':' && loose then scan.value?
  else if character == '*' then scan.name? .alias
  else if character == '&' then scan.name? .anchor
  else if character == '!' then scan.tag?
  else if character == '|' && !scan.inFlow then scan.block? true
  else if character == '>' && !scan.inFlow then scan.block? false
  else if character == '\'' then scan.quoted? .single
  else if character == '"' then scan.quoted? .double
  else if startsPlain scan.inFlow character next then scan.plain?
  else none

def finish? (scan : Scan) : Option Scan :=
  (scan.outdentTo (-1)).dropCandidate?

def scanFrom : Nat → Scan → Option (List Token)
  | 0, _ => none
  | fuel + 1, scan =>
      match renewCandidates? scan.toToken with
      | none => none
      | some scan =>
          let scan := scan.outdentTo scan.cursor.column
          match scan.cursor.peek with
          | none => (scan.finish?).map fun scan => scan.tokens.reverse
          | some character =>
              match scan.token? character with
              | none => none
              | some scan => scanFrom fuel scan

end Scan

def Token.scan? (characters : List Char) : Option (List Token) :=
  Scan.scanFrom (characters.length + 1) (Scan.start characters)

end Provisioning.Yaml
