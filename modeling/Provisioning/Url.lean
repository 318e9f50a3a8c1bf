import Provisioning.Url.Host

/-!
The URLs that a boot loader can fetch from. Credentials, queries and fragments are read over.
-/

namespace Provisioning

inductive Scheme where
  | http
  | https
  | ftp
  | tftp
  deriving DecidableEq, Repr

namespace Scheme

def name : Scheme → String
  | .http => "http"
  | .https => "https"
  | .ftp => "ftp"
  | .tftp => "tftp"

def all : List Scheme :=
  [.http, .https, .ftp, .tftp]

def ofName? (name : String) : Option Scheme :=
  all.find? fun scheme => scheme.name == name

theorem ofName?_name (scheme : Scheme) : ofName? scheme.name = some scheme := by
  cases scheme <;> decide

/-- The schemes of the web read backslashes as slashes and hosts as domain names. -/
def isWeb : Scheme → Bool
  | .tftp => false
  | _ => true

def defaultPort? : Scheme → Option Nat
  | .http => some 80
  | .https => some 443
  | .ftp => some 21
  | .tftp => none

end Scheme

structure Url where
  scheme : Scheme
  host : Url.Host
  /-- Absent where it is the scheme's own. -/
  port : Option Nat
  segments : List String
  deriving DecidableEq, Repr

namespace Url

open Provisioning.Text

def isSlash (scheme : Scheme) (character : Char) : Bool :=
  character == '/' || (scheme.isWeb && character == '\\')

def endsAuthority (scheme : Scheme) (character : Char) : Bool :=
  isSlash scheme character || character == '?' || character == '#'

def tidy (text : List Char) : List Char :=
  let outer (character : Char) : Bool := character.toNat ≤ 0x20
  (((text.dropWhile outer).reverse.dropWhile outer).reverse).filter fun character =>
    !(character == '\t' || character == '\n' || character == '\r')

def isSchemeChar (character : Char) : Bool :=
  character.isAlphanum || character == '+' || character == '-' || character == '.'

def splitScheme? (text : List Char) : Option (Scheme × List Char) :=
  match text.dropWhile isSchemeChar with
  | ':' :: rest =>
      let name := String.ofList ((text.takeWhile isSchemeChar).map Char.toLower)
      (Scheme.ofName? name).map fun scheme => (scheme, rest)
  | _ => none

/-- What follows the slashes before the host. Schemes of the web take any number of them. -/
def afterSlashes? (scheme : Scheme) (text : List Char) : Option (List Char) :=
  if scheme.isWeb then
    some (text.dropWhile (isSlash scheme))
  else
    match text with
    | '/' :: '/' :: rest => some rest
    | _ => none

/-- What follows the credentials, which end at the last at sign before the path. -/
def afterCredentials (scheme : Scheme) (text : List Char) : List Char :=
  let authority := text.takeWhile fun character => !endsAuthority scheme character
  let host := (authority.reverse.takeWhile (· != '@')).reverse
  host ++ text.dropWhile fun character => !endsAuthority scheme character

/-- The host and what follows it. A colon ends the host unless it stands in brackets. -/
def splitHostFrom (scheme : Scheme) : Bool → List Char → List Char × List Char
  | _, [] => ([], [])
  | bracketed, character :: rest =>
      if endsAuthority scheme character || (character == ':' && !bracketed) then
        ([], character :: rest)
      else
        let bracketed := character == '[' || (bracketed && character != ']')
        let (host, after) := splitHostFrom scheme bracketed rest
        (character :: host, after)

def splitHost (scheme : Scheme) (text : List Char) : List Char × List Char :=
  splitHostFrom scheme false text

def greatestPort : Nat := 65535

def splitPort? (scheme : Scheme) (text : List Char) : Option (Option Nat × List Char) :=
  match text with
  | ':' :: rest =>
      let digits := rest.takeWhile Char.isDigit
      let after := rest.dropWhile Char.isDigit
      let port := Number.digitsValue digits
      let ended := after.head?.all fun character =>
        character == '\\' || endsAuthority scheme character
      if greatestPort < port || !ended then
        none
      else if digits.isEmpty || some port == scheme.defaultPort? then
        some (none, after)
      else
        some (some port, after)
  | rest => some (none, rest)

def isPathEscaped (character : Char) : Bool :=
  isControl character || " \"<>\x60#?\x7b\x7d".toList.contains character

def isStep (segment : String) : Bool :=
  [".", "%2e"].contains segment.toLower

def isStepBack (segment : String) : Bool :=
  ["..", "%2e%2e", "%2e.", ".%2e"].contains segment.toLower

/-- Segments such as `C:` name a drive, which no step back leaves. -/
def isDrive (segment : String) : Bool :=
  match segment.toList with
  | [letter, mark] => letter.isAlpha && (mark == ':' || mark == '|')
  | _ => false

def stepBack : List String → List String
  | [] => []
  | segment :: before => if isDrive segment then segment :: before else before

/-- Walks along the segments of a path; `before` holds those passed, nearest first. A step in last
place leaves an empty segment. -/
def walkFrom (before : List String) : List String → List String
  | [] => before.reverse
  | segment :: rest =>
      let before :=
        if isStepBack segment then stepBack before
        else if isStep segment then before
        else segment :: before
      let closing := rest.isEmpty && (isStepBack segment || isStep segment)
      walkFrom (if closing then "" :: before else before) rest

def segmentsOf (scheme : Scheme) (text : List Char) : List String :=
  let path := text.takeWhile fun character => !(character == '?' || character == '#')
  walkFrom [] ((stretches (isSlash scheme) path).map fun segment =>
    String.ofList (percentEncode isPathEscaped segment))

def readPath (scheme : Scheme) (text : List Char) : List String :=
  match text with
  | character :: rest =>
      if isSlash scheme character then segmentsOf scheme rest
      else if !scheme.isWeb && (character == '?' || character == '#') then []
      else segmentsOf scheme text
  | [] => if scheme.isWeb then segmentsOf scheme [] else []

def read? (text : String) : Option Url := do
  let (scheme, rest) ← splitScheme? (tidy text.toList)
  let rest ← afterSlashes? scheme rest
  let (hostText, rest) := splitHost scheme (afterCredentials scheme rest)
  if hostText.isEmpty then
    none
  let host ← if scheme.isWeb then host? hostText else opaqueHost? hostText
  let (port, rest) ← splitPort? scheme rest
  some { scheme, host, port, segments := readPath scheme rest }

def path (url : Url) : String :=
  String.join (url.segments.map fun segment => "/" ++ segment)

end Url

end Provisioning
