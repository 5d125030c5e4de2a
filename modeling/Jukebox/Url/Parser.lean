import Jukebox.Url.Host
import Jukebox.Url.Path

/-!
Addresses. An address of the web, by http or https, is read into its parts and written in its one
normal form; of an address with another scheme only the scheme is kept, once its host has been
checked.
-/

namespace Jukebox.Url

structure WebAddress where
  scheme : String
  /-- The user and the password as they are written, if there are any. -/
  user : Option String := none
  host : Host
  /-- The port, unless it is the default of the scheme. -/
  port : Option Nat := none
  path : String := "/"
  query : Option String := none
  fragment : Option String := none
deriving DecidableEq, Repr

inductive Address
  | web (a : WebAddress)
  | other (scheme : String)
deriving DecidableEq, Repr

def WebAddress.render (a : WebAddress) : String :=
  a.scheme ++ "://" ++ (a.user.map (· ++ "@")).getD "" ++ a.host.render ++
    (a.port.map fun p => ":" ++ toString p).getD "" ++ a.path ++
    (a.query.map ("?" ++ ·)).getD "" ++ (a.fragment.map ("#" ++ ·)).getD ""

/-- How the rest of an address is read. -/
inductive SchemeKind
  /-- A host is required, and backslashes count as slashes. -/
  | hosted
  | file
  /-- There are no rules for hosts. -/
  | free
deriving DecidableEq, Repr

/-- The schemes with a required host, with their default ports. -/
def hostedSchemes : List (String × Nat) :=
  [("http", 80), ("https", 443), ("ws", 80), ("wss", 443), ("ftp", 21)]

def schemeKind (scheme : String) : SchemeKind :=
  if (hostedSchemes.lookup scheme).isSome then .hosted
  else if scheme = "file" then .file
  else .free

def isSchemeChar (c : Char) : Bool := c.isAlphanum || c = '+' || c = '-' || c = '.'

/-- The scheme in lower case, and what follows its colon. -/
def takeScheme (cs : List Char) : Except UrlError (String × List Char) :=
  let front := cs.takeWhile isSchemeChar
  match front, cs.drop front.length with
  | letter :: _, ':' :: rest =>
    if letter.isAlpha then .ok (String.ofList (front.map Char.toLower), rest)
    else .error .noScheme
  | _, _ => .error .noScheme

/-- Whether a character ends the authority. -/
def endsAuthority (kind : SchemeKind) (c : Char) : Bool :=
  c = '/' || c = '?' || c = '#' || (kind ≠ .free && c = '\x5c')

/-- What precedes the last at sign of the authority, and what follows it. -/
def splitUser (kind : SchemeKind) (cs : List Char) : Option (List Char) × List Char :=
  let authority := cs.takeWhile fun c => !endsAuthority kind c
  if authority.contains '@' then
    let after := (authority.reverse.takeWhile (· ≠ '@')).length
    let before := authority.length - after - 1
    (some (authority.take before), cs.drop (before + 1))
  else (none, cs)

/-- A user and a password as they are written. An empty password is left out, and so is the user
if nothing is left of it. -/
def renderUser (cs : List Char) : Option String :=
  let name := cs.takeWhile (· ≠ ':')
  let password := cs.drop (name.length + 1)
  let text := percentEncode userSet name ++
    (if password.isEmpty then [] else ':' :: percentEncode userSet password)
  if text.isEmpty then none else some (String.ofList text)

/-- The characters of the host. A colon ends it unless it stands in brackets. -/
def takeHost (kind : SchemeKind) (bracketed : Bool) : List Char → List Char
  | [] => []
  | c :: rest =>
    if endsAuthority kind c || (c = ':' && !bracketed) then []
    else c :: takeHost kind (c = '[' || (bracketed && c ≠ ']')) rest

def readPort (port : Nat) : List Char → Except UrlError Nat
  | [] => .ok port
  | c :: rest =>
    if c.isDigit then
      let port := port * 10 + (c.toNat - 48)
      if 65535 < port then .error .invalidPort else readPort port rest
    else .error .invalidPort

/-- The port behind a host, if one is given, and what follows it. -/
def takePort (cs : List Char) : Except UrlError (Option Nat × List Char) :=
  match cs with
  | ':' :: rest =>
    let digits := rest.takeWhile fun c => !endsAuthority .hosted c
    match readPort 0 digits with
    | .error e => .error e
    | .ok port => .ok (if digits.isEmpty then none else some port, rest.drop digits.length)
  | _ => .ok (none, cs)

def splitRest (cs : List Char) : List Char × Option (List Char) × Option (List Char) :=
  let main := cs.takeWhile (· ≠ '#')
  let path := main.takeWhile (· ≠ '?')
  let behind (whole part : List Char) : Option (List Char) :=
    if part.length < whole.length then some (whole.drop (part.length + 1)) else none
  (path, behind main path, behind cs main)

/-- Reads what follows the colon of a scheme with a required host. -/
def parseHosted (scheme : String) (cs : List Char) : Except UrlError WebAddress := do
  let (user, rest) :=
    splitUser .hosted (cs.dropWhile fun c => c = '/' || c = '\x5c')
  let hostText := takeHost .hosted false rest
  if hostText.isEmpty then throw .emptyHost
  let host ← Host.parse hostText
  let (port, rest) ← takePort (rest.drop hostText.length)
  let (path, query, fragment) := splitRest rest
  return {
    scheme
    user := user.bind renderUser
    host
    port := port.filter fun p => hostedSchemes.lookup scheme ≠ some p
    path := renderPath path
    query := query.map fun q => String.ofList (percentEncode querySet q)
    fragment := fragment.map fun f => String.ofList (percentEncode fragmentSet f) }

/-- Checks what follows the colon of the file scheme. -/
def checkFile (cs : List Char) : Except UrlError Unit :=
  let isSlash (c : Char) : Bool := c = '/' || c = '\x5c'
  match cs with
  | a :: b :: rest =>
    let host := rest.takeWhile fun c => !endsAuthority .file c
    if !(isSlash a && isSlash b) || host.isEmpty || isDrive host then .ok ()
    else (Host.parse host).map fun _ => ()
  | _ => .ok ()

/-- Checks what follows the colon of a scheme without rules for hosts. -/
def checkFree (cs : List Char) : Except UrlError Unit :=
  match cs with
  | '/' :: '/' :: authority => do
    let (user, rest) := splitUser .free authority
    if user = some [] ∧ rest.head?.any (endsAuthority .free) then throw .emptyHost
    let hostText := takeHost .free false rest
    Host.checkOpaque hostText
    if hostText.isEmpty ∧ (rest.head? = some ':' ∨ (user.bind renderUser).isSome) then
      throw .emptyHost
    let _ ← takePort (rest.drop hostText.length)
  | _ => .ok ()

/-- The characters of an address that count: none of the tabs and line breaks, and no controls or
spaces at either end. -/
def essential (cs : List Char) : List Char :=
  let isEdge (c : Char) : Bool := c.toNat ≤ 0x20
  ((cs.dropWhile isEdge).reverse.dropWhile isEdge).reverse.filter fun c =>
    c ≠ '\t' && c ≠ '\n' && c ≠ '\x0d'

def parse (s : String) : Except UrlError Address := do
  let (scheme, rest) ← takeScheme (essential s.toList)
  match schemeKind scheme with
  | .hosted =>
    let a ← parseHosted scheme rest
    return if scheme = "http" ∨ scheme = "https" then .web a else .other scheme
  | .file => checkFile rest; return .other scheme
  | .free => checkFree rest; return .other scheme

end Jukebox.Url
