import Jukebox.Url.Name
import Jukebox.Url.Numeric

/-!
Hosts: a name, an IPv4 address or an IPv6 address.
-/

namespace Jukebox.Url

inductive Host
  /-- A name in its ASCII form. -/
  | name (n : String)
  | ipv4 (address : Nat)
  | ipv6 (pieces : List Nat)
deriving DecidableEq, Repr

namespace Host

def render : Host → String
  | name n => n
  | ipv4 address => showIpv4 address
  | ipv6 pieces => "[" ++ showIpv6 pieces ++ "]"

/-- Reads an IPv6 address with its brackets. -/
def ofBrackets (cs : List Char) : Except UrlError Host :=
  if cs.getLast? = some ']' then
    match ipv6? (cs.drop 1).dropLast with
    | some pieces => .ok (ipv6 pieces)
    | none => .error .invalidIpv6
  else .error .invalidIpv6

/-- The ASCII form of a name in which percent signs stand for bytes. -/
def asciiForm? (cs : List Char) : Option (List Char) := do
  let text ← String.fromUTF8? (percentDecode cs).toByteArray
  let ascii ← asciiName? (text.toList.map Char.toNat)
  return ascii.map Char.ofNat

def parse (cs : List Char) : Except UrlError Host :=
  if cs.head? = some '[' then ofBrackets cs
  else
    match asciiForm? cs with
    | none => .error .invalidName
    | some [] => .error .emptyHost
    | some ascii =>
      if endsInNumber ascii then
        match ipv4? ascii with
        | some address => .ok (ipv4 address)
        | none => .error .invalidIpv4
      else .ok (name (String.ofList ascii))

def endsHost (c : Char) : Bool :=
  ['\x00', '\t', '\n', '\x0d', ' ', '#', '/', ':', '<', '>', '?', '@', '[', '\x5c', ']', '^',
    '|'].contains c

/-- Checks a host of a scheme without rules for hosts. -/
def checkOpaque (cs : List Char) : Except UrlError Unit :=
  if cs.head? = some '[' then (ofBrackets cs).map fun _ => ()
  else if cs.any endsHost then .error .invalidHostCharacter
  else .ok ()

end Host

end Jukebox.Url
