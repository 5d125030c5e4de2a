import Jukebox.Text.Pieces
import Jukebox.Unicode.Composition
import Jukebox.Unicode.Direction
import Jukebox.Unicode.HostMapping
import Jukebox.Unicode.Joining
import Jukebox.Url.Punycode

/-!
Host names in their ASCII form.

A name is mapped and composed, and each of its labels is checked; a label outside ASCII is then
written in Punycode. A label that is in Punycode already has to stand for one that would be
written so.
-/

namespace Jukebox.Url

open Unicode

/-- The mark in front of a label in Punycode. -/
def punycodeMark : List Nat := "xn--".toList.map Char.toNat

def isAscii (cs : List Nat) : Bool := cs.all (· < 128)

/-- The ASCII characters that no host name holds. -/
def isDenied (c : Nat) : Bool :=
  c ≤ 0x20 || c = 0x7F || ("%#/:<>?@[\\]^|".toList.map Char.toNat).contains c

/-- A name in mapped and composed form. `none` if it holds a refused character. -/
def mapName? (name : List Nat) : Option (List Nat) :=
  (name.mapM mapHostChar).map fun mapped => normalize mapped.flatten

/-- A label as readers see it: one in Punycode is decoded. `none` if that fails, or if mapping
would change the outcome. -/
def readLabel? (label : List Nat) : Option (List Nat) :=
  if punycodeMark.isPrefixOf label then do
    let shown ← Punycode.decode? (label.drop punycodeMark.length)
    if isAscii shown || !isAscii label || mapName? shown ≠ some shown then none
    else return shown
  else some label

/-- Whether a label may stand in a name: no denied characters, no mark in front, and joiners only
where they have a meaning. -/
def labelAllowed (label : List Nat) : Bool :=
  !label.any isDenied && (isAscii label || (!label.head?.any isMark && joinersOk [] label))

/-- Whether labels keep to the rule for names that are written from right to left. A name without
right-to-left characters always does. -/
def directionsAllowed (labels : List (List Nat)) : Bool :=
  let directions := labels.map (·.map direction)
  !(directions.any (·.any Direction.isRightward)) || directions.all Direction.labelOk

def writeLabel? (label : List Nat) : Option (List Nat) :=
  if isAscii label then some label else (Punycode.encode? label).map (punycodeMark ++ ·)

def asciiName? (name : List Nat) : Option (List Nat) := do
  let mapped ← mapName? name
  let labels ← (Text.pieces 46 mapped).mapM readLabel?
  if labels.all labelAllowed && directionsAllowed labels then
    return [46].intercalate (← labels.mapM writeLabel?)
  else none

end Jukebox.Url
