import Jukebox.Text.Pieces
import Jukebox.Url.Error
import Jukebox.Url.Percent

/-!
Numeric hosts. A host name whose last label is a number is read as an IPv4 address, in decimal,
octal or hexadecimal parts, and a host in square brackets as an IPv6 address.
-/

namespace Jukebox.Url

def readBase (base : Nat) (cs : List Char) : Option Nat :=
  cs.foldl
    (fun value c => do
      let v ← value
      let d ← (hexValue? c).filter (· < base)
      return v * base + d)
    (some 0)

/-- Reads a part of an IPv4 address: hexadecimal after `0x`, octal after another leading zero,
decimal otherwise. A base mark alone is zero. -/
def ipv4Part? : List Char → Option Nat
  | [] => none
  | '0' :: 'x' :: digits | '0' :: 'X' :: digits => readBase 16 digits
  | '0' :: d :: digits => readBase 8 (d :: digits)
  | digits => readBase 10 digits

/-- The labels of a host name, without the empty one after a final dot. -/
def hostLabels (host : List Char) : List (List Char) :=
  let labels := Text.pieces '.' host
  if 1 < labels.length ∧ labels.getLast? = some [] then labels.dropLast else labels

/-- Whether a host name has to be an IPv4 address: its last label is a number. -/
def endsInNumber (host : List Char) : Bool :=
  match (hostLabels host).getLast? with
  | none => false
  | some label => (!label.isEmpty && label.all Char.isDigit) || (ipv4Part? label).isSome

/-- The value of the parts of an IPv4 address: all but the last are bytes, and the last fills what
is left of the 32 bits. -/
def ipv4Value? (parts : List Nat) : Option Nat :=
  match parts.reverse with
  | [] => none
  | last :: others =>
    let room := Nat.pow 256 (4 - others.length)
    if 4 < parts.length ∨ others.any (255 < ·) ∨ room ≤ last then none
    else some (others.reverse.foldl (fun v b => v * 256 + b) 0 * room + last)

def ipv4? (host : List Char) : Option Nat := ((hostLabels host).mapM ipv4Part?).bind ipv4Value?

/-- An IPv4 address as four decimal bytes. -/
def showIpv4 (n : Nat) : String :=
  ".".intercalate ([16777216, 65536, 256, 1].map fun unit => toString (n / unit % 256))

def ipv6Piece? (cs : List Char) : Option Nat :=
  if 1 ≤ cs.length ∧ cs.length ≤ 4 then readBase 16 cs else none

/-- Reads a byte of an IPv4 address inside an IPv6 address: decimal, without leading zeros. -/
def plainByte? (cs : List Char) : Option Nat :=
  match cs with
  | [] => none
  | '0' :: _ :: _ => none
  | digits => (readBase 10 digits).filter (· < 256)

/-- Reads four bytes as the last two pieces of an IPv6 address. -/
def ipv4Tail? (cs : List Char) : Option (List Nat) :=
  match (Text.pieces '.' cs).mapM plainByte? with
  | some [a, b, c, d] => some [a * 256 + b, c * 256 + d]
  | _ => none

/-- Reads the pieces of an IPv6 address. The last one may be an IPv4 address if `tail` says so. -/
def ipv6Pieces? (tail : Bool) : List (List Char) → Option (List Nat)
  | [] => some []
  | [f] => ((ipv6Piece? f).map ([·])).or (if tail then ipv4Tail? f else none)
  | f :: fs => do
    let p ← ipv6Piece? f
    let ps ← ipv6Pieces? tail fs
    return p :: ps

/-- What stands before and after the first double colon, if there is one. -/
def splitDoubleColon : List Char → Option (List Char × List Char)
  | ':' :: ':' :: rest => some ([], rest)
  | c :: rest => (splitDoubleColon rest).map fun p => (c :: p.1, p.2)
  | [] => none

/-- Reads a run of pieces on one side of a double colon, which may be empty. -/
def ipv6Run? (tail : Bool) (cs : List Char) : Option (List Nat) :=
  if cs = [] then some [] else ipv6Pieces? tail (Text.pieces ':' cs)

/-- Reads an IPv6 address: eight pieces, where a double colon stands for at least one piece of
zero. -/
def ipv6? (cs : List Char) : Option (List Nat) :=
  match splitDoubleColon cs with
  | none => (ipv6Pieces? true (Text.pieces ':' cs)).filter (·.length = 8)
  | some (front, back) => do
    let ps ← ipv6Run? false front
    let qs ← ipv6Run? true back
    if ps.length + qs.length ≤ 7 then
      return ps ++ List.replicate (8 - ps.length - qs.length) 0 ++ qs
    else none

/-- The length of the run of zeros at the head of a list. -/
def zeroRun (ps : List Nat) : Nat := (ps.takeWhile (· = 0)).length

/-- The place and the length of the longest run of zeros, the first of several. -/
def longestZeroRun (ps : List Nat) : Nat × Nat :=
  (List.range ps.length).foldl
    (fun best i => if best.2 < zeroRun (ps.drop i) then (i, zeroRun (ps.drop i)) else best) (0, 0)

/-- Pieces in lower-case hexadecimal, with colons between them. -/
def showPieces (ps : List Nat) : String :=
  ":".intercalate (ps.map fun p => String.ofList (Nat.toDigits 16 p))

/-- An IPv6 address as it is written: the longest run of at least two zeros is left out. -/
def showIpv6 (ps : List Nat) : String :=
  let (start, length) := longestZeroRun ps
  if length < 2 then showPieces ps
  else showPieces (ps.take start) ++ "::" ++ showPieces (ps.drop (start + length))

end Jukebox.Url
