/-!
Percent encoding: characters of a set are written as the bytes of their UTF-8 form, each as a
percent sign and two hexadecimal digits.
-/

namespace Jukebox.Url

/-- A set of characters that have to be encoded. -/
abbrev EncodeSet := Char → Bool

/-- Controls, and everything outside ASCII. -/
def controlSet : EncodeSet := fun c => c.toNat < 0x20 || 0x7F ≤ c.toNat

def fragmentSet : EncodeSet := fun c => controlSet c || [' ', '\x22', '<', '>', '\x60'].contains c

def pathSet : EncodeSet := fun c => fragmentSet c || ['#', '?', '\x7b', '\x7d'].contains c

def userSet : EncodeSet := fun c =>
  pathSet c || ['/', ':', ';', '=', '@', '[', '\x5c', ']', '^', '|'].contains c

def querySet : EncodeSet := fun c =>
  controlSet c || [' ', '\x22', '#', '<', '>', '\x27'].contains c

def upperHexDigit (n : Nat) : Char := if n < 10 then Char.ofNat (48 + n) else Char.ofNat (55 + n)

def encodeByte (b : UInt8) : List Char :=
  ['%', upperHexDigit (b.toNat / 16), upperHexDigit (b.toNat % 16)]

def percentEncode (set : EncodeSet) (cs : List Char) : List Char :=
  cs.flatMap fun c => if set c then (String.utf8EncodeChar c).flatMap encodeByte else [c]

def hexValue? (c : Char) : Option Nat :=
  if '0' ≤ c ∧ c ≤ '9' then some (c.toNat - 48)
  else if 'a' ≤ c ∧ c ≤ 'f' then some (c.toNat - 87)
  else if 'A' ≤ c ∧ c ≤ 'F' then some (c.toNat - 55)
  else none

/-- The bytes of a text in which percent signs with two digits stand for bytes. A percent sign
without them stands for itself. -/
def percentDecode : List Char → List UInt8
  | [] => []
  | [a] => String.utf8EncodeChar a
  | [a, b] => String.utf8EncodeChar a ++ String.utf8EncodeChar b
  | a :: b :: c :: rest =>
    match if a = '%' then hexValue? b else none, hexValue? c with
    | some high, some low => UInt8.ofNat (16 * high + low) :: percentDecode rest
    | _, _ => String.utf8EncodeChar a ++ percentDecode (b :: c :: rest)

end Jukebox.Url
