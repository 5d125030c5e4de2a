/-!
Documents: the JSON values in which the program writes what it knows, and their text.
-/

namespace Jukebox

inductive Document
  | null
  | flag (b : Bool)
  | number (n : Int)
  /-- The number `n / 10 ^ places`, written with a fraction. -/
  | decimal (n : Int) (places : Nat)
  | text (s : String)
  | list (items : List Document)
  | record (fields : List (String × Document))
deriving Repr, Inhabited

namespace Document

def hexDigit (n : Nat) : Char := if n < 10 then Char.ofNat (48 + n) else Char.ofNat (87 + n)

def escapeUnit (n : Nat) : List Char :=
  ['\x5c', 'u', hexDigit (n / 4096 % 16), hexDigit (n / 256 % 16), hexDigit (n / 16 % 16),
    hexDigit (n % 16)]

/-- A character inside quotes. Quotes, backslashes, controls and everything outside ASCII are
escaped; a character above 16 bits takes two units. -/
def escapeChar (c : Char) : List Char :=
  let n := c.toNat
  if c = '\x22' ∨ c = '\x5c' then ['\x5c', c]
  else if 0x20 ≤ n ∧ n < 0x7F then [c]
  else if n < 0x10000 then escapeUnit n
  else
    escapeUnit (0xD800 + (n - 0x10000) / 0x400) ++ escapeUnit (0xDC00 + (n - 0x10000) % 0x400)

def quote (s : String) : String :=
  "\"" ++ String.ofList (s.toList.flatMap escapeChar) ++ "\""

def renderDecimal (n : Int) (places : Nat) : String :=
  let digits := toString n.natAbs
  let padded := String.ofList (List.replicate (places + 1 - digits.length) '0') ++ digits
  let whole := (padded.take (padded.length - places)).toString
  let fraction := (padded.drop (padded.length - places)).toString
  (if n < 0 then "-" else "") ++ whole ++ "." ++ (if places = 0 then "0" else fraction)

mutual

def render : Document → String
  | null => "null"
  | flag b => if b then "true" else "false"
  | number n => toString n
  | decimal n places => renderDecimal n places
  | text s => quote s
  | list items => "[" ++ ",".intercalate (renderItems items) ++ "]"
  | record fields => "\x7b" ++ ",".intercalate (renderFields fields) ++ "\x7d"

def renderItems : List Document → List String
  | [] => []
  | d :: rest => render d :: renderItems rest

def renderFields : List (String × Document) → List String
  | [] => []
  | (name, d) :: rest => (quote name ++ ":" ++ render d) :: renderFields rest

end

end Document

end Jukebox
