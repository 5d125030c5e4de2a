/-!
Blank characters, trimming, and the words of a line.

A character is blank when it has the White_Space property; the zero-width and the information
separator characters do not have it.
-/

namespace Jukebox.Text

/-- The characters with the White_Space property. -/
def isBlank (c : Char) : Bool :=
  let n := c.toNat
  (0x09 ≤ n && n ≤ 0x0D) || n == 0x20 || n == 0x85 || n == 0xA0 || n == 0x1680 ||
    (0x2000 ≤ n && n ≤ 0x200A) || n == 0x2028 || n == 0x2029 || n == 0x202F || n == 0x205F ||
    n == 0x3000

/-- The list without its longest blank beginning and end. -/
def trimBlanks (cs : List Char) : List Char :=
  ((cs.dropWhile isBlank).reverse.dropWhile isBlank).reverse

def trim (s : String) : String := String.ofList (trimBlanks s.toList)

def isAllBlank (s : String) : Bool := s.toList.all isBlank

/-- The maximal runs of characters that are not blank, in order. -/
def wordLists : List Char → List (List Char)
  | [] => []
  | [c] => if isBlank c then [] else [[c]]
  | c :: d :: rest =>
    if isBlank c then wordLists (d :: rest)
    else if isBlank d then [c] :: wordLists (d :: rest)
    else match wordLists (d :: rest) with
      | [] => [[c]]
      | w :: ws => (c :: w) :: ws

def words (s : String) : List String := (wordLists s.toList).map String.ofList

/-- The text with the letters A to Z in lower case and all else as it is. -/
def lowerAscii (s : String) : String := String.ofList (s.toList.map Char.toLower)

/-- The lines of a text: a line ends at a line feed, or at a carriage return that a line feed
follows, and a text that ends in a line feed has no further empty line. -/
def lineLists : List Char → List (List Char)
  | [] => []
  | '\n' :: rest => [] :: lineLists rest
  | '\x0d' :: '\n' :: rest => [] :: lineLists rest
  | c :: rest =>
    match lineLists rest with
    | [] => [[c]]
    | l :: ls => (c :: l) :: ls

def lines (s : String) : List String := (lineLists s.toList).map String.ofList

end Jukebox.Text
