import Jukebox.Text.Pieces
import Jukebox.Url.Percent

/-!
Paths: segments between slashes, where a segment of one dot stays in place and one of two dots
goes back.
-/

namespace Jukebox.Url

/-- Whether a segment stands for staying in place. -/
def isOneDot (segment : List Char) : Bool :=
  [".", "%2e"].contains (String.ofList (segment.map Char.toLower))

/-- Whether a segment stands for going back. -/
def isTwoDots (segment : List Char) : Bool :=
  ["..", "%2e.", ".%2e", "%2e%2e"].contains (String.ofList (segment.map Char.toLower))

/-- Whether a segment names a drive: a letter, and a colon or a bar. -/
def isDrive : List Char → Bool
  | [letter, mark] => letter.isAlpha && (mark = ':' || mark = '|')
  | _ => false

/-- Goes back by one segment. The segments are the latest first; a drive is never left. -/
def goBack : List (List Char) → List (List Char)
  | [] => []
  | segment :: earlier => if isDrive segment then segment :: earlier else earlier

/-- Follows segments. `done` has the segments so far, the latest first. -/
def follow (done : List (List Char)) : List (List Char) → List (List Char)
  | [] => done
  | [segment] =>
    if isTwoDots segment then [] :: goBack done
    else if isOneDot segment then [] :: done
    else segment :: done
  | segment :: rest =>
    if isTwoDots segment then follow (goBack done) rest
    else if isOneDot segment then follow done rest
    else follow (segment :: done) rest

/-- The segments of a path that starts with a slash, or lacks its slash. A backslash counts as a
slash. -/
def pathSegments (cs : List Char) : List (List Char) :=
  let slashed := cs.map fun c => if c = '\x5c' then '/' else c
  let segments := Text.pieces '/' slashed
  if slashed.head? = some '/' then segments.drop 1 else segments

def renderPath (cs : List Char) : String :=
  let encoded := (pathSegments cs).map (percentEncode pathSet)
  String.ofList ((follow [] encoded).reverse.flatMap ('/' :: ·))

end Jukebox.Url
