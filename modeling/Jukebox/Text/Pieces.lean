/-!
The pieces of a list between separators. There is always one more piece than separators, so some may
be empty.
-/

namespace Jukebox.Text

variable {α : Type} [DecidableEq α]

/-- The pieces of a list between separators, in order. -/
def pieces (separator : α) : List α → List (List α)
  | [] => [[]]
  | a :: rest =>
    if a = separator then [] :: pieces separator rest
    else match pieces separator rest with
      | [] => [[a]]
      | p :: ps => (a :: p) :: ps

end Jukebox.Text
