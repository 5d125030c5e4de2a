import Jukebox.Error
import Jukebox.Text.Blank
import Jukebox.Track
import Jukebox.Url.Parser

/-!
Reading the address of a track. Only addresses of the web are accepted, and they are kept in their
normal form.
-/

namespace Jukebox

/-- Reads the address of a track from what a member wrote. -/
def TrackRef.parse (raw : String) : Except PlayerError TrackRef :=
  match Url.parse (Text.trim raw) with
  | .error e => .error (.validation ("invalid track url '" ++ raw ++ "': " ++ e.message))
  | .ok (.other scheme) => .error (.validation ("unsupported url scheme '" ++ scheme ++ "'"))
  | .ok (.web address) => .ok ⟨address.render⟩

end Jukebox
