import Jukebox.Station.Request

/-!
Runs of the station: all that members, the gateway, the clock and the outside world can do to it as
data, and the station that a sequence of such acts leaves.
-/

namespace Jukebox

inductive StationAct
  | ask {α : Type} (q : Request α)
  /-- The action of one of the passed votes runs, whichever place it has among them. -/
  | apply (place : Nat)
  /-- The actions of all passed votes run, in order. -/
  | settle
  /-- Guilds are swept, in whatever order. -/
  | sweep (guilds : List GuildId)
  | startSweeper (period : Nat)
  | stopSweeper
  | advance (duration : Nat)
  /-- Time passes before anything that is due gets to happen. -/
  | lag (duration : Nat)
  | expireVotes
  /-- From now on the backend gives other answers. -/
  | refuse (refusal : List Call → GuildId → Entry → Option PlayerError)
  /-- The stored settings were changed from outside, or stop to be available. -/
  | store (repository : Repository)
  /-- The next shuffles rearrange in another way. -/
  | arrange (arrangement : Arrangement)

namespace Station

def applyAt (s : Station) (place : Nat) : Station :=
  match s.inFlight[place]? with
  | none => s
  | some r => { s with inFlight := s.inFlight.eraseIdx place }.applyVote r

def next (s : Station) : StationAct → Station
  | .ask q => (s.handle q).2
  | .apply place => s.applyAt place
  | .settle => s.settle
  | .sweep guilds => (s.sweepGuilds guilds).2
  | .startSweeper period => s.startSweeper period
  | .stopSweeper => s.stopSweeper.2
  | .advance duration => s.advance duration
  | .lag duration => { s with now := s.now + duration }
  | .expireVotes => s.expireVotes
  | .refuse refusal =>
    { s with registry := { s.registry with backend := { s.registry.backend with refusal } } }
  | .store repository => { s with settings := { s.settings with repository } }
  | .arrange arrangement => { s with arrangement }

def after (s : Station) : List StationAct → Station
  | [] => s
  | a :: acts => (s.next a).after acts

theorem after_append (s : Station) (acts more : List StationAct) :
    s.after (acts ++ more) = (s.after acts).after more := by
  induction acts generalizing s with
  | nil => rfl
  | cons a acts ih => exact ih (s.next a)

/-- What every act keeps, a run keeps. -/
theorem after_induction {P : Station → Prop} (keeps : ∀ s a, P s → P (Station.next s a))
    {s : Station} (h : P s) (acts : List StationAct) : P (s.after acts) := by
  induction acts generalizing s with
  | nil => exact h
  | cons a acts ih => exact ih (keeps s a h)

end Station

end Jukebox
