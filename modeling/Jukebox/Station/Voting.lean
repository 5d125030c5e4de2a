import Jukebox.Station.Basic

/-!
Votes in a guild: who may vote is whoever listens when the vote is opened, and what a passed vote
does is left in flight and applied on its own.
-/

namespace Jukebox.Station

/-- Whether there is something to vote on in a session. A skip vote is about the loaded entry. -/
def voteTarget (kind : VoteKind) (session : Session) : Except PlayerError (Option EntryId) :=
  match kind with
  | .skip =>
    match session.current with
    | some e => .ok (some e.id)
    | none => .error (.stateConflict "nothing is playing")
  | .stop =>
    if session.isIdle ∧ session.queue.isEmpty then .error (.stateConflict "nothing to stop")
    else .ok none
  | .clearQueue =>
    if session.queue.isEmpty then .error (.stateConflict "the queue is already empty")
    else .ok none

def startVote (s : Station) (guild : GuildId) (kind : VoteKind) (initiator : MemberId) :
    Except PlayerError VoteProgress × Station :=
  match s.settings.effective guild with
  | (.error e, settings) => (.error e, { s with settings })
  | (.ok effective, settings) =>
    let s := { s with settings }
    match (s.viewSession guild).bind (voteTarget kind) with
    | .error e => (.error e, s)
    | .ok target =>
      let o := s.desk.start s.now
        { guild
          kind
          initiator
          eligible := s.presence.listeners guild
          ratio := effective.skipRatio
          timeout := effective.voteTimeoutSecs * 1000
          selfVote := effective.selfVote
          target }
      (o.result, s.withDesk o.desk o.resolved)

def castVote (s : Station) (guild : GuildId) (kind : VoteKind) (voter : MemberId)
    (ballot : Ballot) : Except PlayerError VoteProgress × Station :=
  let o := s.desk.cast s.now ⟨guild, kind⟩ voter ballot
  (o.result, s.withDesk o.desk o.resolved)

def cancelVote (s : Station) (guild : GuildId) (kind : VoteKind) :
    Except PlayerError Unit × Station :=
  let o := s.desk.cancel ⟨guild, kind⟩
  (if o.result then .ok () else .error .noActiveVote, s.withDesk o.desk o.resolved)

def voteProgress? (s : Station) (guild : GuildId) (kind : VoteKind) : Option VoteProgress :=
  s.desk.progress? ⟨guild, kind⟩

/-- What a passed vote does to a session. A skip vote skips only the entry that it was about. -/
def voteAction (r : Resolution) (b : Backend) (now : Nat) (session : Session) :
    Outcome (Except PlayerError Unit) :=
  match r.key.kind with
  | .skip =>
    if session.currentId.isSome ∧ session.currentId = r.target then
      (session.skip b now).map fun result => result.map fun _ => ()
    else session.refuse (.stateConflict "track already changed")
  | .stop => (session.stop now).map fun _ => .ok ()
  | .clearQueue => (session.clearQueue now).map fun _ => .ok ()

/-- Applies a passed vote. It does nothing when the guild has no session any more. -/
def applyVote (s : Station) (r : Resolution) : Station :=
  (s.withSession r.key.guild (voteAction r)).2

/-- Applies the votes in flight, in the order in which they passed. An action resolves no vote as
passed, so none is in flight afterwards. -/
def settle (s : Station) : Station :=
  s.inFlight.foldl applyVote { s with inFlight := [] }

end Jukebox.Station
