import Jukebox.Proofs.Settings.Cache
import Jukebox.Proofs.Station.Apply
import Jukebox.Proofs.Station.Run

/-!
What the station does to its settings. Most of what happens leaves them alone, and the time with them;
and a request that concerns them comes down to what it asks the cache. The size of a page is never changed
at all.
-/

namespace Jukebox

/-- What the station asks its cache in order to answer a request. -/
def Request.asks {α : Type} : Request α → List SettingsRequest
  | removeGuild g => [.invalidate g]
  | enqueue g _ _ _ | startVote g _ _ | settings g => [.snapshot g]
  | setSetting g k v => [.set g k v]
  | setSkipRatio g ratio => [.set g .skipRatio (ratio.map fun n => .number n.toUInt32)]
  | _ => []

theorem Request.asks_own {α : Type} (q : Request α) : ∀ r ∈ q.asks, r.meddles = false := by
  cases q with
  | removeGuild | enqueue | startVote | settings | setSetting | setSkipRatio =>
      exact List.forall_mem_singleton.mpr rfl
  | _ => exact List.forall_mem_nil _

namespace StationAct

def asks : StationAct → List SettingsRequest
  | ask q => q.asks
  | _ => []

theorem asks_own (a : StationAct) : ∀ r ∈ a.asks, r.meddles = false := by
  cases a with
  | ask q => exact q.asks_own
  | _ => exact List.forall_mem_nil _

end StationAct

namespace Station

/-- Neither the settings, the time nor the size of a page change, and no slot is made. -/
structure Steady (s s' : Station) : Prop where
  settings : s'.settings = s.settings
  now : s'.now = s.now
  created : s'.registry.created = s.registry.created
  pageSize : s'.pageSize = s.pageSize

namespace Steady

theorem refl (s : Station) : Steady s s := ⟨rfl, rfl, rfl, rfl⟩

theorem trans {s t u : Station} (first : Steady s t) (later : Steady t u) : Steady s u :=
  ⟨later.settings.trans first.settings, later.now.trans first.now,
    later.created.trans first.created, later.pageSize.trans first.pageSize⟩

variable (s : Station)

theorem apply {α : Type} (slot : Slot)
    (operation : Backend → Nat → Session → Outcome (Except PlayerError α)) :
    Steady s (s.apply slot operation).2 := by
  rw [apply_eq]
  exact ⟨rfl, rfl, rfl, rfl⟩

theorem withSession {α : Type} (g : GuildId)
    (operation : Backend → Nat → Session → Outcome (Except PlayerError α)) :
    Steady s (s.withSession g operation).2 := by
  unfold Station.withSession
  split
  · exact refl s
  · exact apply s _ operation

theorem foldl_applyVote (passed : List Resolution) : Steady s (passed.foldl applyVote s) := by
  induction passed generalizing s with
  | nil => exact refl s
  | cons r passed ih => exact (withSession s r.key.guild (voteAction r)).trans (ih (s.applyVote r))

theorem settle : Steady s s.settle := by
  have taken : Steady s { s with inFlight := [] } := ⟨rfl, rfl, rfl, rfl⟩
  exact taken.trans (foldl_applyVote _ s.inFlight)

theorem applyAt (place : Nat) : Steady s (s.applyAt place) := by
  unfold Station.applyAt
  split
  · exact refl s
  · next r _ =>
      have taken : Steady s { s with inFlight := s.inFlight.eraseIdx place } := ⟨rfl, rfl, rfl, rfl⟩
      exact taken.trans (withSession _ r.key.guild (voteAction r))

theorem evict (g : GuildId) : Steady s { s with registry := (s.registry.evict g).2 } := by
  unfold Registry.evict
  split
  · exact refl s
  · exact ⟨rfl, rfl, rfl, rfl⟩

theorem evictIfIdle (g : GuildId) (threshold : Nat) :
    Steady s { s with registry := (s.registry.evictIfIdle s.now g threshold).2 } := by
  unfold Registry.evictIfIdle
  split
  · exact refl s
  · split
    · exact ⟨rfl, rfl, rfl, rfl⟩
    · exact refl s

theorem sweepGuild (g : GuildId) : Steady s (s.sweepGuild g).2 := by
  unfold Station.sweepGuild
  split
  · exact (evict s g).trans ⟨rfl, rfl, rfl, rfl⟩
  · exact evictIfIdle s g _

theorem sweepGuilds (guilds : List GuildId) : Steady s (s.sweepGuilds guilds).2 := by
  induction guilds generalizing s with
  | nil => exact refl s
  | cons g guilds ih => exact (sweepGuild s g).trans (ih (s.sweepGuild g).2)

theorem startSweeper (period : Nat) : Steady s (s.startSweeper period) :=
  (sweepGuilds s s.registry.guilds).trans ⟨rfl, rfl, rfl, rfl⟩

theorem sweepIfDue : Steady s s.sweepIfDue := by
  unfold Station.sweepIfDue
  split
  · exact refl s
  · next w _ =>
      split
      · have expired : Steady s (s.withDesk (s.desk.expireFirst s.now w.opened).1
            (s.desk.expireFirst s.now w.opened).2) := ⟨rfl, rfl, rfl, rfl⟩
        exact expired.trans (startSweeper _ w.period)
      · exact refl s

end Steady

theorem passMoment_settings (s : Station) (moment : Nat) :
    (s.passMoment moment).settings = s.settings :=
  (Steady.sweepIfDue { s with now := moment }).settings

theorem foldl_passMoment_settings (s : Station) (moments : List Nat) :
    (moments.foldl passMoment s).settings = s.settings := by
  induction moments generalizing s with
  | nil => rfl
  | cons moment moments ih => exact (ih (s.passMoment moment)).trans (s.passMoment_settings moment)

theorem startVote_settings (s : Station) (g : GuildId) (kind : VoteKind) (m : MemberId) :
    (s.startVote g kind m).2.settings = (s.settings.snapshot g).2 := by
  have read : (s.settings.effective g).2 = (s.settings.snapshot g).2 := rfl
  rw [← read]
  unfold startVote
  split
  · next same => rw [same]
  · next same =>
      rw [same]
      dsimp only
      split
      · rfl
      · rfl

theorem enqueue_settings (s : Station) (g : GuildId) (m : MemberId) (track : TrackRef)
    (metadata : Option TrackMetadata) :
    (s.enqueue g m track metadata).2.settings = (s.settings.snapshot g).2 := by
  have read : (s.settings.effective g).2 = (s.settings.snapshot g).2 := rfl
  rw [← read]
  unfold enqueue
  split
  · next same => rw [same]
  · next same =>
      rw [same]
      exact (Steady.apply _ _ _).settings

theorem handle_serve {α : Type} (s : Station) (q : Request α) :
    (s.handle q).2.settings = s.settings.serve q.asks := by
  cases q with
  | enqueue g m track metadata => exact s.enqueue_settings g m track metadata
  | startVote g kind m => exact s.startVote_settings g kind m
  | trackStarted g | trackFinished g | trackFailed g | skip g | stop g | clearQueue g | pause g
  | resume g | setRepeat g | removeAt g | removeByRequester g | swap g | move g | shuffle g =>
      exact (Steady.withSession s g _).settings
  | removeGuild | setSetting | setSkipRatio | settings | memberJoined | memberLeft | castVote
  | cancelVote | queue | status | page | voteProgress | stats => rfl

theorem next_serve (s : Station) {a : StationAct} (inside : ∀ repository, a ≠ .store repository) :
    (s.next a).settings = s.settings.serve a.asks := by
  cases a with
  | ask q => exact s.handle_serve q
  | apply place => exact (Steady.applyAt s place).settings
  | settle => exact (Steady.settle s).settings
  | sweep guilds => exact (Steady.sweepGuilds s guilds).settings
  | startSweeper period => exact (Steady.startSweeper s period).settings
  | advance duration => exact s.foldl_passMoment_settings _
  | store repository => exact absurd rfl (inside repository)
  | stopSweeper | lag | expireVotes | refuse | arrange => rfl

/-- A request takes no time and does not change the size of a page. -/
theorem handle_fixed {α : Type} (s : Station) (q : Request α) :
    (s.handle q).2.now = s.now ∧ (s.handle q).2.pageSize = s.pageSize := by
  cases q with
  | trackStarted g | trackFinished g | trackFailed g | skip g | stop g | clearQueue g | pause g
  | resume g | setRepeat g | removeAt g | removeByRequester g | swap g | move g | shuffle g =>
      exact ⟨(Steady.withSession s g _).now, (Steady.withSession s g _).pageSize⟩
  | enqueue g m track metadata =>
      rw [handle, enqueue]
      split
      · exact ⟨rfl, rfl⟩
      · exact ⟨(Steady.apply _ _ _).now, (Steady.apply _ _ _).pageSize⟩
  | startVote g kind m =>
      rw [handle, startVote]
      split
      · exact ⟨rfl, rfl⟩
      · dsimp only
        split
        · exact ⟨rfl, rfl⟩
        · exact ⟨rfl, rfl⟩
  | removeGuild | memberJoined | memberLeft | castVote | cancelVote | queue | status | page
  | voteProgress | setSetting | setSkipRatio | settings | stats => exact ⟨rfl, rfl⟩

theorem foldl_passMoment_pageSize (s : Station) (moments : List Nat) :
    (moments.foldl passMoment s).pageSize = s.pageSize := by
  induction moments generalizing s with
  | nil => rfl
  | cons moment moments ih =>
      exact (ih (s.passMoment moment)).trans (Steady.sweepIfDue { s with now := moment }).pageSize

theorem next_pageSize (s : Station) (a : StationAct) : (s.next a).pageSize = s.pageSize := by
  cases a with
  | ask q => exact (s.handle_fixed q).2
  | apply place => exact (Steady.applyAt s place).pageSize
  | settle => exact (Steady.settle s).pageSize
  | sweep guilds => exact (Steady.sweepGuilds s guilds).pageSize
  | startSweeper period => exact (Steady.startSweeper s period).pageSize
  | advance duration => exact s.foldl_passMoment_pageSize _
  | stopSweeper | lag | expireVotes | refuse | store | arrange => rfl

end Station

end Jukebox
