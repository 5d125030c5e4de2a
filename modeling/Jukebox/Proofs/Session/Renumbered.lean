import Mathlib.Data.List.InsertIdx
import Jukebox.Proofs.Session.Loading
import Jukebox.Proofs.Session.Run

/-!
A session under other numbers. Entries and streams are numbered only to tell them apart; so two
sessions that differ in these numbers alone do the same, as long as their backends give the same
answers, and the results and signals differ in the numbers alone as well.
-/

namespace Jukebox

/-- Other numbers: those of entries and those of streams are each moved on by a distance. -/
structure Renumbering where
  entries : UInt64 := 0
  streams : UInt64 := 0

namespace Renumbering

variable (ρ : Renumbering)

def entry (id : EntryId) : EntryId := ⟨id.val + ρ.entries⟩

def stream (h : StreamHandle) : StreamHandle := ⟨h.val + ρ.streams⟩

/-- The numbers that take one entry id to another, and one stream to another. -/
def between (e e' : EntryId) (h h' : StreamHandle) : Renumbering where
  entries := e'.val - e.val
  streams := h'.val - h.val

theorem between_entry (e e' : EntryId) (h h' : StreamHandle) : (between e e' h h').entry e = e' := by
  simp only [entry, between, UInt64.add_comm e.val, UInt64.sub_add_cancel]

theorem between_stream (e e' : EntryId) (h h' : StreamHandle) : (between e e' h h').stream h = h' := by
  simp only [stream, between, UInt64.add_comm h.val, UInt64.sub_add_cancel]

@[simp] theorem entry_inj {a b : EntryId} : ρ.entry a = ρ.entry b ↔ a = b := by
  cases a
  cases b
  simp only [entry, EntryId.mk.injEq, UInt64.add_left_inj]

theorem map_entry_inj {a b : Option EntryId} : a.map ρ.entry = b.map ρ.entry ↔ a = b := by
  cases a with
  | none => cases b with | none | some => simp
  | some a => cases b with | none | some => simp

theorem entry_next (id : EntryId) : ρ.entry id.next = (ρ.entry id).next := by
  simp only [entry, EntryId.next, UInt64.add_assoc, UInt64.add_comm 1]

end Renumbering

def Entry.renumber (ρ : Renumbering) (e : Entry) : Entry := { e with id := ρ.entry e.id }

def Queue.renumber (ρ : Renumbering) (q : Queue) : Queue := ⟨q.entries.map (Entry.renumber ρ)⟩

def Session.renumber (ρ : Renumbering) (s : Session) : Session :=
  { s with
    queue := s.queue.renumber ρ
    current := s.current.map (Entry.renumber ρ)
    stream := s.stream.map ρ.stream }

def Event.renumber (ρ : Renumbering) : Event → Event
  | .nowPlaying g e => .nowPlaying g (e.renumber ρ)
  | .trackFailed g e reason => .trackFailed g (e.renumber ρ) reason
  | e => e

def Call.renumber (ρ : Renumbering) : Call → Call
  | .play g id h => .play g (ρ.entry id) (ρ.stream h)
  | .refuse g id => .refuse g (ρ.entry id)
  | c => c

def Signals.renumber (ρ : Renumbering) (x : Signals) : Signals :=
  ⟨x.events.map (Event.renumber ρ), x.calls.map (Call.renumber ρ)⟩

/-- The outcome under other numbers; what becomes of the result depends on its type. -/
def Outcome.renumber {α : Type} (ρ : Renumbering) (f : α → α) (o : Outcome α) : Outcome α where
  result := f o.result
  session := o.session.renumber ρ
  signals := o.signals.renumber ρ

/-- An arrangement does to entries under other numbers what another one does to the entries. -/
def Arrangement.Mirrors (ρ : Renumbering) (arr arr' : Arrangement) : Prop :=
  ∀ l, arr'.apply (l.map (Entry.renumber ρ)) = (arr.apply l).map (Entry.renumber ρ)

/-- From now on a backend refuses of a guild what another one refuses, under other numbers. -/
def Backend.RefusesAs (ρ : Renumbering) (g : GuildId) (b b' : Backend) : Prop :=
  ∀ later e, b'.refusal (b'.calls ++ later.map (Call.renumber ρ)) g (e.renumber ρ) =
    b.refusal (b.calls ++ later) g e

/-- From now on a backend gives the same answers about a guild as another one, under other numbers. -/
structure Backend.Mirrors (ρ : Renumbering) (g : GuildId) (b b' : Backend) : Prop where
  nextHandle : b'.nextHandle = ρ.stream b.nextHandle
  refuses : Backend.RefusesAs ρ g b b'

section Parts

variable (ρ : Renumbering)

@[simp] theorem Entry.renumber_id (e : Entry) : (e.renumber ρ).id = ρ.entry e.id := rfl

@[simp] theorem Entry.renumber_track (e : Entry) : (e.renumber ρ).track = e.track := rfl

@[simp] theorem Queue.renumber_entries (q : Queue) :
    (q.renumber ρ).entries = q.entries.map (Entry.renumber ρ) := rfl

@[simp] theorem Queue.renumber_length (q : Queue) : (q.renumber ρ).length = q.length :=
  List.length_map _

@[simp] theorem Queue.renumber_isEmpty (q : Queue) : (q.renumber ρ).isEmpty = q.isEmpty :=
  List.isEmpty_map

@[simp] theorem Session.renumber_guild (s : Session) : (s.renumber ρ).guild = s.guild := rfl

@[simp] theorem Session.renumber_isIdle (s : Session) : (s.renumber ρ).isIdle = s.isIdle := rfl

theorem Session.renumber_currentId (s : Session) :
    (s.renumber ρ).currentId = s.currentId.map ρ.entry := by
  simp only [currentId, renumber, Option.map_map]
  rfl

@[simp] theorem Call.renumber_isPlay (c : Call) : (c.renumber ρ).isPlay = c.isPlay := by
  cases c with
  | play | refuse | pause | resume | stop => rfl

theorem Signals.renumber_append (a b : Signals) :
    (a ++ b).renumber ρ = a.renumber ρ ++ b.renumber ρ := by
  change Signals.mk _ _ = Signals.mk _ _
  simp only [renumber]
  congr 1
  · exact List.map_append
  · exact List.map_append

end Parts

namespace Backend.Mirrors

variable {ρ : Renumbering} {g : GuildId} {b b' : Backend} (h : Mirrors ρ g b b')
include h

theorem refusal? (e : Entry) : b'.refusal? g (e.renumber ρ) = b.refusal? g e := by
  have now := h.refuses [] e
  rwa [List.map_nil, List.append_nil, List.append_nil] at now

theorem record (calls : List Call) :
    Mirrors ρ g (b.record calls) (b'.record (calls.map (Call.renumber ρ))) where
  nextHandle := by
    have plays : (calls.map (Call.renumber ρ)).countP Call.isPlay = calls.countP Call.isPlay := by
      rw [List.countP_map]
      exact List.countP_congr fun c _ => by simp
    simp only [Backend.record, h.nextHandle, plays, Renumbering.stream, UInt64.add_assoc,
      UInt64.add_comm ρ.streams]
  refuses later e := by
    simp only [Backend.record, List.append_assoc, ← List.map_append]
    exact h.refuses (calls ++ later) e

end Backend.Mirrors

namespace Queue

variable (ρ : Renumbering) (q : Queue)

/-- An edit under other numbers; what is taken out depends on the edit. -/
def renumberEdit {α : Type} (f : α → α) (r : Except QueueError (α × Queue)) :
    Except QueueError (α × Queue) :=
  r.map fun edited => (f edited.1, edited.2.renumber ρ)

theorem renumber_enqueue (e : Entry) :
    (q.renumber ρ).enqueue (e.renumber ρ) = (q.length, (q.enqueue e).2.renumber ρ) := by
  simp [enqueue, renumber, length]

theorem renumber_tryEnqueue (e : Entry) (capacity : Nat) :
    (q.renumber ρ).tryEnqueue (e.renumber ρ) capacity = renumberEdit ρ id (q.tryEnqueue e capacity) := by
  unfold tryEnqueue
  rw [renumber_length, renumber_enqueue]
  split
  · rfl
  · rfl

theorem renumber_removeAt (position : Nat) :
    (q.renumber ρ).removeAt position = renumberEdit ρ (Entry.renumber ρ) (q.removeAt position) := by
  unfold removeAt
  rw [renumber_entries, List.getElem?_map]
  cases q.entries[position]? with
  | none => rfl
  | some e => simp [renumberEdit, Except.map, renumber, List.eraseIdx_map]

theorem renumber_removeByRequester (m : MemberId) :
    (q.renumber ρ).removeByRequester m =
      renumberEdit ρ (List.map (Entry.renumber ρ)) (q.removeByRequester m) := by
  have own : (fun e : Entry => decide (e.requester = m)) ∘ Entry.renumber ρ =
      fun e => decide (e.requester = m) := rfl
  unfold removeByRequester
  rw [List.partition_eq_filter_filter, List.partition_eq_filter_filter, renumber_entries,
    List.filter_map, List.filter_map, own]
  cases q.entries.filter fun e => decide (e.requester = m) with
  | nil => rfl
  | cons e removed => rfl

theorem renumber_checkPair (a b : Nat) : (q.renumber ρ).checkPair a b = q.checkPair a b := by
  simp only [checkPair, renumber_length]

theorem renumber_swap (a b : Nat) :
    (q.renumber ρ).swap a b = (q.swap a b).map (Queue.renumber ρ) := by
  unfold swap
  rw [renumber_checkPair]
  cases q.checkPair a b with
  | error e => rfl
  | ok _ =>
      simp only [renumber_entries, List.getElem?_map]
      cases q.entries[a]? with
      | none => rfl
      | some x =>
          cases q.entries[b]? with
          | none => rfl
          | some y => simp [bind, Except.bind, pure, Except.pure, Except.map, renumber, List.map_set]

theorem renumber_move (source target : Nat) :
    (q.renumber ρ).move source target = (q.move source target).map (Queue.renumber ρ) := by
  unfold move
  rw [renumber_checkPair]
  cases q.checkPair source target with
  | error e => rfl
  | ok _ =>
      simp only [renumber_entries, List.getElem?_map]
      cases q.entries[source]? with
      | none => rfl
      | some e =>
          simp [bind, Except.bind, pure, Except.pure, Except.map, renumber, List.eraseIdx_map,
            List.map_insertIdx]

theorem renumber_shuffle {arr arr' : Arrangement} (same : arr.Mirrors ρ arr') :
    (q.renumber ρ).shuffle arr' = (q.shuffle arr).renumber ρ :=
  congrArg Queue.mk (same q.entries)

theorem renumber_totalDuration? : (q.renumber ρ).totalDuration? = q.totalDuration? := by
  simp only [totalDuration?, renumber_entries, List.filterMap_map]
  rfl

theorem renumber_page (index size : Nat) :
    (q.renumber ρ).page index size =
      (q.page index size).map fun placed => (placed.1, placed.2.renumber ρ) := by
  simp only [page, renumber_entries, List.zipIdx_map, List.map_map, List.map_drop, List.map_take]
  rfl

end Queue

/-- Two operations do the same on the session of a guild, under other numbers. -/
def Echoes {α : Type} (ρ : Renumbering) (g : GuildId) (f : α → α)
    (operation operation' : Backend → Nat → Session → Outcome α) : Prop :=
  ∀ b b' now s, Backend.Mirrors ρ g b b' → s.guild = g →
    operation' b' now (s.renumber ρ) = (operation b now s).renumber ρ f

theorem Outcome.renumber_map {α β : Type} {ρ : Renumbering} {f : α → α} {f' : β → β} {k k' : α → β}
    (same : ∀ a, k' (f a) = f' (k a)) (o : Outcome α) :
    (o.renumber ρ f).map k' = (o.map k).renumber ρ f' := by
  simp only [renumber, map, same]

theorem Outcome.renumber_after {α : Type} (ρ : Renumbering) (f : α → α) (x : Signals)
    (o : Outcome α) :
    { o.renumber ρ f with signals := x.renumber ρ ++ (o.renumber ρ f).signals } =
      ({ o with signals := x ++ o.signals } : Outcome α).renumber ρ f := by
  simp only [renumber, Signals.renumber_append]

namespace Session

variable {ρ : Renumbering} {b b' : Backend} {s : Session}

section Loads

variable (h : Backend.Mirrors ρ s.guild b b') (now : Nat)
include h

theorem play_renumber (e : Entry) :
    play b' now (e.renumber ρ) (s.renumber ρ) = (play b now e s).renumber ρ id := by
  unfold play
  rw [renumber_guild, h.refusal?]
  cases b.refusal? s.guild e with
  | none => simp [Outcome.renumber, Session.renumber, Signals.renumber, h.nextHandle, Event.renumber,
      Call.renumber]
  | some refusal => rfl

omit h in
theorem goIdle_renumber : goIdle now (s.renumber ρ) = (goIdle now s).renumber ρ id := by
  unfold goIdle
  rw [renumber_isIdle]
  cases s.isIdle with
  | true | false => rfl

omit h in
theorem play_guild (e : Entry) : (play b now e s).session.guild = s.guild := by
  unfold play
  cases b.refusal? s.guild e with
  | none | some => rfl

omit h in
theorem startFrom_accepted {e : Entry} (accepted : b.refusal? s.guild e = none) (l : List Entry) :
    startFrom b now s (e :: l) =
      { result := ()
        session := s.loaded e b.nextHandle l now
        signals := loading s.guild e b.nextHandle } := by
  simp only [startFrom, play_accepted (s := { s with queue := ⟨l⟩ }) accepted, if_true]
  rfl

omit h in
theorem startFrom_refused {e : Entry} {refusal : PlayerError}
    (refused : b.refusal? s.guild e = some refusal) (l : List Entry) :
    startFrom b now s (e :: l) =
      let later := startFrom (b.record [.refuse s.guild e.id]) now { s with queue := ⟨l⟩ } l
      { later with
        signals := ⟨[.trackFailed s.guild e refusal.message], [.refuse s.guild e.id]⟩ ++
          later.signals } := by
  simp only [startFrom, play_refused (s := { s with queue := ⟨l⟩ }) refused]
  rfl

theorem startFrom_renumber (l : List Entry) :
    startFrom b' now (s.renumber ρ) (l.map (Entry.renumber ρ)) =
      (startFrom b now s l).renumber ρ id := by
  induction l generalizing b b' s with
  | nil => exact goIdle_renumber (s := { s with queue := .empty }) now
  | cons e l ih =>
      have asked : b'.refusal? s.guild (e.renumber ρ) = b.refusal? s.guild e := h.refusal? e
      cases refused : b.refusal? s.guild e with
      | none =>
          rw [List.map_cons, startFrom_accepted now refused,
            startFrom_accepted (s := s.renumber ρ) now (asked.trans refused), h.nextHandle]
          rfl
      | some refusal =>
          -- Both backends are told alike, so the next entry finds them with the same answers.
          have later := ih (s := { s with queue := ⟨l⟩ }) (h.record [.refuse s.guild e.id])
          rw [List.map_cons, startFrom_refused now refused,
            startFrom_refused (s := s.renumber ρ) now (asked.trans refused)]
          refine Eq.trans ?_ (Outcome.renumber_after ρ id _ _)
          rw [← later]
          rfl

theorem startNext_renumber :
    startNext b' now (s.renumber ρ) = (startNext b now s).renumber ρ id :=
  startFrom_renumber (s := { s with current := none, stream := none }) h now s.queue.entries

end Loads

theorem renumber_currentId_eq {id : EntryId} :
    (s.renumber ρ).currentId = some (ρ.entry id) ↔ s.currentId = some id := by
  rw [renumber_currentId]
  cases s.currentId with
  | none => simp
  | some loaded => simp

theorem findIdx?_renumber (l : List Entry) (id : EntryId) :
    (l.map (Entry.renumber ρ)).findIdx? (fun e => e.id = ρ.entry id) =
      l.findIdx? fun e => e.id = id := by
  rw [List.findIdx?_map]
  congr 1
  funext e
  simp

theorem failure?_renumber (e : Event) :
    (e.renumber ρ).failure? = e.failure?.map fun f => (f.1.renumber ρ, f.2) := by
  cases e with
  | nowPlaying | trackFailed | queueEnded | paused | resumed | stopped | queueCleared => rfl

theorem failureReason?_renumber (id : EntryId) (events : List Event) :
    failureReason? (ρ.entry id) (events.map (Event.renumber ρ)) = failureReason? id events := by
  unfold failureReason?
  rw [← List.map_reverse, List.filterMap_map]
  have failures : (events.reverse.filterMap (Event.failure? ∘ Event.renumber ρ)) =
      (events.reverse.filterMap Event.failure?).map fun f => (f.1.renumber ρ, f.2) := by
    rw [List.map_filterMap]
    congr 1
    funext e
    exact failure?_renumber e
  rw [failures, List.findSome?_map]
  congr 1
  funext f
  simp

section Operations

variable (ρ) (g : GuildId)

/-- What became of an entry that an idle session was to play. -/
def placed (own : EntryId) (o : Outcome Unit) : Except PlayerError Enqueued :=
  if o.session.currentId = some own then .ok .nowPlaying
  else match o.session.queue.entries.findIdx? (fun e => e.id = own) with
    | some p => .ok (.queued p)
    | none => .error (.load ((failureReason? own o.signals.events).getD ""))

omit g in
theorem placed_renumber (own : EntryId) (o : Outcome Unit) :
    placed (ρ.entry own) (o.renumber ρ id) = placed own o := by
  have loaded : ((o.session.renumber ρ).currentId = some (ρ.entry own)) =
      (o.session.currentId = some own) := propext renumber_currentId_eq
  have waits : (o.session.renumber ρ).queue.entries.findIdx? (fun e => e.id = ρ.entry own) = _ :=
    findIdx?_renumber o.session.queue.entries own
  have reason : failureReason? (ρ.entry own) (o.signals.renumber ρ).events = _ :=
    failureReason?_renumber own o.signals.events
  simp only [placed, Outcome.renumber, loaded, waits, reason]

theorem echoes_enqueue (e : Entry) (capacity : Nat) :
    Echoes ρ g id (Session.enqueue e capacity) (Session.enqueue (e.renumber ρ) capacity) := by
  rintro b b' now s h rfl
  have tried : (s.renumber ρ).queue.tryEnqueue (e.renumber ρ) capacity = _ :=
    s.queue.renumber_tryEnqueue ρ e capacity
  unfold enqueue
  rw [tried]
  cases s.queue.tryEnqueue e capacity with
  | error full => rfl
  | ok added =>
      have next := startNext_renumber (s := { s with queue := added.2, lastActivity := now }) h now
      have told (o o' : Outcome Unit) (same : o' = o.renumber ρ id) :
          (o'.map fun _ => placed (ρ.entry e.id) o') =
            (o.map fun _ => placed e.id o).renumber ρ id := by
        rw [same, placed_renumber]
        rfl
      change (if s.isIdle = true then _ else _) = Outcome.renumber ρ id (if s.isIdle = true then _ else _)
      split
      · exact told _ _ next
      · rfl

theorem echoes_pause : Echoes ρ g id (fun _ now s => s.pause now) (fun _ now s => s.pause now) := by
  rintro b b' now ⟨_, _, _, _, status, _, _⟩ _ rfl
  cases status with
  | idle | playing | paused => rfl

theorem echoes_resume :
    Echoes ρ g id (fun _ now s => s.resume now) (fun _ now s => s.resume now) := by
  rintro b b' now ⟨_, _, _, _, status, _, _⟩ _ rfl
  cases status with
  | idle | playing | paused => rfl

theorem echoes_trackStarted :
    Echoes ρ g id (fun _ now s => s.trackStarted now) (fun _ now s => s.trackStarted now) := by
  rintro b b' now ⟨_, _, current, _, _, _, _⟩ _ rfl
  cases current with
  | none | some => rfl

/-- What was signalled before comes first, under other numbers as well. -/
theorem joined_renumber {α : Type} {o o' : Outcome Unit} (same : o' = o.renumber ρ id) (f : α → α)
    (result : α) (x : Signals) :
    { result := f result, session := o'.session, signals := x.renumber ρ ++ o'.signals } =
      ({ result, session := o.session, signals := x ++ o.signals } : Outcome α).renumber ρ f := by
  rw [same]
  simp only [Outcome.renumber, Signals.renumber_append]

/-- The result is one that was known before. -/
theorem known_renumber {α : Type} {o o' : Outcome Unit} (same : o' = o.renumber ρ id) (f : α → α)
    (result : α) : (o'.map fun _ => f result) = (o.map fun _ => result).renumber ρ f := by
  rw [same]
  rfl

theorem echoes_skip : Echoes ρ g (Except.map (Entry.renumber ρ)) Session.skip Session.skip := by
  rintro b b' now ⟨guild, queue, current, stream, status, repeatMode, lastActivity⟩ h rfl
  cases current with
  | none => rfl
  | some e =>
      have next := startNext_renumber
        (s := ⟨guild, queue, none, stream, status, repeatMode, lastActivity⟩) h now
      exact known_renumber ρ next (Except.map (Entry.renumber ρ)) (.ok e)

theorem echoes_trackFailed (reason : String) :
    Echoes ρ g id (Session.trackFailed reason) (Session.trackFailed reason) := by
  rintro b b' now ⟨guild, queue, current, stream, status, repeatMode, lastActivity⟩ h rfl
  cases current with
  | none => rfl
  | some e =>
      have next := startNext_renumber
        (s := ⟨guild, queue, none, stream, status, repeatMode, lastActivity⟩) h now
      exact joined_renumber ρ next id true ⟨[.trackFailed guild e reason], []⟩

theorem echoes_trackFinished : Echoes ρ g id Session.trackFinished Session.trackFinished := by
  rintro b b' now ⟨guild, queue, current, stream, status, repeatMode, lastActivity⟩ h rfl
  cases current with
  | none => rfl
  | some e =>
      cases repeatMode with
      | off =>
          have next := startNext_renumber
            (s := ⟨guild, queue, none, none, status, .off, lastActivity⟩) h now
          exact known_renumber ρ next id true
      | queue =>
          have next := startNext_renumber
            (s := ⟨guild, (queue.enqueue e).2, none, none, status, .queue, lastActivity⟩) h now
          have last : (queue.enqueue e).2.renumber ρ =
              ((queue.renumber ρ).enqueue (e.renumber ρ)).2 := by rw [queue.renumber_enqueue]
          simp only [renumber, last] at next
          exact known_renumber ρ next id true
      | track =>
          let unloaded : Session := ⟨guild, queue, none, none, status, .track, lastActivity⟩
          let tried := play b now e unloaded
          let tried' := play b' now (e.renumber ρ) (unloaded.renumber ρ)
          have again : tried' = tried.renumber ρ id := play_renumber (s := unloaded) h now e
          have told := h.record tried.signals.calls
          rw [← play_guild (s := unloaded) (b := b) now e] at told
          have next : startNext (b'.record tried'.signals.calls) now tried'.session =
              (startNext (b.record tried.signals.calls) now tried.session).renumber ρ id := by
            rw [again]
            exact startNext_renumber told now
          have played : tried'.result = tried.result := by
            rw [again]
            rfl
          change (if tried'.result then tried' else _) =
            Outcome.renumber ρ id (if tried.result then tried else _)
          cases accepted : tried.result with
          | true =>
              rw [played, accepted]
              exact again
          | false =>
              rw [played, accepted]
              have signalled : tried'.signals = tried.signals.renumber ρ := by
                rw [again]
                rfl
              have joined := joined_renumber ρ next id true tried.signals
              rw [← signalled] at joined
              exact joined

theorem echoes_stop : Echoes ρ g id (fun _ now s => s.stop now) (fun _ now s => s.stop now) := by
  rintro b b' now ⟨guild, queue, current, stream, status, repeatMode, lastActivity⟩ _ rfl
  have cleared : (queue.renumber ρ).clear = (queue.length, .empty) := by
    rw [Queue.clear, Queue.renumber_length]
  simp only [stop, Session.renumber, cleared]
  cases current with
  | none | some => rfl

theorem echoes_clearQueue :
    Echoes ρ g id (fun _ now s => s.clearQueue now) (fun _ now s => s.clearQueue now) := by
  rintro b b' now ⟨guild, queue, current, stream, status, repeatMode, lastActivity⟩ _ rfl
  have cleared : (queue.renumber ρ).clear = (queue.length, .empty) := by
    rw [Queue.clear, Queue.renumber_length]
  simp only [clearQueue, Session.renumber, cleared]
  rfl

theorem echoes_setRepeat (mode : RepeatMode) :
    Echoes ρ g id (fun _ now s => s.setRepeat mode now) (fun _ now s => s.setRepeat mode now) := by
  rintro b b' now s _ rfl
  rfl

theorem echoes_release : Echoes ρ g id (fun _ _ s => s.release) (fun _ _ s => s.release) := by
  rintro b b' now s _ rfl
  rfl

theorem edit_renumber {α : Type} (f : α → α) (now : Nat) (r : Except QueueError (α × Queue)) :
    (s.renumber ρ).edit now (Queue.renumberEdit ρ f r) = (s.edit now r).renumber ρ (Except.map f) := by
  cases r with
  | error | ok => rfl

/-- An edit that takes nothing out. -/
theorem rearrange_renumber (now : Nat) (r : Except QueueError Queue) :
    (s.renumber ρ).edit now ((r.map (Queue.renumber ρ)).map fun q => ((), q)) =
      (s.edit now (r.map fun q => ((), q))).renumber ρ id := by
  cases r with
  | error | ok => rfl

theorem echoes_removeAt (position : Nat) :
    Echoes ρ g (Except.map (Entry.renumber ρ)) (fun _ now s => s.removeAt position now)
      (fun _ now s => s.removeAt position now) := by
  rintro b b' now s _ rfl
  have removed : (s.renumber ρ).queue.removeAt position = _ := s.queue.renumber_removeAt ρ position
  simp only [removeAt, removed]
  exact edit_renumber ρ _ now _

theorem echoes_removeByRequester (m : MemberId) :
    Echoes ρ g (Except.map (List.map (Entry.renumber ρ))) (fun _ now s => s.removeByRequester m now)
      (fun _ now s => s.removeByRequester m now) := by
  rintro b b' now s _ rfl
  have removed : (s.renumber ρ).queue.removeByRequester m = _ :=
    s.queue.renumber_removeByRequester ρ m
  simp only [removeByRequester, removed]
  exact edit_renumber ρ _ now _

theorem echoes_swap (x y : Nat) :
    Echoes ρ g id (fun _ now s => s.swap x y now) (fun _ now s => s.swap x y now) := by
  rintro b b' now s _ rfl
  have swapped : (s.renumber ρ).queue.swap x y = _ := s.queue.renumber_swap ρ x y
  simp only [swap, swapped]
  exact rearrange_renumber ρ now _

theorem echoes_move (source target : Nat) :
    Echoes ρ g id (fun _ now s => s.move source target now)
      (fun _ now s => s.move source target now) := by
  rintro b b' now s _ rfl
  have moved : (s.renumber ρ).queue.move source target = _ := s.queue.renumber_move ρ source target
  simp only [move, moved]
  exact rearrange_renumber ρ now _

theorem echoes_shuffle {arr arr' : Arrangement} (same : arr.Mirrors ρ arr') :
    Echoes ρ g id (fun _ now s => s.shuffle arr now) (fun _ now s => s.shuffle arr' now) := by
  rintro b b' now s _ rfl
  have shuffled : (s.renumber ρ).queue.shuffle arr' = _ := s.queue.renumber_shuffle ρ same
  have length : (s.renumber ρ).queue.length = s.queue.length := s.queue.renumber_length ρ
  simp only [shuffle, shuffled, length]
  by_cases few : s.queue.length < 2
  · rw [if_pos few, if_pos few]
    rfl
  · rw [if_neg few, if_neg few]
    exact rearrange_renumber ρ now (.ok (s.queue.shuffle arr))

end Operations

end Session

end Jukebox
