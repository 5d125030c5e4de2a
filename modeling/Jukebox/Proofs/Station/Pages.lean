import Jukebox.Proofs.Queue.Pages
import Jukebox.Proofs.Queue.Positions
import Jukebox.Proofs.Station.Service
import Jukebox.Proofs.Text.Numeral

/-!
What a member sees of a queue and what a DJ takes out of it. Commands count places and pages from one,
and everything behind them counts from zero; all the same the entry that is removed is the one that is
shown at the place that was named.
-/

namespace Jukebox

theorem permission_of_remove :
    ∀ spec ∈ commands, spec.action = .remove → spec.permission = .dj := by
  decide

theorem permission_of_queue :
    ∀ spec ∈ commands, spec.action = .queue → spec.permission = .anyone := by
  decide

namespace Invocation

/-- A command that stands for the action, given in the guild with a first argument. -/
structure Asks (i : Invocation) (a : Action) (g : GuildId) (raw : String) : Prop where
  named : ∃ spec, findCommand? i.name = some spec ∧ spec.action = a
  guild : i.guild = g
  argument : i.args[0]? = some raw

/-- An argument names a place, counted from one, or it is malformed. -/
theorem position_cases {i : Invocation} {raw : String} (there : i.args[0]? = some raw) (name : String) :
    (∃ n, Text.Spells raw (n + 1) ∧ i.position 0 name = .ok n) ∨
    ((∀ n, ¬ Text.Spells raw (n + 1)) ∧ ∃ e, i.position 0 name = .error e) := by
  unfold Text.Spells
  simp only [position, arg, there, bind, Except.bind]
  cases Text.numeral Config.maxWord64 (Text.trim raw) with
  | error e => exact .inr ⟨nofun, _, rfl⟩
  | ok k =>
      cases k with
      | zero => exact .inr ⟨nofun, _, rfl⟩
      | succ n => exact .inl ⟨n, rfl, rfl⟩

theorem position_of_spells {i : Invocation} {raw : String} (there : i.args[0]? = some raw) {n : Nat}
    (spelled : Text.Spells raw (n + 1)) (name : String) : i.position 0 name = .ok n := by
  rcases position_cases there name with ⟨n', spelled', read⟩ | ⟨none, _⟩
  · obtain rfl : n = n' := Nat.succ.inj (spelled.unique spelled')
    exact read
  · exact absurd spelled (none n)

end Invocation

namespace Station

/-- The entries on a page; there are none where there is no page. -/
def shownAt (s : Station) (g : GuildId) (index : Nat) : List (Nat × Entry) :=
  match s.queuePage g index with
  | .ok (some page) => page.entries
  | _ => []

/-- The pages of a guild show its queue: the first one always exists, and together they are the whole
queue in order, with a full page wherever another one follows. -/
structure ShowsPages (s : Station) (g : GuildId) (q : Queue) (total : Playtime) : Prop where
  page : ∀ i, i = 0 ∨ i < q.length ⌈/⌉ s.pageSize →
    s.queuePage g i = .ok (some
      { index := i
        pageCount := q.length ⌈/⌉ s.pageSize
        total := q.length
        totalSecs := total.secs
        entries := s.shownAt g i })
  missing : ∀ i, ¬(i = 0 ∨ i < q.length ⌈/⌉ s.pageSize) →
    ∃ text, s.queuePage g i = .error (.notFound text)
  joined : ∀ n, q.length ⌈/⌉ s.pageSize ≤ n →
    (List.range n).flatMap (s.shownAt g) = (List.range q.length).zip q.entries
  full : ∀ i, i + 1 < q.length ⌈/⌉ s.pageSize → (s.shownAt g i).length = s.pageSize
  last : ∀ i, i + 1 = q.length ⌈/⌉ s.pageSize →
    0 < (s.shownAt g i).length ∧ (s.shownAt g i).length ≤ s.pageSize

section Live

variable {s : Station} (sized : 0 < s.pageSize) {g : GuildId} {session : Session}
  (live : s.session? g = some session) {total : Playtime}
  (fits : session.queue.totalDuration? = some total)
include sized live fits

theorem queuePage_of_exists {i : Nat} (there : i = 0 ∨ i < session.queue.length ⌈/⌉ s.pageSize) :
    s.queuePage g i = .ok (some
      { index := i
        pageCount := session.queue.length ⌈/⌉ s.pageSize
        total := session.queue.length
        totalSecs := total.secs
        entries := session.queue.page i s.pageSize }) := by
  have beyond : ¬(0 < i ∧ session.queue.length ⌈/⌉ s.pageSize ≤ i) := by omega
  simp only [queuePage, viewSession, live, fits, Queue.pageCount_eq _ sized, if_neg beyond]

theorem queuePage_of_missing {i : Nat}
    (missing : ¬(i = 0 ∨ i < session.queue.length ⌈/⌉ s.pageSize)) :
    ∃ text, s.queuePage g i = .error (.notFound text) := by
  have beyond : 0 < i ∧ session.queue.length ⌈/⌉ s.pageSize ≤ i := by omega
  simp only [queuePage, viewSession, live, fits, Queue.pageCount_eq _ sized, if_pos beyond]
  exact ⟨_, rfl⟩

/-- A page that does not exist would show nothing either. -/
theorem shownAt_eq (i : Nat) : s.shownAt g i = session.queue.page i s.pageSize := by
  by_cases there : i = 0 ∨ i < session.queue.length ⌈/⌉ s.pageSize
  · rw [shownAt, queuePage_of_exists sized live fits there]
  · obtain ⟨text, missing⟩ := queuePage_of_missing sized live fits there
    have past : session.queue.length ≤ i * s.pageSize := by
      rw [← not_lt, ← Queue.lt_pages_iff _ sized]
      exact fun inside => there (.inr inside)
    have nothing : session.queue.page i s.pageSize = [] := by
      rw [← List.length_eq_zero_iff, Queue.length_page]
      omega
    rw [shownAt, missing, nothing]

theorem showsPages : s.ShowsPages g session.queue total where
  page i there := by
    rw [shownAt_eq sized live fits]
    exact queuePage_of_exists sized live fits there
  missing _ := queuePage_of_missing sized live fits
  joined n enough := by
    have shown : s.shownAt g = fun i => session.queue.page i s.pageSize :=
      funext (shownAt_eq sized live fits)
    rw [shown]
    exact session.queue.flatMap_page_eq_numbered sized enough
  full i later := by
    rw [shownAt_eq sized live fits]
    exact session.queue.length_page_of_later sized later
  last i last := by
    rw [shownAt_eq sized live fits]
    exact session.queue.length_page_of_last sized last

end Live

/-- A DJ who names a place takes out the entry that is shown there, and one who names no place of the
queue takes out nothing. -/
structure RemovesShown (s : Station) (g : GuildId) (session : Session) : Prop where
  removes : ∀ (i : Invocation) (raw : String) (n : Nat),
    i.Asks .remove g raw → Permission.dj.allows i.roles = true → Text.Spells raw n →
    1 ≤ n → n ≤ session.queue.length →
    ∃ e, session.queue.entries[n - 1]? = some e ∧
      (s.dispatch i).1 = .ok (.removed [e]) ∧
      (s.dispatch i).2.session? g = some
        { session with
          queue := ⟨session.queue.entries.eraseIdx (n - 1)⟩
          lastActivity := s.now } ∧
      ∀ (j : Invocation) (raw' : String),
        j.Asks .queue g raw' → Text.Spells raw' ((n - 1) / s.pageSize + 1) →
        ∃ page, (s.dispatch j).1 = .ok (.queue (some page)) ∧
          page.index = (n - 1) / s.pageSize ∧
          page.entries[(n - 1) % s.pageSize]? = some (n - 1, e)
  declines : ∀ (i : Invocation) (raw : String),
    i.Asks .remove g raw → Permission.dj.allows i.roles = true →
    (∀ n, Text.Spells raw n → n = 0 ∨ session.queue.length < n) →
    (∃ e, (s.dispatch i).1 = .error e) ∧ (s.dispatch i).2.session? g = some session

section Commands

variable {s : Station} {g : GuildId} {i : Invocation} {raw : String}

/-- A command is performed if the member has the permission that it needs. -/
theorem dispatch_of_asks {a : Action} (asks : i.Asks a g raw) {p : Permission}
    (needs : ∀ spec ∈ commands, spec.action = a → spec.permission = p)
    (allowed : p.allows i.roles = true) :
    s.dispatch i = ((s.perform i a).1, (s.perform i a).2.count Metrics.commandHandled) := by
  obtain ⟨spec, found, rfl⟩ := asks.named
  rw [← needs spec (mem_commands found) rfl] at allowed
  rw [dispatch, found]
  dsimp only
  rw [if_pos allowed]

/-- A DJ's command to remove asks for the place that its argument names. -/
theorem dispatch_remove (asks : i.Asks .remove g raw) (dj : Permission.dj.allows i.roles = true) {n : Nat}
    (spelled : Text.Spells raw (n + 1)) :
    s.dispatch i = ((s.removeAt g n).1.map (fun e => .removed [e]),
      (s.removeAt g n).2.count Metrics.commandHandled) := by
  rw [dispatch_of_asks asks permission_of_remove dj, perform, Invocation.plan,
    Invocation.position_of_spells asks.argument spelled, asks.guild]
  rfl

theorem dispatch_remove_nowhere (asks : i.Asks .remove g raw)
    (dj : Permission.dj.allows i.roles = true) (nowhere : ∀ n, ¬ Text.Spells raw (n + 1)) :
    ∃ e, s.dispatch i = (.error e, s.count Metrics.commandHandled) := by
  rcases Invocation.position_cases asks.argument "position" with ⟨n, spelled, _⟩ | ⟨_, e, failed⟩
  · exact absurd spelled (nowhere n)
  · refine ⟨e, ?_⟩
    rw [dispatch_of_asks asks permission_of_remove dj, perform, Invocation.plan, failed]
    rfl

/-- Anyone's command for a page shows the page that its argument names. -/
theorem dispatch_queue (asks : i.Asks .queue g raw) {n : Nat} (spelled : Text.Spells raw (n + 1)) :
    (s.dispatch i).1 = (s.queuePage g n).map .queue := by
  have some : i.args.isEmpty = false := by
    rw [List.isEmpty_eq_false_iff]
    intro none
    have there := asks.argument
    rw [none] at there
    cases there
  have index : i.pageIndex = .ok n := by
    rw [Invocation.pageIndex, some]
    exact Invocation.position_of_spells asks.argument spelled "page"
  rw [dispatch_of_asks asks permission_of_queue rfl, perform, Invocation.plan, index, asks.guild]
  rfl

end Commands

/-- Of a live session the entry at a position is taken out, or nothing is changed. -/
theorem removeAt_cases {s : Station} (grounded : s.registry.Grounded) {g : GuildId} {session : Session}
    (live : s.session? g = some session) (position : Nat) :
    (session.queue.length ≤ position ∧ (∃ e, (s.removeAt g position).1 = .error e) ∧
      (s.removeAt g position).2.session? g = some session) ∨
    ∃ e, session.queue.entries[position]? = some e ∧ (s.removeAt g position).1 = .ok e ∧
      (s.removeAt g position).2.session? g = some
        { session with
          queue := ⟨session.queue.entries.eraseIdx position⟩
          lastActivity := s.now } := by
  cases found : s.registry.live.get? g with
  | none =>
      rw [session?, Registry.session?, found] at live
      cases live
  | some slot =>
      rw [session?_of_found found] at live
      cases live
      rw [removeAt, withSession_of_found found, apply_session? grounded found, apply_eq]
      dsimp only [outcomeIn, Session.removeAt]
      rcases slot.session.queue.removeAt_cases position with ⟨outside, failed⟩ | ⟨e, there, done⟩
      · rw [failed]
        exact .inl ⟨outside, ⟨_, rfl⟩, rfl⟩
      · rw [done]
        exact .inr ⟨e, there, rfl, rfl⟩

theorem removesShown {s : Station} (grounded : s.registry.Grounded) (sized : 0 < s.pageSize)
    {g : GuildId} {session : Session} (live : s.session? g = some session) {total : Playtime}
    (fits : session.queue.totalDuration? = some total) : s.RemovesShown g session where
  removes i raw n asks dj spelled first last := by
    obtain ⟨k, rfl⟩ : ∃ k, n = k + 1 := ⟨n - 1, by omega⟩
    rw [Nat.add_sub_cancel]
    rcases removeAt_cases grounded live k with ⟨outside, _⟩ | ⟨e, there, taken, left⟩
    · omega
    · refine ⟨e, there, ?_, ?_, ?_⟩
      · rw [dispatch_remove asks dj spelled, taken]
        rfl
      · rw [dispatch_remove asks dj spelled]
        exact left
      · intro j raw' asks' spelled'
        have inside : k / s.pageSize < session.queue.length ⌈/⌉ s.pageSize := by
          rw [Queue.lt_pages_iff _ sized]
          exact (Nat.div_mul_le_self k s.pageSize).trans_lt last
        have shown := queuePage_of_exists sized live fits (.inr inside)
        refine ⟨_, by rw [dispatch_queue asks' spelled', shown]; rfl, rfl, ?_⟩
        rw [← session.queue.getElem?_numbered there]
        exact session.queue.getElem?_page sized k
  declines i raw asks dj nowhere := by
    -- A place behind the end is refused by the queue; what names no place does not get that far.
    by_cases named : ∃ n, Text.Spells raw (n + 1)
    · obtain ⟨k, spelled⟩ := named
      have outside : session.queue.length ≤ k := by
        rcases nowhere _ spelled with zero | past
        · exact absurd zero k.succ_ne_zero
        · exact Nat.le_of_lt_succ past
      rw [dispatch_remove asks dj spelled]
      rcases removeAt_cases grounded live k with ⟨_, ⟨e, failed⟩, same⟩ | ⟨e, there, _⟩
      · exact ⟨⟨e, by rw [failed]; rfl⟩, same⟩
      · rw [List.getElem?_eq_none outside] at there
        cases there
    · obtain ⟨e, same⟩ := dispatch_remove_nowhere (s := s) asks dj (not_exists.mp named)
      rw [same]
      exact ⟨⟨e, rfl⟩, live⟩

/-- In every state that a run can reach, the pages of a live session show its queue, and what a DJ
removes by its place is what is shown there: the n-th entry is on page (n - 1) / size + 1, where
(n - 1) % size others come before it. -/
theorem page_shows_what_is_removed (config : Config) (repository : Repository) (backend : Backend)
    (os : List Occurrence) (g : GuildId) (session : Session) (total : Playtime)
    (live : ((create config repository backend).through os).session? g = some session)
    (fits : session.queue.totalDuration? = some total) :
    let s := (create config repository backend).through os
    s.pageSize = max config.pageSize 1 ∧ s.ShowsPages g session.queue total ∧
      s.RemovesShown g session := by
  intro s
  have grounded : s.registry.Grounded := through_grounded (.empty backend) os
  have size : s.pageSize = max config.pageSize 1 := (create config repository backend).through_pageSize os
  have sized : 0 < s.pageSize := by
    rw [size]
    exact Nat.le_max_right _ _
  exact ⟨size, showsPages sized live fits, removesShown grounded sized live fits⟩

/-- Two entries fill the first page, so the third of four stands alone at the top of the second. -/
theorem page_shows_what_is_removed_of_third :
    let g : GuildId := ⟨1⟩
    let os : List Occurrence :=
      ["a", "b", "c", "d"].map fun id => .act (.ask (.enqueue g ⟨1⟩ ⟨id⟩ none))
    let s := (create { pageSize := 2 } {} { nextHandle := ⟨1⟩ }).through os
    let i : Invocation :=
      { guild := g, member := ⟨2⟩, roles := { dj := true }, name := "rm", args := [toString 3] }
    let j : Invocation := { guild := g, member := ⟨1⟩, name := "Queue", args := [toString 2] }
    ∃ session e page, s.session? g = some session ∧ session.queue.totalDuration? = some .zero ∧
      session.queue.entries.map (·.id) = [⟨2⟩, ⟨3⟩, ⟨4⟩] ∧
      (s.dispatch i).1 = .ok (.removed [e]) ∧ (s.dispatch j).1 = .ok (.queue (some page)) ∧
      page.entries[0]? = some (2, e) := by
  intro g os s i j
  have seen : (s.session? g).map (fun x => (x.queue.totalDuration?, x.queue.entries.map (·.id))) =
      some (some .zero, [⟨2⟩, ⟨3⟩, ⟨4⟩]) := by
    decide +kernel
  obtain ⟨session, live, there⟩ := Option.map_eq_some_iff.mp seen
  obtain ⟨fits, ids⟩ := Prod.mk.inj there
  obtain ⟨size, _, shown⟩ :=
    page_shows_what_is_removed { pageSize := 2 } {} { nextHandle := ⟨1⟩ } os g session .zero live fits
  have three : session.queue.length = 3 := by simpa [Queue.length] using congrArg List.length ids
  have asks : i.Asks .remove g (toString 3) := ⟨Option.map_eq_some_iff.mp (by decide +kernel), rfl, rfl⟩
  have asks' : j.Asks .queue g (toString 2) := ⟨Option.map_eq_some_iff.mp (by decide +kernel), rfl, rfl⟩
  have spelled : Text.Spells (toString 3) 3 := Text.spells_toString (by decide)
  have spelled' : Text.Spells (toString 2) ((3 - 1) / s.pageSize + 1) := by
    rw [size]
    exact Text.spells_toString (by decide)
  obtain ⟨e, _, removed, _, displayed⟩ :=
    shown.removes i _ 3 asks rfl spelled (by decide) (Nat.le_of_eq three.symm)
  obtain ⟨page, reply, _, place⟩ := displayed j _ asks' spelled'
  rw [size] at place
  exact ⟨session, e, page, live, fits, ids, removed, reply, place⟩

end Station

end Jukebox
