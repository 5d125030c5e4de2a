import Jukebox.Document.Settings
import Jukebox.Document.Track
import Jukebox.Proofs.Document.Form

/-!
The forms of the types that are written as documents. Each type follows its form: it is read from what it was
written as, and whatever else it is read from is brought into normal form by writing it again.
-/

namespace Jukebox

namespace Document

namespace Form

def word8 : Form := word (UInt8.size - 1)

def word32 : Form := word (UInt32.size - 1)

def word64 : Form := word (UInt64.size - 1)

def settingValue : Form := either word32 flag

def settingKey : Form :=
  name ["skip_ratio", "vote_timeout_secs", "max_queue_size", "auto_disconnect_minutes", "self_vote",
    "leave_empty_channel_secs"]

def guildSettings : Form :=
  record
    [ ("skip_ratio", optional word8), ("vote_timeout_secs", optional word32),
      ("max_queue_size", optional word32), ("auto_disconnect_minutes", optional word32),
      ("self_vote", optional flag), ("leave_empty_channel_secs", optional word32) ]

def trackRef : Form := record [("url", text)]

/-- Seconds and nanoseconds as they are written. -/
def time (secs nanos : Nat) : Document := .record [("secs", .number secs), ("nanos", .number nanos)]

def timeFields : List (String × Form) := [("secs", word64), ("nanos", word32)]

/-- A record of seconds and nanoseconds and nothing else. Full seconds of nanoseconds are carried; if there are
then too many seconds, it is not read. -/
def duration : Form := fun d e =>
  (∀ given, d = .record given → ∀ f ∈ given, f.1 ∈ ["secs", "nanos"]) ∧
    ∃ secs nanos, record timeFields d (time secs nanos) ∧
      secs + nanos / 1000000000 < UInt64.size ∧
      e = time (secs + nanos / 1000000000) (nanos % 1000000000)

def trackMetadata : Form :=
  record
    [ ("title", text), ("duration", optional duration), ("source_url", text),
      ("thumbnail_url", optional text) ]

def entry : Form :=
  record
    [ ("id", word64), ("requester", word64), ("track", trackRef), ("metadata", trackMetadata) ]

end Form

namespace Follows

/-- Types whose values are the numbers up to a limit. -/
theorem of_word {α : Type} [Writable α] [Readable α] {limit : Nat} (ofNat : Nat → α)
    (toNat : α → Nat) (write : ∀ a : α, Document.of a = .number (toNat a))
    (read : ∀ d : Document, d.as? α = (d.natUpTo? limit).map ofNat)
    (small : ∀ a, toNat a ≤ limit) (ofNat_toNat : ∀ a, ofNat (toNat a) = a)
    (toNat_ofNat : ∀ n, n ≤ limit → toNat (ofNat n) = n) : Follows α (Form.word limit) := by
  have reads : ∀ n : Nat, n ≤ limit → (Document.number n).as? α = some (ofNat n) := by
    intro n fits
    simp [read, natUpTo?, fits]
  refine ⟨fun a => ?_, fun d e => ⟨?_, ?_⟩, read _⟩
  · rw [write, reads _ (small a), ofNat_toNat]
  · rintro ⟨n, fits, rfl, rfl⟩
    exact ⟨ofNat n, reads n fits, by rw [write, toNat_ofNat n fits]⟩
  · rintro ⟨a, same, rfl⟩
    rw [read] at same
    obtain ⟨n, found, rfl⟩ := Option.map_eq_some_iff.mp same
    cases d with
    | number i =>
        rw [natUpTo?] at found
        split at found
        · next fits =>
            cases found
            refine ⟨i.toNat, fits.2, ?_, ?_⟩
            · rw [Int.toNat_of_nonneg fits.1]
            · rw [write, toNat_ofNat _ fits.2, Int.toNat_of_nonneg fits.1]
        · cases found
    | _ => cases found

theorem word8 : Follows UInt8 Form.word8 :=
  of_word UInt8.ofNat UInt8.toNat (fun _ => rfl) (fun _ => rfl)
    (fun a => Nat.le_pred_of_lt a.toNat_lt) (fun _ => UInt8.ofNat_toNat)
    fun _ fits => UInt8.toNat_ofNat_of_lt' (Nat.lt_succ_of_le fits)

theorem word32 : Follows UInt32 Form.word32 :=
  of_word UInt32.ofNat UInt32.toNat (fun _ => rfl) (fun _ => rfl)
    (fun a => Nat.le_pred_of_lt a.toNat_lt) (fun _ => UInt32.ofNat_toNat)
    fun _ fits => UInt32.toNat_ofNat_of_lt' (Nat.lt_succ_of_le fits)

theorem word64 : Follows UInt64 Form.word64 :=
  of_word UInt64.ofNat UInt64.toNat (fun _ => rfl) (fun _ => rfl)
    (fun a => Nat.le_pred_of_lt a.toNat_lt) (fun _ => UInt64.ofNat_toNat)
    fun _ fits => UInt64.toNat_ofNat_of_lt' (Nat.lt_succ_of_le fits)

/-- Types whose values are those of another under a name of their own. -/
theorem of_wrapped {α β : Type} [Writable α] [Readable α] [Writable β] [Readable β] {F : Form}
    (h : Follows β F) (mk : β → α) (val : α → β) (write : ∀ a : α, Document.of a = .of (val a))
    (read : ∀ d : Document, d.as? α = (d.as? β).map mk) (mk_val : ∀ a, mk (val a) = a)
    (val_mk : ∀ b, val (mk b) = b) : Follows α F := by
  refine ⟨fun a => ?_, fun d e => ?_, ?_⟩
  · rw [write, read, h.back, Option.map_some, mk_val]
  · rw [h.exact]
    constructor
    · rintro ⟨b, same, rfl⟩
      exact ⟨mk b, by rw [read, same, Option.map_some], by rw [write, val_mk]⟩
    · rintro ⟨a, same, rfl⟩
      rw [read] at same
      obtain ⟨b, found, rfl⟩ := Option.map_eq_some_iff.mp same
      exact ⟨b, found, by rw [write, val_mk]⟩
  · rw [read, h.solid, Option.map_none]

theorem guildId : Follows GuildId Form.word64 :=
  word64.of_wrapped GuildId.mk GuildId.val (fun _ => rfl) (fun _ => rfl) (fun _ => rfl) fun _ => rfl

theorem memberId : Follows MemberId Form.word64 :=
  word64.of_wrapped MemberId.mk MemberId.val (fun _ => rfl) (fun _ => rfl) (fun _ => rfl)
    fun _ => rfl

theorem entryId : Follows EntryId Form.word64 :=
  word64.of_wrapped EntryId.mk EntryId.val (fun _ => rfl) (fun _ => rfl) (fun _ => rfl) fun _ => rfl

theorem flag : Follows Bool Form.flag where
  back _ := rfl
  exact d e := by
    constructor
    · rintro ⟨b, rfl, rfl⟩
      exact ⟨b, rfl, rfl⟩
    · rintro ⟨b, same, rfl⟩
      cases d <;> cases same
      exact ⟨b, rfl, rfl⟩
  solid := rfl

theorem text : Follows String Form.text where
  back _ := rfl
  exact d e := by
    constructor
    · rintro ⟨s, rfl, rfl⟩
      exact ⟨s, rfl, rfl⟩
    · rintro ⟨s, same, rfl⟩
      cases d <;> cases same
      exact ⟨s, rfl, rfl⟩
  solid := rfl

theorem as?_settingValue (d : Document) :
    d.as? SettingValue =
      ((d.as? UInt32).map SettingValue.number).or ((d.as? Bool).map SettingValue.flag) := rfl

theorem settingValue : Follows SettingValue Form.settingValue where
  back v := by
    cases v with
    | number n =>
        have read : (Document.of (SettingValue.number n)).as? UInt32 = some n := word32.back n
        rw [as?_settingValue, read]
        rfl
    | flag b => rfl
  exact d e := by
    constructor
    · rintro (number | ⟨b, rfl, rfl⟩)
      · obtain ⟨n, read, rfl⟩ := (word32.exact d e).mp number
        exact ⟨.number n, by rw [as?_settingValue, read]; rfl, rfl⟩
      · exact ⟨.flag b, rfl, rfl⟩
    · rintro ⟨v, same, rfl⟩
      rw [as?_settingValue] at same
      cases read : d.as? UInt32 with
      | some n =>
          rw [read] at same
          cases same
          exact .inl ((word32.exact d _).mpr ⟨n, read, rfl⟩)
      | none =>
          rw [read] at same
          obtain ⟨b, read, rfl⟩ := Option.map_eq_some_iff.mp same
          exact .inr ((flag.exact d _).mpr ⟨b, read, rfl⟩)
  solid := rfl

theorem ofName?_eq_some_iff {s : String} {k : SettingKey} :
    SettingKey.ofName? s = some k ↔ k.name = s := by
  constructor
  · intro found
    simpa using List.find?_some found
  · rintro rfl
    cases k <;> rfl

theorem settingKey : Follows SettingKey Form.settingKey where
  back k := by cases k <;> rfl
  exact d e := by
    constructor
    · rintro ⟨s, listed, read, rfl⟩
      obtain ⟨k, _, rfl⟩ : ∃ k ∈ SettingKey.all, k.name = s := List.mem_map.mp listed
      refine ⟨k, ?_, rfl⟩
      rcases read with rfl | rfl <;> exact ofName?_eq_some_iff.mpr rfl
    · rintro ⟨k, same, rfl⟩
      refine ⟨k.name, by cases k <;> decide, ?_, rfl⟩
      simp only [as?, Readable.read?] at same
      split at same
      · rw [ofName?_eq_some_iff.mp same]
        exact .inl rfl
      · rw [ofName?_eq_some_iff.mp same]
        exact .inr rfl
      · cases same
  solid := rfl

theorem guildSettings : Follows GuildSettings Form.guildSettings := by
  refine of_record GuildSettings.fieldNames rfl ?_ ?_ ?_
  · intro d missing
    simp only [as?, Readable.read?, missing]
  · intro d xs length found
    match xs, length with
    | [ratio, timeout, size, minutes, self, empty], _ =>
      simp only [as?, Readable.read?, found]
      refine .bind (word8.optional ratio) fun ratio => ?_
      refine .bind (word32.optional timeout) fun timeout => ?_
      refine .bind (word32.optional size) fun size => ?_
      refine .bind (word32.optional minutes) fun minutes => ?_
      refine .bind (flag.optional self) fun self => ?_
      refine .bind (word32.optional empty) fun empty => ?_
      exact .done rfl
  · intro a
    have found : (Document.of a).fields? GuildSettings.fieldNames =
        some [some (.of a.skipRatio), some (.of a.voteTimeoutSecs), some (.of a.maxQueueSize),
          some (.of a.autoDisconnectMinutes), some (.of a.selfVote),
          some (.of a.leaveEmptyChannelSecs)] := rfl
    simp only [as?, Readable.read?, found]
    simp only [optional?, word8.back_option, word32.back_option, flag.back_option]
    rfl

theorem trackRef : Follows TrackRef Form.trackRef := by
  refine of_record ["url"] rfl ?_ ?_ fun _ => rfl
  · intro d missing
    simp only [as?, Readable.read?, missing]
  · intro d xs length found
    match xs, length with
    | [url], _ =>
      simp only [as?, Readable.read?, found]
      rw [Option.map_eq_bind]
      exact .bind (text.required url) fun url => .done rfl

theorem time_inj {p p' : Playtime} (same : Document.of p = Document.of p') : p = p' := by
  obtain ⟨secs, nanos, _, _⟩ := p
  obtain ⟨secs', nanos', _, _⟩ := p'
  simp only [Document.of, Writable.write] at same
  cases same
  rfl

theorem carry?_eq_some_iff {secs nanos : Nat} {p : Playtime} :
    Playtime.carry? secs nanos = some p ↔ secs + nanos / 1000000000 < UInt64.size ∧
      Document.of p = Form.time (secs + nanos / 1000000000) (nanos % 1000000000) := by
  unfold Playtime.carry?
  split
  · next fits =>
      constructor
      · rintro ⟨⟩
        exact ⟨fits, rfl⟩
      · rintro ⟨_, written⟩
        exact congrArg some (time_inj written.symm)
  · next large => exact ⟨nofun, fun fits => absurd fits.1 large⟩

theorem record_time_iff {d : Document} {secs nanos : Nat} :
    Form.record Form.timeFields d (Form.time secs nanos) ↔
      ∃ a b, d.fields? Playtime.fieldNames = some [a, b] ∧
        (∃ s, required? UInt64 a = some s ∧ s.toNat = secs) ∧
        ∃ n, required? UInt32 b = some n ∧ n.toNat = nanos := by
  rw [Form.record_iff]
  constructor
  · rintro ⟨xs, out, found, cells, same⟩
    cases same
    rcases cells with _ | ⟨first, _ | ⟨second, _ | _⟩⟩
    obtain ⟨s, readSecs, secs⟩ := (word64.required _ _).mp first
    obtain ⟨n, readNanos, nanos⟩ := (word32.required _ _).mp second
    refine ⟨_, _, found, ⟨s, readSecs, ?_⟩, n, readNanos, ?_⟩
    · exact Int.ofNat_inj.mp (Document.number.inj secs)
    · exact Int.ofNat_inj.mp (Document.number.inj nanos)
  · rintro ⟨a, b, found, ⟨s, readSecs, rfl⟩, n, readNanos, rfl⟩
    refine ⟨[a, b], _, found, .cons ?_ (.cons ?_ .nil), rfl⟩
    · exact (word64.required a _).mpr ⟨s, readSecs, rfl⟩
    · exact (word32.required b _).mpr ⟨n, readNanos, rfl⟩

/-- The seconds and nanoseconds that a document gives are carried. -/
theorem as?_playtime_iff {d : Document} {p : Playtime} :
    d.as? Playtime = some p ↔ d.isClosed Playtime.fieldNames = true ∧
      ∃ secs nanos, Form.record Form.timeFields d (Form.time secs nanos) ∧
        Playtime.carry? secs nanos = some p := by
  constructor
  · intro read
    simp only [as?, Readable.read?] at read
    split at read
    · next closed found =>
        obtain ⟨s, readSecs, read⟩ := Option.bind_eq_some_iff.mp read
        obtain ⟨n, readNanos, carried⟩ := Option.bind_eq_some_iff.mp read
        refine ⟨closed, s.toNat, n.toNat, ?_, carried⟩
        exact record_time_iff.mpr ⟨_, _, found, ⟨s, readSecs, rfl⟩, n, readNanos, rfl⟩
    · cases read
  · rintro ⟨closed, secs, nanos, given, carried⟩
    obtain ⟨a, b, found, ⟨s, readSecs, rfl⟩, n, readNanos, rfl⟩ := record_time_iff.mp given
    simp only [as?, Readable.read?]
    rw [closed, found]
    simp only [readSecs, readNanos]
    exact carried

theorem isClosed_iff {d : Document} {names : List String} :
    d.isClosed names = true ↔ ∀ given, d = .record given → ∀ f ∈ given, f.1 ∈ names := by
  cases d <;> simp [isClosed]

/-- Numbers that fit their words are read as they are. -/
theorem record_time {secs nanos : Nat} {e : Document} :
    Form.record Form.timeFields (Form.time secs nanos) e ↔
      secs < UInt64.size ∧ nanos < UInt32.size ∧ e = Form.time secs nanos := by
  constructor
  · rintro ⟨_, cells⟩
    change Form.Cells Form.timeFields [some (.number secs), some (.number nanos)] _ at cells
    rcases cells with _ | ⟨⟨s, fitsSecs, same, rfl⟩, _ | ⟨⟨n, fitsNanos, same', rfl⟩, _ | _⟩⟩
    cases Int.ofNat_inj.mp (Document.number.inj same)
    cases Int.ofNat_inj.mp (Document.number.inj same')
    exact ⟨Nat.lt_succ_of_le fitsSecs, Nat.lt_succ_of_le fitsNanos, rfl⟩
  · rintro ⟨fitsSecs, fitsNanos, rfl⟩
    refine .named (by simp [Form.timeFields]) (.cons (.present ?_) (.cons (.present ?_) .nil))
    · exact ⟨secs, Nat.le_pred_of_lt fitsSecs, rfl, rfl⟩
    · exact ⟨nanos, Nat.le_pred_of_lt fitsNanos, rfl, rfl⟩

theorem duration : Follows Playtime Form.duration where
  back p := by
    have small : p.nanos < 1000000000 := p.nanos_lt
    have whole : p.nanos / 1000000000 = 0 := Nat.div_eq_of_lt small
    refine as?_playtime_iff.mpr ⟨rfl, p.secs, p.nanos, ?_, carry?_eq_some_iff.mpr ?_⟩
    · exact record_time.mpr ⟨p.secs_lt, Nat.lt_trans small (by decide), rfl⟩
    · rw [whole, Nat.mod_eq_of_lt small]
      exact ⟨p.secs_lt, rfl⟩
  exact d e := by
    constructor
    · rintro ⟨closed, secs, nanos, given, fits, rfl⟩
      have rest : nanos % 1000000000 < 1000000000 := Nat.mod_lt _ (by decide)
      have carried : Playtime.carry? secs nanos =
          some ⟨secs + nanos / 1000000000, nanos % 1000000000, fits, rest⟩ :=
        carry?_eq_some_iff.mpr ⟨fits, rfl⟩
      have read := as?_playtime_iff.mpr ⟨isClosed_iff.mpr closed, secs, nanos, given, carried⟩
      exact ⟨_, read, rfl⟩
    · rintro ⟨p, read, rfl⟩
      obtain ⟨closed, secs, nanos, given, carried⟩ := as?_playtime_iff.mp read
      obtain ⟨fits, written⟩ := carry?_eq_some_iff.mp carried
      exact ⟨isClosed_iff.mp closed, secs, nanos, given, fits, written⟩
  solid := rfl

theorem trackMetadata : Follows TrackMetadata Form.trackMetadata := by
  refine of_record TrackMetadata.fieldNames rfl ?_ ?_ ?_
  · intro d missing
    simp only [as?, Readable.read?, missing]
  · intro d xs length found
    match xs, length with
    | [title, time, source, thumbnail], _ =>
      simp only [as?, Readable.read?, found]
      refine .bind (text.required title) fun title => ?_
      refine .bind (duration.optional time) fun time => ?_
      refine .bind (text.required source) fun source => ?_
      refine .bind (text.optional thumbnail) fun thumbnail => ?_
      exact .done rfl
  · intro m
    have found : (Document.of m).fields? TrackMetadata.fieldNames =
        some [some (.of m.title), some (.of m.duration), some (.of m.sourceUrl),
          some (.of m.thumbnailUrl)] := rfl
    simp only [as?, Readable.read?, found]
    simp only [optional?, duration.back_option, text.back_option]
    rfl

theorem entry : Follows Entry Form.entry := by
  refine of_record Entry.fieldNames rfl ?_ ?_ ?_
  · intro d missing
    simp only [as?, Readable.read?, missing]
  · intro d xs length found
    match xs, length with
    | [id, requester, track, metadata], _ =>
      simp only [as?, Readable.read?, found]
      refine .bind (entryId.required id) fun id => ?_
      refine .bind (memberId.required requester) fun requester => ?_
      refine .bind (trackRef.required track) fun track => ?_
      refine .bind (trackMetadata.required metadata) fun metadata => ?_
      exact .done rfl
  · intro e
    have found : (Document.of e).fields? Entry.fieldNames =
        some [some (.of e.id), some (.of e.requester), some (.of e.track),
          some (.of e.metadata)] := rfl
    simp only [as?, Readable.read?, found]
    simp only [required?, Option.bind_some, entryId.back, memberId.back, trackRef.back,
      trackMetadata.back]
    rfl

end Follows

/-- What reading and writing again does to any document. -/
structure RoundTrips (α : Type) [Writable α] [Readable α] (F : Form) : Prop where
  back : ∀ a : α, (Document.of a).as? α = some a
  unread : ∀ d : Document, d.as? α = none ↔ ∀ e, ¬ F d e
  rewritten : ∀ (d : Document) a, d.as? α = some a → ∀ e, F d e ↔ e = Document.of a
  again : ∀ (d : Document) a, d.as? α = some a →
    (Document.of a).as? α = some a ∧ ∀ e, F (Document.of a) e ↔ e = Document.of a

theorem Follows.roundTrips {α : Type} [Writable α] [Readable α] {F : Form} (h : Follows α F) :
    RoundTrips α F := by
  have rewritten : ∀ (d : Document) a, d.as? α = some a → ∀ e, F d e ↔ e = Document.of a := by
    intro d a read e
    rw [h.exact, read]
    constructor
    · rintro ⟨_, ⟨⟩, rfl⟩
      rfl
    · rintro rfl
      exact ⟨a, rfl, rfl⟩
  refine ⟨h.back, fun d => ?_, rewritten, fun d a _ => ⟨h.back a, rewritten _ a (h.back a)⟩⟩
  cases read : d.as? α with
  | none =>
      refine ⟨fun _ e form => ?_, fun _ => rfl⟩
      obtain ⟨a, same, _⟩ := (h.exact d e).mp form
      cases read.symm.trans same
  | some a =>
      exact ⟨nofun, fun none => absurd ((h.exact d _).mpr ⟨a, read, rfl⟩) (none _)⟩

namespace Form

theorem Cells.names {fs : List (String × Form)} {xs : List (Option Document)}
    {out : List (String × Document)} (h : Cells fs xs out) : out.map (·.1) = fs.map (·.1) := by
  induction h with
  | nil => rfl
  | cons _ _ ih => rw [List.map_cons, List.map_cons, ih]

theorem Cells.null_of_missing {given : List (String × Document)} {fs : List (String × Form)}
    {out : List (String × Document)} (h : Cells fs (fs.map fun f => given.lookup f.1) out) :
    ∀ f ∈ out, given.lookup f.1 = none → f.2 = .null := by
  generalize same : (fs.map fun f => given.lookup f.1) = xs at h
  induction h with
  | nil => exact nofun
  | cons first _ ih =>
      obtain ⟨here, rest⟩ := List.cons.inj same
      refine List.forall_mem_cons.mpr ⟨fun missing => ?_, ih rest⟩
      cases here.symm.trans missing
      cases first
      rfl

theorem word_number_iff {limit : Nat} {i : Int} {e : Document} :
    word limit (.number i) e ↔ 0 ≤ i ∧ i ≤ limit ∧ e = .number i := by
  constructor
  · rintro ⟨n, fits, same, rfl⟩
    cases same
    exact ⟨Int.natCast_nonneg n, Int.ofNat_le.mpr fits, rfl⟩
  · rintro ⟨whole, fits, rfl⟩
    refine ⟨i.toNat, by omega, ?_, rfl⟩
    rw [Int.toNat_of_nonneg whole]

theorem duration_time_iff {secs nanos : Nat} {e : Document} :
    duration (time secs nanos) e ↔ secs < UInt64.size ∧ nanos < UInt32.size ∧
      secs + nanos / 1000000000 < UInt64.size ∧
      e = time (secs + nanos / 1000000000) (nanos % 1000000000) := by
  constructor
  · rintro ⟨_, s, n, given, fits, rfl⟩
    obtain ⟨fitsSecs, fitsNanos, same⟩ := Follows.record_time.mp given
    cases same
    exact ⟨fitsSecs, fitsNanos, fits, rfl⟩
  · rintro ⟨fitsSecs, fitsNanos, fits, rfl⟩
    refine ⟨?_, secs, nanos, Follows.record_time.mpr ⟨fitsSecs, fitsNanos, rfl⟩, fits, rfl⟩
    rintro given ⟨⟩
    simp

end Form

/-- Every value is read back from what it is written as. A document is read if and only if the form of the type
has a document for it; this one is written again, and is read and written as itself. It has the known fields
of a record only, with null where nothing was given; its numbers are whole and fit; and full seconds of
nanoseconds are in the seconds, unless these are then too many and nothing is read. -/
theorem roundTrips_forms :
    RoundTrips SettingValue Form.settingValue ∧ RoundTrips SettingKey Form.settingKey ∧
    RoundTrips GuildSettings Form.guildSettings ∧ RoundTrips TrackRef Form.trackRef ∧
    RoundTrips TrackMetadata Form.trackMetadata ∧ RoundTrips Entry Form.entry ∧
    RoundTrips GuildId Form.word64 ∧ RoundTrips Playtime Form.duration ∧
    (∀ fs given out, Form.record fs (.record given) (.record out) →
      out.map (·.1) = fs.map (·.1) ∧ ∀ f ∈ out, given.lookup f.1 = none → f.2 = .null) ∧
    (∀ limit i e, Form.word limit (.number i) e ↔ 0 ≤ i ∧ i ≤ limit ∧ e = .number i) ∧
    (∀ limit i places e, ¬ Form.word limit (.decimal i places) e) ∧
    ∀ secs nanos e, Form.duration (Form.time secs nanos) e ↔
      secs < UInt64.size ∧ nanos < UInt32.size ∧ secs + nanos / 1000000000 < UInt64.size ∧
      e = Form.time (secs + nanos / 1000000000) (nanos % 1000000000) := by
  refine ⟨Follows.settingValue.roundTrips, Follows.settingKey.roundTrips,
    Follows.guildSettings.roundTrips, Follows.trackRef.roundTrips, Follows.trackMetadata.roundTrips,
    Follows.entry.roundTrips, Follows.guildId.roundTrips, Follows.duration.roundTrips, ?_,
    fun _ _ _ => Form.word_number_iff, ?_, fun _ _ _ => Form.duration_time_iff⟩
  · rintro fs given out ⟨_, cells⟩
    exact ⟨cells.names, cells.null_of_missing⟩
  · rintro limit i places e ⟨n, _, ⟨⟩, _⟩

/-- An unknown field goes, a missing one becomes null, and a second of nanoseconds is carried. -/
example :
    ((Document.record
      [ ("source_url", .text "s"), ("album", .text "a"), ("title", .text "t"),
        ("duration", Form.time 1 1500000000) ]).as? TrackMetadata).map Document.of =
      some (.record
        [ ("title", .text "t"), ("duration", Form.time 2 500000000), ("source_url", .text "s"),
          ("thumbnail_url", .null) ]) := rfl

end Document

end Jukebox
