import Jukebox.Config
import Jukebox.Proofs.Text.Decimal
import Jukebox.Proofs.Text.Trim

/-!
What an environment is read as. Each field of the configuration has variables of its own and a way to read
them. The first field whose variable is refused decides the error; if none is, every field has what its own
variable stands for, or its default.
-/

namespace Jukebox

/-- The message of an error names the variable. -/
theorem ConfigError.message_names (e : ConfigError) :
    ∃ front back, e.message = front ++ e.variableName ++ back := by
  cases e with
  | badNumeral v s cause =>
      have text : message (.badNumeral v s cause) =
          "invalid value for " ++ v ++ ": '" ++ s ++ "': " ++ cause.message := rfl
      exact ⟨"invalid value for ", ": '" ++ s ++ "': " ++ cause.message,
        text.trans (by simp only [String.append_assoc]; rfl)⟩
  | badFlag v s =>
      have text : message (.badFlag v s) =
          "invalid value for " ++ v ++ ": '" ++ s ++ "' (expected true/false)" := rfl
      exact ⟨"invalid value for ", ": '" ++ s ++ "' (expected true/false)",
        text.trans (by simp only [String.append_assoc]; rfl)⟩
  | zero v => exact ⟨"", " must be greater than zero", by rw [String.empty_append]; rfl⟩
  | ratioOutOfRange v n =>
      have text : message (.ratioOutOfRange v n) =
          v ++ " must be between 1 and 100, got " ++ toString n := rfl
      exact ⟨"", " must be between 1 and 100, got " ++ toString n,
        text.trans (by simp only [String.append_assoc, String.empty_append]; rfl)⟩

namespace Config

/-- A way to read the text of a variable: what the text stands for, and the error with which it is
refused. It stands for one thing, or is refused with one error, and not both. -/
structure Reading (α : Type) where
  Gives : (text : String) → α → Prop
  Refuses : (variableName text : String) → ConfigError → Prop
  one : ∀ {s x x'}, Gives s x → Gives s x' → x = x'
  error : ∀ {v s e e'}, Refuses v s e → Refuses v s e' → e = e'
  apart : ∀ {v s x e}, Gives s x → ¬ Refuses v s e
  named : ∀ {v s e}, Refuses v s e → e.variableName = v

namespace Reading

/-- The text, without the blanks around it, is a numeral within the limit. -/
def Numeral (limit : Nat) (s : String) (n : Nat) : Prop :=
  Text.Denotes (Text.trim s).toList n ∧ n ≤ limit

theorem Numeral.unique {limit : Nat} {s : String} {n n' : Nat} (h : Numeral limit s n)
    (h' : Numeral limit s n') : n = n' :=
  h.1.unique h'.1

/-- A numeral within the limit, of a number that is allowed. -/
def number (limit : Nat) (Allowed : Nat → Prop) (forbidden : String → Nat → ConfigError)
    (names : ∀ v n, (forbidden v n).variableName = v) : Reading Nat where
  Gives s n := Numeral limit s n ∧ Allowed n
  Refuses v s e :=
    (∀ n, ¬ Numeral limit s n) ∧
      e = .badNumeral v s (Text.complaint limit (Text.trim s).toList) ∨
    ∃ n, Numeral limit s n ∧ ¬ Allowed n ∧ e = forbidden v n
  one given given' := given.1.unique given'.1
  error := by
    rintro v s e e' (⟨none, rfl⟩ | ⟨n, is, _, rfl⟩) (⟨none', rfl⟩ | ⟨n', is', _, rfl⟩)
    · rfl
    · exact absurd is' (none n')
    · exact absurd is (none' n)
    · rw [is.unique is']
  apart := by
    rintro v s n e ⟨is, allowed⟩ (⟨none, _⟩ | ⟨n', is', not, _⟩)
    · exact none n is
    · exact not (is.unique is' ▸ allowed)
  named := by
    rintro v s e (⟨_, rfl⟩ | ⟨n, _, _, rfl⟩)
    · rfl
    · exact names v n

def ratio : Reading Nat :=
  number 255 (fun n => 1 ≤ n ∧ n ≤ 100) .ratioOutOfRange fun _ _ => rfl

def positive : Reading Nat :=
  number (UInt64.size - 1) (0 < ·) (fun v _ => .zero v) fun _ _ => rfl

def flagWords : Bool → List String
  | true => ["1", "true", "yes", "on"]
  | false => ["0", "false", "no", "off"]

theorem flagWords_apart {b b' : Bool} {word : String} (h : word ∈ flagWords b)
    (h' : word ∈ flagWords b') : b = b' := by
  have apart : ∀ word ∈ flagWords true, word ∉ flagWords false := by decide
  cases b <;> cases b'
  · rfl
  · exact absurd h (apart word h')
  · exact absurd h' (apart word h)
  · rfl

/-- One of the words for a flag, in any case. -/
def flag : Reading Bool where
  Gives s b := Text.lowerAscii (Text.trim s) ∈ flagWords b
  Refuses v s e := (∀ b, Text.lowerAscii (Text.trim s) ∉ flagWords b) ∧ e = .badFlag v s
  one given given' := flagWords_apart given given'
  error refused refused' := refused.2.trans refused'.2.symm
  apart given refused := refused.1 _ given
  named := by
    rintro v s e ⟨_, rfl⟩
    rfl

/-- Any text. -/
def text {α : Type} (f : String → α) : Reading α where
  Gives s x := x = f s
  Refuses _ _ _ := False
  one given given' := given.trans given'.symm
  error refused := refused.elim
  apart _ refused := refused
  named refused := refused.elim

end Reading

/-- A field of the configuration with its default, and the names of the variables that it is read from, the
one that counts first in front. -/
structure Field where
  {α : Type}
  get : Config → α
  default : α
  names : List String
  reading : Reading α

/-- The fields in the order in which they are read. -/
def fields : List Field :=
  [ { get := (·.defaults.skipRatio), default := 50, reading := .ratio,
      names := ["GUILDBOX_DEFAULT_SKIP_RATIO"] },
    { get := (·.defaults.voteTimeoutSecs), default := 30, reading := .positive,
      names := ["GUILDBOX_VOTE_TIMEOUT_SECS"] },
    { get := (·.defaults.selfVote), default := true, reading := .flag,
      names := ["GUILDBOX_SELF_VOTE"] },
    { get := (·.defaults.inactivitySecs), default := 300, reading := .positive,
      names := ["GUILDBOX_INACTIVITY_SECS"] },
    { get := (·.defaults.leaveEmptyChannelSecs), default := 120, reading := .positive,
      names := ["GUILDBOX_LEAVE_EMPTY_CHANNEL_SECS"] },
    { get := (·.sweepIntervalSecs), default := 30, reading := .positive,
      names := ["GUILDBOX_SWEEP_INTERVAL_SECS"] },
    { get := (·.defaults.maxQueueSize), default := 500, reading := .positive,
      names := ["GUILDBOX_MAX_QUEUE_SIZE"] },
    { get := (·.workers), default := 16, reading := .positive,
      names := ["GUILDBOX_WORKERS"] },
    { get := (·.pageSize), default := 10, reading := .positive,
      names := ["GUILDBOX_PAGE_SIZE"] },
    { get := (·.databaseUrl), default := "guildbox.db", reading := .text id,
      names := ["GUILDBOX_DATABASE_URL", "DATABASE_URL"] },
    { get := (·.activity.enabled), default := true, reading := .flag,
      names := ["GUILDBOX_ACTIVITY_ENABLED"] },
    { get := (·.activity.intervalSecs), default := 60, reading := .positive,
      names := ["GUILDBOX_ACTIVITY_INTERVAL_SECS"] },
    { get := (·.activity.file), default := none, reading := .text some,
      names := ["GUILDBOX_ACTIVITY_FILE"] },
    { get := (·.activity.randomized), default := false, reading := .flag,
      names := ["GUILDBOX_ACTIVITY_RANDOMIZED"] },
    { get := (·.activity.includeCommands), default := true, reading := .flag,
      names := ["GUILDBOX_ACTIVITY_COMMANDS"] },
    { get := (·.activity.commandPrefix), default := "$", reading := .text Text.trim,
      names := ["GUILDBOX_COMMAND_PREFIX"] } ]

theorem names_nodup : (fields.flatMap (·.names)).Nodup := by decide

/-- The fields are all that there is in a configuration. -/
theorem ext_fields {c c' : Config} (same : ∀ f ∈ fields, f.get c = f.get c') : c = c' := by
  simp only [fields, List.forall_mem_cons] at same
  obtain ⟨share, voting, selfVote, inactivity, leaving, sweep, room, workers, page, url, enabled,
    interval, file, randomized, commands, mark, _⟩ := same
  obtain ⟨⟨_, _, _, _, _, _⟩, _, _, _, _, ⟨_, _, _, _, _, _⟩⟩ := c
  obtain ⟨⟨_, _, _, _, _, _⟩, _, _, _, _, ⟨_, _, _, _, _, _⟩⟩ := c'
  simp_all

variable {env : Environment}

namespace Field

/-- The first of the variables that is set, with its text. -/
def source? (f : Field) (env : Environment) : Option (String × String) :=
  f.names.findSome? fun v => (text? env v).map (v, ·)

/-- What the variable of the field stands for, or the default if there is none. -/
def Stands (f : Field) (env : Environment) (x : f.α) : Prop :=
  match f.source? env with
  | none => x = f.default
  | some (_, s) => f.reading.Gives s x

/-- The variable of the field is refused, with an error that names it. -/
def Refuses (f : Field) (env : Environment) (e : ConfigError) : Prop :=
  ∃ s, f.source? env = some (e.variableName, s) ∧ f.reading.Refuses e.variableName s e

variable {f : Field}

theorem Stands.unique {x x' : f.α} (h : f.Stands env x) (h' : f.Stands env x') : x = x' := by
  unfold Stands at h h'
  cases source : f.source? env with
  | none =>
      rw [source] at h h'
      exact h.trans h'.symm
  | some found =>
      rw [source] at h h'
      exact f.reading.one h h'

theorem Stands.not_refuses {x : f.α} {e : ConfigError} (h : f.Stands env x) :
    ¬ f.Refuses env e := by
  rintro ⟨s, source, refused⟩
  rw [Stands, source] at h
  exact f.reading.apart h refused

theorem Refuses.unique {e e' : ConfigError} (h : f.Refuses env e) (h' : f.Refuses env e') :
    e = e' := by
  obtain ⟨s, source, refused⟩ := h
  obtain ⟨s', source', refused'⟩ := h'
  obtain ⟨name, rfl⟩ := Prod.mk.inj (Option.some.inj (source.symm.trans source'))
  rw [← name] at refused'
  exact f.reading.error refused refused'

/-- What is read for a field: what its variable stands for, if there is one, or why it is refused. -/
def Read (f : Field) (env : Environment) (r : Except ConfigError (Option f.α)) : Prop :=
  (∃ x, r = .ok x ∧ f.Stands env (x.getD f.default)) ∨ ∃ e, r = .error e ∧ f.Refuses env e

variable {v s : String}

theorem read_none (alone : f.names = [v]) (unset : text? env v = none) :
    f.Read env (.ok none) := by
  have source : f.source? env = none := by simp [source?, alone, unset]
  refine .inl ⟨none, rfl, ?_⟩
  rw [Stands, source]
  rfl

theorem read_some {x : f.α} (alone : f.names = [v]) (set : text? env v = some s)
    (gives : f.reading.Gives s x) : f.Read env (.ok (some x)) := by
  have source : f.source? env = some (v, s) := by simp [source?, alone, set]
  refine .inl ⟨some x, rfl, ?_⟩
  rw [Stands, source]
  exact gives

theorem read_error {e : ConfigError} (alone : f.names = [v]) (set : text? env v = some s)
    (refused : f.reading.Refuses v s e) : f.Read env (.error e) := by
  cases f.reading.named refused
  have source : f.source? env = some (e.variableName, s) := by simp [source?, alone, set]
  exact .inr ⟨e, rfl, s, source, refused⟩

theorem map_source? (f : Field) (env : Environment) :
    (f.source? env).map (·.2) = f.names.findSome? (text? env) := by
  unfold source?
  induction f.names with
  | nil => rfl
  | cons v vs ih =>
      rw [List.findSome?_cons, List.findSome?_cons]
      cases text? env v with
      | none => exact ih
      | some s => rfl

theorem not_refuses_text {r : String → f.α} (plain : f.reading = .text r) (e : ConfigError) :
    ¬ f.Refuses env e := by
  rintro ⟨s, _, refused⟩
  rw [plain] at refused
  exact refused

theorem stands_text {r : String → f.α} {x : f.α} (plain : f.reading = .text r)
    (same : x = ((f.names.findSome? (text? env)).map r).getD f.default) : f.Stands env x := by
  subst same
  rw [← map_source?, Stands]
  cases f.source? env with
  | none => rfl
  | some found =>
      dsimp only
      rw [plain]
      rfl

end Field

theorem numeral?_cases (env : Environment) (limit : Nat) (v : String) :
    (text? env v = none ∧ numeral? env limit v = .ok none) ∨
    ∃ s, text? env v = some s ∧
      ((∃ n, Reading.Numeral limit s n ∧ numeral? env limit v = .ok (some n)) ∨
        (∀ n, ¬ Reading.Numeral limit s n) ∧ numeral? env limit v =
          .error (.badNumeral v s (Text.complaint limit (Text.trim s).toList))) := by
  unfold numeral?
  cases text? env v with
  | none => exact .inl ⟨rfl, rfl⟩
  | some s =>
      refine .inr ⟨s, rfl, ?_⟩
      rcases Text.numeral_cases limit (Text.trim s) with ⟨n, is, fits, same⟩ | ⟨nothing, same⟩
      · exact .inl ⟨n, ⟨is, fits⟩, by simp only [same]⟩
      · exact .inr ⟨fun n is => nothing ⟨n, is⟩, by simp only [same]⟩

theorem read_ratio (get : Config → Nat) (default : Nat) (v : String) :
    Field.Read { get, default, names := [v], reading := .ratio } env (ratio? env v) := by
  unfold ratio?
  rcases numeral?_cases env 255 v with
    ⟨unset, same⟩ | ⟨s, set, ⟨n, is, same⟩ | ⟨none, same⟩⟩ <;> rw [same]
  · exact Field.read_none rfl unset
  · dsimp only
    split
    · next outside => exact Field.read_error rfl set (.inr ⟨n, is, by omega, rfl⟩)
    · next inside => exact Field.read_some rfl set ⟨is, by omega⟩
  · exact Field.read_error rfl set (.inl ⟨none, rfl⟩)

theorem read_positive (get : Config → Nat) (default : Nat) (v : String) :
    Field.Read { get, default, names := [v], reading := .positive } env (positive? env v) := by
  unfold positive?
  rcases numeral?_cases env maxWord64 v with
    ⟨unset, same⟩ | ⟨s, set, ⟨n, is, same⟩ | ⟨none, same⟩⟩ <;> rw [same]
  · exact Field.read_none rfl unset
  · cases n with
    | zero => exact Field.read_error rfl set (.inr ⟨0, is, Nat.lt_irrefl 0, rfl⟩)
    | succ n => exact Field.read_some rfl set ⟨is, Nat.succ_pos n⟩
  · exact Field.read_error rfl set (.inl ⟨none, rfl⟩)

theorem flagOfWord?_eq_some_iff {word : String} {b : Bool} :
    flagOfWord? word = some b ↔ word ∈ Reading.flagWords b := by
  unfold flagOfWord?
  split <;> cases b <;> simp_all [Reading.flagWords]

theorem read_flag (get : Config → Bool) (default : Bool) (v : String) :
    Field.Read { get, default, names := [v], reading := .flag } env (flag? env v) := by
  unfold flag?
  cases set : text? env v with
  | none => exact Field.read_none rfl set
  | some s =>
      cases word : flagOfWord? (Text.lowerAscii (Text.trim s)) with
      | some b =>
          simp only [word]
          exact Field.read_some rfl set (flagOfWord?_eq_some_iff.mp word)
      | none =>
          simp only [word]
          refine Field.read_error rfl set ⟨fun b is => ?_, rfl⟩
          cases word.symm.trans (flagOfWord?_eq_some_iff.mpr is)

/-- The first of the fields that is refused, with its error. -/
inductive FirstRefused (env : Environment) (e : ConfigError) : List Field → Prop
  | here {f : Field} {fs : List Field} (refused : f.Refuses env e) : FirstRefused env e (f :: fs)
  | later {f : Field} {fs : List Field} (accepted : ∀ e', ¬ f.Refuses env e')
      (rest : FirstRefused env e fs) : FirstRefused env e (f :: fs)

theorem FirstRefused.unique {e e' : ConfigError} {fs : List Field} (h : FirstRefused env e fs)
    (h' : FirstRefused env e' fs) : e = e' := by
  induction h with
  | here refused =>
      cases h' with
      | here refused' => exact refused.unique refused'
      | later accepted => exact absurd refused (accepted _)
  | later accepted rest ih =>
      cases h' with
      | here refused' => exact absurd refused' (accepted _)
      | later _ rest' => exact ih rest'

theorem FirstRefused.exists_mem {e : ConfigError} {fs : List Field} (h : FirstRefused env e fs) :
    ∃ f ∈ fs, f.Refuses env e := by
  induction h with
  | here refused => exact ⟨_, List.mem_cons_self, refused⟩
  | later _ _ ih =>
      obtain ⟨f, there, refused⟩ := ih
      exact ⟨f, List.mem_cons_of_mem _ there, refused⟩

theorem FirstRefused.not_stands {e : ConfigError} {fs : List Field} (h : FirstRefused env e fs)
    (c : Config) : ¬ ∀ f ∈ fs, f.Stands env (f.get c) := by
  intro stands
  obtain ⟨f, there, refused⟩ := h.exists_mem
  exact (stands f there).not_refuses refused

/-- What comes of reading these fields: a configuration of which something holds, or the error of the first
field that is refused. -/
def Outcome (env : Environment) (Holds : Config → Prop) (fs : List Field)
    (r : Except ConfigError Config) : Prop :=
  (∃ c, r = .ok c ∧ Holds c) ∨ ∃ e, r = .error e ∧ FirstRefused env e fs

namespace Outcome

variable {Holds : Config → Prop} {f : Field} {fs : List Field}

theorem done {c : Config} (holds : Holds c) : Outcome env Holds [] (.ok c) := .inl ⟨c, rfl, holds⟩

theorem skip {r : Except ConfigError Config} (accepted : ∀ e, ¬ f.Refuses env e)
    (rest : Outcome env Holds fs r) : Outcome env Holds (f :: fs) r :=
  rest.imp_right fun ⟨e, same, first⟩ => ⟨e, same, .later accepted first⟩

theorem bind {r : Except ConfigError (Option f.α)} {k : Option f.α → Except ConfigError Config}
    (read : f.Read env r)
    (rest : ∀ x, f.Stands env (x.getD f.default) → Outcome env Holds fs (k x)) :
    Outcome env Holds (f :: fs) (r >>= k) := by
  rcases read with ⟨x, rfl, stands⟩ | ⟨e, rfl, refused⟩
  · exact (rest x stands).skip fun e => stands.not_refuses
  · exact .inr ⟨e, rfl, .here refused⟩

end Outcome

/-- Reading an environment goes through the fields in order. -/
theorem ofEnvironment_outcome (env : Environment) :
    Outcome env (fun c => ∀ f ∈ fields, f.Stands env (f.get c)) fields (ofEnvironment env) := by
  unfold ofEnvironment
  refine .bind (read_ratio _ _ _) fun _ share => ?_
  refine .bind (read_positive _ _ _) fun _ voting => ?_
  refine .bind (read_flag _ _ _) fun _ selfVote => ?_
  refine .bind (read_positive _ _ _) fun _ inactivity => ?_
  refine .bind (read_positive _ _ _) fun _ leaving => ?_
  refine .bind (read_positive _ _ _) fun _ sweep => ?_
  refine .bind (read_positive _ _ _) fun _ room => ?_
  refine .bind (read_positive _ _ _) fun _ workers => ?_
  refine .bind (read_positive _ _ _) fun _ page => ?_
  refine .skip (Field.not_refuses_text rfl) ?_
  refine .bind (read_flag _ _ _) fun _ enabled => ?_
  refine .bind (read_positive _ _ _) fun _ interval => ?_
  refine .skip (Field.not_refuses_text rfl) ?_
  refine .bind (read_flag _ _ _) fun _ randomized => ?_
  refine .bind (read_flag _ _ _) fun _ commands => ?_
  refine .skip (Field.not_refuses_text rfl) ?_
  refine .done ?_
  simp only [fields, List.forall_mem_cons]
  refine ⟨share, voting, selfVote, inactivity, leaving, sweep, room, workers, page, ?_, enabled,
    interval, ?_, randomized, commands, ?_, nofun⟩
  · refine Field.stands_text rfl ?_
    rw [List.findSome?_cons, List.findSome?_singleton, Option.map_id]
    unfold databaseUrl?
    cases text? env "GUILDBOX_DATABASE_URL" <;> rfl
  · refine Field.stands_text rfl ?_
    rw [List.findSome?_singleton]
    dsimp only
    cases text? env "GUILDBOX_ACTIVITY_FILE" <;> rfl
  · refine Field.stands_text rfl ?_
    rw [List.findSome?_singleton]

theorem ofEnvironment_eq_ok_iff {c : Config} :
    ofEnvironment env = .ok c ↔ ∀ f ∈ fields, f.Stands env (f.get c) := by
  rcases ofEnvironment_outcome env with ⟨c', same, stands⟩ | ⟨e, same, first⟩
  · rw [same]
    constructor
    · rintro ⟨⟩
      exact stands
    · intro stands'
      rw [ext_fields fun f there => (stands f there).unique (stands' f there)]
  · rw [same]
    exact ⟨nofun, fun stands => absurd stands (first.not_stands c)⟩

theorem ofEnvironment_eq_error_iff {e : ConfigError} :
    ofEnvironment env = .error e ↔ FirstRefused env e fields := by
  rcases ofEnvironment_outcome env with ⟨c, same, stands⟩ | ⟨e', same, first⟩
  · rw [same]
    exact ⟨nofun, fun first => absurd stands (first.not_stands c)⟩
  · rw [same]
    constructor
    · rintro ⟨⟩
      exact first
    · intro first'
      rw [first.unique first']

theorem ofEnvironment_fails_iff :
    (∃ e, ofEnvironment env = .error e) ↔ ∃ f ∈ fields, ∃ e, f.Refuses env e := by
  constructor
  · rintro ⟨e, failed⟩
    obtain ⟨f, there, refused⟩ := (ofEnvironment_eq_error_iff.mp failed).exists_mem
    exact ⟨f, there, e, refused⟩
  · rintro ⟨f, there, e, refused⟩
    cases same : ofEnvironment env with
    | error e' => exact ⟨e', rfl⟩
    | ok c =>
        have stands := ofEnvironment_eq_ok_iff.mp same f there
        exact absurd refused stands.not_refuses

theorem text?_eq_some_iff {v s : String} :
    text? env v = some s ↔ env v = some s ∧ ¬ Text.Blanks s.toList := by
  simp [text?, Option.filter_eq_some_iff, Text.isAllBlank, Text.Blanks]

theorem text?_text? (env : Environment) : text? (text? env) = text? env := by
  funext v
  simp [text?, Option.filter_filter]

theorem ofEnvironment_text? (env : Environment) : ofEnvironment (text? env) = ofEnvironment env := by
  simp only [ofEnvironment, ratio?, positive?, numeral?, flag?, databaseUrl?, text?_text?]

theorem Field.source?_congr {f : Field} {env env' : Environment}
    (same : ∀ v ∈ f.names, text? env v = text? env' v) : f.source? env = f.source? env' := by
  unfold source?
  generalize f.names = vs at same
  induction vs with
  | nil => rfl
  | cons v vs ih =>
      obtain ⟨first, others⟩ := List.forall_mem_cons.mp same
      rw [List.findSome?_cons, List.findSome?_cons, first, ih others]

theorem get_congr {env env' : Environment} {c c' : Config} (read : ofEnvironment env = .ok c)
    (read' : ofEnvironment env' = .ok c') {f : Field} (there : f ∈ fields)
    (same : ∀ v ∈ f.names, text? env v = text? env' v) : f.get c = f.get c' := by
  have stands := ofEnvironment_eq_ok_iff.mp read f there
  have stands' := ofEnvironment_eq_ok_iff.mp read' f there
  unfold Field.Stands at stands'
  rw [← Field.source?_congr same] at stands'
  exact Field.Stands.unique stands stands'

/-- A variable counts if it is set to a text that is not blank. An environment is read without an error if and
only if no field is refused, and then every field has what the first of its variables that counts stands for,
or its default; so it depends on no other variable. Otherwise the error is that of the first field that is
refused, and its message names the variable. -/
theorem ofEnvironment_exact :
    (∀ env v s, text? env v = some s ↔ env v = some s ∧ ¬ Text.Blanks s.toList) ∧
    (∀ env, ofEnvironment (text? env) = ofEnvironment env) ∧
    (∀ cs core, Text.Core cs core ↔ core = Text.trimBlanks cs) ∧
    (fields.flatMap (·.names)).Nodup ∧
    (∀ env, (∃ e, ofEnvironment env = .error e) ↔ ∃ f ∈ fields, ∃ e, f.Refuses env e) ∧
    (∀ env e, ofEnvironment env = .error e ↔ FirstRefused env e fields) ∧
    (∀ e : ConfigError, ∃ front back, e.message = front ++ e.variableName ++ back) ∧
    (∀ env c, ofEnvironment env = .ok c ↔ ∀ f ∈ fields, f.Stands env (f.get c)) ∧
    ∀ env env' c c', ofEnvironment env = .ok c → ofEnvironment env' = .ok c' →
      ∀ f ∈ fields, (∀ v ∈ f.names, text? env v = text? env' v) → f.get c = f.get c' :=
  ⟨fun _ _ _ => text?_eq_some_iff, ofEnvironment_text?, fun _ _ => Text.core_iff, names_nodup,
    fun _ => ofEnvironment_fails_iff, fun _ _ => ofEnvironment_eq_error_iff,
    ConfigError.message_names,
    fun _ _ => ofEnvironment_eq_ok_iff,
    fun _ _ _ _ read read' _ there same => get_congr read read' there same⟩

/-- The first refusal decides, with the text as it was written. -/
example :
    ofEnvironment (fun v =>
      if v = "GUILDBOX_WORKERS" then some " +0 "
      else if v = "GUILDBOX_SELF_VOTE" then some "Off"
      else if v = "GUILDBOX_ACTIVITY_ENABLED" then some "maybe"
      else none) = .error (.zero "GUILDBOX_WORKERS") := by
  decide +kernel

end Config

end Jukebox
