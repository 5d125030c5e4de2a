import Jukebox.Command.Invocation
import Jukebox.Proofs.Text.Decimal
import Jukebox.Proofs.Text.Words

/-!
Console lines. A line is an invocation if and only if it has three words or more and the first two are
numerals of 64-bit words; any other line is turned down for the first of the guild, the member and the
command that is missing or no number. An invocation without roles, written with whatever blanks, is read
back.
-/

namespace Jukebox

namespace Text

theorem isWord_toString (n : Nat) : IsWord (toString n).toList := by
  rw [Nat.toString_eq_repr, Nat.toList_repr]
  exact ⟨Nat.toDigits_ne_nil, fun c there =>
    isBlank_of_isDigit (Nat.isDigit_of_mem_toDigits (by decide) (by decide) there)⟩

end Text

namespace Invocation

/-- The word is a numeral of the identifier. -/
def Names (word : String) (id : UInt64) : Prop := Text.Denotes word.toList id.toNat

theorem Names.unique {word : String} {id id' : UInt64} (h : Names word id) (h' : Names word id') :
    id = id' :=
  UInt64.toNat_inj.mp (Text.Denotes.unique h h')

/-- Why a line with these words is no invocation: the first part that is missing or malformed. -/
inductive Declined : List String → PlayerError → Prop
  | noGuild : Declined [] (.validation "missing <guild>")
  | badGuild {g : String} {rest : List String} (guild : ∀ id, ¬ Names g id) :
      Declined (g :: rest)
        (.validation ("<guild> must be a number, got \x60" ++ g ++ "\x60"))
  | noMember {g : String} {guild : UInt64} (first : Names g guild) :
      Declined [g] (.validation "missing <member>")
  | badMember {g m : String} {rest : List String} {guild : UInt64} (first : Names g guild)
      (member : ∀ id, ¬ Names m id) :
      Declined (g :: m :: rest)
        (.validation ("<member> must be a number, got \x60" ++ m ++ "\x60"))
  | noCommand {g m : String} {guild member : UInt64} (first : Names g guild)
      (second : Names m member) : Declined [g, m] (.validation "missing <command>")

theorem readId_cases (what word : String) :
    (∃ id, Names word id ∧ readId what (some word) = .ok id) ∨
    (∀ id, ¬ Names word id) ∧ readId what (some word) =
      .error (.validation ("<" ++ what ++ "> must be a number, got \x60" ++ word ++ "\x60")) := by
  rcases Text.numeral_cases Config.maxWord64 word with ⟨n, is, fits, same⟩ | ⟨nothing, same⟩
  · refine .inl ⟨UInt64.ofNat n, ?_, by simp only [readId, same]⟩
    have whole : (UInt64.ofNat n).toNat = n := by
      rw [UInt64.toNat_ofNat']
      simp only [Config.maxWord64, UInt64.size] at fits
      omega
    rwa [Names, whole]
  · refine .inr ⟨fun id is => nothing ⟨_, is, ?_⟩, by simp only [readId, same]⟩
    exact Nat.le_pred_of_lt id.toNat_lt

/-- What a line is read as depends on its words alone. -/
theorem ofLine_cases (line : String) :
    (∃ g m name args guild member, Text.words line = g :: m :: name :: args ∧ Names g guild ∧
      Names m member ∧
      ofLine line = .ok { guild := ⟨guild⟩, member := ⟨member⟩, name, args }) ∨
    ∃ e, Declined (Text.words line) e ∧ ofLine line = .error e := by
  unfold ofLine
  generalize Text.words line = ws
  cases ws with
  | nil => exact .inr ⟨_, .noGuild, rfl⟩
  | cons g ws =>
      simp only [List.getElem?_cons_zero, List.getElem?_cons_succ, List.drop_succ_cons]
      rcases readId_cases "guild" g with ⟨guild, first, same⟩ | ⟨none, same⟩
      · rw [same]
        cases ws with
        | nil => exact .inr ⟨_, .noMember first, rfl⟩
        | cons m ws =>
            simp only [List.getElem?_cons_zero, List.drop_succ_cons, List.drop_zero]
            rcases readId_cases "member" m with ⟨member, second, same⟩ | ⟨none, same⟩
            · rw [same]
              cases ws with
              | nil => exact .inr ⟨_, .noCommand first second, rfl⟩
              | cons name args =>
                  exact .inl ⟨g, m, name, args, guild, member, rfl, first, second, rfl⟩
            · rw [same]
              exact .inr ⟨_, .badMember first none, rfl⟩
      · rw [same]
        exact .inr ⟨_, .badGuild none, rfl⟩

theorem Declined.not_read {ws : List String} {e : PlayerError} (h : Declined ws e)
    {g m name : String} {args : List String} {guild member : UInt64}
    (line : ws = g :: m :: name :: args) (first : Names g guild) (second : Names m member) : False := by
  subst line
  cases h with
  | badGuild guild => exact guild _ first
  | badMember _ member => exact member _ second

theorem Declined.unique {ws : List String} {e e' : PlayerError} (h : Declined ws e)
    (h' : Declined ws e') : e = e' := by
  cases h with
  | noGuild =>
      cases h'
      rfl
  | badGuild guild =>
      cases h' with
      | badGuild => rfl
      | noMember first => exact absurd first (guild _)
      | badMember first => exact absurd first (guild _)
      | noCommand first => exact absurd first (guild _)
  | noMember first =>
      cases h' with
      | badGuild guild => exact absurd first (guild _)
      | noMember => rfl
  | badMember first member =>
      cases h' with
      | badGuild guild => exact absurd first (guild _)
      | badMember => rfl
      | noCommand _ second => exact absurd second (member _)
  | noCommand first second =>
      cases h' with
      | badGuild guild => exact absurd first (guild _)
      | badMember _ member => exact absurd second (member _)
      | noCommand => rfl

theorem ofLine_eq_ok_iff {line : String} {i : Invocation} :
    ofLine line = .ok i ↔ ∃ g m, Text.words line = g :: m :: i.name :: i.args ∧
      Names g i.guild.val ∧ Names m i.member.val ∧ i.roles = {} := by
  constructor
  · intro accepted
    rcases ofLine_cases line with ⟨g, m, name, args, guild, member, ws, first, second, same⟩ |
      ⟨e, _, same⟩
    · cases same.symm.trans accepted
      exact ⟨g, m, ws, first, second, rfl⟩
    · cases same.symm.trans accepted
  · rintro ⟨g, m, ws, first, second, plain⟩
    rcases ofLine_cases line with ⟨g', m', name, args, guild, member, ws', first', second', same⟩ |
      ⟨e, declined, _⟩
    · rw [same]
      cases ws.symm.trans ws'
      obtain ⟨⟨_⟩, ⟨_⟩, _, _, _⟩ := i
      cases first.unique first'
      cases second.unique second'
      cases plain
      rfl
    · exact (declined.not_read ws first second).elim

theorem ofLine_eq_error_iff {line : String} {e : PlayerError} :
    ofLine line = .error e ↔ Declined (Text.words line) e := by
  rcases ofLine_cases line with ⟨g, m, name, args, guild, member, ws, first, second, same⟩ |
    ⟨e', declined, same⟩
  · rw [same]
    exact ⟨nofun, fun declined => (declined.not_read ws first second).elim⟩
  · rw [same]
    constructor
    · rintro ⟨⟩
      exact declined
    · intro declined'
      rw [declined'.unique declined]

theorem names_toString (id : UInt64) : Names (toString id.toNat) id := Text.denotes_toString id.toNat

/-- The words that stand for the invocation on a line. -/
def lineWords (i : Invocation) : List String :=
  toString i.guild :: toString i.member :: i.name :: i.args

/-- An invocation that grants no roles is read back from its words, whatever blanks they are written with. -/
theorem ofLine_spaced {i : Invocation} (plain : i.roles = {}) (name : Text.IsWord i.name.toList)
    (args : ∀ a ∈ i.args, Text.IsWord a.toList) {lead trail first : List Char}
    {parts : List (List Char × List Char)} (spacing : Text.Spacing lead trail parts)
    (words : first :: parts.map (·.2) = i.lineWords.map String.toList) :
    ofLine (String.ofList (lead ++ (first ++ (Text.spaced parts ++ trail)))) = .ok i := by
  have solid : ∀ w ∈ first :: parts.map (·.2), Text.IsWord w := by
    rw [words]
    intro w there
    obtain ⟨word, written, rfl⟩ := List.mem_map.mp there
    simp only [lineWords, List.mem_cons] at written
    rcases written with rfl | rfl | rfl | written
    · exact Text.isWord_toString _
    · exact Text.isWord_toString _
    · exact name
    · exact args word written
  obtain ⟨front, back⟩ := List.forall_mem_cons.mp solid
  have apart := Text.wordLists_spaced spacing front fun part there =>
    back part.2 (List.mem_map_of_mem there)
  refine ofLine_eq_ok_iff.mpr ⟨toString i.guild, toString i.member, ?_, ?_, ?_, plain⟩
  · rw [Text.words, String.toList_ofList, apart, words, List.map_map]
    exact List.map_id'' (fun s => String.ofList_toList) _
  · exact names_toString i.guild.val
  · exact names_toString i.member.val

/-- A line falls apart into words in one way, and these words decide: from three on, with numerals of two
64-bit words in front, they are an invocation without roles, of the command that the third one names with
the others as arguments; and otherwise an error for the first part that is missing or malformed. Whatever
invocation without roles is written as words with blanks between them is read back. -/
theorem ofLine_exact :
    (∀ line ws, Text.Splits line ws ↔ ws = Text.wordLists line) ∧
    (∀ line, (∃ i, ofLine line = .ok i) ↔ ∃ g m name args guild member,
      Text.words line = g :: m :: name :: args ∧ Names g guild ∧ Names m member) ∧
    (∀ line i, ofLine line = .ok i ↔ ∃ g m, Text.words line = g :: m :: i.name :: i.args ∧
      Names g i.guild.val ∧ Names m i.member.val ∧ i.roles = {}) ∧
    (∀ line e, ofLine line = .error e ↔ Declined (Text.words line) e) ∧
    ∀ i : Invocation, i.roles = {} → Text.IsWord i.name.toList →
      (∀ a ∈ i.args, Text.IsWord a.toList) → ∀ lead first parts trail,
        Text.Spacing lead trail parts →
        first :: parts.map (·.2) = i.lineWords.map String.toList →
        ofLine (String.ofList (lead ++ (first ++ (Text.spaced parts ++ trail)))) = .ok i := by
  refine ⟨fun line ws => Text.splits_iff, ?_, fun line i => ofLine_eq_ok_iff,
    fun line e => ofLine_eq_error_iff, ?_⟩
  · intro line
    constructor
    · rintro ⟨i, accepted⟩
      obtain ⟨g, m, ws, first, second, _⟩ := ofLine_eq_ok_iff.mp accepted
      exact ⟨g, m, i.name, i.args, i.guild.val, i.member.val, ws, first, second⟩
    · rintro ⟨g, m, name, args, guild, member, ws, first, second⟩
      exact ⟨{ guild := ⟨guild⟩, member := ⟨member⟩, name, args },
        ofLine_eq_ok_iff.mpr ⟨g, m, ws, first, second, rfl⟩⟩
  · intro i plain name args lead first parts trail spacing words
    exact ofLine_spaced plain name args spacing words

/-- A sign, zeros in front and the greatest number that there is; one more is too much. -/
example :
    ofLine " +0012	18446744073709551615 play  a " =
      .ok { guild := ⟨12⟩, member := ⟨18446744073709551615⟩, name := "play", args := ["a"] } ∧
    ofLine "12 18446744073709551616 play" = .error
      (.validation "<member> must be a number, got `18446744073709551616`") := by
  decide +kernel

end Invocation

end Jukebox
