import FrontEnd.Proofs.Rests

namespace FrontEnd

def Token.column? (t : Token) : Option Nat := t.position.map Position.column

namespace Lexer

def Pull.token? (p : Pull) : Option Token :=
  match p.outcome with
  | .token t _ => some t
  | _ => none

def Stream.made (s : Stream) : Nat → List Token
  | 0 => []
  | n + 1 => s.made n ++ (s.after n).pull.token?.toList

theorem column_pull (s : Stream) :
    some s.pull.stream.column = (s.pull.token?.map Token.column?).getD (some s.column) := by
  unfold Stream.pull
  generalize Stream.passOver s.lexer.ignored s.cursor = passed
  obtain ⟨skipped, k, attempts⟩ := passed
  dsimp only
  split
  · rfl
  · split <;> rfl

/-- However many pulls have made no token since, the column is that of the token made last. -/
theorem column_after (s : Stream) (n : Nat) :
    some (s.after n).column = ((s.made n).getLast?.map Token.column?).getD (some s.column) := by
  induction n with
  | zero => rfl
  | succ n ih =>
    rw [Stream.after, column_pull, ih, Stream.made]
    cases (s.after n).pull.token? with
    | none => rw [Option.toList_none, List.append_nil]; rfl
    | some t => rw [Option.toList_some, List.getLast?_concat]; rfl

/-- An error has the index and the line of the place it leaves, and the column from before. -/
theorem eq_of_failed {s : Stream} {e : LexingError} (h : s.pull.outcome = .failed e) :
    e = ⟨"", s.pull.stream.cursor.index, s.pull.stream.cursor.line, s.column⟩ := by
  obtain ⟨k, -, hcomes, -⟩ := pull_cases s
  rw [h] at hcomes
  generalize s.pull.stream.cursor = k' at hcomes ⊢
  cases hcomes
  rfl

/-- An error has no message. Its index and its line are those behind the text that is read when it
is made; its column is that of the last token of all pulls before, and one if there is none. -/
theorem failures_placed (l : Lexer) (input : String) (n : Nat) (e : LexingError)
    (h : ((l.lex input).after n).pull.outcome = .failed e) :
    let s := l.lex input
    e.message = "" ∧
    (∃ pre post, input.toList = pre ++ post ∧ Text.byteLength pre = (s.after (n + 1)).offset ∧
      e.position.index = pre.length ∧ e.position.line = 1 + pre.count '\n') ∧
    (s.made n = [] → e.position.column = 1) ∧
    ∀ t, (s.made n).getLast? = some t → t.column? = some e.position.column := by
  intro s
  have hk : (s.after (n + 1)).cursor.Sound input := sound_after l input (n + 1)
  have hcolumn := column_after s n
  obtain rfl := eq_of_failed h
  refine ⟨rfl, ⟨(s.after (n + 1)).cursor.before.reverse, (s.after (n + 1)).cursor.after,
    hk.text.symm, hk.offset.symm, ?_, ?_⟩, fun hnone => ?_, fun t ht => ?_⟩
  · rw [List.length_reverse]
    exact hk.index
  · rw [List.count_reverse]
    exact hk.line
  · rw [hnone] at hcolumn
    exact Option.some.inj hcolumn
  · rw [ht] at hcolumn
    exact hcolumn.symm

def lined : Lexer := { rules := [⟨"A", only 'a'⟩], ignored := [⟨"", only '\n'⟩] }

/-- The letter b on the second line is unknown. -/
theorem failures_placed_lined :
    let s := lined.lex "aa\nb"
    (s.after 2).pull.outcome = .failed ⟨"", 3, 2, 2⟩ ∧
      (∃ pre post, "aa\nb".toList = pre ++ post ∧ Text.byteLength pre = (s.after 3).offset ∧
        3 = pre.length ∧ 2 = 1 + pre.count '\n') ∧
      ∃ t, (s.made 2).getLast? = some t ∧ t.column? = some 2 := by
  intro s
  let once := (s.trying 2).taking 1
  let twice := (once.trying 2).taking 1
  have hfirst : s.pull = ⟨[], .token ⟨"A", "a", some ⟨0, 1, 1⟩⟩ ⟨0, 1, "a"⟩, once⟩ :=
    Stream.pull_of_hit (s := s) (r := ⟨"A", only 'a'⟩) (by decide) rfl rfl
  have hsecond : once.pull = ⟨[], .token ⟨"A", "a", some ⟨1, 1, 2⟩⟩ ⟨1, 2, "a"⟩, twice⟩ :=
    Stream.pull_of_hit (s := once) (r := ⟨"A", only 'a'⟩) (by decide) rfl rfl
  have honce : s.after 1 = once := congrArg Pull.stream hfirst
  have htwice : s.after 2 = twice := by rw [Stream.after, honce, hsecond]
  have hlast : (s.made 2).getLast? = some ⟨"A", "a", some ⟨1, 1, 2⟩⟩ := by
    rw [Stream.made, honce, hsecond]
    exact List.getLast?_concat
  have hfailed : (s.after 2).pull.outcome = .failed ⟨"", 3, 2, 2⟩ := by
    have hpass := Stream.result_pull_of_passing (s := twice) (r := ⟨"", only '\n'⟩) (n := 1)
      (by decide) rfl
    have hnone := Stream.pull_of_none (s := (twice.trying 1).passing 1) (by decide) rfl rfl
    rw [htwice]
    exact (congrArg Prod.fst hpass).trans (congrArg Pull.outcome hnone)
  obtain ⟨-, hplace, -, hcolumn⟩ := failures_placed lined "aa\nb" 2 _ hfailed
  exact ⟨hfailed, hplace, _, hlast, hcolumn _ hlast⟩

end Lexer
end FrontEnd
