import FrontEnd.Proofs.Rests
import Mathlib.Data.List.Basic

namespace FrontEnd

/-! ### Trying rules -/

def Rule.renamed (r : Rule) (name : String) : Rule := { r with name }

namespace Rule

variable {p q : Nat → Bool} {k : Cursor} {rules : List Rule}

theorem tryInOrder_renamed (name : String) :
    tryInOrder p k (rules.map (·.renamed name)) =
      ⟨(tryInOrder p k rules).attempts,
        (tryInOrder p k rules).hit.map fun h => (h.1.renamed name, h.2)⟩ := by
  induction rules with
  | nil => rfl
  | cons r rules ih =>
    have hr : (r.renamed name).lengthAt? k = r.lengthAt? k := rfl
    rw [List.map_cons, tryInOrder, tryInOrder, hr, ih]
    cases (r.lengthAt? k).filter p with
    | none => rfl
    | some n => rfl

theorem tryInOrder_congr (h : ∀ r ∈ rules, ∀ n, r.lengthAt? k = some n → p n = q n) :
    tryInOrder p k rules = tryInOrder q k rules := by
  induction rules with
  | nil => rfl
  | cons r rules ih =>
    have hr : (r.lengthAt? k).filter p = (r.lengthAt? k).filter q := by
      cases hn : r.lengthAt? k with
      | none => rfl
      | some n => simp only [Option.filter_some, h r List.mem_cons_self n hn]
    rw [tryInOrder, tryInOrder, hr, ih fun r hr => h r (List.mem_cons_of_mem _ hr)]

end Rule

namespace Lexer

/-! ### Revealing -/

/-- The lexer that makes tokens of a kind of what the lexer passes over. -/
def revealed (l : Lexer) (kind : String) : Lexer :=
  { rules := l.ignored.map (·.renamed kind) ++ l.rules }

section Revealed

variable {l : Lexer} {k : Cursor}
  (hpos : ∀ r ∈ l.ignored, ∀ n, r.lengthAt? k = some n → 0 < n)

include hpos

/-- Where no match is empty, a match to pass over is a match to make a token of. -/
theorem tryInOrder_moved (kind : String) :
    Rule.tryInOrder (fun _ => true) k (l.ignored.map (·.renamed kind)) =
      ⟨(Rule.tryInOrder (0 < ·) k l.ignored).attempts,
        (Rule.tryInOrder (0 < ·) k l.ignored).hit.map fun h => (h.1.renamed kind, h.2)⟩ := by
  have hsame : Rule.tryInOrder (fun _ => true) k l.ignored =
      Rule.tryInOrder (0 < ·) k l.ignored :=
    Rule.tryInOrder_congr fun r hr n hn => (decide_eq_true (hpos r hr n hn)).symm
  rw [Rule.tryInOrder_renamed, hsame]

theorem tryInOrder_revealed_of_hit (kind : String) {r : Rule} {n : Nat}
    (hhit : (Rule.tryInOrder (0 < ·) k l.ignored).hit = some (r, n)) :
    Rule.tryInOrder (fun _ => true) k (l.revealed kind).rules =
      ⟨(Rule.tryInOrder (0 < ·) k l.ignored).attempts, some (r.renamed kind, n)⟩ := by
  have hmoved := tryInOrder_moved hpos kind
  rw [hhit] at hmoved
  have hhit' := congrArg Rule.Trial.hit hmoved
  rw [revealed, Rule.tryInOrder_append_of_hit hhit', hmoved]
  rfl

theorem tryInOrder_revealed_of_none (kind : String)
    (hnone : (Rule.tryInOrder (0 < ·) k l.ignored).hit = none) :
    Rule.tryInOrder (fun _ => true) k (l.revealed kind).rules =
      ⟨(Rule.tryInOrder (0 < ·) k l.ignored).attempts +
          (Rule.tryInOrder (fun _ => true) k l.rules).attempts,
        (Rule.tryInOrder (fun _ => true) k l.rules).hit⟩ := by
  have hmoved := tryInOrder_moved hpos kind
  rw [hnone] at hmoved
  have hnone' := congrArg Rule.Trial.hit hmoved
  rw [revealed, Rule.tryInOrder_append_of_none hnone', hmoved]

end Revealed

/-! ### Runs -/

def Stream.results (s : Stream) (n : Nat) : List (Outcome × Stream) := (s.drain n).map Pull.result

def Outcome.token? : Outcome → Option (Token × Lexeme)
  | .token t x => some (t, x)
  | _ => none

def tokens (rs : List (Outcome × Stream)) : List (Token × Lexeme) := rs.filterMap (·.1.token?)

def dropping (kind : String) (ts : List (Token × Lexeme)) : List (Token × Lexeme) :=
  ts.filter (·.1.kind != kind)

section Results

variable {s m : Stream}

theorem results_of_token {y : Token × Lexeme} (h : s.pull.outcome.token? = some y) (n : Nat) :
    s.results (n + 1) = s.pull.result :: s.pull.stream.results n := by
  rw [Stream.results, Stream.drain]
  cases houtcome : s.pull.outcome with
  | token => rfl
  | finished | failed => rw [houtcome] at h; contradiction

theorem results_of_stop (h : s.pull.outcome.token? = none) (n : Nat) :
    s.results (n + 1) = [s.pull.result] := by
  rw [Stream.results, Stream.drain]
  cases houtcome : s.pull.outcome with
  | token => rw [houtcome] at h; contradiction
  | finished | failed => rfl

theorem results_congr (h : s.pull.result = m.pull.result) (n : Nat) :
    s.results n = m.results n := by
  cases n with
  | zero => rfl
  | succ n =>
    have houtcome : s.pull.outcome = m.pull.outcome := congrArg Prod.fst h
    have hstream : s.pull.stream = m.pull.stream := congrArg Prod.snd h
    cases htoken : s.pull.outcome.token? with
    | none => rw [results_of_stop htoken, results_of_stop (houtcome ▸ htoken), h]
    | some y => rw [results_of_token htoken, results_of_token (houtcome ▸ htoken), h, hstream]

theorem tokens_of_token {r : Outcome × Stream} {y : Token × Lexeme} (h : r.1.token? = some y)
    (rs : List (Outcome × Stream)) : tokens (r :: rs) = y :: tokens rs :=
  List.filterMap_cons_some h

theorem tokens_of_stop {r : Outcome × Stream} (h : r.1.token? = none)
    (rs : List (Outcome × Stream)) : tokens (r :: rs) = tokens rs :=
  List.filterMap_cons_none h

theorem dropping_of_eq {kind : String} {y : Token × Lexeme} (h : y.1.kind = kind)
    (ts : List (Token × Lexeme)) : dropping kind (y :: ts) = dropping kind ts :=
  List.filter_cons_of_neg (by simp [h])

theorem dropping_of_ne {kind : String} {y : Token × Lexeme} (h : y.1.kind ≠ kind)
    (ts : List (Token × Lexeme)) : dropping kind (y :: ts) = y :: dropping kind ts :=
  List.filter_cons_of_pos (by simp [h])

theorem results_succ_ne_nil (s : Stream) (n : Nat) : s.results (n + 1) ≠ [] := by
  cases htoken : s.pull.outcome.token? with
  | none => simp [results_of_stop htoken]
  | some y => simp [results_of_token htoken]

end Results

section Last

variable {α β : Type} {R : α → β → Prop} {xs : List α} {ys : List β}

theorem rel_getLast?_cons {x : α} {y : β} (hR : R x y)
    (h : Option.Rel R xs.getLast? ys.getLast?) :
    Option.Rel R (x :: xs).getLast? (y :: ys).getLast? := by
  rw [List.getLast?_cons, List.getLast?_cons]
  generalize xs.getLast? = x', ys.getLast? = y' at h
  cases h with
  | none => exact .some hR
  | some h => exact .some h

theorem rel_getLast?_cons_right (h : Option.Rel R xs.getLast? ys.getLast?) (hxs : xs ≠ [])
    (y : β) : Option.Rel R xs.getLast? (y :: ys).getLast? := by
  rw [List.getLast?_cons]
  generalize hx : xs.getLast? = x', ys.getLast? = y' at h ⊢
  cases h with
  | none => exact absurd (List.getLast?_eq_none_iff.1 hx) hxs
  | some h => exact .some h

theorem mem_getLast?_cons_iff {x y : α} :
    y ∈ (x :: xs).getLast? ↔ xs = [] ∧ y = x ∨ y ∈ xs.getLast? := by
  rw [List.getLast?_cons]
  cases hxs : xs.getLast? with
  | none => simp [List.getLast?_eq_none_iff.1 hxs, eq_comm]
  | some z =>
    have hne : xs ≠ [] := by
      rintro rfl
      contradiction
    simp [hne]

end Last

/-! ### Two streams -/

/-- The streams are at one place, where the second has made a token of each stretch that the first
has passed over, with as many attempts. -/
structure Stream.Abreast (s s' : Stream) : Prop where
  cursor : s'.cursor = s.cursor
  tokens : s'.stats.tokens = s.stats.tokens + s.stats.ignored
  attempts : s'.stats.attempts = s.stats.attempts

namespace Stream.Abreast

variable {s s' : Stream} (h : s.Abreast s')

include h

theorem trying (attempts : Nat) : (s.trying attempts).Abreast (s'.trying attempts) :=
  ⟨h.cursor, h.tokens, congrArg (· + attempts) h.attempts⟩

theorem taking (n : Nat) : (s.taking n).Abreast (s'.taking n) := by
  refine ⟨congrArg (·.advance n) h.cursor, ?_, h.attempts⟩
  have htokens := h.tokens
  simp only [Stream.taking]
  omega

theorem passing (n : Nat) : (s.passing n).Abreast (s'.taking n) := by
  refine ⟨congrArg (·.advance n) h.cursor, ?_, h.attempts⟩
  have htokens := h.tokens
  simp only [Stream.passing, Stream.taking]
  omega

end Stream.Abreast

inductive Outcome.Matches : Outcome → Outcome → Prop where
  | token (t : Token) (x : Lexeme) : Matches (.token t x) (.token t x)
  | finished : Matches .finished .finished
  | failed {e e' : LexingError} (message : e'.message = e.message)
      (index : e'.position.index = e.position.index) (line : e'.position.line = e.position.line) :
      Matches (.failed e) (.failed e')

theorem Outcome.Matches.token?_eq {o o' : Outcome} (h : o.Matches o') : o'.token? = o.token? := by
  cases h <;> rfl

structure Level (r r' : Outcome × Stream) : Prop where
  outcome : r.1.Matches r'.1
  stream : r.2.Abreast r'.2

inductive Thinned (kind : String) :
    List (Outcome × Stream) → List (Outcome × Stream) → Prop where
  | nil : Thinned kind [] []
  | drop {rs rs' r' y} (token : r'.1.token? = some y) (kind_eq : y.1.kind = kind)
      (more : Thinned kind rs rs') : Thinned kind rs (r' :: rs')
  | both {rs rs' r r'} (level : Level r r') (kind_ne : ∀ y, r.1.token? = some y → y.1.kind ≠ kind)
      (more : Thinned kind rs rs') : Thinned kind (r :: rs) (r' :: rs')

theorem Thinned.tokens_eq {kind : String} {rs rs' : List (Outcome × Stream)}
    (h : Thinned kind rs rs') : tokens rs = dropping kind (tokens rs') := by
  induction h with
  | nil => rfl
  | drop htoken heq _ ih => rw [tokens_of_token htoken, dropping_of_eq heq, ih]
  | @both rs rs' r r' hlevel hne _ ih =>
    have hsame := hlevel.outcome.token?_eq
    cases htoken : r.1.token? with
    | none => rw [tokens_of_stop htoken, tokens_of_stop (hsame.trans htoken), ih]
    | some y =>
      rw [tokens_of_token htoken, tokens_of_token (hsame.trans htoken),
        dropping_of_ne (hne y htoken), ih]

theorem Thinned.level_of_stop {kind : String} {rs rs' : List (Outcome × Stream)}
    (h : Thinned kind rs rs') :
    ∀ r' ∈ rs'.getLast?, r'.1.token? = none → ∃ r ∈ rs.getLast?, Level r r' := by
  induction h with
  | nil => nofun
  | drop htoken _ _ ih =>
    intro r' hr' hstop
    rcases mem_getLast?_cons_iff.1 hr' with ⟨-, rfl⟩ | hr'
    · rw [htoken] at hstop
      contradiction
    · exact ih r' hr' hstop
  | both hlevel _ more ih =>
    intro r' hr' hstop
    rcases mem_getLast?_cons_iff.1 hr' with ⟨rfl, rfl⟩ | hr'
    · -- nothing comes after it, in either list
      cases more
      exact ⟨_, rfl, hlevel⟩
    · obtain ⟨r, hr, hr'⟩ := ih r' hr' hstop
      exact ⟨r, mem_getLast?_cons_iff.2 (.inr hr), hr'⟩

structure Follows (l : Lexer) (kind : String) (input : String) (s s' : Stream) : Prop where
  lexer : s.lexer = l
  lexer' : s'.lexer = l.revealed kind
  sound : s.cursor.Sound input
  abreast : s.Abreast s'

/-- What the next pull of the second stream is to the first: a token that is to be dropped, which
brings it to where a stream stands that goes on as the first, nearer to the end of the input; or
what the next pull of the first is. -/
inductive Moves (l : Lexer) (kind : String) (input : String) (s s' : Stream) : Prop where
  | drop {m : Stream} {y : Token × Lexeme} (result : s.pull.result = m.pull.result)
      (nearer : m.cursor.after.length < s.cursor.after.length)
      (token : s'.pull.outcome.token? = some y) (kind_eq : y.1.kind = kind)
      (follows : Follows l kind input m s'.pull.stream)
  | both (level : Level s.pull.result s'.pull.result)
      (kind_ne : ∀ y, s.pull.outcome.token? = some y → y.1.kind ≠ kind)
      (follows : Follows l kind input s.pull.stream s'.pull.stream)

section Follows

variable {l : Lexer} {kind input : String} {s s' : Stream}

theorem follows_lex (l : Lexer) (kind input : String) :
    Follows l kind input (l.lex input) ((l.revealed kind).lex input) :=
  ⟨rfl, rfl, Cursor.sound_ofInput input, rfl, rfl, rfl⟩

theorem lengthAt?_pos {k : Cursor} (hk : k.Sound input)
    (hempty : ∀ r ∈ l.ignored, ∀ offset m, r.match? input offset = some m → m.start < m.stop) :
    ∀ r ∈ l.ignored, ∀ n, r.lengthAt? k = some n → 0 < n := by
  intro r hr n hn
  have hmatch : r.match? input k.offset = some (k.span n) := by
    rw [Rule.match?_offset hk, hn, Option.map_some]
  exact (Rule.span_lt_iff hk hn).1 (hempty r hr _ _ hmatch)

namespace Follows

section Pull

variable (h : Follows l kind input s s')

include h

theorem after_ne (hmore : s.cursor.after ≠ []) : s'.cursor.after ≠ [] := by
  rwa [h.abreast.cursor]

theorem tryInOrder_ignored_eq (k : Cursor) :
    Rule.tryInOrder (0 < ·) k s'.lexer.ignored = ⟨0, none⟩ := by
  rw [h.lexer']
  rfl

theorem pull_of_hit (hmore : s.cursor.after ≠ []) {a n : Nat} {r : Rule}
    (htrial : Rule.tryInOrder (fun _ => true) s.cursor (l.revealed kind).rules =
      ⟨a, some (r, n)⟩) :
    s'.pull = ⟨[], .token ⟨r.name, (s.cursor.lexeme n).text, some s.cursor.position⟩
      (s.cursor.lexeme n), (s'.trying a).taking n⟩ := by
  have hnone := congrArg Rule.Trial.hit (h.tryInOrder_ignored_eq s'.cursor)
  rw [← h.abreast.cursor, ← h.lexer'] at htrial
  rw [Stream.pull_of_hit (h.after_ne hmore) hnone (congrArg Rule.Trial.hit htrial), htrial,
    h.tryInOrder_ignored_eq, h.abreast.cursor, Nat.zero_add]

theorem pull_of_none (hmore : s.cursor.after ≠ []) {a : Nat}
    (htrial : Rule.tryInOrder (fun _ => true) s.cursor (l.revealed kind).rules = ⟨a, none⟩) :
    s'.pull = ⟨[], .failed ⟨"", ⟨s.cursor.index, s.cursor.line, s'.column⟩⟩, s'.trying a⟩ := by
  have hnone := congrArg Rule.Trial.hit (h.tryInOrder_ignored_eq s'.cursor)
  rw [← h.abreast.cursor, ← h.lexer'] at htrial
  rw [Stream.pull_of_none (h.after_ne hmore) hnone (congrArg Rule.Trial.hit htrial), htrial,
    h.tryInOrder_ignored_eq, h.abreast.cursor, Nat.zero_add]

end Pull

section Moves

variable (h : Follows l kind input s s')

include h

theorem trying (a : Nat) : Follows l kind input (s.trying a) (s'.trying a) :=
  ⟨h.lexer, h.lexer', h.sound, h.abreast.trying a⟩

theorem taking (n : Nat) : Follows l kind input (s.taking n) (s'.taking n) :=
  ⟨h.lexer, h.lexer', h.sound.advance n, h.abreast.taking n⟩

theorem passing (n : Nat) : Follows l kind input (s.passing n) (s'.taking n) :=
  ⟨h.lexer, h.lexer', h.sound.advance n, h.abreast.passing n⟩

theorem moves_of_end (hend : s.cursor.after = []) : Moves l kind input s s' := by
  have hpull : s.pull = ⟨[], .finished, s⟩ := Stream.pull_of_end hend
  have hpull' : s'.pull = ⟨[], .finished, s'⟩ :=
    Stream.pull_of_end (by rw [h.abreast.cursor, hend])
  refine .both ?_ ?_ ?_
  · rw [hpull, hpull']
    exact ⟨.finished, h.abreast⟩
  · rw [hpull]
    nofun
  · rwa [hpull, hpull']

variable (hmore : s.cursor.after ≠ [])
  (hpos : ∀ r ∈ l.ignored, ∀ n, r.lengthAt? s.cursor = some n → 0 < n)

include hmore hpos

theorem moves_of_passing {r : Rule} {n : Nat}
    (hhit : (Rule.tryInOrder (0 < ·) s.cursor l.ignored).hit = some (r, n)) :
    Moves l kind input s s' := by
  have hpull' := h.pull_of_hit hmore (tryInOrder_revealed_of_hit hpos kind hhit)
  have hn : 0 < n := of_decide_eq_true (Rule.of_tryInOrder_hit hhit).2.2
  obtain rfl := h.lexer
  exact .drop (Stream.result_pull_of_passing hmore hhit)
    (s.cursor.length_after_advance_lt hn hmore) (congrArg (·.outcome.token?) hpull') rfl
    (hpull' ▸ (h.trying _).passing n)

theorem moves_of_rest (hkind : ∀ r ∈ l.rules, r.name ≠ kind)
    (hrest : (Rule.tryInOrder (0 < ·) s.cursor l.ignored).hit = none) :
    Moves l kind input s s' := by
  have htrial := tryInOrder_revealed_of_none hpos kind hrest
  obtain rfl := h.lexer
  cases hhit : (Rule.tryInOrder (fun _ => true) s.cursor s.lexer.rules).hit with
  | some found =>
    obtain ⟨r, n⟩ := found
    have hpull := Stream.pull_of_hit hmore hrest hhit
    have hpull' := h.pull_of_hit hmore (htrial.trans (by rw [hhit]))
    refine .both ?_ ?_ ?_
    · rw [hpull, hpull']
      exact ⟨.token _ _, (h.abreast.trying _).taking n⟩
    · rw [hpull]
      rintro _ ⟨⟩
      exact hkind r (Rule.of_tryInOrder_hit hhit).1
    · rw [hpull, hpull']
      exact (h.trying _).taking n
  | none =>
    have hpull := Stream.pull_of_none hmore hrest hhit
    have hpull' := h.pull_of_none hmore (htrial.trans (by rw [hhit]))
    refine .both ?_ ?_ ?_
    · rw [hpull, hpull']
      exact ⟨.failed rfl rfl rfl, h.abreast.trying _⟩
    · rw [hpull]
      nofun
    · rw [hpull, hpull']
      exact h.trying _

end Moves

end Follows

section Runs

variable (hkind : ∀ r ∈ l.rules, r.name ≠ kind)
  (hempty : ∀ r ∈ l.ignored, ∀ offset m, r.match? input offset = some m → m.start < m.stop)

include hkind hempty

theorem Follows.moves (h : Follows l kind input s s') : Moves l kind input s s' := by
  have hpos := lengthAt?_pos h.sound hempty
  by_cases hend : s.cursor.after = []
  · exact h.moves_of_end hend
  · -- the moved rules are tried first, so it is for them to say whether there is a token to drop
    cases hhit : (Rule.tryInOrder (0 < ·) s.cursor l.ignored).hit with
    | some found => exact h.moves_of_passing hend hpos hhit
    | none => exact h.moves_of_rest hend hpos hkind hhit

/-- To a run of the first stream there is one of the second that comes to the same. -/
theorem Follows.exists_thinned (h : Follows l kind input s s') (n : Nat) :
    ∃ n', Thinned kind (s.results n) (s'.results n') ∧
      Option.Rel Level (s.results n).getLast? (s'.results n').getLast? := by
  induction n generalizing s s' with
  | zero => exact ⟨0, .nil, .none⟩
  | succ n ih =>
    -- the pulls that are to be dropped come before the one that goes with the first pull
    induction hlen : s.cursor.after.length using Nat.strongRecOn generalizing s s' with
    | ind len ihlen =>
      cases h.moves hkind hempty with
      | @drop m y hresult hnearer htoken heq hfollows =>
        obtain ⟨n', hthinned, hlast⟩ := ihlen _ (hlen ▸ hnearer) hfollows rfl
        refine ⟨n' + 1, ?_⟩
        rw [results_congr hresult, results_of_token htoken]
        exact ⟨.drop htoken heq hthinned,
          rel_getLast?_cons_right hlast (results_succ_ne_nil m n) _⟩
      | both hlevel hne hfollows =>
        have hsame := hlevel.outcome.token?_eq
        cases htoken : s.pull.outcome.token? with
        | none =>
          refine ⟨1, ?_⟩
          rw [results_of_stop htoken, results_of_stop (hsame.trans htoken)]
          exact ⟨.both hlevel hne .nil, .some hlevel⟩
        | some y =>
          obtain ⟨n', hthinned, hlast⟩ := ih hfollows
          refine ⟨n' + 1, ?_⟩
          rw [results_of_token htoken, results_of_token (hsame.trans htoken)]
          exact ⟨.both hlevel hne hthinned, rel_getLast?_cons hlevel hlast⟩

/-- To a run of the second stream there is one of the first, which may be shorter. -/
theorem Follows.exists_thinned_of_revealed (h : Follows l kind input s s') (n' : Nat) :
    ∃ n, Thinned kind (s.results n) (s'.results n') := by
  induction n' generalizing s s' with
  | zero => exact ⟨0, .nil⟩
  | succ n' ih =>
    cases h.moves hkind hempty with
    | drop hresult _ htoken heq hfollows =>
      obtain ⟨n, hthinned⟩ := ih hfollows
      refine ⟨n, ?_⟩
      rw [results_congr hresult, results_of_token htoken]
      exact .drop htoken heq hthinned
    | both hlevel hne hfollows =>
      have hsame := hlevel.outcome.token?_eq
      cases htoken : s.pull.outcome.token? with
      | none =>
        refine ⟨1, ?_⟩
        rw [results_of_stop htoken, results_of_stop (hsame.trans htoken)]
        exact .both hlevel hne .nil
      | some y =>
        obtain ⟨n, hthinned⟩ := ih hfollows
        refine ⟨n + 1, ?_⟩
        rw [results_of_token htoken, results_of_token (hsame.trans htoken)]
        exact .both hlevel hne hthinned

end Runs

end Follows

/-! ### Dropping -/

def Stream.Reaches (s : Stream) (P : Outcome → Prop) : Prop :=
  ∃ n, ∃ r ∈ (s.results n).getLast?, P r.1

/-- The streams come to an outcome without a token together. -/
theorem Follows.reaches_iff {l : Lexer} {kind input : String} {s s' : Stream}
    (h : Follows l kind input s s') (hkind : ∀ r ∈ l.rules, r.name ≠ kind)
    (hempty : ∀ r ∈ l.ignored, ∀ offset m, r.match? input offset = some m → m.start < m.stop)
    {P : Outcome → Prop} (hstop : ∀ o, P o → o.token? = none)
    (hsame : ∀ o o', o.Matches o' → (P o ↔ P o')) : s.Reaches P ↔ s'.Reaches P := by
  constructor
  · rintro ⟨n, r, hr, hP⟩
    obtain ⟨n', -, hlast⟩ := h.exists_thinned hkind hempty n
    rw [Option.mem_def.1 hr] at hlast
    generalize hr' : (s'.results n').getLast? = r' at hlast
    cases hlast with
    | some hlevel => exact ⟨n', _, hr', (hsame _ _ hlevel.outcome).1 hP⟩
  · rintro ⟨n', r', hr', hP⟩
    obtain ⟨n, hthinned⟩ := h.exists_thinned_of_revealed hkind hempty n'
    obtain ⟨r, hr, hlevel⟩ := hthinned.level_of_stop r' hr' (hstop _ hP)
    exact ⟨n, r, hr, (hsame _ _ hlevel.outcome).2 hP⟩

/-- Passing over what some rules match is making tokens of it and dropping these, up to any number
of tokens, to the end and to an error, with the same attempts. -/
theorem tokens_eq_dropping (l : Lexer) (kind input : String)
    (hkind : ∀ r ∈ l.rules, r.name ≠ kind)
    (hempty : ∀ r ∈ l.ignored, ∀ offset m, r.match? input offset = some m → m.start < m.stop) :
    let s := l.lex input
    let s' := (l.revealed kind).lex input
    (∀ n, ∃ n', tokens (s.results n) = dropping kind (tokens (s'.results n')) ∧
      Option.Rel Level (s.results n).getLast? (s'.results n').getLast?) ∧
    (∀ n', ∃ n, tokens (s.results n) = dropping kind (tokens (s'.results n')) ∧
      ∀ r' ∈ (s'.results n').getLast?, r'.1.token? = none →
        ∃ r ∈ (s.results n).getLast?, Level r r') ∧
    (s.Reaches (· = .finished) ↔ s'.Reaches (· = .finished)) ∧
    (s.Reaches (fun o => ∃ e, o = .failed e) ↔ s'.Reaches fun o => ∃ e, o = .failed e) := by
  intro s s'
  have h : Follows l kind input s s' := follows_lex l kind input
  refine ⟨fun n => ?_, fun n' => ?_, h.reaches_iff hkind hempty ?_ ?_,
    h.reaches_iff hkind hempty ?_ ?_⟩
  · obtain ⟨n', hthinned, hlast⟩ := h.exists_thinned hkind hempty n
    exact ⟨n', hthinned.tokens_eq, hlast⟩
  · obtain ⟨n, hthinned⟩ := h.exists_thinned_of_revealed hkind hempty n'
    exact ⟨n, hthinned.tokens_eq, hthinned.level_of_stop⟩
  · rintro _ rfl
    rfl
  · intro o o' hmatch
    cases hmatch <;> simp
  · rintro _ ⟨e, rfl⟩
    rfl
  · intro o o' hmatch
    cases hmatch <;> simp

def spaced : Lexer := { rules := [⟨"A", only 'a'⟩], ignored := [⟨"", only ' '⟩] }

theorem tokens_eq_dropping_spaced :
    (∀ r ∈ spaced.rules, r.name ≠ "BLANK") ∧
    (∀ r ∈ spaced.ignored, ∀ offset m, r.match? "a aa ?" offset = some m → m.start < m.stop) ∧
    ∃ n', tokens ((spaced.lex "a aa ?").results 4) =
        dropping "BLANK" (tokens (((spaced.revealed "BLANK").lex "a aa ?").results n')) ∧
      Option.Rel Level ((spaced.lex "a aa ?").results 4).getLast?
        (((spaced.revealed "BLANK").lex "a aa ?").results n').getLast? := by
  have hkind : ∀ r ∈ spaced.rules, r.name ≠ "BLANK" := by simp [spaced]
  have hempty : ∀ r ∈ spaced.ignored, ∀ offset m,
      r.match? "a aa ?" offset = some m → m.start < m.stop := by
    intro r hr offset m hm
    obtain rfl := List.mem_singleton.1 hr
    exact match?_only hm
  exact ⟨hkind, hempty, (tokens_eq_dropping spaced "BLANK" "a aa ?" hkind hempty).1 4⟩

end Lexer
end FrontEnd
