import FrontEnd.Proofs.Pulls

namespace FrontEnd

theorem Rule.Fails.match?_eq_none {rules : List Rule} {input : String} {k : Cursor}
    (h : Rule.Fails (Rule.lengthAt? · k) (fun _ => True) rules) (hk : k.Sound input) :
    ∀ r ∈ rules, r.match? input k.offset = none := by
  intro r hr
  rw [match?_offset hk, Option.map_eq_none_iff, Option.eq_none_iff_forall_ne_some]
  exact fun n hn => h r hr n hn trivial

namespace Lexer

inductive Tiles (input : String) : Nat → List Lexeme → Nat → Prop where
  | nil (s : Nat) : Tiles input s [] s
  | cons {x xs e} (hx : x.In input) (rest : Tiles input x.stop xs e) :
      Tiles input x.start (x :: xs) e

section Tiles

variable {input : String} {s m e : Nat} {xs ys : List Lexeme}

theorem Tiles.append (h : Tiles input s xs m) (h' : Tiles input m ys e) :
    Tiles input s (xs ++ ys) e := by
  induction h with
  | nil => exact h'
  | cons hx _ ih => exact .cons hx (ih h')

/-- Behind a beginning of the input the texts of a tiling put together continue it. -/
theorem Tiles.exists_append (h : Tiles input s xs e) {pre post : List Char}
    (hinput : input.toList = pre ++ post) (hpre : Text.byteLength pre = s) :
    ∃ rest, input.toList = pre ++ xs.flatMap (·.text.toList) ++ rest ∧
      Text.byteLength (pre ++ xs.flatMap (·.text.toList)) = e := by
  induction h generalizing pre post with
  | nil s => exact ⟨post, by simpa using hinput, by simpa using hpre⟩
  | @cons x xs e hx _ ih =>
    obtain ⟨before, after, hall, hbefore, hstop⟩ := hx
    rw [List.append_assoc] at hall
    obtain ⟨rfl, -⟩ := Text.eq_of_byteLength_eq (hall.symm.trans hinput) (hbefore.trans hpre.symm)
    rw [← List.append_assoc] at hall
    simpa using ih hall hstop

end Tiles

/-- Ignoring, by the rules alone: as long as an ignored rule has a match that is not empty, the
first such match is passed over. -/
inductive Ignores (l : Lexer) (input : String) : Nat → List Lexeme → Nat → Prop where
  | rest {s} (h : Rule.Fails (Rule.match? · input s) (fun m => m.start < m.stop) l.ignored) :
      Ignores l input s [] s
  | pass {s r x xs e} (hs : x.start = s)
      (h : Rule.First (Rule.match? · input s) (fun m => m.start < m.stop) l.ignored r
        ⟨s, x.stop⟩)
      (hx : x.In input) (more : Ignores l input x.stop xs e) : Ignores l input s (x :: xs) e

section Ignores

variable {l : Lexer} {input : String} {s e : Nat} {xs : List Lexeme}

theorem Ignores.tiles (h : Ignores l input s xs e) : Tiles input s xs e := by
  induction h with
  | rest _ => exact .nil _
  | pass hs _ hx _ ih => exact hs ▸ .cons hx ih

theorem Ignores.unique (h : Ignores l input s xs e) {xs' : List Lexeme} {e' : Nat}
    (h' : Ignores l input s xs' e') : xs = xs' ∧ e = e' := by
  induction h generalizing xs' with
  | rest hrest =>
    cases h' with
    | rest => exact ⟨rfl, rfl⟩
    | pass _ hfirst => exact absurd hfirst hrest.not_first
  | pass hs hfirst hx _ ih =>
    cases h' with
    | rest hrest => exact absurd hfirst hrest.not_first
    | pass hs' hfirst' hx' more' =>
      -- the same rule, the same match, and so the same text
      have hstop := (Span.mk.inj (hfirst.unique hfirst').2).2
      obtain rfl := hx.text_eq hx' (hs.trans hs'.symm) hstop
      obtain ⟨rfl, rfl⟩ := ih more'
      exact ⟨rfl, rfl⟩

theorem Passes.ignores {k k' : Cursor} (h : Passes l.ignored k xs k') (hk : k.Sound input) :
    Ignores l input k.offset xs k'.offset := by
  induction h with
  | rest h =>
    exact .rest (h.map (Rule.match?_offset hk) fun _ _ hn => Rule.span_lt_iff hk hn)
  | @pass k r n xs k' h _ ih =>
    have hfirst : Rule.First (Rule.match? · input k.offset) (fun m => m.start < m.stop) l.ignored r
        (k.span n) :=
      h.map (Rule.match?_offset hk) fun _ _ hn => Rule.span_lt_iff hk hn
    exact .pass rfl hfirst (hk.lexeme_in n) (ih (hk.advance n))

end Ignores

/-- What is to come where ignoring stops, and the offset up to which it takes the input: nothing
at the end, otherwise a token of the first rule that matches, if only the empty text, and if there
is none a failure. -/
inductive Decides (l : Lexer) (input : String) (s : Nat) : Outcome → Nat → Prop where
  | finished (hs : s = Text.byteLength input.toList) : Decides l input s .finished s
  | token {r t x} (hs : s < Text.byteLength input.toList) (hstart : x.start = s)
      (h : Rule.First (Rule.match? · input s) (fun _ => True) l.rules r ⟨s, x.stop⟩)
      (hx : x.In input) (hkind : t.kind = r.name) (htext : t.text = x.text) :
      Decides l input s (.token t x) x.stop
  | failed {err} (hs : s < Text.byteLength input.toList)
      (h : ∀ r ∈ l.rules, r.match? input s = none) : Decides l input s (.failed err) s

section Decides

variable {l : Lexer} {input : String}

theorem Comes.decides {s : Stream} {k k' : Cursor} {o : Outcome} (h : Comes s k o k')
    (hl : s.lexer = l) (hk : k.Sound input) : Decides l input k.offset o k'.offset := by
  subst hl
  have hlt (hmore : k.after ≠ []) : k.offset < Text.byteLength input.toList :=
    Nat.lt_of_le_of_ne hk.offset_le (mt hk.offset_eq_iff.1 hmore)
  cases h with
  | finished hend => exact .finished (hk.offset_eq_iff.2 hend)
  | @token r n hmore h =>
    have hfirst : Rule.First (Rule.match? · input k.offset) (fun _ => True) s.lexer.rules r
        (k.span n) :=
      h.map (Rule.match?_offset hk) fun _ _ _ => Iff.rfl
    exact .token (hlt hmore) rfl hfirst (hk.lexeme_in n) rfl rfl
  | failed hmore h => exact .failed (hlt hmore) (h.match?_eq_none hk)

theorem Decides.tiles {m s e : Nat} {p : Pull} (h : Decides l input s p.outcome e)
    (hskipped : Tiles input m p.skipped s) : Tiles input m p.lexemes e := by
  obtain ⟨skipped, outcome, stream⟩ := p
  cases h with
  | finished | failed => simpa [Pull.lexemes] using hskipped
  | token _ hstart _ hx => exact hskipped.append (hstart ▸ .cons hx (.nil _))

section Outcome

variable {s e : Nat} {o : Outcome} (h : Decides l input s o e)

include h

theorem Decides.finished_iff : o = .finished ↔ s = Text.byteLength input.toList := by
  cases h with
  | finished hs => exact ⟨fun _ => hs, fun _ => rfl⟩
  | token hs | failed hs => exact ⟨nofun, fun he => absurd he (Nat.ne_of_lt hs)⟩

theorem Decides.failed_iff :
    (∃ err, o = .failed err) ↔
      s < Text.byteLength input.toList ∧ ∀ r ∈ l.rules, r.match? input s = none := by
  cases h with
  | finished hs => exact ⟨nofun, fun hlt => absurd hs (Nat.ne_of_lt hlt.1)⟩
  | token hs hstart hfirst =>
    refine ⟨nofun, fun hnone => ?_⟩
    obtain ⟨hr, hm, -⟩ := hfirst.spec
    rw [hnone.2 _ hr] at hm
    contradiction
  | failed hs hnone => exact ⟨fun _ => ⟨hs, hnone⟩, fun _ => ⟨_, rfl⟩⟩

end Outcome

end Decides

/-- Each pull of a run ignores and then decides, from the offset of the stream to the next. -/
theorem pull_after (l : Lexer) (input : String) (n : Nat) :
    let s := (l.lex input).after n
    ∃ e, Ignores l input s.offset s.pull.skipped e ∧
      Decides l input e s.pull.outcome s.pull.stream.offset := by
  intro s
  have hl : s.lexer = l := lexer_after (l.lex input) n
  have hk := sound_after l input n
  obtain ⟨k, hpass, hcomes, -⟩ := pull_cases s
  rw [hl] at hpass
  exact ⟨k.offset, hpass.ignores hk, hcomes.decides hl (hpass.sound hk)⟩

theorem tiles_lexemes (l : Lexer) (input : String) (n : Nat) :
    Tiles input 0 ((l.lex input).lexemes n) ((l.lex input).after n).offset := by
  induction n with
  | zero => exact .nil 0
  | succ n ih =>
    obtain ⟨e, hignores, hdecides⟩ := pull_after l input n
    exact ih.append (hdecides.tiles hignores.tiles)

/-- What the first `n` pulls take tiles the input up to the offset of the stream, and the next pull
comes to what the rules prescribe from there on. -/
theorem pulls_refine_rules (l : Lexer) (input : String) (n : Nat) :
    let s := (l.lex input).after n
    let xs := (l.lex input).lexemes n
    let size := Text.byteLength input.toList
    Tiles input 0 xs s.offset ∧
    (∃ rest, input.toList = xs.flatMap (·.text.toList) ++ rest ∧
      Text.byteLength (xs.flatMap (·.text.toList)) = s.offset) ∧
    (∃ e, Ignores l input s.offset s.pull.skipped e ∧
      Decides l input e s.pull.outcome s.pull.stream.offset) ∧
    (s.pull.outcome = .finished ↔ ∃ ys, Ignores l input s.offset ys size) ∧
    ((∃ err, s.pull.outcome = .failed err) ↔
      ∃ ys e, Ignores l input s.offset ys e ∧ e < size ∧
        ∀ r ∈ l.rules, r.match? input e = none) := by
  intro s xs size
  have htiles : Tiles input 0 xs s.offset := tiles_lexemes l input n
  obtain ⟨e, hignores, hdecides⟩ := pull_after l input n
  refine ⟨htiles, ?_, ⟨e, hignores, hdecides⟩, ?_, ?_⟩
  · exact htiles.exists_append (List.nil_append input.toList).symm rfl
  · rw [hdecides.finished_iff]
    constructor
    · rintro rfl
      exact ⟨_, hignores⟩
    · rintro ⟨ys, hys⟩
      exact (hignores.unique hys).2
  · rw [hdecides.failed_iff]
    constructor
    · intro h
      exact ⟨_, e, hignores, h⟩
    · rintro ⟨ys, e', hys, h⟩
      obtain rfl := (hignores.unique hys).2
      exact h

end Lexer

end FrontEnd
