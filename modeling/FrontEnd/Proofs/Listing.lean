import FrontEnd.Grammar.Report
import FrontEnd.Proofs.Numbering
import Mathlib

namespace FrontEnd

/-! ### Separators -/

namespace Text

section Separators

variable {c : Char} {a b a' b' : List Char}

theorem append_cons_inj (ha : c ∉ a) (ha' : c ∉ a') (h : a ++ c :: b = a' ++ c :: b') :
    a = a' ∧ b = b' := by
  have hsplit := congrArg (List.splitOn c) h
  rw [List.splitOn_append_cons_self_of_not_mem ha, List.splitOn_append_cons_self_of_not_mem ha']
    at hsplit
  obtain rfl := (List.cons.inj hsplit).1
  exact ⟨rfl, (List.cons.inj (List.append_cancel_left h)).2⟩

theorem intercalate_cons (c : Char) (word : List Char) (words : List (List Char)) :
    [c].intercalate (word :: words) = word ++ words.flatMap (c :: ·) := by
  induction words generalizing word with
  | nil => simp
  | cons next words ih =>
    rw [List.intercalate_cons_cons, ih, List.flatMap_cons]
    simp

theorem flatMap_concat (c : Char) (lines : List (List Char)) :
    lines.flatMap (· ++ [c]) = [c].intercalate (lines ++ [[]]) := by
  induction lines with
  | nil => rfl
  | cons line lines ih =>
    rw [List.cons_append, List.intercalate_cons_of_ne_nil (by simp), ← ih, List.flatMap_cons]

theorem not_mem_intercalate {d : Char} (hd : d ≠ c) {word : List Char} {words : List (List Char)}
    (h : ∀ w ∈ word :: words, d ∉ w) : d ∉ [c].intercalate (word :: words) := by
  rw [List.forall_mem_cons] at h
  rw [intercalate_cons, List.mem_append, List.mem_flatMap, not_or]
  refine ⟨h.1, ?_⟩
  rintro ⟨w, hw, hmem⟩
  exact List.not_mem_cons_of_ne_of_not_mem hd (h.2 w hw) hmem

theorem words_inj {word word' : List Char} {words words' : List (List Char)}
    (h : ∀ w ∈ word :: words, c ∉ w) (h' : ∀ w ∈ word' :: words', c ∉ w)
    (heq : [c].intercalate (word :: words) = [c].intercalate (word' :: words')) :
    word :: words = word' :: words' := by
  rw [← List.splitOn_intercalate c h (by simp), heq, List.splitOn_intercalate c h' (by simp)]

theorem lines_inj {lines lines' : List (List Char)} (h : ∀ l ∈ lines, c ∉ l)
    (h' : ∀ l ∈ lines', c ∉ l)
    (heq : lines.flatMap (· ++ [c]) = lines'.flatMap (· ++ [c])) : lines = lines' := by
  have hsplit {lines : List (List Char)} (h : ∀ l ∈ lines, c ∉ l) :
      (lines.flatMap (· ++ [c])).splitOn c = lines ++ [[]] := by
    rw [flatMap_concat, List.splitOn_intercalate c (fun l hl => ?_) (by simp)]
    rcases List.mem_append.1 hl with hl | hl
    · exact h l hl
    · simp [List.mem_singleton.1 hl]
  apply (List.append_left_inj [[]]).1
  rw [← hsplit h, heq, hsplit h']

end Separators

/-! ### Digits -/

theorem not_mem_toString {c : Char} (hc : c.isDigit = false) (n : Nat) :
    c ∉ (toString n).toList := by
  rw [Nat.toString_eq_repr, Nat.toList_repr]
  intro hmem
  have hdigit := Nat.isDigit_of_mem_toDigits (by decide) (by decide) hmem
  exact Bool.false_ne_true (hc.symm.trans hdigit)

/-! ### Names -/

/-- A name that a report can be read with: nothing in it ends it, or begins a precedence. -/
def Plain (name : String) : Prop := ∀ c ∈ [' ', '\n', '('], c ∉ name.toList

instance (name : String) : Decidable (Plain name) :=
  List.decidableBAll (· ∉ name.toList) [' ', '\n', '(']

end Text

/-! ### Words -/

namespace Precedence

def words (p : Precedence) : List (List Char) :=
  if p = default then []
  else ['(' :: p.assoc.text.toList ++ [','], (toString p.level).toList ++ [')']]

theorem words_injective {p q : Precedence} (h : p.words = q.words) : p = q := by
  unfold words at h
  split at h <;> split at h
  · rename_i hp hq
    rw [hp, hq]
  · contradiction
  · contradiction
  · obtain ⟨hassoc, hlevel⟩ := List.cons.inj h
    have htext := List.append_cancel_right (List.cons.inj hassoc).2
    have hdigits := List.append_cancel_right (List.cons.inj hlevel).1
    obtain ⟨assoc, level⟩ := p
    obtain ⟨assoc', level'⟩ := q
    rw [mk.injEq]
    exact ⟨Assoc.text_injective (String.toList_inj.1 htext),
      Nat.repr_injective (String.toList_inj.1 hdigits)⟩

theorem not_mem_words {c : Char} (hc : c ∈ [' ', '\n']) (p : Precedence) :
    ∀ w ∈ p.words, c ∉ w := by
  have hfixed : c.isDigit = false ∧ c ∉ [')'] := by
    rcases List.mem_pair.1 hc with rfl | rfl <;> decide
  have htext : c ∉ '(' :: p.assoc.text.toList ++ [','] := by
    rcases List.mem_pair.1 hc with rfl | rfl <;> cases p.assoc <;> decide
  unfold words
  split
  · exact fun w hw => absurd hw List.not_mem_nil
  · intro w hw
    rcases List.mem_pair.1 hw with rfl | rfl
    · exact htext
    · rw [List.mem_append, not_or]
      exact ⟨Text.not_mem_toString hfixed.1 p.level, hfixed.2⟩

theorem takeWhile_words (p : Precedence) : p.words.takeWhile ('(' ∉ ·) = [] := by
  unfold words
  split <;> simp

end Precedence

namespace Production

variable {α β : Type}

/-- What a report tells of a production: all but its action and its items. -/
def listed (p : Production α) : Nat × String × List String × Precedence :=
  (p.number, p.name, p.symbols, p.precedence)

def words (p : Production α) : List (List Char) :=
  (['P', ','] ++ (toString p.number).toList ++ ',' :: p.name.toList) :: ['-', '>'] ::
    (p.symbols.map String.toList ++ p.precedence.words)

/-- No word of the line can be taken for two, nor a symbol for a precedence. -/
def Plain (p : Production α) : Prop := ∀ x ∈ p.name :: p.symbols, Text.Plain x

instance (p : Production α) : Decidable p.Plain :=
  List.decidableBAll Text.Plain (p.name :: p.symbols)

theorem not_mem_words {p : Production α} (hp : p.Plain) {c : Char} (hc : c ∈ [' ', '\n']) :
    ∀ w ∈ p.words, c ∉ w := by
  have hplain (x : String) (hx : x ∈ p.name :: p.symbols) : c ∉ x.toList := by
    apply hp x hx
    exact List.mem_append_left ['('] hc
  have hfixed : c.isDigit = false ∧ c ∉ ['P', ','] ∧ c ≠ ',' ∧ c ∉ ['-', '>'] := by
    rcases List.mem_pair.1 hc with rfl | rfl <;> decide
  obtain ⟨hdigit, htag, hcomma, harrow⟩ := hfixed
  rw [words, List.forall_mem_cons, List.forall_mem_cons, List.forall_mem_append]
  refine ⟨?_, harrow, fun w hw => ?_, p.precedence.not_mem_words hc⟩
  · rw [List.mem_append, List.mem_append, not_or, not_or]
    exact ⟨⟨htag, Text.not_mem_toString hdigit p.number⟩,
      List.not_mem_cons_of_ne_of_not_mem hcomma (hplain p.name List.mem_cons_self)⟩
  · obtain ⟨x, hx, rfl⟩ := List.mem_map.1 hw
    exact hplain x (List.mem_cons_of_mem _ hx)

def line (p : Production α) : List Char := [' '].intercalate p.words

theorem toList_productionPieces (p : Production α) :
    (String.join (Grammar.Report.productionPieces p)).toList = p.line ++ ['\n'] := by
  have hline : (toString p).toList =
      p.name.toList ++ ' ' :: ['-', '>'] ++ (p.symbols.map String.toList).flatMap (' ' :: ·) := by
    show (p.name ++ " ->" ++ String.join (p.symbols.map (" " ++ ·))).toList = _
    simp [List.flatMap_map]
  have hprec : (String.join (if p.precedence = default then []
      else [" " ++ toString p.precedence])).toList = p.precedence.words.flatMap (' ' :: ·) := by
    rw [Precedence.words]
    split
    · rfl
    · show (String.join [" " ++ ("(" ++ p.precedence.assoc.text ++ ", " ++
        toString p.precedence.level ++ ")")]).toList = _
      simp
  rw [line, words, Text.intercalate_cons]
  simp [Grammar.Report.productionPieces, hline, hprec]

theorem listed_eq_of_words {p : Production α} {q : Production β} (hp : p.Plain) (hq : q.Plain)
    (h : p.words = q.words) : p.listed = q.listed := by
  obtain ⟨hhead, hrest⟩ := List.cons.inj h
  have htail := (List.cons.inj hrest).2
  rw [List.append_assoc, List.append_assoc] at hhead
  obtain ⟨hnumber, hname⟩ := Text.append_cons_inj (Text.not_mem_toString rfl p.number)
    (Text.not_mem_toString rfl q.number) (List.append_cancel_left hhead)
  -- symbols have no parenthesis, so they are what comes before the first word with one
  have hbefore {γ : Type} {p : Production γ} (hp : p.Plain) :
      (p.symbols.map String.toList ++ p.precedence.words).takeWhile ('(' ∉ ·) =
        p.symbols.map String.toList := by
    rw [List.takeWhile_append_of_pos, p.precedence.takeWhile_words, List.append_nil]
    intro w hw
    obtain ⟨x, hx, rfl⟩ := List.mem_map.1 hw
    exact decide_eq_true (hp x (List.mem_cons_of_mem _ hx) '(' (by simp))
  have hsymbols : p.symbols.map String.toList = q.symbols.map String.toList := by
    rw [← hbefore hp, htail, hbefore hq]
  rw [hsymbols] at htail
  have hprec := Precedence.words_injective (List.append_cancel_left htail)
  have hsymbols := (List.map_inj_right fun _ _ => String.toList_inj.1).1 hsymbols
  rw [listed, listed, Nat.repr_injective (String.toList_inj.1 hnumber), String.toList_inj.1 hname,
    hsymbols, hprec]

theorem listed_eq_of_line {p : Production α} {q : Production β} (hp : p.Plain) (hq : q.Plain)
    (h : p.line = q.line) : p.listed = q.listed :=
  listed_eq_of_words hp hq
    (Text.words_inj (not_mem_words hp (by decide)) (not_mem_words hq (by decide)) h)

end Production

namespace Grammar

/-! ### Lines -/

variable {α β : Type}

def Report.lines (g : Grammar α) : List (List Char) :=
  (['P', 'S', ','] ++ (toString g.productions.length).toList) :: [] ::
    g.productions.map Production.line

theorem toList_text_productions (g : Grammar α) :
    (Report.productions.text g).toList = (Report.lines g).flatMap (· ++ ['\n']) := by
  have hpieces : (String.join (g.productions.flatMap Report.productionPieces)).toList =
      g.productions.flatMap fun p => p.line ++ ['\n'] := by
    induction g.productions with
    | nil => rfl
    | cons p ps ih =>
      rw [List.flatMap_cons, String.join_append, String.toList_append, ih,
        p.toList_productionPieces, List.flatMap_cons]
  rw [Report.text, Report.pieces, String.join_cons, String.toList_append, hpieces, Report.lines,
    List.flatMap_cons, List.flatMap_cons, List.flatMap_map]
  simp

theorem not_mem_lines {g : Grammar α} (hg : ∀ p ∈ g.productions, p.Plain) :
    ∀ l ∈ Report.lines g, '\n' ∉ l := by
  rw [Report.lines, List.forall_mem_cons, List.forall_mem_cons]
  refine ⟨?_, List.not_mem_nil, fun l hl => ?_⟩
  · rw [List.mem_append, not_or]
    exact ⟨by decide, Text.not_mem_toString rfl _⟩
  · obtain ⟨p, hp, rfl⟩ := List.mem_map.1 hl
    exact Text.not_mem_intercalate (by decide) (Production.not_mem_words (hg p hp) (by decide))

/-- Reports that are the same are on the same productions. -/
theorem map_listed_of_text {g : Grammar α} {h : Grammar β} (hg : ∀ p ∈ g.productions, p.Plain)
    (hh : ∀ p ∈ h.productions, p.Plain)
    (htext : Report.productions.text g = Report.productions.text h) :
    g.productions.map Production.listed = h.productions.map Production.listed := by
  rw [← String.toList_inj, toList_text_productions, toList_text_productions] at htext
  have hall : Report.lines g = Report.lines h :=
    Text.lines_inj (not_mem_lines hg) (not_mem_lines hh) htext
  have hlines : g.productions.map Production.line = h.productions.map Production.line :=
    (List.cons.inj (List.cons.inj hall).2).2
  have hlength : g.productions.length = h.productions.length := by
    simpa using congrArg List.length hlines
  apply List.ext_getElem
  · simpa using hlength
  · intro i hi hi'
    rw [List.length_map] at hi hi'
    have hline := List.getElem_of_eq hlines (i := i) (by simpa using hi)
    rw [List.getElem_map, List.getElem_map] at hline ⊢
    exact Production.listed_eq_of_line (hg _ (List.getElem_mem hi)) (hh _ (List.getElem_mem hi'))
      hline

/-- The pieces of a production are made of what is listed. -/
theorem text_eq_of_map_listed {g : Grammar α} {h : Grammar β}
    (hlisted : g.productions.map Production.listed = h.productions.map Production.listed) :
    Report.productions.text g = Report.productions.text h := by
  let line (e : Nat × String × List String × Precedence) : List String :=
    Report.productionPieces (⟨e.1, e.2.1, e.2.2.1, e.2.2.2, none, []⟩ : Production Unit)
  have hpieces {γ : Type} (g : Grammar γ) : Report.productions.text g =
      String.join (("PS," ++ toString (g.productions.map Production.listed).length ++ "\n\n") ::
        (g.productions.map Production.listed).flatMap line) := by
    rw [List.length_map, List.flatMap_map]
    rfl
  rw [hpieces, hpieces, hlisted]

theorem zero_mem_numbers {g : Grammar α} (h : WellFormed g) (hheaded : Headed g) :
    0 ∈ g.productions.map Production.number ↔ (g.production? 0).isSome = true := by
  rw [List.mem_map, Option.isSome_iff_exists]
  constructor
  · rintro ⟨p, hp, hnumber⟩
    rcases List.mem_append.1 hp with hp | hp
    · exact ⟨p, Option.mem_toList.1 hp⟩
    · exact ⟨p, hnumber ▸ h.production?_number hp⟩
  · rintro ⟨p, hp⟩
    exact ⟨p, List.mem_append_left _ (Option.mem_toList.2 hp), hheaded.number_eq hp⟩

/-- The report on the productions tells all of them but their actions and their items, if no name
has a space, a line feed or an opening parenthesis. Its text is the same for two grammars just if
their productions are the same, and both have production 0 or none has. -/
theorem productions_text_inj (names names' : List String) (calls : List (Call α))
    (calls' : List (Call β)) :
    let g := (ofTerminals names : Grammar α).performAll calls
    let h := (ofTerminals names' : Grammar β).performAll calls'
    (∀ p ∈ g.productions, p.Plain) → (∀ p ∈ h.productions, p.Plain) →
      (Report.productions.text g = Report.productions.text h ↔
        g.productions.map Production.listed = h.productions.map Production.listed ∧
          (g.production? 0).isSome = (h.production? 0).isSome) := by
  intro g h hg hh
  have hnumber {γ : Type} (g : Grammar γ) : g.productions.map Production.number =
      (g.productions.map Production.listed).map Prod.fst := by
    rw [List.map_map]
    rfl
  constructor
  · intro htext
    have hlisted := map_listed_of_text hg hh htext
    refine ⟨hlisted, ?_⟩
    rw [Bool.eq_iff_iff,
      ← zero_mem_numbers (wellFormed_performAll names calls) (headed_performAll names calls),
      ← zero_mem_numbers (wellFormed_performAll names' calls') (headed_performAll names' calls'),
      hnumber, hnumber, hlisted]
  · exact fun hsame => text_eq_of_map_listed hsame.1

/-- No symbol and one that is empty are told apart, though a name looks like the arrow. -/
theorem productions_text_inj_empty :
    let g := (ofTerminals [] : Grammar Unit).performAll [.addProduction "->," [] none none]
    let h := (ofTerminals [] : Grammar Unit).performAll [.addProduction "->," [""] none none]
    (∀ p ∈ g.productions, p.Plain) ∧ (∀ p ∈ h.productions, p.Plain) ∧
      Report.productions.text g ≠ Report.productions.text h := by
  intro g h
  have hg : ∀ p ∈ g.productions, p.Plain := by decide +kernel
  have hh : ∀ p ∈ h.productions, p.Plain := by decide +kernel
  refine ⟨hg, hh, fun htext => ?_⟩
  have hlisted := ((productions_text_inj [] [] _ _ hg hh).1 htext).1
  exact absurd hlisted (by decide)

end Grammar
end FrontEnd
