import FrontEnd.Proofs.WellFormed
import Mathlib.Logic.Relation

namespace FrontEnd.Grammar

variable {α : Type} {g : Grammar α}

/-- One nonterminal is replaced by the right-hand side of one of its productions, which are those
from number 1 on. -/
inductive Rewrites (g : Grammar α) : List String → List String → Prop where
  | replace (before after : List String) {p : Production α} (hp : p ∈ g.rules) :
      Rewrites g (before ++ p.name :: after) (before ++ p.symbols ++ after)

abbrev Derives (g : Grammar α) : List String → List String → Prop :=
  Relation.ReflTransGen g.Rewrites

/-- What a sequence derives can begin with a terminal, or be empty if the mark is asked for. -/
def Begins (g : Grammar α) (symbols : List String) (x : String) : Prop :=
  x = emptyMark ∧ g.Derives symbols [] ∨
    g.isTerminal x = true ∧ ∃ rest, g.Derives symbols (x :: rest)

theorem Rewrites.append_left {u v : List String} (h : g.Rewrites u v) (w : List String) :
    g.Rewrites (w ++ u) (w ++ v) := by
  obtain ⟨before, after, hp⟩ := h
  have hr := Rewrites.replace (w ++ before) after hp
  simpa only [List.append_assoc] using hr

theorem Rewrites.append_right {u v : List String} (h : g.Rewrites u v) (w : List String) :
    g.Rewrites (u ++ w) (v ++ w) := by
  obtain ⟨before, after, hp⟩ := h
  have hr := Rewrites.replace before (after ++ w) hp
  simpa only [List.append_assoc, List.cons_append] using hr

theorem Derives.append_left {u v : List String} (h : g.Derives u v) (w : List String) :
    g.Derives (w ++ u) (w ++ v) := by
  induction h with
  | refl => exact .refl
  | tail _ hr ih => exact ih.tail (hr.append_left w)

theorem Derives.append_right {u v : List String} (h : g.Derives u v) (w : List String) :
    g.Derives (u ++ w) (v ++ w) := by
  induction h with
  | refl => exact .refl
  | tail _ hr ih => exact ih.tail (hr.append_right w)

theorem derives_production {p : Production α} (hp : p ∈ g.rules) :
    g.Derives [p.name] p.symbols := by
  have hr := Rewrites.replace [] [] hp
  rw [List.append_nil] at hr
  exact .single hr

theorem Begins.of_derives {u v : List String} {x : String} (h : g.Derives u v)
    (hb : g.Begins v x) : g.Begins u x := by
  rcases hb with ⟨rfl, hv⟩ | ⟨hx, rest, hv⟩
  · exact .inl ⟨rfl, h.trans hv⟩
  · exact .inr ⟨hx, rest, h.trans hv⟩

theorem Same.rewrites {g' : Grammar α} (h : Same g g') {u v : List String}
    (hr : g'.Rewrites u v) : g.Rewrites u v := by
  obtain ⟨before, after, hp⟩ := hr
  obtain ⟨q, hq, hname, hsymbols⟩ := h.exists_rule hp
  rw [← hname, ← hsymbols]
  exact .replace before after hq

theorem Same.derives_iff {g' : Grammar α} (h : Same g g') {u v : List String} :
    g'.Derives u v ↔ g.Derives u v :=
  ⟨Relation.ReflTransGen.mono (fun _ _ => h.rewrites) _ _,
    Relation.ReflTransGen.mono (fun _ _ => h.symm.rewrites) _ _⟩

theorem Same.begins_iff {g' : Grammar α} (h : Same g g') {symbols : List String} {x : String} :
    g'.Begins symbols x ↔ g.Begins symbols x := by
  simp only [Begins, h.derives_iff, h.isTerminal]

end FrontEnd.Grammar
