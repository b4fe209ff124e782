import FrontEnd.Proofs.Growth
import Mathlib.Data.Finset.Card
import Mathlib.Order.Monotone.Basic

namespace FrontEnd.SymbolSets

def Within (x : String) (m m' : SymbolSets) : Prop := ∀ k, x ∈ m.members k → x ∈ m'.members k

theorem Grows.within {m m' : SymbolSets} (h : Grows m m') (x : String) : Within x m m' :=
  fun _ hx => h.mem hx

theorem Grows.eq_of_within {m m' : SymbolSets} (h : Grows m m') (hback : ∀ x, Within x m' m) :
    m' = m := by
  refine (ext_members h.keys fun k _ => h.members_eq ?_).symm
  exact (m'.members k).nodup.length_le_of_subset fun x hx => hback x k hx

/-- The symbols among some whose sets have the member `x`. -/
def layer (names : List String) (x : String) (m : SymbolSets) : Finset String :=
  names.toFinset.filter (x ∈ m.members ·)

section Layer

variable {names : List String} {x : String} {m m' : SymbolSets}

theorem mem_layer {k : String} : k ∈ layer names x m ↔ k ∈ names ∧ x ∈ m.members k := by
  simp [layer]

theorem card_layer_le (names : List String) (x : String) (m : SymbolSets) :
    (layer names x m).card ≤ names.length :=
  (Finset.card_filter_le _ _).trans (List.toFinset_card_le names)

theorem layer_subset (h : Within x m m') : layer names x m ⊆ layer names x m' := by
  intro k hk
  rw [mem_layer] at hk ⊢
  exact ⟨hk.1, h k hk.2⟩

/-- As long as no symbol joins its layer, a family gains no member. -/
theorem within_of_card_layer_le (h : Grows m m') (hfixed : ∀ k ∉ names, m'.members k = m.members k)
    (hcard : (layer names x m').card ≤ (layer names x m).card) : Within x m' m := by
  intro k hk
  by_cases hname : k ∈ names
  · have hsame := Finset.eq_of_subset_of_card_le (layer_subset (h.within x)) hcard
    exact (mem_layer.1 (hsame ▸ mem_layer.2 ⟨hname, hk⟩)).2
  · exact hfixed k hname ▸ hk

end Layer

section Iterate

variable {pass : SymbolSets → SymbolSets} {P : SymbolSets → Prop} {names : List String}
  {m : SymbolSets}

theorem keep_iterate (hkeep : ∀ m, P m → P (pass m)) (hm : P m) (n : ℕ) : P (pass^[n] m) := by
  induction n with
  | zero => exact hm
  | succ n ih =>
    rw [Function.iterate_succ_apply']
    exact hkeep _ ih

variable (hkeep : ∀ m, P m → P (pass m)) (hgrow : ∀ m, P m → Grows m (pass m))
  (hfixed : ∀ m, P m → ∀ k ∉ names, (pass m).members k = m.members k)

include hkeep hgrow

theorem grows_iterate (hm : P m) (n : ℕ) : Grows (pass^[n] m) (pass (pass^[n] m)) :=
  hgrow _ (keep_iterate hkeep hm n)

include hfixed

/-- If after a pass that adds a member nowhere the next does not add it either, then from pass `b`
on, `b` being the number of sets that grow, no pass adds it. -/
theorem within_iterate {x : String} (hm : P m)
    (hidle : ∀ m, P m → Within x (pass m) m → Within x (pass (pass m)) (pass m)) {n : ℕ}
    (hn : names.length ≤ n) : Within x (pass (pass^[n] m)) (pass^[n] m) := by
  let size (n : ℕ) : ℕ := (layer names x (pass^[n] m)).card
  have hkeeps := keep_iterate hkeep hm
  have hsucc (n : ℕ) : size (n + 1) = (layer names x (pass (pass^[n] m))).card :=
    congrArg (fun m => (layer names x m).card) (Function.iterate_succ_apply' pass n m)
  have hgrows (m : SymbolSets) (hm : P m) :
      (layer names x m).card ≤ (layer names x (pass m)).card :=
    Finset.card_le_card (layer_subset ((hgrow m hm).within x))
  have hback (n : ℕ) (h : size n = size (n + 1)) : Within x (pass (pass^[n] m)) (pass^[n] m) :=
    within_of_card_layer_le (hgrow _ (hkeeps n)) (hfixed _ (hkeeps n)) (h.trans (hsucc n)).ge
  have hmono : Monotone size := monotone_nat_of_le_succ fun n => hsucc n ▸ hgrows _ (hkeeps n)
  have hstay (n : ℕ) (h : size n = size (n + 1)) : size (n + 1) = size (n + 1 + 1) := by
    apply (hmono (Nat.le_succ _)).antisymm
    rw [hsucc (n + 1), hsucc n, Function.iterate_succ_apply']
    exact Finset.card_le_card (layer_subset (hidle _ (hkeeps n) (hback n h)))
  -- a layer that pauses once has stopped, and before that it gains a symbol with each pass
  have hlast {n : ℕ} (hn : names.length ≤ n) : size n = size names.length :=
    Nat.stabilises_of_monotone hmono (fun _ => card_layer_le _ _ _) hstay hn
  exact hback n ((hlast hn).trans (hlast (Nat.le_succ_of_le hn)).symm)

end Iterate

/-- Passes are repeated until one changes nothing; that one is counted too. -/
inductive Stops (pass : SymbolSets → SymbolSets) : SymbolSets → SymbolSets → ℕ → Prop where
  | idle {m} (h : pass m = m) : Stops pass m m 1
  | again {m last n} (h : pass m ≠ m) (more : Stops pass (pass m) last n) :
    Stops pass m last (n + 1)

section Stops

variable {pass : SymbolSets → SymbolSets} {m last : SymbolSets} {n : ℕ}

theorem Stops.fixed (h : Stops pass m last n) : pass last = last := by
  induction h with
  | idle h => exact h
  | again _ _ ih => exact ih

/-- If pass `n + 1` is idle, then that is the last at the latest, and a higher limit is not met. -/
theorem stops_settle {limit : ℕ} (hn : pass (pass^[n] m) = pass^[n] m) (hlimit : n < limit) :
    Stops pass m (settle pass limit m).1 (settle pass limit m).2 ∧
      (settle pass limit m).2 ≤ n + 1 := by
  induction limit generalizing m n with
  | zero => contradiction
  | succ limit ih =>
    rw [settle]
    split
    · rename_i h
      exact ⟨.idle h, Nat.le_add_left 1 n⟩
    · rename_i h
      cases n with
      | zero => exact absurd hn h
      | succ n =>
        have hnext : pass (pass^[n] (pass m)) = pass^[n] (pass m) := hn
        obtain ⟨hstops, hle⟩ := ih hnext (Nat.lt_of_succ_lt_succ hlimit)
        exact ⟨.again h hstops, Nat.succ_le_succ hle⟩

end Stops

end FrontEnd.SymbolSets
