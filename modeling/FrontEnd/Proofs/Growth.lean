import FrontEnd.Grammar.SymbolSets
import Mathlib.Data.List.Basic

namespace FrontEnd.SymbolSets

/-- The same symbols with the same members or more, the old ones first. -/
structure Grows (m m' : SymbolSets) : Prop where
  keys : m.keys = m'.keys
  members : ∀ k, (m.members k).toList <+: (m'.members k).toList

/-- A family with a set for each of some symbols, and members from an alphabet only. -/
structure Over (keys alphabet : List String) (m : SymbolSets) : Prop where
  keys : m.keys = keys
  members : ∀ k, ∀ x ∈ m.members k, x ∈ alphabet

theorem get?_eq_members {m : SymbolSets} {k : String} (h : k ∈ m.keys) :
    m.get? k = some (m.members k) := by
  obtain ⟨s, hs⟩ := Option.isSome_iff_exists.1 ((m.mem_keys_iff k).1 h)
  rw [members, hs]
  rfl

theorem ext_members {m m' : SymbolSets} (hk : m.keys = m'.keys)
    (hm : ∀ k ∈ m.keys, m.members k = m'.members k) : m = m' := by
  apply OrderedMap.ext_get? hk
  intro k hmem
  rw [get?_eq_members hmem, get?_eq_members (hk ▸ hmem), hm k hmem]

namespace Grows

theorem refl (m : SymbolSets) : Grows m m := ⟨rfl, fun _ => List.prefix_rfl⟩

theorem trans {m₁ m₂ m₃ : SymbolSets} (h : Grows m₁ m₂) (h' : Grows m₂ m₃) : Grows m₁ m₃ :=
  ⟨h.keys.trans h'.keys, fun k => (h.members k).trans (h'.members k)⟩

theorem mem {m m' : SymbolSets} (h : Grows m m') {k x : String} (hx : x ∈ m.members k) :
    x ∈ m'.members k :=
  (h.members k).subset hx

theorem members_eq {m m' : SymbolSets} (h : Grows m m') {k : String}
    (hs : (m'.members k).size ≤ (m.members k).size) : m.members k = m'.members k :=
  OrderedSet.ext_toList ((h.members k).eq_of_length_le hs)

theorem antisymm {m m' : SymbolSets} (h : Grows m m') (h' : Grows m' m) : m = m' :=
  ext_members h.keys fun k _ => h.members_eq (h'.members k).length_le

end Grows

theorem keys_extend {m : SymbolSets} {k : String} (names : List String) (h : k ∈ m.keys) :
    (m.extend k names).keys = m.keys := by
  rw [extend, OrderedMap.keys_update, if_pos h]

theorem members_extend (m : SymbolSets) (k j : String) (names : List String) :
    (m.extend k names).members j =
      if j = k then (m.members k).insertAll names else m.members j := by
  rw [members, extend, OrderedMap.get?_update]
  split <;> rfl

theorem mem_members_extend {m : SymbolSets} {k j x : String} {names : List String} :
    x ∈ (m.extend k names).members j ↔ x ∈ m.members j ∨ j = k ∧ x ∈ names := by
  rw [members_extend]
  split
  · rename_i h
    simp [h]
  · rename_i h
    simp [h]

/-- What is extended already has a set. -/
theorem grows_extend {m : SymbolSets} {k : String} (names : List String) (h : k ∈ m.keys) :
    Grows m (m.extend k names) := by
  refine ⟨(keys_extend names h).symm, fun j => ?_⟩
  rw [members_extend]
  split
  · rename_i hj
    exact hj ▸ OrderedSet.prefix_insertAll _ _
  · exact List.prefix_rfl

theorem Over.extend {keys alphabet : List String} {m : SymbolSets} (h : Over keys alphabet m)
    {k : String} {names : List String} (hk : k ∈ keys) (hn : ∀ x ∈ names, x ∈ alphabet) :
    Over keys alphabet (m.extend k names) := by
  refine ⟨(keys_extend names (h.keys.symm ▸ hk)).trans h.keys, fun j x hx => ?_⟩
  rcases mem_members_extend.1 hx with hm | ⟨-, hx⟩
  · exact h.members j x hm
  · exact hn x hx

section Pass

variable {σ : Type} {step : SymbolSets → σ → SymbolSets} {P : SymbolSets → Prop}

theorem keep_foldl {steps : List σ} (hkeep : ∀ m, P m → ∀ s ∈ steps, P (step m s))
    {m : SymbolSets} (hm : P m) : P (steps.foldl step m) := by
  induction steps generalizing m with
  | nil => exact hm
  | cons s steps ih =>
    exact ih (fun m hm t ht => hkeep m hm t (List.mem_cons_of_mem s ht))
      (hkeep m hm s List.mem_cons_self)

theorem grows_foldl {steps : List σ} (hkeep : ∀ m, P m → ∀ s ∈ steps, P (step m s))
    (hgrow : ∀ m, P m → ∀ s ∈ steps, Grows m (step m s)) {m : SymbolSets} (hm : P m) :
    Grows m (steps.foldl step m) := by
  induction steps generalizing m with
  | nil => exact .refl m
  | cons s steps ih =>
    exact (hgrow m hm s List.mem_cons_self).trans
      (ih (fun m hm t ht => hkeep m hm t (List.mem_cons_of_mem s ht))
        (fun m hm t ht => hgrow m hm t (List.mem_cons_of_mem s ht))
        (hkeep m hm s List.mem_cons_self))

/-- A pass that changes nothing in the end changes nothing on the way. -/
theorem step_eq_of_foldl_eq {steps : List σ}
    (hkeep : ∀ m, P m → ∀ s ∈ steps, P (step m s))
    (hgrow : ∀ m, P m → ∀ s ∈ steps, Grows m (step m s)) {m : SymbolSets} (hm : P m)
    (hfix : steps.foldl step m = m) : ∀ s ∈ steps, step m s = m := by
  induction steps with
  | nil => simp
  | cons s steps ih =>
    have hkeep' := fun m hm t ht => hkeep m hm t (List.mem_cons_of_mem s ht)
    have hgrow' := fun m hm t ht => hgrow m hm t (List.mem_cons_of_mem s ht)
    -- the rest of the pass leads back to `m`, and no step takes anything away
    have hrest : Grows (step m s) m := by
      conv_rhs => rw [← hfix]
      exact grows_foldl hkeep' hgrow' (hkeep m hm s List.mem_cons_self)
    have hs : step m s = m := hrest.antisymm (hgrow m hm s List.mem_cons_self)
    rw [List.foldl_cons, hs] at hfix
    intro t ht
    rcases List.mem_cons.1 ht with rfl | ht
    · exact hs
    · exact ih hkeep' hgrow' hfix t ht

end Pass

section Settle

variable {pass : SymbolSets → SymbolSets} {P : SymbolSets → Prop}

theorem keep_settle (hkeep : ∀ m, P m → P (pass m)) {limit : Nat} {m : SymbolSets}
    (hm : P m) : P (settle pass limit m).1 := by
  induction limit generalizing m with
  | zero => exact hm
  | succ limit ih =>
    rw [settle]
    split
    · exact hm
    · exact ih (hkeep m hm)

theorem grows_settle (hkeep : ∀ m, P m → P (pass m)) (hgrow : ∀ m, P m → Grows m (pass m))
    {limit : Nat} {m : SymbolSets} (hm : P m) : Grows m (settle pass limit m).1 := by
  induction limit generalizing m with
  | zero => exact .refl m
  | succ limit ih =>
    rw [settle]
    split
    · exact .refl m
    · exact (hgrow m hm).trans (ih (hkeep m hm))

end Settle

theorem keep_settle_foldl {σ : Type} {step : SymbolSets → σ → SymbolSets} {steps : List σ}
    {P : SymbolSets → Prop} (hkeep : ∀ m, P m → ∀ s ∈ steps, P (step m s)) {limit : Nat}
    {m : SymbolSets} (hm : P m) : P (settle (fun m => steps.foldl step m) limit m).1 :=
  keep_settle (fun _ hm => keep_foldl hkeep hm) hm

/-- What comes of a family at which every step has been taken until none adds anything. -/
structure Settled {σ : Type} (step : SymbolSets → σ → SymbolSets) (steps : List σ)
    (P : SymbolSets → Prop) (m m' : SymbolSets) : Prop where
  keep : P m'
  grows : Grows m m'
  fixed : ∀ s ∈ steps, step m' s = m'

/-- Where repetition has come to its end, so has every step. -/
theorem settled_of_fixed {σ : Type} {step : SymbolSets → σ → SymbolSets} {steps : List σ}
    {P : SymbolSets → Prop} (hkeep : ∀ m, P m → ∀ s ∈ steps, P (step m s))
    (hgrow : ∀ m, P m → ∀ s ∈ steps, Grows m (step m s)) {limit : Nat} {m : SymbolSets} (hm : P m)
    (hfix : steps.foldl step (settle (fun m => steps.foldl step m) limit m).1 =
      (settle (fun m => steps.foldl step m) limit m).1) :
    Settled step steps P m (settle (fun m => steps.foldl step m) limit m).1 := by
  have hkeep' : ∀ m, P m → P (steps.foldl step m) := fun _ hm => keep_foldl hkeep hm
  have hgrow' : ∀ m, P m → Grows m (steps.foldl step m) := fun _ hm => grows_foldl hkeep hgrow hm
  have hlast : P (settle (fun m => steps.foldl step m) limit m).1 := keep_settle_foldl hkeep hm
  exact ⟨hlast, grows_settle hkeep' hgrow' hm, step_eq_of_foldl_eq hkeep hgrow hlast hfix⟩

end FrontEnd.SymbolSets
