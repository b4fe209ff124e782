import FrontEnd.Proofs.First

namespace FrontEnd.Grammar

variable {α : Type} (first : SymbolSets)

/-- Reading a sequence stops at a symbol, and then nothing behind the sequence is read, or it
passes through, and only then adds the mark. -/
theorem firstOnto_append {acc : OrderedSet String} (hacc : emptyMark ∉ acc) (u : List String) :
    (emptyMark ∉ firstOnto first acc u ∧
      ∀ v, firstOnto first acc (u ++ v) = firstOnto first acc u) ∨
    ∃ passed, emptyMark ∉ passed ∧ firstOnto first acc u = passed.insert emptyMark ∧
      ∀ v, firstOnto first acc (u ++ v) = firstOnto first passed v := by
  induction u generalizing acc with
  | nil => exact .inr ⟨acc, hacc, rfl, fun _ => rfl⟩
  | cons y u ih =>
    have hnext : emptyMark ∉ acc.insertAll ((first.members y).toList.filter (· != emptyMark)) := by
      simp [hacc]
    by_cases hy : emptyMark ∈ first.members y
    · simp only [List.cons_append, firstOnto, if_pos hy]
      exact ih hnext
    · simp only [List.cons_append, firstOnto, if_neg hy]
      exact .inl ⟨hnext, fun _ => trivial⟩

/-- FIRST of a sequence that cannot be empty is FIRST of all its continuations. Otherwise that of
a continuation has the same members but the mark, and then what is new in FIRST of the rest. The
mark is always the last member, and the only one for the empty sequence. -/
theorem firstOf_append (g : Grammar α) (symbols more : List String) :
    let a := (g.firstOf symbols).toList
    let b := (g.firstOf more).toList
    let solid := a.filter (· != emptyMark)
    (g.firstOf (symbols ++ more)).toList =
      (if emptyMark ∈ a then solid ++ b.filter (· ∉ solid) else a) ∧
    a = solid ++ (if emptyMark ∈ a then [emptyMark] else []) ∧
    (g.firstOf []).toList = [emptyMark] := by
  intro a b solid
  obtain ⟨hstop, happend⟩ | ⟨passed, hpassed, hread, happend⟩ :=
    firstOnto_append g.first (OrderedSet.not_mem_empty emptyMark) symbols
  · have hmark : emptyMark ∉ a := hstop
    have hsolid : solid = a := List.filter_bne_eq_self_of_not_mem hmark
    rw [if_neg hmark, if_neg hmark, hsolid, List.append_nil]
    exact ⟨congrArg OrderedSet.toList (happend more), rfl, rfl⟩
  · have ha : a = passed.toList ++ [emptyMark] := by
      show (firstOnto g.first ∅ symbols).toList = _
      rw [hread, OrderedSet.toList_insert, if_neg hpassed]
    have hmark : emptyMark ∈ a := by simp [ha]
    have hsolid : solid = passed.toList := by
      show a.filter (· != emptyMark) = _
      rw [ha, List.filter_append, List.filter_bne_eq_self_of_not_mem hpassed]
      simp
    rw [if_pos hmark, if_pos hmark, hsolid]
    refine ⟨?_, ha, rfl⟩
    calc (g.firstOf (symbols ++ more)).toList
        = (passed.insertAll b).toList := by
          rw [firstOf, firstOfSequence, happend more, firstOnto_eq]
          rfl
      _ = passed.toList ++ b.filter (· ∉ passed.toList) :=
          OrderedSet.toList_insertAll (g.firstOf more).nodup

end FrontEnd.Grammar
