namespace FrontEnd

/-- A list without duplicates, read as a set with an order. -/
structure OrderedSet (α : Type) where
  toList : List α
  nodup : toList.Nodup
deriving DecidableEq

namespace OrderedSet

variable {α : Type}

def empty : OrderedSet α := ⟨[], List.nodup_nil⟩

def singleton (a : α) : OrderedSet α := ⟨[a], by simp⟩

instance : EmptyCollection (OrderedSet α) := ⟨empty⟩

instance : Membership α (OrderedSet α) := ⟨fun s a => a ∈ s.toList⟩

theorem mem_def {a : α} {s : OrderedSet α} : a ∈ s ↔ a ∈ s.toList := Iff.rfl

@[simp] theorem mem_toList {a : α} {s : OrderedSet α} : a ∈ s.toList ↔ a ∈ s := Iff.rfl

@[simp] theorem not_mem_empty (a : α) : a ∉ (∅ : OrderedSet α) := List.not_mem_nil

@[simp] theorem mem_singleton {a b : α} : a ∈ singleton b ↔ a = b := List.mem_singleton

def size (s : OrderedSet α) : Nat := s.toList.length

theorem ext_toList {s t : OrderedSet α} (h : s.toList = t.toList) : s = t := by
  obtain ⟨as, _⟩ := s
  obtain ⟨bs, _⟩ := t
  exact OrderedSet.mk.injEq .. ▸ h

variable [DecidableEq α]

instance (a : α) (s : OrderedSet α) : Decidable (a ∈ s) :=
  inferInstanceAs (Decidable (a ∈ s.toList))

/-- A new member goes to the end; an old one keeps its place. -/
def insert (s : OrderedSet α) (a : α) : OrderedSet α :=
  if h : a ∈ s.toList then s
  else ⟨s.toList ++ [a], by
    rw [List.nodup_append]
    exact ⟨s.nodup, by simp, fun b hb c hc => by
      rw [List.mem_singleton] at hc
      rintro rfl
      exact h (hc ▸ hb)⟩⟩

theorem toList_insert (s : OrderedSet α) (a : α) :
    (s.insert a).toList = if a ∈ s then s.toList else s.toList ++ [a] := by
  unfold insert
  by_cases h : a ∈ s.toList <;> simp [mem_def, h]

theorem insert_of_mem {s : OrderedSet α} {a : α} (h : a ∈ s) : s.insert a = s := dif_pos h

@[simp] theorem mem_insert {s : OrderedSet α} {a b : α} : b ∈ s.insert a ↔ b ∈ s ∨ b = a := by
  simp only [mem_def, toList_insert]
  split
  · rename_i h
    exact ⟨Or.inl, fun hb => hb.elim id fun e => e ▸ h⟩
  · simp

def insertAll (s : OrderedSet α) (as : List α) : OrderedSet α := as.foldl insert s

@[simp] theorem insertAll_nil (s : OrderedSet α) : s.insertAll [] = s := rfl

@[simp] theorem insertAll_cons (s : OrderedSet α) (a : α) (as : List α) :
    s.insertAll (a :: as) = (s.insert a).insertAll as := rfl

@[simp] theorem mem_insertAll {s : OrderedSet α} {as : List α} {b : α} :
    b ∈ s.insertAll as ↔ b ∈ s ∨ b ∈ as := by
  induction as generalizing s with
  | nil => simp
  | cons a as ih => simp [ih, or_assoc]

theorem insertAll_append (s : OrderedSet α) (as bs : List α) :
    s.insertAll (as ++ bs) = (s.insertAll as).insertAll bs :=
  List.foldl_append

theorem eraseDups_of_nodup {as : List α} (h : as.Nodup) : as.eraseDups = as := by
  induction as with
  | nil => rfl
  | cons a as ih =>
    rw [List.nodup_cons] at h
    have hrest : as.filter (! · == a) = as := List.filter_eq_self.2 fun b hb => by
      have hne : b ≠ a := fun e => h.1 (e ▸ hb)
      simp [hne]
    rw [List.eraseDups_cons, hrest, ih h.2]

/-- Members that are new are added in the order in which each first occurs. -/
theorem toList_insertAll_eq (s : OrderedSet α) (as : List α) :
    (s.insertAll as).toList = s.toList ++ (as.filter (· ∉ s)).eraseDups := by
  induction as generalizing s with
  | nil => simp
  | cons a as ih =>
    rw [insertAll_cons, ih, toList_insert]
    by_cases ha : a ∈ s
    · simp [ha, insert_of_mem]
    · -- once the head is in, it is not new any more
      have hrest : as.filter (· ∉ s.insert a) = (as.filter (· ∉ s)).filter (! · == a) := by
        rw [List.filter_filter]
        apply List.filter_congr
        intro b _
        by_cases hb : b = a <;> simp [hb]
      rw [hrest]
      simp [ha, List.eraseDups_cons]

theorem toList_insertAll {s : OrderedSet α} {as : List α} (h : as.Nodup) :
    (s.insertAll as).toList = s.toList ++ as.filter (· ∉ s) := by
  rw [toList_insertAll_eq, eraseDups_of_nodup (h.filter _)]

/-- It makes no difference whether members are put together first, their order included. -/
theorem insertAll_insertAll (s t : OrderedSet α) (as : List α) :
    s.insertAll (t.insertAll as).toList = (s.insertAll t.toList).insertAll as := by
  induction as generalizing t with
  | nil => rfl
  | cons a as ih =>
    rw [insertAll_cons, ih, insertAll_cons]
    congr 1
    rw [toList_insert]
    by_cases ha : a ∈ t
    · rw [if_pos ha, insert_of_mem (mem_insertAll.2 (.inr ha))]
    · rw [if_neg ha, insertAll_append]
      rfl

theorem prefix_insert (s : OrderedSet α) (a : α) : s.toList <+: (s.insert a).toList := by
  rw [toList_insert]
  split
  · exact List.prefix_rfl
  · exact List.prefix_append _ _

/-- Old members keep their places. -/
theorem prefix_insertAll (s : OrderedSet α) (as : List α) :
    s.toList <+: (s.insertAll as).toList := by
  induction as generalizing s with
  | nil => exact List.prefix_rfl
  | cons a as ih => exact (prefix_insert s a).trans (ih (s.insert a))

def ofList (as : List α) : OrderedSet α := (∅ : OrderedSet α).insertAll as

theorem toList_ofList (as : List α) : (ofList as).toList = as.eraseDups := by
  have hnew : as.filter (· ∉ (∅ : OrderedSet α)) = as := List.filter_eq_self.2 (by simp)
  rw [ofList, toList_insertAll_eq, hnew]
  rfl

@[simp] theorem mem_ofList {as : List α} {b : α} : b ∈ ofList as ↔ b ∈ as := by
  simp [ofList]

end OrderedSet
end FrontEnd
