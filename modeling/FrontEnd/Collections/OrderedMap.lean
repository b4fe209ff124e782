namespace FrontEnd

/-- An association list whose keys are distinct. -/
structure OrderedMap (κ β : Type) where
  entries : List (κ × β)
  nodup : (entries.map Prod.fst).Nodup
deriving DecidableEq

namespace OrderedMap

variable {κ β : Type}

def empty : OrderedMap κ β := ⟨[], List.nodup_nil⟩

instance : EmptyCollection (OrderedMap κ β) := ⟨empty⟩

def keys (m : OrderedMap κ β) : List κ := m.entries.map Prod.fst

def size (m : OrderedMap κ β) : Nat := m.entries.length

def isEmpty (m : OrderedMap κ β) : Bool := m.entries.isEmpty

@[simp] theorem keys_empty : (∅ : OrderedMap κ β).keys = [] := rfl

variable [DecidableEq κ]

def get? (m : OrderedMap κ β) (k : κ) : Option β := m.entries.lookup k

def contains (m : OrderedMap κ β) (k : κ) : Bool := decide (k ∈ m.keys)

def place (k : κ) (f : Option β → β) : List (κ × β) → List (κ × β)
  | [] => [(k, f none)]
  | (j, b) :: rest => if j = k then (j, f (some b)) :: rest else (j, b) :: place k f rest

theorem keys_place (k : κ) (f : Option β → β) (es : List (κ × β)) :
    (place k f es).map Prod.fst =
      if k ∈ es.map Prod.fst then es.map Prod.fst else es.map Prod.fst ++ [k] := by
  induction es with
  | nil => simp [place]
  | cons e rest ih =>
    obtain ⟨j, b⟩ := e
    by_cases h : j = k
    · simp [place, h]
    · have h' : ¬ k = j := fun e => h e.symm
      by_cases hk : k ∈ rest.map Prod.fst <;> simp_all [place]

theorem nodup_place (k : κ) (f : Option β → β) {es : List (κ × β)}
    (h : (es.map Prod.fst).Nodup) : ((place k f es).map Prod.fst).Nodup := by
  rw [keys_place]
  split
  · exact h
  · rename_i hk
    rw [List.nodup_append]
    refine ⟨h, by simp, fun a ha b hb => ?_⟩
    rw [List.mem_singleton] at hb
    rintro rfl
    exact hk (hb ▸ ha)

theorem lookup_place (k j : κ) (f : Option β → β) (es : List (κ × β)) :
    (place k f es).lookup j = if j = k then some (f (es.lookup k)) else es.lookup j := by
  induction es with
  | nil =>
    by_cases h : j = k
    · simp [place, h]
    · simp [place, List.lookup_cons, beq_false_of_ne h, h]
  | cons e rest ih =>
    obtain ⟨i, b⟩ := e
    by_cases hi : i = k
    · subst hi
      by_cases hj : j = i
      · simp [place, hj]
      · simp [place, List.lookup_cons, beq_false_of_ne hj, hj]
    · by_cases hj : j = i
      · subst hj
        simp [place, hi]
      · by_cases hk : j = k
        · subst hk
          simpa [place, hi, List.lookup_cons, beq_false_of_ne hj] using ih
        · simpa [place, hi, List.lookup_cons, beq_false_of_ne hj, hk] using ih

def update (m : OrderedMap κ β) (k : κ) (f : Option β → β) : OrderedMap κ β :=
  ⟨place k f m.entries, nodup_place k f m.nodup⟩

def insert (m : OrderedMap κ β) (k : κ) (b : β) : OrderedMap κ β := m.update k fun _ => b

/-- The map written from left to right: a later value for a key replaces an earlier one. -/
def ofList (es : List (κ × β)) : OrderedMap κ β :=
  es.foldl (fun m e => m.insert e.1 e.2) ∅

@[simp] theorem get?_empty (k : κ) : (∅ : OrderedMap κ β).get? k = none := rfl

theorem keys_update (m : OrderedMap κ β) (k : κ) (f : Option β → β) :
    (m.update k f).keys = if k ∈ m.keys then m.keys else m.keys ++ [k] :=
  keys_place k f m.entries

theorem get?_update (m : OrderedMap κ β) (k j : κ) (f : Option β → β) :
    (m.update k f).get? j = if j = k then some (f (m.get? k)) else m.get? j :=
  lookup_place k j f m.entries

theorem keys_insert (m : OrderedMap κ β) (k : κ) (b : β) :
    (m.insert k b).keys = if k ∈ m.keys then m.keys else m.keys ++ [k] :=
  keys_update m k _

theorem get?_insert (m : OrderedMap κ β) (k j : κ) (b : β) :
    (m.insert k b).get? j = if j = k then some b else m.get? j :=
  get?_update m k j _

theorem mem_keys_iff (m : OrderedMap κ β) (k : κ) : k ∈ m.keys ↔ (m.get? k).isSome := by
  simp only [keys, get?, List.lookup_isSome_iff, List.mem_map, beq_iff_eq, @eq_comm _ k]

theorem contains_eq_isSome (m : OrderedMap κ β) (k : κ) : m.contains k = (m.get? k).isSome := by
  rw [Bool.eq_iff_iff, ← mem_keys_iff]
  exact decide_eq_true_iff

theorem contains_insert {m : OrderedMap κ β} {k j : κ} {b : β} :
    (m.insert k b).contains j = true ↔ j = k ∨ m.contains j = true := by
  rw [contains_eq_isSome, get?_insert, contains_eq_isSome]
  split
  · rename_i h
    simp [h]
  · rename_i h
    simp [h]

theorem get?_of_mem_entries {m : OrderedMap κ β} {k : κ} {b : β} (h : (k, b) ∈ m.entries) :
    m.get? k = some b := by
  obtain ⟨es, hn⟩ := m
  change es.lookup k = some b
  change (k, b) ∈ es at h
  induction es with
  | nil => simp at h
  | cons e rest ih =>
    obtain ⟨j, c⟩ := e
    rw [List.map_cons, List.nodup_cons] at hn
    rcases List.mem_cons.1 h with he | hr
    · simp only [Prod.mk.injEq] at he
      simp [he]
    · have hj : k ≠ j := by
        rintro rfl
        exact hn.1 (List.mem_map.2 ⟨(k, b), hr, rfl⟩)
      rw [List.lookup_cons, beq_false_of_ne hj]
      exact ih hn.2 hr

theorem ext_get? {m m' : OrderedMap κ β} (hk : m.keys = m'.keys)
    (hg : ∀ k ∈ m.keys, m.get? k = m'.get? k) : m = m' := by
  have value (m : OrderedMap κ β) :
      m.entries.map (fun e => (e.1, some e.2)) = m.keys.map fun k => (k, m.get? k) := by
    rw [keys, List.map_map]
    apply List.map_congr_left
    intro e he
    simp [get?_of_mem_entries he]
  have he : m.entries.map (fun e => (e.1, some e.2)) =
      m'.entries.map fun e => (e.1, some e.2) := by
    rw [value, value, ← hk]
    apply List.map_congr_left
    intro k hm
    rw [hg k hm]
  obtain ⟨es, _⟩ := m
  obtain ⟨es', _⟩ := m'
  simp only [OrderedMap.mk.injEq]
  refine (List.map_inj_right ?_).1 he
  rintro ⟨k, b⟩ ⟨k', b'⟩ h
  simpa using h

theorem get?_foldl_insert (es : List (κ × β)) (m : OrderedMap κ β) (k : κ) :
    (es.foldl (fun m e => m.insert e.1 e.2) m).get? k =
      (es.reverse.lookup k).or (m.get? k) := by
  induction es generalizing m with
  | nil => simp
  | cons e rest ih =>
    rw [List.foldl_cons, ih, get?_insert, List.reverse_cons, List.lookup_append, Option.or_assoc]
    congr 1
    obtain ⟨j, b⟩ := e
    by_cases h : k = j
    · simp [h]
    · simp [List.lookup_cons, beq_false_of_ne h, h]

theorem get?_ofList (es : List (κ × β)) (k : κ) : (ofList es).get? k = es.reverse.lookup k := by
  rw [ofList, get?_foldl_insert]
  simp

theorem mem_keys_ofList {es : List (κ × β)} {k : κ} :
    k ∈ (ofList es).keys ↔ k ∈ es.map Prod.fst := by
  rw [mem_keys_iff, get?_ofList]
  simp

theorem keys_foldl_insert {es : List (κ × β)} {m : OrderedMap κ β}
    (h : (m.keys ++ es.map Prod.fst).Nodup) :
    (es.foldl (fun m e => m.insert e.1 e.2) m).keys = m.keys ++ es.map Prod.fst := by
  induction es generalizing m with
  | nil => simp
  | cons e rest ih =>
    have hnew : e.1 ∉ m.keys := by
      intro hmem
      exact (List.nodup_append.1 h).2.2 _ hmem _ List.mem_cons_self rfl
    have hkeys : (m.insert e.1 e.2).keys = m.keys ++ [e.1] := by
      rw [keys_insert, if_neg hnew]
    rw [List.foldl_cons, ih, hkeys, List.append_assoc]
    · rfl
    · rwa [hkeys, List.append_assoc]

theorem keys_ofList {es : List (κ × β)} (h : (es.map Prod.fst).Nodup) :
    (ofList es).keys = es.map Prod.fst :=
  keys_foldl_insert h

end OrderedMap
end FrontEnd
