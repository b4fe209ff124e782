import FrontEnd.Collections.OrderedMap
import FrontEnd.Collections.OrderedSet

namespace FrontEnd

/-- Symbols with their uses. A production that uses a symbol twice is listed twice. -/
structure SymbolTable where
  entries : OrderedMap String (List Nat)
deriving DecidableEq

namespace SymbolTable

def empty : SymbolTable := ⟨∅⟩

instance : EmptyCollection SymbolTable := ⟨empty⟩

def names (t : SymbolTable) : List String := t.entries.keys

def size (t : SymbolTable) : Nat := t.entries.size

def isEmpty (t : SymbolTable) : Bool := t.entries.isEmpty

def contains (t : SymbolTable) (symbol : String) : Bool := t.entries.contains symbol

def uses? (t : SymbolTable) (symbol : String) : Option (List Nat) := t.entries.get? symbol

/-- Makes sure that a symbol is in the table, and returns its place. -/
def add (t : SymbolTable) (symbol : String) : Nat × SymbolTable :=
  (t.names.idxOf symbol, ⟨t.entries.update symbol (·.getD [])⟩)

def record (t : SymbolTable) (symbol : String) (production : Nat) : SymbolTable :=
  ⟨t.entries.update symbol fun uses => uses.getD [] ++ [production]⟩

def ofList (symbols : List String) : SymbolTable := symbols.foldl (fun t s => (t.add s).2) ∅

theorem contains_iff {t : SymbolTable} {symbol : String} :
    t.contains symbol = true ↔ symbol ∈ t.names :=
  decide_eq_true_iff

theorem nodup_names (t : SymbolTable) : t.names.Nodup := t.entries.nodup

theorem size_eq_length_names (t : SymbolTable) : t.size = t.names.length :=
  (List.length_map ..).symm

theorem names_add (t : SymbolTable) (symbol : String) :
    (t.add symbol).2.names = if symbol ∈ t.names then t.names else t.names ++ [symbol] :=
  OrderedMap.keys_update ..

theorem names_record (t : SymbolTable) (symbol : String) (production : Nat) :
    (t.record symbol production).names =
      if symbol ∈ t.names then t.names else t.names ++ [symbol] :=
  OrderedMap.keys_update ..

theorem mem_names_add {t : SymbolTable} {symbol x : String} :
    x ∈ (t.add symbol).2.names ↔ x ∈ t.names ∨ x = symbol := by
  rw [names_add]
  split
  · rename_i h
    exact ⟨Or.inl, fun hx => hx.elim id fun e => e ▸ h⟩
  · simp

def usesOf (t : SymbolTable) (x : String) : List Nat := (t.uses? x).getD []

theorem usesOf_add (t : SymbolTable) (s x : String) : (t.add s).2.usesOf x = t.usesOf x := by
  unfold usesOf uses? add
  rw [OrderedMap.get?_update]
  split
  · rename_i h
    rw [h, Option.getD_some]
  · rfl

theorem usesOf_record (t : SymbolTable) (s x : String) (k : Nat) :
    (t.record s k).usesOf x = t.usesOf x ++ if x = s then [k] else [] := by
  unfold usesOf uses? record
  rw [OrderedMap.get?_update]
  split
  · rename_i h
    rw [h, Option.getD_some]
  · rw [List.append_nil]

theorem uses?_of_mem {t : SymbolTable} {x : String} (h : x ∈ t.names) :
    t.uses? x = some (t.usesOf x) := by
  obtain ⟨uses, huses⟩ := Option.isSome_iff_exists.1 ((t.entries.mem_keys_iff x).1 h)
  have hx : t.uses? x = some uses := huses
  rw [usesOf, hx, Option.getD_some]

/-- A symbol of the table has a list of uses, be it the empty one, and no other symbol has. -/
theorem uses?_eq (t : SymbolTable) (x : String) :
    t.uses? x = if x ∈ t.names then some (t.usesOf x) else none := by
  split
  · rename_i hx
    exact uses?_of_mem hx
  · rename_i hx
    exact Option.not_isSome_iff_eq_none.1 (mt (t.entries.mem_keys_iff x).2 hx)

theorem usesOf_of_mem {t : SymbolTable} {e : String × List Nat} (h : e ∈ t.entries.entries) :
    t.usesOf e.1 = e.2 := by
  have huses : t.uses? e.1 = some e.2 := OrderedMap.get?_of_mem_entries h
  rw [usesOf, huses, Option.getD_some]

inductive Call where
  | add (symbol : String)
  | record (symbol : String) (production : Nat)

def Call.symbol : Call → String
  | .add symbol => symbol
  | .record symbol _ => symbol

/-- The use of a symbol that a call records, if it records one of that symbol. -/
def Call.use? (x : String) : Call → Option Nat
  | .add _ => none
  | .record symbol production => if x = symbol then some production else none

def perform (t : SymbolTable) : Call → SymbolTable
  | .add symbol => (t.add symbol).2
  | .record symbol production => t.record symbol production

def performAll (t : SymbolTable) (calls : List Call) : SymbolTable := calls.foldl perform t

theorem performAll_cons (t : SymbolTable) (c : Call) (calls : List Call) :
    t.performAll (c :: calls) = (t.perform c).performAll calls := rfl

theorem ofList_eq_performAll (symbols : List String) :
    ofList symbols = performAll ∅ (symbols.map .add) := by
  rw [performAll, List.foldl_map]
  rfl

def nameSet (t : SymbolTable) : OrderedSet String := ⟨t.names, t.nodup_names⟩

theorem nameSet_perform (t : SymbolTable) (c : Call) :
    (t.perform c).nameSet = t.nameSet.insert c.symbol := by
  apply OrderedSet.ext_toList
  rw [OrderedSet.toList_insert]
  cases c with
  | add symbol => exact names_add t symbol
  | record symbol production => exact names_record t symbol production

theorem nameSet_performAll (t : SymbolTable) (calls : List Call) :
    (t.performAll calls).nameSet = t.nameSet.insertAll (calls.map Call.symbol) := by
  induction calls generalizing t with
  | nil => rfl
  | cons c calls ih =>
    rw [performAll_cons, ih, nameSet_perform, List.map_cons, OrderedSet.insertAll_cons]

theorem mem_names_performAll {t : SymbolTable} {calls : List Call} {x : String} :
    x ∈ (t.performAll calls).names ↔ x ∈ t.names ∨ x ∈ calls.map Call.symbol := by
  show x ∈ (t.performAll calls).nameSet ↔ x ∈ t.nameSet ∨ x ∈ calls.map Call.symbol
  rw [nameSet_performAll, OrderedSet.mem_insertAll]

theorem usesOf_perform (t : SymbolTable) (c : Call) (x : String) :
    (t.perform c).usesOf x = t.usesOf x ++ (c.use? x).toList := by
  cases c with
  | add symbol =>
    rw [perform, usesOf_add, Call.use?, Option.toList_none, List.append_nil]
  | record symbol production =>
    rw [perform, usesOf_record, Call.use?]
    split <;> rfl

theorem usesOf_performAll (t : SymbolTable) (calls : List Call) (x : String) :
    (t.performAll calls).usesOf x = t.usesOf x ++ calls.filterMap (Call.use? x) := by
  induction calls generalizing t with
  | nil => exact (List.append_nil _).symm
  | cons c calls ih =>
    rw [performAll_cons, ih, usesOf_perform, List.append_assoc]
    cases hc : c.use? x <;> simp [hc]

theorem nameSet_ofList (symbols : List String) :
    (ofList symbols).nameSet = OrderedSet.ofList symbols := by
  rw [ofList_eq_performAll, nameSet_performAll, List.map_map]
  exact congrArg OrderedSet.ofList (List.map_id symbols)

/-- The names of a table that is made of a list are its distinct members. -/
theorem names_ofList (symbols : List String) :
    (ofList symbols).names = (OrderedSet.ofList symbols).toList :=
  congrArg OrderedSet.toList (nameSet_ofList symbols)

theorem mem_names_ofList {symbols : List String} {x : String} :
    x ∈ (ofList symbols).names ↔ x ∈ symbols := by
  rw [names_ofList, OrderedSet.mem_toList, OrderedSet.mem_ofList]

theorem usesOf_ofList (symbols : List String) (x : String) : (ofList symbols).usesOf x = [] := by
  rw [ofList_eq_performAll, usesOf_performAll, List.filterMap_map]
  exact List.filterMap_eq_nil_iff.2 fun _ _ => rfl

end SymbolTable
end FrontEnd
