import FrontEnd.Collections.OrderedMap
import FrontEnd.Collections.OrderedSet
import FrontEnd.Grammar.Names
import FrontEnd.Grammar.Precedence

namespace FrontEnd

/-- A production with a dot in its right-hand side. -/
structure Item where
  /-- The number and the left-hand side of the production. -/
  number : Nat
  name : String
  /-- The symbols before the dot. -/
  before : List String
  /-- The symbols behind the dot. -/
  after : List String
  /-- The productions that define the symbol behind the dot. -/
  expansions : List Nat
  /-- The terminals that may follow, by the state of a parser. -/
  lookaheads : OrderedMap Nat (List String)

namespace Item

def index (i : Item) : Nat := i.before.length

def dotted (i : Item) : List String := i.before ++ Grammar.dotMark :: i.after

def previous? (i : Item) : Option String := i.before.getLast?

def next? (i : Item) : Option String := i.after.head?

/-- Items are equal if all their parts are; the order of the states does not matter. -/
instance : BEq Item where
  beq a b :=
    a.number == b.number && a.name == b.name && a.before == b.before && a.after == b.after
      && a.expansions == b.expansions && a.lookaheads.size == b.lookaheads.size
      && a.lookaheads.entries.all fun (state, terms) => b.lookaheads.get? state == some terms

instance : ToString Item :=
  ⟨fun i => i.name ++ " ->" ++ String.join (i.dotted.map (" " ++ ·))⟩

end Item

/-- A production; its action is of the caller's making and is handed back as it came. -/
structure Production (α : Type) where
  number : Nat
  name : String
  symbols : List String
  precedence : Precedence
  action : Option α
  /-- The items in the order of their dots; none before they are built. -/
  items : List Item := []

namespace Production

variable {α : Type}

instance : ToString (Production α) :=
  ⟨fun p => p.name ++ " ->" ++ String.join (p.symbols.map (" " ++ ·))⟩

def distinctSymbols (p : Production α) : OrderedSet String := .ofList p.symbols

/-- The item with the dot behind `i` symbols; `definitions` gives the productions of a symbol. -/
def itemAt (p : Production α) (definitions : String → List Nat) (i : Nat) : Item where
  number := p.number
  name := p.name
  before := p.symbols.take i
  after := p.symbols.drop i
  expansions := (p.symbols[i]?.map definitions).getD []
  lookaheads := ∅

def withItems (p : Production α) (definitions : String → List Nat) : Production α :=
  { p with items := (List.range (p.symbols.length + 1)).map (p.itemAt definitions) }

def editLookaheads (p : Production α) (index : Nat)
    (edit : OrderedMap Nat (List String) → OrderedMap Nat (List String)) : Production α :=
  { p with
    items := p.items.modify index fun i => { i with lookaheads := edit i.lookaheads } }

end Production
end FrontEnd
