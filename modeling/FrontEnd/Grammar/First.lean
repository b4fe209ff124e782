import FrontEnd.Grammar.Update

namespace FrontEnd.Grammar

open Update

variable {α : Type}

/-- Adds the FIRST set of a sequence to a set: the members of its symbols from left to right, up to
the first symbol that cannot derive the empty sequence. -/
def firstOnto (first : SymbolSets) (acc : OrderedSet String) : List String → OrderedSet String
  | [] => acc.insert emptyMark
  | x :: rest =>
    let s := first.members x
    let acc := acc.insertAll (s.toList.filter (· != emptyMark))
    if emptyMark ∈ s then firstOnto first acc rest else acc

def firstOfSequence (first : SymbolSets) (symbols : List String) : OrderedSet String :=
  firstOnto first ∅ symbols

def firstOf (g : Grammar α) (symbols : List String) : OrderedSet String :=
  firstOfSequence g.first symbols

/-- The sets to begin with: of each terminal and of the end mark it alone, of each nonterminal
none. Later entries replace earlier ones of the same name. -/
def initialFirst (g : Grammar α) : SymbolSets :=
  .ofList (g.terminals.names.map (fun t => (t, .singleton t))
    ++ (endMark, .singleton endMark) :: g.nonterminals.names.map (·, ∅))

/-- The productions in the order in which a pass takes them: nonterminal by nonterminal. -/
def definitionOrder (g : Grammar α) : List (String × List String) :=
  g.nonterminals.names.flatMap fun n =>
    (g.productionsFor n).filterMap fun k => (g.production? k).map fun p => (n, p.symbols)

def firstPass (g : Grammar α) (first : SymbolSets) : SymbolSets :=
  g.definitionOrder.foldl
    (fun m (n, symbols) => m.extend n (firstOfSequence m symbols).toList) first

/-- The most members that sets over the terminals and the two marks can gain, and one. -/
def passLimit (g : Grammar α) (sets : SymbolSets) : Nat :=
  sets.size * (g.terminals.size + 2) + 1

def firstSets (g : Grammar α) : SymbolSets × Nat :=
  SymbolSets.settle g.firstPass (g.passLimit g.initialFirst) g.initialFirst

def storeFirst : Update α Unit := do
  let (first, passes) := (← current).firstSets
  change fun g => { g with first }
  log (.firstSettled passes)

end FrontEnd.Grammar
