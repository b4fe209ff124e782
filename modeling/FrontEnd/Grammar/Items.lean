import FrontEnd.Grammar.Basic

namespace FrontEnd.Grammar

variable {α : Type}

def buildItems (g : Grammar α) : Grammar α :=
  { g with
    augmented := g.augmented.map (·.withItems g.productionsFor)
    rules := g.rules.map (·.withItems g.productionsFor) }

def item? (g : Grammar α) (number index : Nat) : Option Item :=
  (g.production? number).bind (·.items[index]?)

/-- The item after a given one in the chain of its production as it is now. -/
def nextItem? (g : Grammar α) (i : Item) : Option Item := g.item? i.number (i.index + 1)

def itemsFrom (g : Grammar α) : (limit : Nat) → Option Item → List Item
  | limit + 1, some i => i :: g.itemsFrom limit (g.nextItem? i)
  | _, _ => []

def chain (g : Grammar α) (number : Nat) : List Item :=
  g.itemsFrom (((g.production? number).map (·.items.length)).getD 0) (g.item? number 0)

/-- Edits the lookaheads of an item, if there is such an item. -/
def editLookaheads? (g : Grammar α) (number index : Nat)
    (edit : OrderedMap Nat (List String) → OrderedMap Nat (List String)) : Option (Grammar α) :=
  (g.item? number index).map fun _ =>
    match number with
    | 0 => { g with augmented := g.augmented.map (·.editLookaheads index edit) }
    | n + 1 => { g with rules := g.rules.modify n (·.editLookaheads index edit) }

end FrontEnd.Grammar
