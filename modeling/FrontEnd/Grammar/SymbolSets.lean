import FrontEnd.Collections.OrderedMap
import FrontEnd.Collections.OrderedSet
import FrontEnd.Grammar.Names

namespace FrontEnd

abbrev SymbolSets := OrderedMap String (OrderedSet String)

namespace SymbolSets

def members (m : SymbolSets) (symbol : String) : OrderedSet String := (m.get? symbol).getD ∅

def extend (m : SymbolSets) (symbol : String) (names : List String) : SymbolSets :=
  m.update symbol fun s => (s.getD ∅).insertAll names

/-- Repeats a pass until one changes nothing, `limit` times at most. Returns the sets and the
number of passes, the last included. -/
def settle (pass : SymbolSets → SymbolSets) : (limit : Nat) → SymbolSets → SymbolSets × Nat
  | 0, m => (m, 0)
  | limit + 1, m =>
    let next := pass m
    if next = m then (m, 1)
    else
      let (last, passes) := settle pass limit next
      (last, passes + 1)

end SymbolSets
end FrontEnd
