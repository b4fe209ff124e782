import FrontEnd.Grammar.Construction
import FrontEnd.Grammar.Follow
import FrontEnd.Lexer.Stream

namespace FrontEnd

structure ProductionSpec (α : Type) where
  name : String
  symbols : List String
  action : Option α := none
  term : Option String := none

structure Assembly (α : Type) where
  lexer : Lexer
  grammar : Grammar α

namespace Assembly

variable {α : Type}

def grammarOver (l : Lexer) : Grammar α := .ofTerminals (l.rules.map Rule.name)

def construct (productions : List (ProductionSpec α)) : Grammar.Update α Unit := do
  productions.forM fun s => discard (Grammar.addProduction s.name s.symbols s.action s.term)
  Grammar.augment
  Grammar.storeFirst
  Grammar.storeFollow

/-- The lexer with the rules of a list, then the patterns to pass over, and the grammar with the
productions of a list, its start symbol and its FIRST and FOLLOW sets. The first failure counts. -/
def build (rules : List (String × String)) (ignored : List String)
    (productions : List (ProductionSpec α)) : Except BuildError (Assembly α) := do
  let lexer ← rules.foldlM (fun l (name, pattern) => (l.add name pattern {}).map Prod.fst)
    ({} : Lexer)
  let lexer ← ignored.foldlM (fun l pattern => (l.ignore pattern {}).map Prod.fst) lexer
  match (construct productions).run { grammar := grammarOver lexer } with
  | .ok _ s => return ⟨lexer, s.grammar⟩
  | .error e _ => throw e

end Assembly
end FrontEnd
