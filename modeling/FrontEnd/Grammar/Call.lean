import FrontEnd.Grammar.Construction
import FrontEnd.Grammar.Diagnostics
import FrontEnd.Grammar.Follow
import FrontEnd.Grammar.Items

namespace FrontEnd.Grammar

open Update

variable {α : Type}

def warnings (g : Grammar α) : List Event :=
  g.unusedTerminals.map .unusedTerminal ++ g.unusedNonterminals.map .unusedNonterminal
    ++ g.undefinedNonterminals.map .undefinedNonterminal

inductive Call (α : Type) where
  | addProduction (name : String) (symbols : List String) (action : Option α)
    (term : Option String)
  | declarePrecedence (term assoc : String) (level : Nat)
  | augment
  | storeFirst
  | storeFollow
  | buildItems
  | editLookaheads (number index : Nat)
    (edit : OrderedMap Nat (List String) → OrderedMap Nat (List String))
  | warnUnused

def Call.setLookaheads (number index state : Nat) (terms : List String) : Call α :=
  .editLookaheads number index (·.insert state terms)

inductive Reply where
  | done
  | number (n : Nat)
  | found (yes : Bool)
deriving DecidableEq, Repr

def Call.program : Call α → Update α Reply
  | .addProduction name symbols action term => do
    let number ← Grammar.addProduction name symbols action term
    return .number number
  | .declarePrecedence term assoc level => do
    Grammar.declarePrecedence term assoc level
    return .done
  | .augment => do
    Grammar.augment
    return .done
  | .storeFirst => do
    Grammar.storeFirst
    return .done
  | .storeFollow => do
    Grammar.storeFollow
    return .done
  | .buildItems => do
    change Grammar.buildItems
    return .done
  | .editLookaheads number index edit => do
    let some edited := (← current).editLookaheads? number index edit | return .found false
    change fun _ => edited
    return .found true
  | .warnUnused => do
    let warnings := (← current).warnings
    warnings.forM log
    return .number warnings.length

structure Performed (α : Type) where
  reply : Except BuildError Reply
  events : List Event
  grammar : Grammar α

def perform (g : Grammar α) (c : Call α) : Performed α :=
  match c.program.run { grammar := g } with
  | .ok reply s => ⟨.ok reply, s.events, s.grammar⟩
  | .error e s => ⟨.error e, s.events, s.grammar⟩

end FrontEnd.Grammar
