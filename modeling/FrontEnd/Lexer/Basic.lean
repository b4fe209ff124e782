import FrontEnd.Lexer.Rule
import FrontEnd.Log

namespace FrontEnd

structure Lexer where
  rules : List Rule := []
  ignored : List Rule := []

namespace Lexer

inductive Event where
  | ruleAdded (number : Nat) (name pattern : String)
  | ignoreAdded (number : Nat) (pattern : String)
  | passedOver (l : Lexeme)
  | matched (name text : String) (position : Position)
deriving DecidableEq, Repr

def Event.record : Event → Log.Record
  | .ruleAdded n name pattern =>
    ⟨.debug, "lexer rule #" ++ toString n ++ " " ++ Text.quote name ++ ": " ++ Text.quote pattern⟩
  | .ignoreAdded n pattern =>
    ⟨.debug, "ignore rule #" ++ toString n ++ ": " ++ Text.quote pattern⟩
  | .passedOver l =>
    ⟨.trace, "IGNORED: " ++ Text.quote l.text ++ " at " ++ toString l.start ++ ".."
      ++ toString l.stop⟩
  | .matched name text p =>
    ⟨.trace, "MATCHED: Rule: " ++ Text.quote name ++ ", Text: " ++ Text.quote text
      ++ ", Position: " ++ toString p⟩

def add (l : Lexer) (name pattern : String) (flags : Pattern.Flags) :
    Except BuildError (Lexer × Event) := do
  let r ← Rule.compile name pattern flags
  return ({ l with rules := l.rules ++ [r] }, .ruleAdded l.rules.length name pattern)

/-- Adds a rule for what is to be passed over. Such a rule has no name. -/
def ignore (l : Lexer) (pattern : String) (flags : Pattern.Flags) :
    Except BuildError (Lexer × Event) := do
  let r ← Rule.compile "" pattern flags
  return ({ l with ignored := l.ignored ++ [r] }, .ignoreAdded l.ignored.length pattern)

end Lexer
end FrontEnd
