import FrontEnd.Text.Position
import FrontEnd.Text.Quoted

namespace FrontEnd

inductive BuildError where
  /-- A production is named after a terminal. -/
  | illegalRuleName (name : String)
  /-- A production asks for the precedence of a term that has none. -/
  | unknownPrecedence (term : String)
  /-- A term gets a precedence for the second time. -/
  | precedenceRedefined (term : String)
  /-- An associativity that is none of the three. -/
  | invalidAssociativity (text : String)
  /-- A start symbol is asked of a grammar without productions. -/
  | emptyGrammar
  | noStartSymbol
  | firstNotComputed
  /-- A pattern cannot be compiled. -/
  | invalidPattern (pattern reason : String)
deriving DecidableEq, Repr

def BuildError.message : BuildError → String
  | .illegalRuleName name => "illegal rule name " ++ Text.quote name
  | .unknownPrecedence term => "precedence " ++ Text.quote term ++ " doesn't exist"
  | .precedenceRedefined term => "precedence already specified for " ++ Text.quote term
  | .invalidAssociativity text =>
    "precedence must be one of left, right, nonassoc; not " ++ Text.quote text
  | .emptyGrammar => "grammar must contain at least one rule"
  | .noStartSymbol => "grammar has no start symbol"
  | .firstNotComputed => "FIRST sets must be computed before FOLLOW sets"
  | .invalidPattern pattern reason => "invalid pattern " ++ Text.quote pattern ++ ": " ++ reason

structure LexingError where
  message : String
  position : Position
deriving DecidableEq, Repr

instance : ToString LexingError :=
  ⟨fun e => "lexing error at " ++ toString e.position ++ ": " ++ Text.quote e.message⟩

/-- No production applies; the place is that of the offending token, if it has one. -/
structure ParsingError where
  message : String
  position : Option Position
deriving DecidableEq, Repr

instance : ToString ParsingError where
  toString e :=
    let place := match e.position with
      | some p => " at " ++ toString p
      | none => ""
    "parsing error" ++ place ++ ": " ++ e.message

end FrontEnd
