import FrontEnd.Pattern.Expr.Meaning
import FrontEnd.Pattern.Footprint
import FrontEnd.Pattern.Program

namespace FrontEnd

structure Pattern where
  program : Pattern.Program

namespace Pattern

inductive Refusal where
  /-- It is ill formed, nests too deep, or could match a part of a character's encoding. -/
  | malformed
  /-- Its table would be too large. -/
  | tooLarge
deriving DecidableEq, Repr

def Refusal.message : Refusal → String
  | .malformed => "error parsing pattern 0"
  | .tooLarge => "error building NFA"

def compile (f : Flags) (text : String) : Except Refusal Pattern :=
  match Regex.parse? f text.toList with
  | none => .error .malformed
  | some r => if footprint r ≤ maxFootprint then .ok ⟨.ofRegex r⟩ else .error .tooLarge

/-- The number of characters that the pattern takes from the head of `text`, where `before` is the
character in front of it. -/
def matchLength? (p : Pattern) (before : Option Char) (text : List Char) : Option Nat :=
  p.program.matchLength? before text

end Pattern
end FrontEnd
