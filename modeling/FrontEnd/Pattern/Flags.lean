namespace FrontEnd.Pattern

/-- The switches in force; as a rule only `unicode` is on. -/
structure Flags where
  /-- Letters match both cases. -/
  caseInsensitive : Bool := false
  /-- `^` and `$` match at the ends of lines. -/
  multiLine : Bool := false
  /-- A dot matches a line end. -/
  dotMatchesNewLine : Bool := false
  /-- Repetitions take as little as they can, and as much when marked as lazy. -/
  swapGreed : Bool := false
  /-- Classes, folding and word boundaries follow Unicode; ascii otherwise. -/
  unicode : Bool := true
  /-- A carriage return ends a line too. -/
  crlf : Bool := false
  /-- Blanks and comments in the pattern stand for nothing. -/
  ignoreWhitespace : Bool := false
deriving DecidableEq, Repr

inductive Flag where
  | caseInsensitive
  | multiLine
  | dotMatchesNewLine
  | swapGreed
  | unicode
  | crlf
  | ignoreWhitespace
deriving DecidableEq, Repr

def Flag.ofLetter? : Char → Option Flag
  | 'i' => some .caseInsensitive
  | 'm' => some .multiLine
  | 's' => some .dotMatchesNewLine
  | 'U' => some .swapGreed
  | 'u' => some .unicode
  | 'R' => some .crlf
  | 'x' => some .ignoreWhitespace
  | _ => none

abbrev Switches := List (Flag × Bool)

def Flags.set (f : Flags) : Flag × Bool → Flags
  | (.caseInsensitive, on) => { f with caseInsensitive := on }
  | (.multiLine, on) => { f with multiLine := on }
  | (.dotMatchesNewLine, on) => { f with dotMatchesNewLine := on }
  | (.swapGreed, on) => { f with swapGreed := on }
  | (.unicode, on) => { f with unicode := on }
  | (.crlf, on) => { f with crlf := on }
  | (.ignoreWhitespace, on) => { f with ignoreWhitespace := on }

def Flags.setAll (f : Flags) (ss : Switches) : Flags := ss.foldl Flags.set f

end FrontEnd.Pattern
