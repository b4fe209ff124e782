import FrontEnd.Pattern.Flags
import FrontEnd.Unicode.CaseFolding
import FrontEnd.Unicode.Property

namespace FrontEnd.Pattern

/-- A character as written in a pattern. One written by two hexadecimal digits stands for a byte
where Unicode is off. -/
structure Literal where
  char : Char
  asByte : Bool := false
deriving DecidableEq, Repr

def Literal.resolve? (f : Flags) (l : Literal) : Option Char :=
  if l.asByte ∧ ¬f.unicode ∧ 0x80 ≤ l.char.toNat then none else some l.char

inductive Shorthand where
  | digit
  | space
  | word
deriving DecidableEq, Repr

/-- The classes written by a name between colons. They hold ascii characters only. -/
inductive NamedClass where
  | alnum | alpha | ascii | blank | cntrl | digit | graph | lower | print | punct | space | upper
  | word | xdigit
deriving DecidableEq, Repr

def NamedClass.ofName? : String → Option NamedClass
  | "alnum" => some .alnum
  | "alpha" => some .alpha
  | "ascii" => some .ascii
  | "blank" => some .blank
  | "cntrl" => some .cntrl
  | "digit" => some .digit
  | "graph" => some .graph
  | "lower" => some .lower
  | "print" => some .print
  | "punct" => some .punct
  | "space" => some .space
  | "upper" => some .upper
  | "word" => some .word
  | "xdigit" => some .xdigit
  | _ => none

def NamedClass.chars : NamedClass → CharSet
  | .alnum => .ofTable ["30-39 41-5A 61-7A"]
  | .alpha => .ofTable ["41-5A 61-7A"]
  | .ascii => .ascii
  | .blank => .ofTable ["9 20"]
  | .cntrl => .ofTable ["0-1F 7F"]
  | .digit => .ofTable ["30-39"]
  | .graph => .ofTable ["21-7E"]
  | .lower => .ofTable ["61-7A"]
  | .print => .ofTable ["20-7E"]
  | .punct => .ofTable ["21-2F 3A-40 5B-60 7B-7E"]
  | .space => .ofTable ["9-D 20"]
  | .upper => .ofTable ["41-5A"]
  | .word => .ofTable ["30-39 41-5A 5F 61-7A"]
  | .xdigit => .ofTable ["30-39 41-46 61-66"]

def Shorthand.chars (f : Flags) : Shorthand → CharSet
  | .digit => if f.unicode then Unicode.CategoryTable.decimalNumber else NamedClass.digit.chars
  | .space => if f.unicode then Unicode.PropertyTable.whiteSpace else NamedClass.space.chars
  | .word => if f.unicode then Unicode.word else NamedClass.word.chars

inductive SetOp where
  | intersection
  | difference
  | symmetricDifference
deriving DecidableEq, Repr

def SetOp.apply : SetOp → CharSet → CharSet → CharSet
  | intersection => .inter
  | difference => .diff
  | symmetricDifference => .symmDiff

inductive ClassExpr where
  | literal (l : Literal)
  | range (lo hi : Literal)
  | named (k : NamedClass) (negated : Bool)
  | shorthand (k : Shorthand) (negated : Bool)
  | property (q : Unicode.Query) (negated : Bool)
  | bracketed (negated : Bool) (body : ClassExpr)
  | union (items : List ClassExpr)
  | operation (op : SetOp) (left right : ClassExpr)

def ClassExpr.ofItems : List ClassExpr → ClassExpr
  | [e] => e
  | es => .union es

def allow? (f : Flags) (s : CharSet) : Option CharSet :=
  if f.unicode ∨ s.isAscii then some s else none

def foldCase (f : Flags) (s : CharSet) : CharSet :=
  if f.caseInsensitive then
    Unicode.CaseFolding.close
      (if f.unicode then Unicode.CaseFolding.pairs else Unicode.CaseFolding.asciiPairs) s
  else s

def negateIf (negated : Bool) (s : CharSet) : CharSet := if negated then s.compl else s

def Shorthand.resolve? (f : Flags) (k : Shorthand) (negated : Bool) : Option CharSet :=
  allow? f (negateIf negated (k.chars f))

/-- The set of a property; folding comes before negation. -/
def resolveProperty? (f : Flags) (q : Unicode.Query) (negated : Bool) : Option CharSet :=
  if f.unicode then q.resolve?.map fun s => negateIf negated (foldCase f s) else none

def Literal.rangeEnd? (f : Flags) (l : Literal) : Option Char := do
  let c ← l.resolve? f
  if f.unicode ∨ c.toNat < 0x80 then some c else none

mutual

/-- The set that a class stands for. The whole bracket is folded before it is negated; the sides
of an operation are folded before it is carried out. -/
def ClassExpr.resolve? (f : Flags) : ClassExpr → Option CharSet
  | .literal l => (l.rangeEnd? f).map .singleton
  | .range lo hi => do return .range (← lo.rangeEnd? f) (← hi.rangeEnd? f)
  | .named k negated => allow? f (negateIf negated (foldCase f k.chars))
  | .shorthand k negated => k.resolve? f negated
  | .property q negated => resolveProperty? f q negated
  | .bracketed negated body => do
    allow? f (negateIf negated (foldCase f (← body.resolve? f)))
  | .union items => ClassExpr.resolveAll? f items
  | .operation op left right => do
    return op.apply (foldCase f (← left.resolve? f)) (foldCase f (← right.resolve? f))

def ClassExpr.resolveAll? (f : Flags) : List ClassExpr → Option CharSet
  | [] => some .empty
  | e :: es => do return (← e.resolve? f).union (← ClassExpr.resolveAll? f es)

end

mutual

def ClassExpr.depth : ClassExpr → Nat
  | .bracketed _ body => body.depth + 1
  | .union [] => 0
  | .union items => ClassExpr.depthAll items + 1
  | .operation _ left right => max left.depth right.depth + 1
  | _ => 0

def ClassExpr.depthAll : List ClassExpr → Nat
  | [] => 0
  | e :: es => max e.depth (ClassExpr.depthAll es)

end

end FrontEnd.Pattern
