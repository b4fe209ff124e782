import FrontEnd.Pattern.Class

namespace FrontEnd.Pattern

/-- Assertions as written; what `^`, `$` and word boundaries mean depends on the flags. -/
inductive Anchor where
  | caret
  | dollar
  | textStart
  | textEnd
  | wordBoundary
  | notWordBoundary
  | wordStart
  | wordEnd
  | wordStartHalf
  | wordEndHalf
deriving DecidableEq, Repr

inductive GroupKind where
  | capture (name : Option String)
  | switches (ss : Switches)
deriving DecidableEq, Repr

inductive Sign where
  | literal (l : Literal)
  | dot
  | anchor (a : Anchor)
  | shorthand (k : Shorthand) (negated : Bool)
  | property (q : Unicode.Query) (negated : Bool)
  | openGroup (k : GroupKind)
  | closeGroup
  /-- Switches for the rest of the group. -/
  | setSwitches (ss : Switches)
  | bar
  | repetition (min : Nat) (max : Option Nat) (greedy : Bool)
  | openClass (negated : Bool)
  | closeClass
  | classRange (lo hi : Literal)
  | namedClass (k : NamedClass) (negated : Bool)
  | classOperation (op : SetOp)

end FrontEnd.Pattern
