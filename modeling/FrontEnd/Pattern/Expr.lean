import FrontEnd.Pattern.Sign.Scan

namespace FrontEnd.Pattern

inductive Expr where
  | switches (ss : Switches)
  | literal (l : Literal)
  | dot
  | anchor (a : Anchor)
  | shorthand (k : Shorthand) (negated : Bool)
  | property (q : Unicode.Query) (negated : Bool)
  | bracketed (negated : Bool) (body : ClassExpr)
  | repetition (min : Nat) (max : Option Nat) (greedy : Bool) (body : Expr)
  /-- Captures are numbered by their opening parentheses. -/
  | capture (index : Nat) (body : Expr)
  | group (ss : Switches) (body : Expr)
  | concat (parts : List Expr)
  | choice (branches : List Expr)

namespace Expr

def ofParts : List Expr → Expr
  | [e] => e
  | es => .concat es

def ofBranches : List Expr → Expr
  | [e] => e
  | es => .choice es

mutual

def depth : Expr → Nat
  | .bracketed _ body => body.depth + 1
  | .repetition _ _ _ body | .capture _ body | .group _ body => body.depth + 1
  | .concat [] | .choice [] => 0
  | .concat es | .choice es => depthAll es + 1
  | _ => 0

def depthAll : List Expr → Nat
  | [] => 0
  | e :: es => max e.depth (depthAll es)

end

/-- What a repetition may follow: anything but switches. -/
def repeatable : Expr → Bool
  | .switches _ => false
  | _ => true

end Expr

/-- A group that is still open: how it ends, the branches before the last bar and the parts
since, both with the latest first. -/
structure OpenGroup where
  close : Expr → Expr
  branches : List Expr := []
  parts : List Expr := []

def OpenGroup.endBranch (g : OpenGroup) : OpenGroup :=
  { g with branches := .ofParts g.parts.reverse :: g.branches, parts := [] }

def OpenGroup.finish (g : OpenGroup) : Expr := g.close (.ofBranches g.endBranch.branches.reverse)

/-- A class that is still open: the operation that waits for its right side, with its left side,
and the items since, the latest first. -/
structure OpenClass where
  negated : Bool
  waiting : Option (ClassExpr × SetOp) := none
  items : List ClassExpr := []

/-- All that has been read of the class. Operations are equally strong and group to the left. -/
def OpenClass.body (c : OpenClass) : ClassExpr :=
  let last := ClassExpr.ofItems c.items.reverse
  match c.waiting with
  | some (left, op) => .operation op left last
  | none => last

structure Builder where
  group : OpenGroup := { close := id }
  around : List OpenGroup := []
  classes : List OpenClass := []
  captures : Nat := 0
  names : List String := []

namespace Builder

def put (b : Builder) (e : Expr) : Builder :=
  { b with group := { b.group with parts := e :: b.group.parts } }

def openGroup (b : Builder) (close : Expr → Expr) : Builder :=
  { b with group := { close }, around := b.group :: b.around }

def putItem (b : Builder) (c : OpenClass) (outer : List OpenClass) (e : ClassExpr) : Builder :=
  { b with classes := { c with items := e :: c.items } :: outer }

def stepInClass (b : Builder) (c : OpenClass) (outer : List OpenClass) : Sign → Option Builder
  | .literal l => some (b.putItem c outer (.literal l))
  | .classRange lo hi => some (b.putItem c outer (.range lo hi))
  | .namedClass k negated => some (b.putItem c outer (.named k negated))
  | .shorthand k negated => some (b.putItem c outer (.shorthand k negated))
  | .property q negated => some (b.putItem c outer (.property q negated))
  | .openClass negated => some { b with classes := { negated } :: c :: outer }
  | .classOperation op =>
    some { b with classes := { negated := c.negated, waiting := some (c.body, op) } :: outer }
  | .closeClass =>
    match outer with
    | [] => some ({ b with classes := [] }.put (.bracketed c.negated c.body))
    | d :: outer => some (b.putItem d outer (.bracketed c.negated c.body))
  | _ => none

/-- Takes in a sign outside classes. The names of captures are distinct, and a repetition needs
something to repeat. -/
def stepOutside (b : Builder) : Sign → Option Builder
  | .literal l => some (b.put (.literal l))
  | .dot => some (b.put .dot)
  | .anchor a => some (b.put (.anchor a))
  | .shorthand k negated => some (b.put (.shorthand k negated))
  | .property q negated => some (b.put (.property q negated))
  | .setSwitches ss => some (b.put (.switches ss))
  | .openGroup (.switches ss) => some (b.openGroup (.group ss))
  | .openGroup (.capture name) => do
    guard (name.all (· ∉ b.names))
    let b := b.openGroup (.capture (b.captures + 1))
    return { b with captures := b.captures + 1, names := name.toList ++ b.names }
  | .closeGroup =>
    match b.around with
    | [] => none
    | outer :: around => some ({ b with group := outer, around }.put b.group.finish)
  | .bar => some { b with group := b.group.endBranch }
  | .repetition min max greedy =>
    match b.group.parts with
    | [] => none
    | e :: parts =>
      if e.repeatable then
        some ({ b with group := { b.group with parts } }.put (.repetition min max greedy e))
      else none
  | .openClass negated => some { b with classes := [{ negated }] }
  | _ => none

def step (b : Builder) (s : Sign) : Option Builder :=
  match b.classes with
  | c :: outer => b.stepInClass c outer s
  | [] => b.stepOutside s

end Builder

def Expr.ofSigns? (ss : List Sign) : Option Expr := do
  let b ← ss.foldlM Builder.step {}
  guard (b.around.isEmpty && b.classes.isEmpty)
  return b.group.finish

def maxDepth : Nat := 250

def Expr.parse? (f : Flags) (cs : List Char) : Option Expr := do
  let e ← Expr.ofSigns? (← Sign.scan? f cs)
  guard (e.depth ≤ maxDepth)
  return e

end FrontEnd.Pattern
