import FrontEnd.Pattern.Sign.Bracket
import FrontEnd.Pattern.Sign.Group

namespace FrontEnd.Pattern

def readInClass? (x : Bool) : List Char → Option (List Sign × List Char)
  | '[' :: cs =>
    match readNamedClass? cs with
    | some (s, rest) => some ([s], rest)
    | none => readClassStart? x cs
  | ']' :: cs => some ([.closeClass], cs)
  | '&' :: '&' :: cs => some ([.classOperation .intersection], cs)
  | '-' :: '-' :: cs => some ([.classOperation .difference], cs)
  | '~' :: '~' :: cs => some ([.classOperation .symmetricDifference], cs)
  | cs => (readClassItem? x cs).map fun (s, rest) => ([s], rest)

def readOutside? (x : Bool) : List Char → Option (List Sign × List Char)
  | [] => none
  | c :: cs =>
    let one (r : Option (Sign × List Char)) : Option (List Sign × List Char) :=
      r.map fun (s, rest) => ([s], rest)
    let counted (min : Nat) (max : Option Nat) : Option (List Sign × List Char) :=
      let (greedy, rest) := readGreed cs
      some ([.repetition min max greedy], rest)
    match c with
    | '(' => one (readGroup? x cs)
    | ')' => some ([.closeGroup], cs)
    | '|' => some ([.bar], cs)
    | '[' => readClassStart? x cs
    | '?' => counted 0 (some 1)
    | '*' => counted 0 none
    | '+' => counted 1 none
    | '\x7b' => one (readRepetition? x cs)
    | '\\' => one (readEscape? x cs)
    | '.' => some ([.dot], cs)
    | '^' => some ([.anchor .caret], cs)
    | '$' => some ([.anchor .dollar], cs)
    | c => some ([.literal ⟨c, false⟩], cs)

/-- What the signs so far mean for those to come: whether blanks are ignored now and in the groups
around, the innermost first, and how many classes are open. -/
structure Mode where
  ignoring : Bool
  around : List Bool := []
  classes : Nat := 0

def switched (x : Bool) (ss : Switches) : Bool :=
  (Flags.setAll { ignoreWhitespace := x } ss).ignoreWhitespace

def Mode.after? (m : Mode) : Sign → Option Mode
  | .openGroup (.capture _) => some { m with around := m.ignoring :: m.around }
  | .openGroup (.switches ss) =>
    some { m with ignoring := switched m.ignoring ss, around := m.ignoring :: m.around }
  | .setSwitches ss => some { m with ignoring := switched m.ignoring ss }
  | .closeGroup =>
    match m.around with
    | x :: around => some { m with ignoring := x, around }
    | [] => none
  | .openClass _ => some { m with classes := m.classes + 1 }
  | .closeClass => some { m with classes := m.classes - 1 }
  | _ => some m

/-- Scans with as many steps as the first argument allows; a step takes at least a character. -/
def scanFrom? : Nat → Mode → List Char → Option (List Sign)
  | 0, _, _ => none
  | steps + 1, m, cs => do
    match skip m.ignoring cs with
    | [] => if m.around.isEmpty ∧ m.classes = 0 then some [] else none
    | cs =>
      let (signs, rest) ←
        if m.classes = 0 then readOutside? m.ignoring cs else readInClass? m.ignoring cs
      let m ← signs.foldlM Mode.after? m
      return signs ++ (← scanFrom? steps m rest)

def Sign.scan? (f : Flags) (cs : List Char) : Option (List Sign) :=
  scanFrom? (cs.length + 1) { ignoring := f.ignoreWhitespace } cs

end FrontEnd.Pattern
