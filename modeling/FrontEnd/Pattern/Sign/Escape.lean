import FrontEnd.Pattern.Sign.Number

namespace FrontEnd.Pattern

def after? (start : String) (cs : List Char) : Option (List Char) :=
  if start.toList.isPrefixOf cs then some (cs.drop start.length) else none

def splitAt? (mark : String) : List Char → Option (List Char × List Char)
  | [] => none
  | c :: cs =>
    match after? mark (c :: cs) with
    | some rest => some ([], rest)
    | none => (splitAt? mark cs).map fun (before, rest) => (c :: before, rest)

/-- What the text between the braces of a property asks for. Any of three signs may part a
property from its value; none of them makes a difference to what is asked for. -/
def queryOf (cs : List Char) : Unicode.Query :=
  match ["!=", ":", "="].findSome? (splitAt? · cs) with
  | some (property, value) => .valued (.ofList property) (.ofList value)
  | none => .named (.ofList cs)

def readProperty? (x negated : Bool) (cs : List Char) : Option (Sign × List Char) :=
  match skip x cs with
  | '\x7b' :: cs =>
    match takeSpaced x (· != '\x7d') (skip x cs) with
    | (name, _ :: rest) => some (.property (queryOf name) negated, rest)
    | _ => none
  | c :: cs => if c = '\\' then none else some (.property (.named c.toString) negated, skip x cs)
  | [] => none

/-- A word boundary after `\b`. A brace after it names one side or one half of it, unless what
the brace holds begins like a count. -/
def readBoundary? (x : Bool) (cs : List Char) : Option (Sign × List Char) :=
  let isNameChar (c : Char) : Bool := c.isAlpha || c == '-'
  match cs with
  | '\x7b' :: inner =>
    match skip x inner with
    | [] => none
    | c :: inner =>
      if isNameChar c then
        let (name, rest) := takeSpaced x isNameChar (c :: inner)
        match rest with
        | '\x7d' :: rest =>
          match String.ofList name with
          | "start" => some (.anchor .wordStart, rest)
          | "end" => some (.anchor .wordEnd, rest)
          | "start-half" => some (.anchor .wordStartHalf, rest)
          | "end-half" => some (.anchor .wordEndHalf, rest)
          | _ => none
        | _ => none
      else some (.anchor .wordBoundary, cs)
  | _ => some (.anchor .wordBoundary, cs)

/-- What follows a backslash. An ascii character that is no letter, no digit and no angle stands
for itself. -/
def readEscape? (x : Bool) : List Char → Option (Sign × List Char)
  | [] => none
  | c :: cs =>
    let code (width : Nat) : Option (Sign × List Char) :=
      (readHex? x width cs).map fun (l, rest) => (.literal l, rest)
    let char (c : Char) : Option (Sign × List Char) := some (.literal ⟨c, false⟩, cs)
    match c with
    | 'x' => code 2
    | 'u' => code 4
    | 'U' => code 8
    | 'p' => readProperty? x false cs
    | 'P' => readProperty? x true cs
    | 'd' => some (.shorthand .digit false, cs)
    | 'D' => some (.shorthand .digit true, cs)
    | 's' => some (.shorthand .space false, cs)
    | 'S' => some (.shorthand .space true, cs)
    | 'w' => some (.shorthand .word false, cs)
    | 'W' => some (.shorthand .word true, cs)
    | 'a' => char '\x07'
    | 'f' => char '\x0c'
    | 't' => char '\t'
    | 'n' => char '\n'
    | 'r' => char '\r'
    | 'v' => char '\x0b'
    | 'A' => some (.anchor .textStart, cs)
    | 'z' => some (.anchor .textEnd, cs)
    | 'b' => readBoundary? x cs
    | 'B' => some (.anchor .notWordBoundary, cs)
    | '<' => some (.anchor .wordStart, cs)
    | '>' => some (.anchor .wordEnd, cs)
    | c => if c.val < 0x80 ∧ ¬c.isAlphanum then char c else none

end FrontEnd.Pattern
