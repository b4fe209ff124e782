import FrontEnd.Pattern.Blank
import FrontEnd.Pattern.Sign

namespace FrontEnd.Pattern

/-- Switches up to a colon or a closing parenthesis, which is returned on top of the rest. Each
switch stands once; a hyphen turns off those after it and cannot be the last. -/
def readSwitches? (on afterHyphen : Bool) (seen : List Flag) :
    List Char → Option (Switches × List Char)
  | [] => none
  | c :: cs =>
    if c = ':' ∨ c = ')' then if afterHyphen then none else some ([], c :: cs)
    else if c = '-' then
      if on then readSwitches? false true seen cs else none
    else do
      let flag ← Flag.ofLetter? c
      guard (flag ∉ seen)
      let (more, rest) ← readSwitches? on false (flag :: seen) cs
      return ((flag, on) :: more, rest)

def readName? (first : Bool) : List Char → Option (List Char × List Char)
  | [] => none
  | c :: cs =>
    if c = '>' then if first then none else some ([], cs)
    else do
      guard (if first then c == '_' || Unicode.PropertyTable.alphabetic.contains c
        else c == '_' || c == '.' || c == '[' || c == ']' || Unicode.alphanumeric.contains c)
      let (name, rest) ← readName? false cs
      return (c :: name, rest)

/-- What follows an opening parenthesis. Looking ahead or behind is refused, and so are switches
that switch nothing. -/
def readGroup? (x : Bool) (cs : List Char) : Option (Sign × List Char) :=
  let cs := skip x cs
  let named (cs : List Char) : Option (Sign × List Char) :=
    (readName? true cs).map fun (name, rest) => (.openGroup (.capture (some (.ofList name))), rest)
  match cs with
  | '?' :: '=' :: _ | '?' :: '!' :: _ | '?' :: '<' :: '=' :: _ | '?' :: '<' :: '!' :: _ => none
  | '?' :: 'P' :: '<' :: cs => named cs
  | '?' :: '<' :: cs => named cs
  | '?' :: cs =>
    match readSwitches? true false [] cs with
    | some (ss, ':' :: rest) => some (.openGroup (.switches ss), rest)
    | some (s :: ss, ')' :: rest) => some (.setSwitches (s :: ss), rest)
    | _ => none
  | cs => some (.openGroup (.capture none), cs)

end FrontEnd.Pattern
