import FrontEnd.Pattern.Sign.Escape

namespace FrontEnd.Pattern

/-- The hyphens at the beginning of a class, and if there is none a closing bracket, stand for
themselves. -/
def readClassStart? (x : Bool) (cs : List Char) : Option (List Sign × List Char) :=
  let (negated, cs) := match skip x cs with
    | '^' :: cs => (true, skip x cs)
    | cs => (false, cs)
  let literal (c : Char) : Sign := .literal ⟨c, false⟩
  match takeSpaced x (· == '-') cs with
  | ([], ']' :: rest) => some ([.openClass negated, literal ']'], skip x rest)
  | (hyphens, rest) => some (.openClass negated :: hyphens.map literal, rest)

def readNamedClass? : List Char → Option (Sign × List Char)
  | ':' :: cs => do
    let (negated, cs) := match cs with
      | '^' :: cs => (true, cs)
      | cs => (false, cs)
    let kind ← NamedClass.ofName? (.ofList (cs.takeWhile (· != ':')))
    let rest ← after? ":]" (cs.dropWhile (· != ':'))
    return (.namedClass kind negated, rest)
  | _ => none

def readClassAtom? (x : Bool) : List Char → Option (Sign × List Char)
  | [] => none
  | '\\' :: cs => readEscape? x cs
  | c :: cs => some (.literal ⟨c, false⟩, cs)

/-- The character that comes after a hyphen. Where blanks are ignored, blanks and one number sign
are passed over, if anything follows them. -/
def beyondHyphen (x : Bool) (cs : List Char) : Option Char :=
  if x then
    let beyond := match cs.dropWhile isBlank with
      | '#' :: cs => cs.dropWhile isBlank
      | cs => cs
    beyond.head?.or cs.head?
  else cs.head?

/-- A range, or what stands alone in a class; assertions cannot. A hyphen makes no range before a
closing bracket and before another hyphen. -/
def readClassItem? (x : Bool) (cs : List Char) : Option (Sign × List Char) := do
  let (first, rest) ← readClassAtom? x cs
  let rest := skip x rest
  match rest with
  | '-' :: cs =>
    match beyondHyphen x cs with
    | some ']' | some '-' => alone first rest
    | _ =>
      let (second, rest) ← readClassAtom? x (skip x cs)
      match first, second with
      | .literal lo, .literal hi =>
        if lo.char ≤ hi.char then some (.classRange lo hi, rest) else none
      | _, _ => none
  | _ => alone first rest
where
  alone (s : Sign) (rest : List Char) : Option (Sign × List Char) :=
    match s with
    | .anchor _ => none
    | s => some (s, rest)

end FrontEnd.Pattern
