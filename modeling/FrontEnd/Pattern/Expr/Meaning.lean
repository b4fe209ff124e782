import FrontEnd.Pattern.Expr
import FrontEnd.Pattern.Regex

namespace FrontEnd.Pattern

def Anchor.resolve (f : Flags) : Anchor → Assertion
  | .caret =>
    if ¬f.multiLine then .textStart else if f.crlf then .crlfLineStart else .lineStart
  | .dollar => if ¬f.multiLine then .textEnd else if f.crlf then .crlfLineEnd else .lineEnd
  | .textStart => .textStart
  | .textEnd => .textEnd
  | .wordBoundary => .wordBoundary words
  | .notWordBoundary => .notWordBoundary words
  | .wordStart => .wordStart words
  | .wordEnd => .wordEnd words
  | .wordStartHalf => .wordStartHalf words
  | .wordEndHalf => .wordEndHalf words
where
  words : WordKind := if f.unicode then .unicode else .ascii

/-- What a dot matches: any character, but as a rule no line end. It needs Unicode. -/
def dotChars? (f : Flags) : Option CharSet :=
  if ¬f.unicode then none
  else if f.dotMatchesNewLine then some .all
  else if f.crlf then some (.diff .all (.ofList ['\n', '\r']))
  else some (.diff .all (.singleton '\n'))

mutual

/-- The meaning of a tree under flags, and the flags after it: switches hold for the rest of the
group, across its bars. -/
def Expr.toRegex? (f : Flags) : Expr → Option (Regex × Flags)
  | .switches ss => some (.empty, f.setAll ss)
  | .literal l => do return (.ofChars (foldCase f (.singleton (← l.resolve? f))), f)
  | .dot => do return (.ofChars (← dotChars? f), f)
  | .anchor a => some (.assertion (a.resolve f), f)
  | .shorthand k negated => do return (.ofChars (← k.resolve? f negated), f)
  | .property q negated => do return (.ofChars (← resolveProperty? f q negated), f)
  | .bracketed negated body => do
    return (.ofChars (← (ClassExpr.bracketed negated body).resolve? f), f)
  | .repetition min max greedy body => do
    let (r, f) ← body.toRegex? f
    return (.repeated min max (greedy != f.swapGreed) r, f)
  | .capture index body => do
    let (r, _) ← body.toRegex? f
    return (.capture index r, f)
  | .group ss body => do
    let (r, _) ← body.toRegex? (f.setAll ss)
    return (r, f)
  | .concat es => do
    let (rs, f) ← Expr.toRegexes? f es
    return (.sequence rs, f)
  | .choice es => do
    let (rs, f) ← Expr.toRegexes? f es
    return (.alternatives rs, f)

def Expr.toRegexes? (f : Flags) : List Expr → Option (List Regex × Flags)
  | [] => some ([], f)
  | e :: es => do
    let (r, f) ← e.toRegex? f
    let (rs, f) ← Expr.toRegexes? f es
    return (r :: rs, f)

end

def Regex.parse? (f : Flags) (cs : List Char) : Option Regex := do
  let (r, _) ← (← Expr.parse? f cs).toRegex? f
  return r

end FrontEnd.Pattern
