import FrontEnd.Pattern.Blank
import FrontEnd.Pattern.Sign

namespace FrontEnd.Pattern

def isHexDigit (c : Char) : Bool :=
  c.isDigit || ('a' ≤ c && c ≤ 'f') || ('A' ≤ c && c ≤ 'F')

def charOfHex? (digits : List Char) : Option Char :=
  let n := CharSet.hexNumber (.ofList digits)
  if n.isValidChar then some (Char.ofNat n) else none

def takeHex? (x : Bool) : Nat → List Char → Option (List Char × List Char)
  | 0, cs => some ([], cs)
  | _ + 1, [] => none
  | n + 1, c :: cs => do
    guard (isHexDigit c)
    let (digits, rest) ← takeHex? x n (skip x cs)
    return (c :: digits, rest)

/-- The code after `\x`, `\u` or `\U`: some number of digits, or any number between braces. -/
def readHex? (x : Bool) (width : Nat) (cs : List Char) : Option (Literal × List Char) := do
  match skip x cs with
  | '\x7b' :: cs =>
    let (digits, rest) := takeSpaced x isHexDigit (skip x cs)
    match digits, rest with
    | _ :: _, '\x7d' :: rest => return (⟨← charOfHex? digits, false⟩, skip x rest)
    | _, _ => none
  | cs =>
    let (digits, rest) ← takeHex? x width cs
    return (⟨← charOfHex? digits, width == 2⟩, rest)

def maxCount : Nat := 4294967295

/-- A decimal number with blanks around it; `none` stands for no digits at all. -/
def readCount? (x : Bool) (cs : List Char) : Option (Option Nat × List Char) :=
  let (digits, rest) := takeSpaced x Char.isDigit (cs.dropWhile isBlank)
  let rest := (takeSpaced x isBlank rest).2
  let n := digits.foldl (fun n c => 10 * n + (c.toNat - '0'.toNat)) 0
  if digits.isEmpty then some (none, rest)
  else if n ≤ maxCount then some (some n, rest)
  else none

def readGreed : List Char → Bool × List Char
  | '?' :: cs => (false, cs)
  | cs => (true, cs)

/-- The greatest count of a repetition whose least count is `min`: the same, or one of its own
after a comma, or none if the comma ends the braces. -/
def readMaximum? (x : Bool) (min : Nat) : List Char → Option (Option Nat × List Char)
  | ',' :: cs =>
    match skip x cs with
    | '\x7d' :: rest => some (none, '\x7d' :: rest)
    | cs => do
      let (max, rest) ← readCount? x cs
      let max ← max
      guard (min ≤ max)
      return (some max, rest)
  | cs => some (some min, cs)

def readRepetition? (x : Bool) (cs : List Char) : Option (Sign × List Char) := do
  let (min, rest) ← readCount? x (skip x cs)
  let min ← min
  let (max, rest) ← readMaximum? x min rest
  match rest with
  | '\x7d' :: rest =>
    let (greedy, rest) := readGreed (skip x rest)
    return (.repetition min max greedy, rest)
  | _ => none

end FrontEnd.Pattern
