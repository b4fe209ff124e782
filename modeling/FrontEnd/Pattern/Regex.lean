import FrontEnd.Pattern.Assertion

namespace FrontEnd.Pattern

inductive Regex where
  | empty
  | literal (text : List Char)
  | chars (set : CharSet)
  | assertion (a : Assertion)
  | repetition (min : Nat) (max : Option Nat) (greedy : Bool) (body : Regex)
  | capture (index : Nat) (body : Regex)
  | concat (parts : List Regex)
  | choice (branches : List Regex)
deriving BEq

namespace Regex

def ofChars (s : CharSet) : Regex :=
  match s.only? with
  | some c => .literal [c]
  | none => .chars s

def parts : Regex → List Regex
  | .empty => []
  | .concat rs => rs
  | r => [r]

/-- Puts a member in front of a sequence; two literals that meet become one. -/
def join : Regex → List Regex → List Regex
  | .literal a, .literal b :: rs => .literal (a ++ b) :: rs
  | r, rs => r :: rs

def ofParts : List Regex → Regex
  | [] => .empty
  | [r] => r
  | rs => .concat rs

def sequence (rs : List Regex) : Regex := ofParts ((rs.flatMap parts).foldr join [])

def branches : Regex → List Regex
  | .choice rs => rs
  | r => [r]

def letter? : Regex → Option Char
  | .literal [c] => some c
  | _ => none

def chars? : Regex → Option CharSet
  | .chars s => some s
  | _ => none

/-- The set that a choice between single characters, or between sets, amounts to. -/
def setOf? (rs : List Regex) : Option CharSet :=
  match rs.mapM letter? with
  | some cs => some (.ofList cs)
  | none => (rs.mapM chars?).map .unions

def choose (rs : List Regex) : Regex :=
  match rs.flatMap branches with
  | [r] => r
  | rs =>
    match setOf? rs with
    | some s => ofChars s
    | none => .choice rs

def commonPrefix : List Regex → List Regex → List Regex
  | a :: as, b :: bs => if a == b then a :: commonPrefix as bs else []
  | _, _ => []

def sequence? : Regex → Option (List Regex)
  | .concat rs => some rs
  | _ => none

def sharedPrefix (rs : List Regex) : List Regex :=
  match rs.mapM sequence? with
  | some (first :: more) => more.foldl commonPrefix first
  | _ => []

/-- The first branch that matches, where a beginning that the branches share is matched once: the
choice is then made behind each way to match it. -/
def alternatives (rs : List Regex) : Regex :=
  match choose rs with
  | .choice rs =>
    match sharedPrefix rs with
    | [] => .choice rs
    | shared =>
      let rest (r : Regex) : Regex := sequence (r.parts.drop shared.length)
      sequence (shared ++ [choose (rs.map rest)])
  | r => r

mutual

def onlyEmpty : Regex → Bool
  | .empty | .assertion _ => true
  | .literal _ | .chars _ => false
  | .repetition _ _ _ body | .capture _ body => body.onlyEmpty
  | .concat rs | .choice rs => allOnlyEmpty rs

def allOnlyEmpty : List Regex → Bool
  | [] => true
  | r :: rs => r.onlyEmpty && allOnlyEmpty rs

end

/-- What matches only the empty text is repeated once at most. -/
def repeated (min : Nat) (max : Option Nat) (greedy : Bool) (body : Regex) : Regex :=
  let (min, max) :=
    if body.onlyEmpty then (Nat.min min 1, some (Nat.min (max.getD 1) 1)) else (min, max)
  match min, max with
  | 0, some 0 => .empty
  | 1, some 1 => body
  | min, max => .repetition min max greedy body

mutual

/-- The least length of a match; `none` where a set without characters is in the way. -/
def minLength? : Regex → Option Nat
  | .empty | .assertion _ => some 0
  | .literal text => some text.length
  | .chars s => if s.isEmpty then none else some 1
  | .repetition min _ _ body => body.minLength?.map (min * ·)
  | .capture _ body => body.minLength?
  | .concat rs => sumMinLength? rs
  | .choice rs => leastMinLength? rs

def sumMinLength? : List Regex → Option Nat
  | [] => some 0
  | r :: rs => do return (← r.minLength?) + (← sumMinLength? rs)

def leastMinLength? : List Regex → Option Nat
  | [] => none
  | [r] => r.minLength?
  | r :: rs => do return Nat.min (← r.minLength?) (← leastMinLength? rs)

end

def consumes (r : Regex) : Bool := r.minLength?.any (0 < ·)

end Regex

end FrontEnd.Pattern
