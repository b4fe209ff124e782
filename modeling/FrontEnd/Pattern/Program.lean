import FrontEnd.Pattern.Regex

namespace FrontEnd.Pattern

inductive State where
  /-- Takes one character of the set. -/
  | chars (set : CharSet) (next : Nat)
  | assertion (a : Assertion) (next : Nat)
  /-- Goes on in each of the states, the preferred one first. -/
  | fork (nexts : List Nat)
  | accept

structure Program where
  states : Array State
  start : Nat

/-- A table of states and the state in which what was compiled last begins. -/
structure Fragment where
  start : Nat
  states : Array State

namespace Fragment

def add (f : Fragment) (s : State) : Fragment := ⟨f.states.size, f.states.push s⟩

def forkState (greedy : Bool) (first second : Nat) : State :=
  .fork (if greedy then [first, second] else [second, first])

def loop (greedy : Bool) (body : Fragment → Fragment) (f : Fragment) : Fragment :=
  let back := f.states.size
  -- the fork comes first in the table, but can only be written when the body's beginning is known
  let b := body ⟨back, f.states.push (.fork [])⟩
  ⟨b.start, b.states.setIfInBounds back (forkState greedy b.start f.start)⟩

/-- Not at all or once. What goes on behind is given apart from the state that ends the body. -/
def optional (greedy : Bool) (next : Nat) (body : Fragment → Fragment) (f : Fragment) : Fragment :=
  let b := body f
  b.add (forkState greedy b.start next)

/-- Any number of times. If the body can be empty the loop is entered through a fork of its own:
the way past the loop is then less preferred than the ways through its body. -/
def star (greedy consumes : Bool) (body : Fragment → Fragment) (f : Fragment) : Fragment :=
  let l := loop greedy body f
  if consumes then ⟨f.states.size, l.states⟩ else l.add (forkState greedy l.start f.start)

def times (n : Nat) (body : Fragment → Fragment) (f : Fragment) : Fragment := n.repeat body f

def upTo (greedy : Bool) (n : Nat) (body : Fragment → Fragment) (f : Fragment) : Fragment :=
  n.repeat (optional greedy f.start body) f

def repetition (min : Nat) (max : Option Nat) (greedy consumes : Bool)
    (body : Fragment → Fragment) (f : Fragment) : Fragment :=
  match max with
  | some max => times min body (upTo greedy (max - min) body f)
  | none =>
    if min = 0 then star greedy consumes body f else times (min - 1) body (loop greedy body f)

def literal (text : List Char) (f : Fragment) : Fragment :=
  text.foldr (fun c f => f.add (.chars (.singleton c) f.start)) f

end Fragment

mutual

def Regex.compile (f : Fragment) : Regex → Fragment
  | .empty => f
  | .literal text => f.literal text
  | .chars s => f.add (.chars s f.start)
  | .assertion a => f.add (.assertion a f.start)
  | .repetition min max greedy body =>
    f.repetition min max greedy body.consumes fun f => body.compile f
  | .capture _ body => body.compile f
  | .concat rs => Regex.compileAll f rs
  | .choice rs =>
    let (starts, states) := Regex.compileEach f.start f.states rs
    Fragment.add ⟨0, states⟩ (.fork starts)

def Regex.compileAll (f : Fragment) : List Regex → Fragment
  | [] => f
  | r :: rs => r.compile (Regex.compileAll f rs)

/-- Side by side, all going on in the same state; returns where each begins. -/
def Regex.compileEach (next : Nat) (states : Array State) :
    List Regex → List Nat × Array State
  | [] => ([], states)
  | r :: rs =>
    let b := r.compile ⟨next, states⟩
    let (starts, states) := Regex.compileEach next b.states rs
    (b.start :: starts, states)

end

def Program.ofRegex (r : Regex) : Program :=
  let f := r.compile ⟨0, #[.accept]⟩
  ⟨f.states, f.start⟩

namespace Program

/-- The states that wait for a character, in order of preference, and whether the text up to here
is a match that is less preferred than any through them. -/
structure Frontier where
  waiting : List Nat
  accepted : Bool
  /-- For each state the turn of the search in which it was followed last. -/
  seen : Array Nat

/-- Follows forks and assertions from the states on the stack, the top one first. In one turn a
state is followed once only. The states found waiting so far are held in reverse. Each step takes
a state off the stack, and one not seen before puts on as many as it names. -/
def close (p : Program) (turn : Nat) (place : Place) :
    Nat → (stack : List Nat) → (seen : Array Nat) → (waiting : List Nat) → Frontier
  | 0, _, seen, waiting => ⟨waiting.reverse, false, seen⟩
  | _ + 1, [], seen, waiting => ⟨waiting.reverse, false, seen⟩
  | steps + 1, i :: stack, seen, waiting =>
    if seen.getD i turn = turn then close p turn place steps stack seen waiting
    else
      let seen := seen.setIfInBounds i turn
      match p.states[i]? with
      | none => close p turn place steps stack seen waiting
      | some .accept => ⟨waiting.reverse, true, seen⟩
      | some (.chars _ _) => close p turn place steps stack seen (i :: waiting)
      | some (.assertion a next) =>
        close p turn place steps (if a.holds place then next :: stack else stack) seen waiting
      | some (.fork nexts) => close p turn place steps (nexts ++ stack) seen waiting

def width : State → Nat
  | .assertion _ _ => 1
  | .fork nexts => nexts.length
  | .chars _ _ | .accept => 0

/-- The number of ways between states; with the stack it bounds the steps of `close`. -/
def ways (p : Program) : Nat := p.states.foldl (fun n s => n + width s) 0

def step? (p : Program) (c : Char) (i : Nat) : Option Nat :=
  match p.states[i]? with
  | some (.chars s next) => if s.contains c then some next else none
  | _ => none

/-- The length of the preferred match at the head of a text, begun in the states of a stack. -/
def search (p : Program) (ways : Nat) (turn : Nat) (stack : List Nat) (seen : Array Nat)
    (before : Option Char) : List Char → Option Nat
  | [] =>
    let f := p.close turn ⟨before, none⟩ (stack.length + ways + 1) stack seen []
    if f.accepted then some 0 else none
  | c :: cs =>
    let ⟨waiting, accepted, seen⟩ :=
      p.close turn ⟨before, some c⟩ (stack.length + ways + 1) stack seen []
    -- what was behind the accepting state was not followed, so all that wait are preferred to it
    let longer := match waiting.filterMap (p.step? c) with
      | [] => none
      | nexts => search p ways (turn + 1) nexts seen (some c) cs
    match longer with
    | some n => some (n + 1)
    | none => if accepted then some 0 else none

theorem search_le_length (p : Program) (ways turn : Nat) (stack : List Nat) (seen : Array Nat)
    (before : Option Char) (text : List Char) {n : Nat}
    (h : p.search ways turn stack seen before text = some n) : n ≤ text.length := by
  induction text generalizing turn stack seen before n with
  | nil =>
    simp only [search, Option.ite_none_right_eq_some, Option.some.injEq] at h
    omega
  | cons c cs ih =>
    simp only [search] at h
    split at h
    · rename_i m hm
      split at hm
      · contradiction
      · have hle := ih _ _ _ _ hm
        simp only [Option.some.injEq] at h
        simp only [List.length_cons]
        omega
    · simp only [Option.ite_none_right_eq_some, Option.some.injEq] at h
      omega

def matchLength? (p : Program) (before : Option Char) (text : List Char) : Option Nat :=
  p.search p.ways 1 [p.start] (.replicate p.states.size 0) before text

theorem matchLength?_le_length {p : Program} {before : Option Char} {text : List Char} {n : Nat}
    (h : p.matchLength? before text = some n) : n ≤ text.length :=
  p.search_le_length _ _ _ _ _ _ h

end Program
end FrontEnd.Pattern
