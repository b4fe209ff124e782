import FrontEnd.Grammar.Basic
import FrontEnd.Log

namespace FrontEnd.Grammar

variable {α β : Type}

inductive Event where
  | productionAdded (number : Nat) (production : String) (precedence : Precedence)
  | startSet (name : String)
  | unusedTerminal (name : String)
  | unusedNonterminal (name : String)
  | undefinedNonterminal (name : String)
  | firstSettled (passes : Nat)
  | followSettled (passes : Nat)
deriving DecidableEq, Repr

def Event.record : Event → Log.Record
  | .productionAdded n production precedence =>
    ⟨.debug, "production #" ++ toString n ++ ": " ++ production ++ " " ++ toString precedence⟩
  | .startSet name => ⟨.debug, "start symbol: " ++ name⟩
  | .unusedTerminal name => ⟨.warn, "token " ++ Text.quote name ++ " is unused"⟩
  | .unusedNonterminal name => ⟨.warn, "production " ++ Text.quote name ++ " is unused"⟩
  | .undefinedNonterminal name =>
    ⟨.warn, "symbol " ++ Text.quote name ++ " is used but never defined"⟩
  | .firstSettled passes =>
    ⟨.debug, "FIRST sets converged after " ++ toString passes ++ " passes"⟩
  | .followSettled passes =>
    ⟨.debug, "FOLLOW sets converged after " ++ toString passes ++ " passes"⟩

structure Logged (α : Type) where
  grammar : Grammar α
  events : List Event := []

/-- What is done to a grammar, step by step. An error ends it, and undoes nothing of what has been
changed and logged by then. -/
abbrev Update (α β : Type) := EStateM BuildError (Logged α) β

namespace Update

def current : Update α (Grammar α) := return (← get).grammar

def change (f : Grammar α → Grammar α) : Update α Unit :=
  modify fun s => { s with grammar := f s.grammar }

def log (e : Event) : Update α Unit := modify fun s => { s with events := s.events ++ [e] }

section Run

variable (s : Logged α)

@[simp] theorem run_current : current.run s = .ok s.grammar s := rfl

@[simp] theorem run_change (f : Grammar α → Grammar α) :
    (change f).run s = .ok () { s with grammar := f s.grammar } := rfl

@[simp] theorem run_log (e : Event) :
    (log e).run s = .ok () { s with events := s.events ++ [e] } := rfl

@[simp] theorem run_throw (e : BuildError) : (throw e : Update α β).run s = .error e s := rfl

@[simp] theorem run_ofExcept_ok (b : β) : (ofExcept (.ok b) : Update α β).run s = .ok b s := rfl

@[simp] theorem run_ofExcept_error (e : BuildError) :
    (ofExcept (.error e) : Update α β).run s = .error e s := rfl

end Run

theorem run_forM_change {γ : Type} (s : Logged α) (xs : List γ) (f : γ → Grammar α → Grammar α) :
    (xs.forM fun x => change (f x)).run s =
      .ok () { s with grammar := xs.foldl (fun g x => f x g) s.grammar } := by
  induction xs generalizing s with
  | nil => rfl
  | cons x xs ih => exact ih { s with grammar := f x s.grammar }

theorem run_forM_log (s : Logged α) (es : List Event) :
    (es.forM log).run s = .ok () { s with events := s.events ++ es } := by
  induction es generalizing s with
  | nil =>
    show EStateM.Result.ok () s = _
    rw [List.append_nil]
  | cons e es ih =>
    show (es.forM log).run { s with events := s.events ++ [e] } = _
    rw [ih, List.append_assoc, List.singleton_append]

end Update
end FrontEnd.Grammar
