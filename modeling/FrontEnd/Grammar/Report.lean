import FrontEnd.Grammar.Basic
import FrontEnd.Text.Sink

namespace FrontEnd.Grammar

variable {α : Type}

inductive Report where
  | productions
  | sets
  | items
deriving DecidableEq, Repr

namespace Report

open Text.Sink (Writing put)

def writeProduction (p : Production α) : Writing Unit := do
  put ("P," ++ toString p.number ++ "," ++ toString p)
  if p.precedence ≠ default then
    put (" " ++ toString p.precedence)
  put "\n"

def writeProductions (g : Grammar α) : Writing Unit := do
  put ("PS," ++ toString g.productions.length ++ "\n\n")
  g.productions.forM writeProduction

/-- The line of a set; the mark of the empty sequence comes first and is spelled in words. -/
def writeSet (label name : String) (s : OrderedSet String) : Writing Unit := do
  put (label ++ "," ++ name ++ ",\x7b")
  if emptyMark ∈ s then
    put "`empty', "
  (s.toList.filter (· != emptyMark)).forM fun t => put (t ++ ", ")
  put "\x7d\n"

def writeTable (g : Grammar α) (label : String) (table : SymbolSets) : Writing Unit :=
  g.nonterminals.names.forM fun name => do
    let some set := table.get? name | return
    writeSet label name set

def writeSets (g : Grammar α) : Writing Unit :=
  [("FIRST", g.first), ("FOLLOW", g.follow)].forM fun (label, table) => writeTable g label table

def writeItem (i : Item) : Writing Unit :=
  put ("I," ++ toString i.number ++ "," ++ toString i.index ++ "," ++ toString i ++ "\n")

def writeItems (g : Grammar α) : Writing Unit :=
  g.productions.forM fun p => do
    p.items.forM writeItem
    put "\n"

def write (g : Grammar α) : Report → Writing Unit
  | productions => writeProductions g
  | sets => writeSets g
  | items => writeItems g

def writeWithin (r : Report) (g : Grammar α) (limit : Nat) : Text.Sink.Result :=
  (r.write g).result { room := limit }

def productionPieces (p : Production α) : List String :=
  ["P," ++ toString p.number ++ "," ++ toString p]
    ++ (if p.precedence = default then [] else [" " ++ toString p.precedence]) ++ ["\n"]

def setPieces (label name : String) (s : OrderedSet String) : List String :=
  [label ++ "," ++ name ++ ",\x7b"] ++ (if emptyMark ∈ s then ["`empty', "] else [])
    ++ (s.toList.filter (· != emptyMark)).map (· ++ ", ") ++ ["\x7d\n"]

def itemPiece (i : Item) : String :=
  "I," ++ toString i.number ++ "," ++ toString i.index ++ "," ++ toString i ++ "\n"

def tablePieces (g : Grammar α) (label : String) (table : SymbolSets) : List String :=
  g.nonterminals.names.flatMap fun n => ((table.get? n).map (setPieces label n)).getD []

/-- All that a report writes if there is room. -/
def pieces (g : Grammar α) : Report → List String
  | productions =>
    ("PS," ++ toString g.productions.length ++ "\n\n") :: g.productions.flatMap productionPieces
  | sets => tablePieces g "FIRST" g.first ++ tablePieces g "FOLLOW" g.follow
  | items => g.productions.flatMap fun p => p.items.map itemPiece ++ ["\n"]

def text (r : Report) (g : Grammar α) : String := String.join (r.pieces g)

end Report
end FrontEnd.Grammar
