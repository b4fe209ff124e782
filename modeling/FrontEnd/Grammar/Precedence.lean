import FrontEnd.Error

namespace FrontEnd

inductive Assoc where
  | left
  | right
  | nonassoc
deriving DecidableEq, Repr

namespace Assoc

def all : List Assoc := [left, right, nonassoc]

def text : Assoc → String
  | left => "left"
  | right => "right"
  | nonassoc => "nonassoc"

instance : ToString Assoc := ⟨text⟩

def number (a : Assoc) : Nat := all.idxOf a

def ofText (s : String) : Except BuildError Assoc :=
  match all.find? (·.text = s) with
  | some a => .ok a
  | none => .error (.invalidAssociativity s)

theorem ofText_text (a : Assoc) : ofText a.text = .ok a := by cases a <;> rfl

theorem text_injective {a b : Assoc} (h : a.text = b.text) : a = b := by
  have hok := ofText_text a
  rw [h, ofText_text, Except.ok.injEq] at hok
  exact hok.symm

theorem ofText_of_not_mem {s : String} (h : s ∉ all.map text) :
    ofText s = .error (.invalidAssociativity s) := by
  have hnone : all.find? (fun a => a.text = s) = none := by
    rw [List.find?_eq_none]
    intro a ha
    simpa using fun hs => h (List.mem_map.2 ⟨a, ha, hs⟩)
  rw [ofText, hnone]

end Assoc

/-- Operators of a higher level bind tighter. -/
structure Precedence where
  assoc : Assoc
  level : Nat
deriving DecidableEq, Repr

namespace Precedence

instance : Inhabited Precedence := ⟨⟨.right, 0⟩⟩

instance : ToString Precedence :=
  ⟨fun p => "(" ++ toString p.assoc ++ ", " ++ toString p.level ++ ")"⟩

end Precedence
end FrontEnd
