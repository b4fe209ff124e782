import FrontEnd.Text.Position
import FrontEnd.Text.Quoted

namespace FrontEnd

structure Token where
  kind : String
  text : String
  position : Option Position := none

namespace Token

/-- Tokens are compared by kind and text, wherever they stand. -/
instance : BEq Token := ⟨fun a b => a.kind == b.kind && a.text == b.text⟩

instance : Hashable Token := ⟨fun t => mixHash (hash t.kind) (hash t.text)⟩

instance : ToString Token := ⟨fun t => t.kind ++ "(" ++ Text.quote t.text ++ ")"⟩

/-- Tokens that compare equal have the same hash. -/
instance : LawfulHashable Token where
  hash_eq a b h := by
    have h' : a.kind = b.kind ∧ a.text = b.text := by simpa [BEq.beq] using h
    simp [hash, h'.1, h'.2]

end Token
end FrontEnd
