namespace FrontEnd

/-- The number of characters before a place, its line and its column; lines and columns count
from one. Places are ordered by index, then line, then column. -/
structure Position where
  index : Nat
  line : Nat
  column : Nat
deriving DecidableEq, Ord, Repr

namespace Position

instance : ToString Position := ⟨fun p => toString p.line ++ ":" ++ toString p.column⟩

end Position
end FrontEnd
