namespace FrontEnd.Text

structure Sink where
  /-- The number of bytes that still fit. -/
  room : Nat
  written : List UInt8 := []
deriving DecidableEq, Repr

namespace Sink

/-- A sink is full when it is given more bytes than fit; it has then taken as many as do. -/
inductive Result where
  | done (s : Sink)
  | full (s : Sink)
deriving DecidableEq, Repr

def Result.sink : Result → Sink
  | done s | full s => s

def write (s : Sink) (bytes : List UInt8) : Result :=
  if bytes.length ≤ s.room then .done ⟨s.room - bytes.length, s.written ++ bytes⟩
  else .full ⟨0, s.written ++ bytes.take s.room⟩

def writeAll (s : Sink) : List String → Result
  | [] => .done s
  | text :: texts =>
    match s.write text.toUTF8.toList with
    | .done s => s.writeAll texts
    | .full s => .full s

/-- Writing to a sink, which ends with the first text that does not fit. -/
abbrev Writing := EStateM Unit Sink

def put (text : String) : Writing Unit := fun s =>
  match s.write text.toUTF8.toList with
  | .done s => .ok () s
  | .full s => .error () s

def Writing.result (w : Writing Unit) (s : Sink) : Result :=
  match w.run s with
  | .ok () s => .done s
  | .error () s => .full s

end Sink
end FrontEnd.Text
