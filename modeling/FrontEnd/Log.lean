namespace FrontEnd.Log

inductive Level where
  | warn
  | debug
  | trace
deriving DecidableEq, Repr

structure Record where
  level : Level
  text : String
deriving DecidableEq, Repr

end FrontEnd.Log
