namespace FrontEnd.Grammar

/-- Marks a sequence of symbols that can derive the empty sequence. -/
def emptyMark : String := "<empty>"

def endMark : String := "$end"

/-- The terminal for error recovery, which every grammar has. -/
def errorName : String := "error"

def augmentedName : String := "S'"

def dotMark : String := "."

end FrontEnd.Grammar
