import FrontEnd.Unicode.CategoryTable
import FrontEnd.Unicode.PropertyTable

namespace FrontEnd.Unicode

open CategoryTable PropertyTable

def casedLetter : CharSet := .unions [uppercaseLetter, lowercaseLetter, titlecaseLetter]

def letter : CharSet := .unions [casedLetter, modifierLetter, otherLetter]

def mark : CharSet := .unions [nonspacingMark, spacingMark, enclosingMark]

def number : CharSet := .unions [decimalNumber, letterNumber, otherNumber]

def punctuation : CharSet :=
  .unions [connectorPunctuation, dashPunctuation, openPunctuation, closePunctuation,
    initialPunctuation, finalPunctuation, otherPunctuation]

def symbol : CharSet := .unions [mathSymbol, currencySymbol, modifierSymbol, otherSymbol]

def separator : CharSet := .unions [spaceSeparator, lineSeparator, paragraphSeparator]

def assigned : CharSet :=
  .unions [letter, mark, number, punctuation, symbol, separator, control, format, privateUse]

def unassigned : CharSet := assigned.compl

def other : CharSet := .unions [control, format, privateUse, unassigned]

/-- The characters of words: letters, marks, decimal digits, connectors and joiners. -/
def word : CharSet := .unions [alphabetic, mark, decimalNumber, connectorPunctuation, joinControl]

def alphanumeric : CharSet := alphabetic.union number

def unprintable : CharSet :=
  (CharSet.unions [other, separator, graphemeExtend]).diff (.singleton ' ')

/-- The form in which names are compared. Of a name that is left with "c" after a leading "is",
the whole is kept: it names no category. -/
def looseName (name : String) : String :=
  let tidy (cs : List Char) : List Char :=
    (cs.filter fun c => c.val < 0x80 && c != ' ' && c != '_' && c != '-').map Char.toLower
  match name.toList with
  | i :: s :: rest =>
    if i.toLower = 'i' ∧ s.toLower = 's' then
      if tidy rest = ['c'] then "isc" else .ofList (tidy rest)
    else .ofList (tidy (i :: s :: rest))
  | cs => .ofList (tidy cs)

/-- The general categories of Unicode 16 with their names, in loose form. -/
def categories : List (List String × CharSet) := [
  (["any"], .all), (["assigned"], assigned), (["ascii"], .ascii),
  (["l", "letter"], letter), (["lc", "casedletter"], casedLetter),
  (["lu", "uppercaseletter"], uppercaseLetter), (["ll", "lowercaseletter"], lowercaseLetter),
  (["lt", "titlecaseletter"], titlecaseLetter), (["lm", "modifierletter"], modifierLetter),
  (["lo", "otherletter"], otherLetter),
  (["m", "mark", "combiningmark"], mark), (["mn", "nonspacingmark"], nonspacingMark),
  (["mc", "spacingmark"], spacingMark), (["me", "enclosingmark"], enclosingMark),
  (["n", "number"], number), (["nd", "decimalnumber", "digit"], decimalNumber),
  (["nl", "letternumber"], letterNumber), (["no", "othernumber"], otherNumber),
  (["p", "punctuation", "punct"], punctuation),
  (["pc", "connectorpunctuation"], connectorPunctuation),
  (["pd", "dashpunctuation"], dashPunctuation), (["ps", "openpunctuation"], openPunctuation),
  (["pe", "closepunctuation"], closePunctuation),
  (["pi", "initialpunctuation"], initialPunctuation),
  (["pf", "finalpunctuation"], finalPunctuation), (["po", "otherpunctuation"], otherPunctuation),
  (["s", "symbol"], symbol), (["sm", "mathsymbol"], mathSymbol),
  (["sc", "currencysymbol"], currencySymbol), (["sk", "modifiersymbol"], modifierSymbol),
  (["so", "othersymbol"], otherSymbol),
  (["z", "separator"], separator), (["zs", "spaceseparator"], spaceSeparator),
  (["zl", "lineseparator"], lineSeparator), (["zp", "paragraphseparator"], paragraphSeparator),
  (["c", "other"], other), (["cc", "control", "cntrl"], control), (["cf", "format"], format),
  (["co", "privateuse"], privateUse), (["cn", "unassigned"], unassigned)]

def scripts : List (List String × CharSet) := [
  (["greek", "grek"], greek), (["cyrillic", "cyrl"], cyrillic)]

def binaryProperties : List (List String × CharSet) := [
  (["alphabetic", "alpha"], alphabetic), (["lowercase", "lower"], lowercase),
  (["uppercase", "upper"], uppercase), (["whitespace", "wspace", "space"], whiteSpace),
  (["joincontrol", "joinc"], joinControl), (["graphemeextend", "grext"], graphemeExtend)]

def lookup? (table : List (List String × CharSet)) (name : String) : Option CharSet :=
  (table.find? fun row => row.1.contains name).map Prod.snd

inductive Query where
  | named (name : String)
  | valued (property value : String)
deriving DecidableEq, Repr

def Query.resolve? : Query → Option CharSet
  | .named name => lookup? (binaryProperties ++ categories ++ scripts) (looseName name)
  | .valued property value =>
    match looseName property with
    | "gc" | "generalcategory" => lookup? categories (looseName value)
    | "sc" | "script" => lookup? scripts (looseName value)
    | _ => none

end FrontEnd.Unicode
