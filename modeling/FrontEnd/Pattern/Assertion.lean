import FrontEnd.Unicode.Property

namespace FrontEnd.Pattern

/-- A place in a text, by the characters on its two sides; the text has none at its ends. -/
structure Place where
  before : Option Char
  after : Option Char
deriving DecidableEq, Repr

inductive WordKind where
  | unicode
  | ascii
deriving DecidableEq, Repr

inductive Assertion where
  | textStart
  | textEnd
  | lineStart
  | lineEnd
  /-- A carriage return ends a line too; one before a line feed belongs to it. -/
  | crlfLineStart
  | crlfLineEnd
  | wordBoundary (k : WordKind)
  | notWordBoundary (k : WordKind)
  | wordStart (k : WordKind)
  | wordEnd (k : WordKind)
  /-- No word character before. -/
  | wordStartHalf (k : WordKind)
  /-- No word character after. -/
  | wordEndHalf (k : WordKind)
deriving DecidableEq, Repr

def asciiWord : CharSet := ⟨[0x30, 0x3A, 0x41, 0x5B, 0x5F, 0x60, 0x61, 0x7B]⟩

def WordKind.chars : WordKind → CharSet
  | .unicode => Unicode.word
  | .ascii => asciiWord

def WordKind.holds (k : WordKind) (c : Option Char) : Bool := c.any k.chars.contains

def Assertion.holds (p : Place) : Assertion → Bool
  | textStart => p.before.isNone
  | textEnd => p.after.isNone
  | lineStart => p.before.all (· == '\n')
  | lineEnd => p.after.all (· == '\n')
  | crlfLineStart =>
    match p.before with
    | none => true
    | some c => c == '\n' || (c == '\r' && p.after != some '\n')
  | crlfLineEnd =>
    match p.after with
    | none => true
    | some c => c == '\r' || (c == '\n' && p.before != some '\r')
  | wordBoundary k => k.holds p.before != k.holds p.after
  | notWordBoundary k => k.holds p.before == k.holds p.after
  | wordStart k => !k.holds p.before && k.holds p.after
  | wordEnd k => k.holds p.before && !k.holds p.after
  | wordStartHalf k => !k.holds p.before
  | wordEndHalf k => !k.holds p.after

end FrontEnd.Pattern
