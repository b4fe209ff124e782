import FrontEnd.Pattern.Regex
import FrontEnd.Text.Offset

namespace FrontEnd.Pattern

abbrev ByteRange := Nat × Nat

/-- The numbers from `lo` to `hi`, written with `k` digits to base 64 behind a leading one, as
sequences of ranges of digits. -/
def digitRanges : (k lo hi : Nat) → List (List ByteRange)
  | 0, lo, hi => [[(lo, hi)]]
  | k + 1, lo, hi =>
    let m := Nat.pow 64 (k + 1)
    let lead (d : Nat) (lo hi : Nat) : List (List ByteRange) :=
      (digitRanges k lo hi).map ((d, d) :: ·)
    let first := lo / m
    let last := hi / m
    if first = last then lead first (lo % m) (hi % m)
    else
      -- an end that does not take all the lower digits is split off
      let (head, least) :=
        if lo % m = 0 then ([], first) else (lead first (lo % m) (m - 1), first + 1)
      let (tail, upTo) :=
        if hi % m = m - 1 then ([], last + 1) else (lead last 0 (hi % m), last)
      let middle :=
        if least < upTo then [(least, upTo - 1) :: List.replicate (k + 1) (0, 63)] else []
      head ++ middle ++ tail

/-- The code points of each length of encoding, with the number of bytes after the first and what
marks the first byte. Surrogates have no encoding. -/
def encodings : List (Nat × Nat × Nat × Nat) :=
  [(0, 0x0, 0x7F, 0), (1, 0x80, 0x7FF, 0xC0), (2, 0x800, 0xD7FF, 0xE0), (2, 0xE000, 0xFFFF, 0xE0),
    (3, 0x10000, 0x10FFFF, 0xF0)]

def byteSequences (s : CharSet) : List (List ByteRange) :=
  s.ranges.flatMap fun (lo, hi) => encodings.flatMap fun (k, least, greatest, mark) =>
    let lo := max lo least
    let hi := min hi greatest
    if lo ≤ hi then digitRanges k (lo + mark * Nat.pow 64 k) (hi + mark * Nat.pow 64 k) else []

def agreement : List ByteRange → List ByteRange → Nat
  | a :: as, b :: bs => if a = b then agreement as bs + 1 else 0
  | _, _ => 0

/-- The number of distinct non-empty beginnings of sequences in ascending order. -/
def beginnings (before : List ByteRange) : List (List ByteRange) → Nat
  | [] => 0
  | s :: ss => (s.length - agreement before s) + beginnings s ss

def stateSize : Nat := 32

def rangeSize : Nat := 8

def waySize : Nat := 4

def switchSize (n : Nat) : Nat := if n = 1 then stateSize else stateSize + rangeSize * n

def forkSize (ways : Nat) : Nat := stateSize + waySize * ways

/-- A set: one switch if it is ascii, else a chain of states for each encoding, in which encodings
with a common beginning share its states. -/
def charsSize (s : CharSet) : Nat :=
  if s.isAscii then 2 * stateSize + rangeSize * s.ranges.length
  else
    let sequences := byteSequences s
    forkSize sequences.length + stateSize + stateSize * beginnings [] sequences

/-- A choice between words, matched letter by letter: words with a common beginning share its
states. The end of a word parts the words before it from those after it. -/
def wordsSize : (longest : Nat) → List (List UInt8) → Nat
  | 0, _ => 0
  | longest + 1, words =>
    let chunks := words.splitBy fun _ w => !w.isEmpty
    let sizes := chunks.map fun chunk =>
      let firsts := (chunk.filterMap List.head?).eraseDups
      let inner := firsts.map fun b =>
        let rest := chunk.filterMap fun w => if w.head? = some b then some w.tail else none
        if rest.all List.isEmpty then 0 else wordsSize longest rest
      inner.sum + if firsts.isEmpty then 0 else waySize + switchSize firsts.length
    sizes.sum + stateSize + waySize * (words.filter List.isEmpty).length

def bytes (text : List Char) : List UInt8 := (String.ofList text).toUTF8.toList

def word? : Regex → Option (List UInt8)
  | .literal text => some (bytes text)
  | _ => none

def repetitionSize (min : Nat) (max : Option Nat) (consumes : Bool) (body : Nat) : Nat :=
  match min, max with
  | 0, some 1 => forkSize 2 + stateSize + body
  | 0, none => if consumes then forkSize 2 + body else 2 * forkSize 2 + stateSize + body
  | min, none => forkSize 2 + min * body
  | min, some max =>
    if min = max then min * body
    else (if min = 0 then stateSize else min * body) + stateSize
      + (max - min) * (forkSize 2 + body)

mutual

/-- The bytes that the table of a regular expression takes. -/
def Regex.size : Regex → Nat
  | .empty | .assertion _ => stateSize
  | .literal text => stateSize * Text.byteLength text
  | .chars s => charsSize s
  | .repetition min max _ body => repetitionSize min max body.consumes body.size
  | .capture _ body => 2 * stateSize + body.size
  | .concat rs => Regex.sizes rs
  | .choice rs =>
    match rs.mapM word? with
    | some words => stateSize + wordsSize (words.foldl (fun n w => max n w.length) 1) words
    | none => forkSize rs.length + stateSize + Regex.sizes rs

def Regex.sizes : List Regex → Nat
  | [] => 0
  | r :: rs => r.size + Regex.sizes rs

end

/-- The bytes for what every table has: the search for a beginning, the two ends of the match, and
the state that accepts. -/
def frameSize : Nat := (forkSize 2 + 2 * stateSize + rangeSize) + 2 * stateSize + stateSize

/-- The bytes that a pattern takes. -/
def footprint (r : Regex) : Nat := frameSize + r.size

def maxFootprint : Nat := 10 * 1024 * 1024

end FrontEnd.Pattern
