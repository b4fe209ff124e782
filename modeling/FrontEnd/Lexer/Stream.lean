import FrontEnd.Lexer.Basic
import FrontEnd.Token

namespace FrontEnd.Lexer

structure Stats where
  /-- Tokens made. -/
  tokens : Nat := 0
  /-- Stretches passed over. -/
  ignored : Nat := 0
  /-- Rules tried, of both kinds. -/
  attempts : Nat := 0
deriving DecidableEq, Repr

structure Stream where
  lexer : Lexer
  cursor : Cursor
  /-- The column of the token made last; one before the first. Errors are given this column. -/
  column : Nat := 1
  stats : Stats := {}

def lex (l : Lexer) (input : String) : Stream := { lexer := l, cursor := .ofInput input }

inductive Outcome where
  | token (t : Token) (l : Lexeme)
  /-- Nothing is left of the input. -/
  | finished
  | failed (e : LexingError)

/-- One pull: what it passed over, what it came to, and the stream after it. -/
structure Pull where
  skipped : List Lexeme
  outcome : Outcome
  stream : Stream

namespace Stream

def offset (s : Stream) : Nat := s.cursor.offset

/-- Passes over matches of the rules as long as there are any. An empty match would not advance,
so it is tried and left. Returns what was passed over, and the number of attempts. -/
def passOver (rules : List Rule) (k : Cursor) : List Lexeme × Cursor × Nat :=
  if hk : k.after = [] then ([], k, 0)
  else
    let t := Rule.tryInOrder (0 < ·) k rules
    match ht : t.hit with
    | none => ([], k, t.attempts)
    | some (_, n) =>
      have : (k.advance n).after.length < k.after.length :=
        k.length_after_advance_lt (by simpa using (Rule.of_tryInOrder_hit ht).2.2) hk
      let (more, last, others) := passOver rules (k.advance n)
      (k.lexeme n :: more, last, t.attempts + others)
termination_by k.after.length

/-- The next token, the end of the input, or an error where no rule matches. An error does not
move the stream beyond what was passed over, and is placed in the column of the last token. -/
def pull (s : Stream) : Pull :=
  let (skipped, k, attempts) := passOver s.lexer.ignored s.cursor
  let passed : Stats :=
    { s.stats with
      ignored := s.stats.ignored + skipped.length
      attempts := s.stats.attempts + attempts }
  if k.atEnd then ⟨skipped, .finished, { s with cursor := k, stats := passed }⟩
  else
    let trial := Rule.tryInOrder (fun _ => true) k s.lexer.rules
    let tried := { passed with attempts := passed.attempts + trial.attempts }
    match trial.hit with
    | some (r, n) =>
      let l := k.lexeme n
      ⟨skipped, .token ⟨r.name, l.text, some k.position⟩ l,
        { s with
          cursor := k.advance n
          column := k.column
          stats := { tried with tokens := tried.tokens + 1 } }⟩
    | none =>
      ⟨skipped, .failed ⟨"", ⟨k.index, k.line, s.column⟩⟩, { s with cursor := k, stats := tried }⟩

def drain : Nat → Stream → List Pull
  | 0, _ => []
  | n + 1, s =>
    let p := s.pull
    match p.outcome with
    | .token _ _ => p :: drain n p.stream
    | _ => [p]

end Stream

def Pull.events (p : Pull) : List Event :=
  p.skipped.map .passedOver ++
    match p.outcome with
    | .token t l => t.position.toList.map (.matched t.kind l.text)
    | _ => []

end FrontEnd.Lexer
