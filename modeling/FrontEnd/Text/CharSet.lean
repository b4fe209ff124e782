namespace FrontEnd

/-- A set of characters, by the code points at which membership changes, in ascending order: the
ten digits are `[0x30, 0x3A]`. -/
structure CharSet where
  edges : List Nat
deriving DecidableEq, Repr

namespace CharSet

def inside : List Nat → Nat → Bool
  | [], _ => false
  | e :: es, n => if n < e then false else !inside es n

def contains (s : CharSet) (c : Char) : Bool := inside s.edges c.toNat

def empty : CharSet := ⟨[]⟩

def range (lo hi : Char) : CharSet := ⟨[lo.toNat, hi.toNat + 1]⟩

def singleton (c : Char) : CharSet := range c c

/-- The edges of the points where `op` holds of membership in both lists. The flags say whether
the points reached so far lie inside; an edge is kept when it changes the verdict. -/
def merge (op : Bool → Bool → Bool) (inA inB : Bool) : List Nat → List Nat → List Nat
  | [], [] => []
  | a :: as, [] => keep a (!inA) inB (merge op (!inA) inB as [])
  | [], b :: bs => keep b inA (!inB) (merge op inA (!inB) [] bs)
  | a :: as, b :: bs =>
    if a < b then keep a (!inA) inB (merge op (!inA) inB as (b :: bs))
    else if b < a then keep b inA (!inB) (merge op inA (!inB) (a :: as) bs)
    else keep a (!inA) (!inB) (merge op (!inA) (!inB) as bs)
termination_by as bs => as.length + bs.length
where
  keep (e : Nat) (nowA nowB : Bool) (rest : List Nat) : List Nat :=
    if op nowA nowB = op inA inB then rest else e :: rest

/-- The characters for which `op` holds of membership in `s` and in `t`; `op` is to be false of
two characters that are in neither. -/
def combine (op : Bool → Bool → Bool) (s t : CharSet) : CharSet :=
  ⟨merge op false false s.edges t.edges⟩

def union (s t : CharSet) : CharSet := combine or s t

def inter (s t : CharSet) : CharSet := combine and s t

def diff (s t : CharSet) : CharSet := combine (fun a b => a && !b) s t

def symmDiff (s t : CharSet) : CharSet := combine xor s t

def all : CharSet := ⟨[0, 0xD800, 0xE000, 0x110000]⟩

def compl (s : CharSet) : CharSet := diff all s

def unions (ss : List CharSet) : CharSet := ss.foldr union empty

def consPoint (n : Nat) : List Nat → List Nat
  | e :: es => if e = n then e :: es else if e = n + 1 then n :: es else n :: (n + 1) :: e :: es
  | [] => [n, n + 1]

def ofList (cs : List Char) : CharSet :=
  ⟨((cs.map Char.toNat).mergeSort (· ≤ ·)).foldr consPoint []⟩

def ascii : CharSet := ⟨[0, 0x80]⟩

def ranges (s : CharSet) : List (Nat × Nat) := pairs s.edges
where
  pairs : List Nat → List (Nat × Nat)
    | a :: b :: es => (a, b - 1) :: pairs es
    | _ => []

def isEmpty (s : CharSet) : Bool := s.edges.isEmpty

def isAscii (s : CharSet) : Bool := (s.diff ascii).isEmpty

def only? (s : CharSet) : Option Char :=
  match s.edges with
  | [a, b] => if b = a + 1 then some (Char.ofNat a) else none
  | _ => none

def hexDigit (c : Char) : Nat :=
  if c.isDigit then c.toNat - '0'.toNat else c.toUpper.toNat - 'A'.toNat + 10

def hexNumber (digits : String) : Nat := digits.toList.foldl (fun n c => 16 * n + hexDigit c) 0

/-- The edges of one run, a code point or two joined by a hyphen. -/
def runEdges (run : String) : List Nat :=
  match run.splitOn "-" with
  | [a] => [hexNumber a, hexNumber a + 1]
  | [a, b] => [hexNumber a, hexNumber b + 1]
  | _ => []

def ofTable (rows : List String) : CharSet :=
  ⟨rows.flatMap fun row => (row.splitOn " ").flatMap runEdges⟩

end CharSet
end FrontEnd
