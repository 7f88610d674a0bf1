import SourceReview.Pattern.Basic

/-!
# Matches of a pattern

`Pattern.runs` lists the ways in which a pattern matches at a place, the preferred one first. A
search takes the preferred match at the leftmost place that has one; a scan takes matches from left
to right so that none overlaps the one before it.
-/

namespace SourceReview

/-- A stretch of a line, from the position `start` up to but not including `stop`. Positions count
characters. -/
structure Span where
  start : Nat
  stop : Nat
  deriving DecidableEq, Repr

/-- The characters of `cs` in a span. -/
def Span.of (span : Span) (cs : List Char) : List Char :=
  (cs.drop span.start).take (span.stop - span.start)

namespace Pattern

/-- A way in which the beginning of a pattern has matched: where it has come to, the character
before that place, what is left of the line, and the parts remembered so far, the latest first. -/
structure Run where
  pos : Nat
  prev : Option Char
  rest : List Char
  parts : List (Part × Span)

/-- Whether the place of `r` lies between a word character and something else. -/
def Run.atBoundary (r : Run) : Bool := r.prev.any Text.isWord != r.rest.head?.any Text.isWord

/-- The ways of taking `step` any number of times from `r`, more before less, in front of `others`.
Only steps that move forward count, so there are at most as many as characters in `budget`, which
are those that are left at first. -/
def repeated (step : Run → List Run) : (budget : List Char) → Run → List Run → List Run
  | [], r, others => r :: others
  | _ :: budget, r, others =>
    (step r).foldr (fun t more => if r.pos < t.pos then repeated step budget t more else more)
      (r :: others)

/-- The ways of taking `step` any number of times from `r`, less before more, in front of
`others`. -/
def repeatedLazy (step : Run → List Run) : (budget : List Char) → Run → List Run → List Run
  | [], r, others => r :: others
  | _ :: budget, r, others =>
    r :: (step r).foldr (fun t more => if r.pos < t.pos then repeatedLazy step budget t more else more)
      others

/-- The ways in which a pattern matches at the place of a run, the preferred one first. -/
def runs : Pattern → Run → List Run
  | .empty, r => [r]
  | .char ok, r =>
    match r.rest with
    | c :: cs => if ok c then [{ r with pos := r.pos + 1, prev := some c, rest := cs }] else []
    | [] => []
  | .seq p q, r => (p.runs r).flatMap q.runs
  | .alt p q, r => p.runs r ++ q.runs r
  | .many p, r => repeated p.runs r.rest r []
  | .manyLazy p, r => repeatedLazy p.runs r.rest r []
  | .part which p, r =>
    (p.runs r).map fun t => { t with parts := (which, ⟨r.pos, t.pos⟩) :: t.parts }
  | .atStart, r => if r.prev.isNone then [r] else []
  | .atEnd, r => if r.rest.isEmpty then [r] else []
  | .boundary, r => if r.atBoundary then [r] else []

/-- A match: the stretch it covers and the parts it remembers. -/
structure Match where
  span : Span
  parts : List (Part × Span)
  deriving Repr

/-- The stretch of a remembered part, if the match has it. -/
def Match.part? (m : Match) (which : Part) : Option Span :=
  (m.parts.find? (·.1 == which)).map (·.2)

/-- The text of a remembered part in the line that was searched, if the match has it. -/
def Match.partText? (m : Match) (which : Part) (line : List Char) : Option (List Char) :=
  (m.part? which).map (·.of line)

/-- The preferred match at a place: `pos` characters have been passed, the last of which is `prev`,
and `rest` is left. -/
def matchAt (p : Pattern) (pos : Nat) (prev : Option Char) (rest : List Char) : Option Match :=
  (p.runs ⟨pos, prev, rest, []⟩).head?.map fun t => ⟨⟨pos, t.pos⟩, t.parts⟩

/-- The first match at or after a place. -/
def findFrom (p : Pattern) (pos : Nat) (prev : Option Char) : List Char → Option Match
  | [] => p.matchAt pos prev []
  | c :: cs =>
    match p.matchAt pos prev (c :: cs) with
    | some m => some m
    | none => p.findFrom (pos + 1) (some c) cs

/-- The first match in a line. -/
def find? (p : Pattern) (line : List Char) : Option Match := p.findFrom 0 none line

/-- Whether a line has a match. -/
def occurs (p : Pattern) (line : List Char) : Bool := (p.find? line).isSome

/-- The matches at or after a place, from left to right, each beginning where the one before it
ends or later. `skip` characters still belong to the latest match. A match of no characters is
passed over. -/
def scanFrom (p : Pattern) (skip pos : Nat) (prev : Option Char) : List Char → List Match
  | [] => []
  | c :: cs =>
    match skip with
    | k + 1 => p.scanFrom k (pos + 1) (some c) cs
    | 0 =>
      match p.matchAt pos prev (c :: cs) with
      | some m =>
        if pos < m.span.stop then m :: p.scanFrom (m.span.stop - pos - 1) (pos + 1) (some c) cs
        else p.scanFrom 0 (pos + 1) (some c) cs
      | none => p.scanFrom 0 (pos + 1) (some c) cs

/-- All matches in a line, from left to right and without overlap. -/
def scan (p : Pattern) (line : List Char) : List Match := p.scanFrom 0 0 none line

/-- The number of matches in a line. -/
def count (p : Pattern) (line : List Char) : Nat := (p.scan line).length

end Pattern

end SourceReview
