/-!
# Tables of runs

A property of characters is kept as a table of runs: each entry begins a run of characters
that share a value.

Main definitions:

- `Runs` is such a table; `Runs.at?` finds the value of a character by bisection.
- `Runs.parse` reads a table from a text of lengths and tags, and `Spans.parse` reads a list
  of intervals.
- `readNumber` reads a number in base 36.
-/

namespace Courier.Unicode

/-- The value of a digit in base 36. -/
def digitValue (c : Char) : Nat :=
  if c.isDigit then c.toNat - '0'.toNat else c.toNat - 'a'.toNat + 10

/-- The number that a row of digits in base 36 stands for. -/
def readNumber (cs : List Char) : Nat :=
  cs.foldl (fun n c => 36 * n + digitValue c) 0

/-- A table of runs: where each run begins, and the tag of its characters. -/
abbrev Runs := Array (Nat × String)

namespace Runs

/-- Read runs that each have a length and a tag.  A tag begins with a capital letter and has
`width` letters. -/
def parseFrom (width : Nat) : Nat → Nat → List Char → Runs → Runs
  | 0, _, _, runs => runs
  | bound + 1, start, cs, runs =>
      let digits := cs.takeWhile fun c => !c.isUpper
      let rest := cs.drop digits.length
      if rest.isEmpty then runs
      else
        parseFrom width bound (start + readNumber digits) (rest.drop width)
          (runs.push (start, String.ofList (rest.take width)))

/-- Read a table of runs. -/
def parse (width : Nat) (text : String) : Runs :=
  parseFrom width text.length 0 text.toList #[]

/-- The last run that begins at a number or before it, between two places of the table. -/
def search (runs : Runs) (n : Nat) : Nat → Nat → Nat → Option String
  | 0, _, _ => none
  | bound + 1, low, high =>
      if high ≤ low + 1 then (runs[low]?).map Prod.snd
      else
        let middle := (low + high) / 2
        match runs[middle]? with
        | none => none
        | some (start, _) =>
            if start ≤ n then search runs n bound middle high
            else search runs n bound low middle

/-- The tag of a number. -/
def at? (runs : Runs) (n : Nat) : Option String :=
  search runs n (runs.size + 1) 0 runs.size

end Runs

/-- A list of intervals, each from its first number to its last. -/
abbrev Spans := List (Nat × Nat)

namespace Spans

/-- Read intervals, each given by the distance from the last one and by its own length. -/
def parseFrom : Nat → List (List Char) → Spans
  | _, [] => []
  | start, entry :: rest =>
      let distance := readNumber (entry.takeWhile (· != ':'))
      let length := readNumber ((entry.dropWhile (· != ':')).drop 1)
      let first := start + distance
      (first, first + length) :: parseFrom (first + length) rest

/-- The parts of a text between commas. -/
def entries (text : String) : List (List Char) :=
  let (last, done) := text.toList.foldl
    (fun (state : List Char × List (List Char)) c =>
      if c = ',' then ([], state.1.reverse :: state.2) else (c :: state.1, state.2)) ([], [])
  (last.reverse :: done).reverse

/-- Read a list of intervals. -/
def parse (text : String) : Spans :=
  parseFrom 0 (entries text)

/-- Whether a number is in one of the intervals. -/
def contains (spans : Spans) (n : Nat) : Bool :=
  spans.any fun s => s.1 ≤ n && n ≤ s.2

end Spans

end Courier.Unicode
