import Courier.Pattern.Regex.CharSet

/-!
# Regular expressions

Regular expressions over characters with assertions about the place in the text, and the
search for a match in a text.

Main definitions:

- `Regex` is an expression.
- `Regex.nullable` tells whether an expression stands for the empty text between two
  neighbours, and `Regex.after` how it can go on after a character.
- `Regex.isMatch` tells whether an expression stands for some part of a text.  It reads the
  text once and keeps all ways in which a match can go on.
-/

namespace Courier

/-! ## Assertions -/

/-- An assertion about a place in a text. -/
inductive Regex.Look where
  /-- The text begins here. -/
  | start
  /-- The text ends here. -/
  | stop
  /-- A line begins here. -/
  | lineStart
  /-- A line ends here. -/
  | lineStop
  /-- A line begins here, where lines end with a return, a line feed or both. -/
  | returnLineStart
  /-- A line ends here, where lines end with a return, a line feed or both. -/
  | returnLineStop
  /-- A word begins or ends here. -/
  | boundary (unicode : Bool)
  /-- No word begins or ends here. -/
  | noBoundary (unicode : Bool)
  /-- A word begins here. -/
  | wordStart (unicode : Bool)
  /-- A word ends here. -/
  | wordStop (unicode : Bool)
  /-- No word stands before this place. -/
  | wordStartHalf (unicode : Bool)
  /-- No word stands after this place. -/
  | wordStopHalf (unicode : Bool)
deriving DecidableEq, Repr, Inhabited

namespace Regex.Look

/-- Whether a neighbour belongs to a word. -/
def isWord (unicode : Bool) : Option Char → Bool
  | none => false
  | some c => if unicode then Unicode.isWordCharacter c else Unicode.isAsciiWord c

/-- Whether an assertion holds between two neighbours. -/
def holds (before after : Option Char) : Look → Bool
  | start => before.isNone
  | stop => after.isNone
  | lineStart => before.isNone || before == some '\n'
  | lineStop => after.isNone || after == some '\n'
  | returnLineStart =>
      before.isNone || before == some '\n' || (before == some '\r' && after != some '\n')
  | returnLineStop =>
      after.isNone || after == some '\r' || (after == some '\n' && before != some '\r')
  | boundary unicode => isWord unicode before != isWord unicode after
  | noBoundary unicode => isWord unicode before == isWord unicode after
  | wordStart unicode => !isWord unicode before && isWord unicode after
  | wordStop unicode => isWord unicode before && !isWord unicode after
  | wordStartHalf unicode => !isWord unicode before
  | wordStopHalf unicode => !isWord unicode after

end Regex.Look

/-! ## Expressions -/

/-- A regular expression. -/
inductive Regex where
  | empty
  | set (s : Regex.CharSet)
  /-- The empty text where an assertion holds. -/
  | look (l : Regex.Look)
  | seq (a b : Regex)
  | alt (a b : Regex)
  /-- An expression at least and at most so many times. -/
  | repeated (a : Regex) (low : Nat) (high : Option Nat)
deriving DecidableEq, Repr, Inhabited

namespace Regex

/-- The expression that stands for nothing. -/
def never : Regex :=
  set .none

/-! ## Matching -/

/-- Whether an expression stands for the empty text between two neighbours. -/
def nullable (before after : Option Char) : Regex → Bool
  | empty => true
  | set _ => false
  | look l => l.holds before after
  | seq a b => a.nullable before after && b.nullable before after
  | alt a b => a.nullable before after || b.nullable before after
  | repeated a low _ => low == 0 || a.nullable before after

/-- Whether an expression stands for the empty text everywhere. -/
def alwaysNullable : Regex → Bool
  | empty => true
  | set _ => false
  | look _ => false
  | seq a b => a.alwaysNullable && b.alwaysNullable
  | alt a b => a.alwaysNullable || b.alwaysNullable
  | repeated a low _ => low == 0 || a.alwaysNullable

/-- What stands for the empty text everywhere does so between any two neighbours. -/
theorem nullable_of_alwaysNullable {r : Regex} (h : r.alwaysNullable = true)
    (before after : Option Char) : r.nullable before after = true := by
  induction r with
  | empty => rfl
  | set _ => simp [alwaysNullable] at h
  | look _ => simp [alwaysNullable] at h
  | seq a b iha ihb =>
      simp only [alwaysNullable, Bool.and_eq_true] at h
      simp [nullable, iha h.1, ihb h.2]
  | alt a b iha ihb =>
      simp only [alwaysNullable, Bool.or_eq_true] at h
      rcases h with h | h
      · simp [nullable, iha h]
      · simp [nullable, ihb h]
  | repeated a low high ih =>
      simp only [alwaysNullable, Bool.or_eq_true] at h
      rcases h with h | h
      · simp [nullable, h]
      · simp [nullable, ih h]

/-- One expression after another, without an empty one in front. -/
def andThen : Regex → Regex → Regex
  | empty, b => b
  | a, b => seq a b

/-- What is left of a repetition when some of its rounds are over, the first ones with the
empty text. -/
def remainders (a : Regex) (skips : Bool) (low : Nat) (high : Option Nat) : List Regex :=
  if skips then
    (List.range (max low 1)).map fun k =>
      repeated a (low - 1 - k) (high.map (· - 1 - k))
  else [repeated a (low - 1) (high.map (· - 1))]

/-- How an expression can go on after a character, with what stands before it. -/
def after (before : Option Char) (c : Char) : Regex → List Regex
  | empty => []
  | set s => if s.contains c then [empty] else []
  | look _ => []
  | seq a b =>
      (a.after before c).map (·.andThen b) ++
        if a.nullable before (some c) then b.after before c else []
  | alt a b => a.after before c ++ b.after before c
  | repeated a low high =>
      if high == some 0 then []
      else
        let rests := remainders a (a.nullable before (some c)) low high
        (a.after before c).flatMap fun d => rests.map d.andThen

/-- Whether one of several expressions, or one that may begin anywhere, stands for a part
of a text. -/
def search (r : Regex) : List Regex → Option Char → List Char → Bool
  | active, before, [] => (r :: active).any (·.nullable before none)
  | active, before, c :: rest =>
      let active := r :: active
      active.any (·.nullable before (some c)) ||
        search r ((active.flatMap (after before c)).eraseDups) (some c) rest

/-- Whether an expression stands for some part of a text. -/
def isMatch (r : Regex) (text : String) : Bool :=
  search r [] none text.toList

/-! ## Repetitions -/

/-- A repetition; when the repeated expression can be empty everywhere, no round is
needed. -/
def times (a : Regex) (low : Nat) (high : Option Nat) : Regex :=
  if a.alwaysNullable then repeated a 0 high else repeated a low high

end Regex

end Courier
