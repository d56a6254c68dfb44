import Courier.Pattern.Unicode.Binary
import Courier.Pattern.Unicode.Folding
import Courier.Text.Blank

/-!
# Sets of characters

The sets that a regular expression can name, kept as they were named.

Main definitions:

- `CharSet` is a set: a range, a property, or made from other sets.
- `CharSet.contains` decides membership.
- `CharSet.ofProperty?` and `CharSet.ofPropertyValue?` find the set that a property of the
  Unicode standard stands for, and `CharSet.ofAsciiName?` a set of ASCII characters.

Main statements:

- A set that was closed under case variants contains everything it contained before
  (`contains_folded`).
-/

namespace Courier.Regex

/-- A set of characters. -/
inductive CharSet where
  | none
  /-- The characters from one number to another. -/
  | range (first last : Nat)
  /-- The characters with one of some general categories. -/
  | categories (names : List String)
  | script (name : String)
  /-- The characters with a binary property. -/
  | binary (name : String)
  | blank
  /-- The characters that words are made of. -/
  | word
  /-- The characters in either of two sets. -/
  | union (a b : CharSet)
  /-- The characters in both of two sets. -/
  | inter (a b : CharSet)
  /-- The characters in one set and not in another. -/
  | diff (a b : CharSet)
  /-- The characters not in a set. -/
  | compl (a : CharSet)
  /-- The characters with a case variant in a set. -/
  | folded (a : CharSet)
deriving DecidableEq, Repr, Inhabited

namespace CharSet

/-- Whether a set contains a character. -/
def contains : CharSet → Char → Bool
  | none, _ => false
  | range first last, c => first ≤ c.toNat && c.toNat ≤ last
  | categories names, c => names.contains (Unicode.category c)
  | script name, c => Unicode.script c == name
  | binary name, c => match Unicode.binary? name with
      | some holds => holds c
      | Option.none => false
  | blank, c => Text.isBlank c
  | word, c => Unicode.isWordCharacter c
  | union a b, c => a.contains c || b.contains c
  | inter a b, c => a.contains c && b.contains c
  | diff a b, c => a.contains c && !b.contains c
  | compl a, c => !a.contains c
  | folded a, c => a.contains c || (Unicode.variants c).any a.contains

/-- A set closed under case variants contains everything it contained before. -/
theorem contains_folded {a : CharSet} {c : Char} (h : a.contains c = true) :
    (folded a).contains c = true := by
  simp [contains, h]

/-- The set of one character. -/
def single (c : Char) : CharSet :=
  range c.toNat c.toNat

@[simp]
theorem contains_single (c d : Char) : (single c).contains d = true ↔ d = c := by
  simp only [single, contains, Bool.and_eq_true, decide_eq_true_eq]
  constructor
  · intro h
    exact Char.toNat_inj.mp (Nat.le_antisymm h.2 h.1)
  · intro h
    subst h
    exact ⟨Nat.le_refl _, Nat.le_refl _⟩

/-- The set of some ranges. -/
def ofRanges (ranges : List (Nat × Nat)) : CharSet :=
  ranges.foldr (fun r s => union (range r.1 r.2) s) none

/-- All characters. -/
def any : CharSet :=
  compl none

/-- The characters of ASCII. -/
def ascii : CharSet :=
  range 0 0x7F

/-- The symmetric difference of two sets. -/
def symmetricDiff (a b : CharSet) : CharSet :=
  union (diff a b) (diff b a)

/-- The difference between the upper and the lower case of a letter of ASCII. -/
def caseDistance : Nat := 0x20

/-- A set of ASCII characters closed under their case variants. -/
def foldedAscii (a : CharSet) : CharSet :=
  union a (inter ascii (folded a))

/-! ## Properties -/

/-- The name of a property in lower case and without separators, without the word that may
stand in front of it. -/
def normalize (name : String) : String :=
  let cs := name.toList
  let (cs, cut) := match cs with
    | 'i' :: 's' :: rest | 'I' :: 's' :: rest | 'i' :: 'S' :: rest | 'I' :: 'S' :: rest =>
        (rest, true)
    | _ => (cs, false)
  let kept := cs.filter fun c => c != ' ' && c != '_' && c != '-' && c.toNat ≤ 0x7F
  let short := String.ofList (kept.map Char.toLower)
  if cut && short == "c" then "isc" else short

/-- The set that the name of a general category stands for. -/
def ofCategory? (name : String) : Option CharSet :=
  if name == "any" then some any
  else if name == "assigned" then some (compl (categories ["Cn"]))
  else if name == "ascii" then some ascii
  else (Unicode.categoryGroup? name).map categories

/-- The set that the name of a script stands for. -/
def ofScript? (name : String) : Option CharSet :=
  (Unicode.scriptNamed? name).map script

/-- The set that the name of a property, a general category or a script stands for. -/
def ofProperty? (name : String) : Option CharSet :=
  let name := normalize name
  if (Unicode.binary? name).isSome then some (binary name)
  else (ofCategory? name).orElse fun _ => ofScript? name

/-- The set of the characters for which a property has a value. -/
def ofPropertyValue? (name value : String) : Option CharSet :=
  let name := normalize name
  let value := normalize value
  if name == "generalcategory" || name == "gc" then ofCategory? value
  else if ["script", "sc", "scriptextensions", "scx"].contains name then ofScript? value
  else Option.none

/-! ## Named sets of ASCII characters -/

/-- The digits of ASCII. -/
def asciiDigit : CharSet := range 0x30 0x39

/-- The letters, digits and underscore of ASCII. -/
def asciiWord : CharSet :=
  ofRanges [(0x30, 0x39), (0x41, 0x5A), (0x5F, 0x5F), (0x61, 0x7A)]

/-- The white space of ASCII. -/
def asciiBlank : CharSet :=
  ofRanges [(0x09, 0x0D), (0x20, 0x20)]

/-- The names of sets of ASCII characters. -/
def asciiNames : List (String × CharSet) := [
  ("alnum", ofRanges [(0x30, 0x39), (0x41, 0x5A), (0x61, 0x7A)]),
  ("alpha", ofRanges [(0x41, 0x5A), (0x61, 0x7A)]),
  ("ascii", ascii),
  ("blank", ofRanges [(0x09, 0x09), (0x20, 0x20)]),
  ("cntrl", ofRanges [(0x00, 0x1F), (0x7F, 0x7F)]),
  ("digit", asciiDigit),
  ("graph", range 0x21 0x7E),
  ("lower", range 0x61 0x7A),
  ("print", range 0x20 0x7E),
  ("punct", ofRanges [(0x21, 0x2F), (0x3A, 0x40), (0x5B, 0x60), (0x7B, 0x7E)]),
  ("space", asciiBlank),
  ("upper", range 0x41 0x5A),
  ("word", asciiWord),
  ("xdigit", ofRanges [(0x30, 0x39), (0x41, 0x46), (0x61, 0x66)])]

/-- The set of ASCII characters that a name stands for. -/
def ofAsciiName? (name : String) : Option CharSet :=
  asciiNames.lookup name

end CharSet

end Courier.Regex
