import Courier.Pattern.Regex.Basic

/-!
# Reading regular expressions

The notation of regular expressions: alternatives, groups with names and flags, counted
repetitions, classes of characters with set operations, escapes and assertions.

Main definitions:

- `Regex.Fault` is the reason why a text is no regular expression.
- `Regex.Flags` are the flags that can be set inside an expression.
- `Regex.parse` reads an expression.

An expression is refused when it is nested too deeply, and when a machine for it would be
too large.
-/

namespace Courier.Regex

/-- Why a text is no regular expression. -/
inductive Fault where
  /-- A group is not closed, or its opening is not finished. -/
  | groupUnclosed
  /-- A group is closed that was not opened. -/
  | groupUnopened
  /-- The name of a group is malformed or empty. -/
  | groupName
  | groupNameRepeated
  /-- Looking ahead or behind is not supported. -/
  | lookaround
  /-- A flag is unknown, repeated, or missing. -/
  | flag
  | nothingToRepeat
  /-- The count of a repetition is malformed. -/
  | count
  /-- An escape is unknown or unfinished. -/
  | escape
  /-- An escaped number stands for no character. -/
  | codePoint
  | property
  | classUnclosed
  /-- A range in a class is malformed or empty. -/
  | classRange
  /-- A class holds something that is no character. -/
  | classItem
  /-- Bytes that are no characters are asked for. -/
  | invalidText
  /-- The expression is nested too deeply. -/
  | tooDeep
  | tooLarge
deriving DecidableEq, Repr

/-- The text of the reason. -/
def Fault.message : Fault → String
  | groupUnclosed => "unclosed group"
  | groupUnopened => "unopened group"
  | groupName => "invalid capture group name"
  | groupNameRepeated => "duplicate capture group name"
  | lookaround => "look-around is not supported"
  | flag => "invalid flag"
  | nothingToRepeat => "repetition operator missing expression"
  | count => "invalid repetition count"
  | escape => "unrecognized escape sequence"
  | codePoint => "hexadecimal literal is not a Unicode scalar value"
  | property => "Unicode property not found"
  | classUnclosed => "unclosed character class"
  | classRange => "invalid character class range"
  | classItem => "invalid escape sequence found in character class"
  | invalidText => "pattern can match invalid UTF-8"
  | tooDeep => "exceeds nest limit"
  | tooLarge => "compiled expression exceeds size limit"

/-- The result of reading. -/
abbrev Result := Except Fault

/-- The text after the part that was read. -/
abbrev Rest := List Char

/-! ## Flags -/

/-- A flag. -/
inductive Flag where
  | caseless
  /-- Lines have beginnings and ends of their own. -/
  | lines
  /-- A dot stands for line feeds too. -/
  | dotAll
  | swapGreed
  /-- Characters are those of the Unicode standard, not bytes. -/
  | unicode
  /-- Lines end with a return too. -/
  | returns
  /-- White space and comments in the expression do not count. -/
  | verbose
deriving DecidableEq, Repr

/-- The flags that are set. -/
structure Flags where
  caseless : Bool := false
  /-- Lines have beginnings and ends of their own. -/
  lines : Bool := false
  /-- A dot stands for line feeds too. -/
  dotAll : Bool := false
  /-- Characters are those of the Unicode standard, not bytes. -/
  unicode : Bool := true
  /-- Lines end with a return too. -/
  returns : Bool := false
  /-- White space and comments in the expression do not count. -/
  verbose : Bool := false
deriving DecidableEq, Repr, Inhabited

namespace Flags

/-- The flag that a letter stands for. -/
def ofLetter? : Char → Option Flag
  | 'i' => some .caseless
  | 'm' => some .lines
  | 's' => some .dotAll
  | 'U' => some .swapGreed
  | 'u' => some .unicode
  | 'R' => some .returns
  | 'x' => some .verbose
  | _ => none

/-- The flags with one of them set or cleared.  Whether a repetition is lazy does not matter
for what is a match. -/
def assign (f : Flags) (value : Bool) : Flag → Flags
  | .caseless => { f with caseless := value }
  | .lines => { f with lines := value }
  | .dotAll => { f with dotAll := value }
  | .swapGreed => f
  | .unicode => { f with unicode := value }
  | .returns => { f with returns := value }
  | .verbose => { f with verbose := value }

/-- Read letters of flags up to a colon or a closing parenthesis.  `seen` are the flags read
so far, `value` is false after a minus, and `dangling` is true just after it. -/
def read (seen : List Flag) (value dangling : Bool) (f : Flags) : List Char → Result ((Flags × Bool) × Rest)
  | [] => .error .flag
  | c :: rest =>
      if c == ':' || c == ')' then
        if dangling then .error .flag else .ok ((f, seen.isEmpty && value), c :: rest)
      else if c == '-' then
        if value then read seen false true f rest else .error .flag
      else
        match ofLetter? c with
        | none => .error .flag
        | some flag =>
            if seen.contains flag then .error .flag
            else read (flag :: seen) value false (f.assign value flag) rest

end Flags

/-! ## Blanks -/

/-- Skip to the character after the next line feed. -/
def skipComment (cs : List Char) : List Char :=
  cs.dropWhile (· != '\n')

/-- Skip white space and comments. -/
def skipBlanks (cs : List Char) : List Char :=
  match cs with
  | [] => []
  | c :: rest =>
      if Text.isBlank c then skipBlanks rest
      else if c == '#' then skipBlanks (skipComment rest)
      else c :: rest
termination_by cs.length
decreasing_by
  · simp
  · have : (skipComment rest).length ≤ rest.length :=
      (List.dropWhile_sublist _).length_le
    simp only [List.length_cons]
    omega

/-- What an expression goes on with, when white space may not count. -/
def Flags.skip (f : Flags) (cs : List Char) : List Char :=
  if f.verbose then skipBlanks cs else cs

/-! ## Items -/

/-- A part of an expression: what it stands for, how deeply it is nested, and whether it
can be repeated. -/
structure Item where
  regex : Regex
  height : Nat := 0
  repeatable : Bool := true
deriving Repr, Inhabited

namespace Item

/-- Several parts one after the other; the last one comes first in the list. -/
def concat : List Item → Item
  | [] => ⟨.empty, 0, false⟩
  | [item] => item
  | items =>
      ⟨items.foldl (fun r i => i.regex.andThen r) .empty,
        1 + items.foldl (fun n i => max n i.height) 0, true⟩

/-- One of several parts; the last one comes first in the list. -/
def choice : List Item → Item
  | [] => ⟨.empty, 0, false⟩
  | [item] => item
  | item :: items =>
      ⟨items.foldl (fun r i => .alt i.regex r) item.regex,
        1 + items.foldl (fun n i => max n i.height) item.height, true⟩

end Item

/-! ## Escapes -/

/-- What an escape stands for. -/
inductive Escape where
  /-- A character; a byte when it is given by two hexadecimal digits. -/
  | char (c : Char) (isByte : Bool)
  | set (s : CharSet)
  | look (l : Look)
deriving DecidableEq, Repr

/-- Whether a character has a meaning of its own in expressions. -/
def isMeta (c : Char) : Bool :=
  "\\.+*?()|[]\x7b\x7d^$#&-~".toList.contains c

/-- Whether a character can be escaped although it has no meaning of its own. -/
def isEscapable (c : Char) : Bool :=
  isMeta c || (c.toNat ≤ 0x7F && !c.isAlphanum && c != '<' && c != '>')

/-- The value of a hexadecimal digit. -/
def hexDigit? (c : Char) : Option Nat :=
  if c.isDigit then some (c.toNat - '0'.toNat)
  else if 'a' ≤ c && c ≤ 'f' then some (c.toNat - 'a'.toNat + 10)
  else if 'A' ≤ c && c ≤ 'F' then some (c.toNat - 'A'.toNat + 10)
  else none

/-- The character with a number. -/
def charOf (n : Nat) : Result Char :=
  if n < 0xD800 ∨ 0xDFFF < n ∧ n < 0x110000 then .ok (Char.ofNat n) else .error .codePoint

/-- Read some hexadecimal digits. -/
def readHexDigits (f : Flags) : Nat → Nat → List Char → Result (Nat × Rest)
  | 0, n, cs => .ok (n, cs)
  | _ + 1, _, [] => .error .escape
  | k + 1, n, c :: rest =>
      match hexDigit? c with
      | none => .error .codePoint
      | some d => readHexDigits f k (16 * n + d) (f.skip rest)

/-- Read hexadecimal digits up to a closing brace; `fuel` bounds the characters. -/
def readHexBrace (f : Flags) (some? : Bool) : Nat → Nat → List Char → Result (Nat × Rest)
  | _, _, [] => .error .escape
  | 0, _, _ => .error .escape
  | fuel + 1, n, c :: rest =>
      if c == '\x7d' then
        if some? then .ok (n, f.skip rest) else .error .codePoint
      else
        match hexDigit? c with
        | none => .error .codePoint
        | some d => readHexBrace f true fuel (min (16 * n + d) 0x110000) (f.skip rest)

/-- Read the number of a character after a letter that says how many digits it has. -/
def readHex (f : Flags) (digits : Nat) (cs : List Char) : Result (Escape × Rest) :=
  match f.skip cs with
  | [] => .error .escape
  | '\x7b' :: rest => do
      let rest := f.skip rest
      let (n, rest) ← readHexBrace f false rest.length 0 rest
      let c ← charOf n
      return (.char c false, rest)
  | cs => do
      let (n, rest) ← readHexDigits f digits 0 cs
      let c ← charOf n
      return (.char c (digits == 2), rest)

/-- Read the name of a property up to a closing brace; `fuel` bounds the characters. -/
def readName (f : Flags) : Nat → List Char → List Char → Result (String × Rest)
  | _, _, [] => .error .escape
  | 0, _, _ => .error .escape
  | fuel + 1, name, c :: rest =>
      if c == '\x7d' then .ok (String.ofList name.reverse, rest)
      else readName f fuel (c :: name) (f.skip rest)

/-- The parts of a text before and after the first occurrence of a mark. -/
def cutAt (mark : List Char) : List Char → Option (List Char × List Char)
  | [] => none
  | c :: rest =>
      if mark.isPrefixOf (c :: rest) then some ([], (c :: rest).drop mark.length)
      else (cutAt mark rest).map fun (a, b) => (c :: a, b)

/-- The set that the name of a property, perhaps with a value, stands for. -/
def propertyOf? (name : String) : Option CharSet :=
  let cs := name.toList
  match (cutAt [':'] cs).orElse fun _ => cutAt ['='] cs with
  | some (a, b) => CharSet.ofPropertyValue? (.ofList a) (.ofList b)
  | none => CharSet.ofProperty? name

/-- A set closed under case variants, if case does not matter. -/
def Flags.fold (f : Flags) (s : CharSet) : CharSet :=
  if f.caseless then (if f.unicode then .folded s else .foldedAscii s) else s

/-- The set or its complement. -/
def negateIf (negated : Bool) (s : CharSet) : CharSet :=
  if negated then .compl s else s

/-- The set that a property stands for in an expression. -/
def readPropertyNamed (f : Flags) (negated : Bool) (name : String) : Result CharSet :=
  if !f.unicode then .error .invalidText
  else
    let (name, negated) := match cutAt ['!', '='] name.toList with
      | some (a, b) => (String.ofList (a ++ ['='] ++ b), !negated)
      | none => (name, negated)
    match propertyOf? name with
    | none => .error .property
    | some s => .ok (negateIf negated (f.fold s))

/-- Read the name of a property and find its set. -/
def readProperty (f : Flags) (negated : Bool) (cs : List Char) : Result (Escape × Rest) :=
  match f.skip cs with
  | [] => .error .escape
  | '\x7b' :: rest => do
      let rest := f.skip rest
      let (name, rest) ← readName f rest.length [] rest
      let s ← readPropertyNamed f negated name
      return (.set s, rest)
  | c :: rest => do
      if c == '\\' then throw .escape
      let s ← readPropertyNamed f negated c.toString
      return (.set s, f.skip rest)

/-- The set that a letter for digits, white space or words stands for. -/
def letterSet (f : Flags) (c : Char) : CharSet :=
  let s := match c.toLower with
    | 'd' => if f.unicode then .categories ["Nd"] else .asciiDigit
    | 's' => if f.unicode then .blank else .asciiBlank
    | _ => if f.unicode then .word else .asciiWord
  negateIf c.isUpper s

/-- The assertions about words that are called by a name in braces. -/
def boundaryNamed? (unicode : Bool) (name : List Char) : Option Look :=
  [("start", Look.wordStart unicode), ("end", .wordStop unicode),
    ("start-half", .wordStartHalf unicode), ("end-half", .wordStopHalf unicode)].lookup
    (String.ofList name)

/-- Whether a character can stand in the name of an assertion. -/
def isBoundaryLetter (c : Char) : Bool :=
  c.isAlpha || c == '-'

/-- Read the name of an assertion about words up to a closing brace; `fuel` bounds the
characters. -/
def readBoundaryName (f : Flags) : Nat → List Char → List Char → Result ((List Char) × Rest)
  | _, _, [] => .error .escape
  | 0, _, _ => .error .escape
  | fuel + 1, name, c :: rest =>
      if isBoundaryLetter c then readBoundaryName f fuel (c :: name) (f.skip rest)
      else if c == '\x7d' then .ok (name.reverse, rest)
      else .error .escape

/-- Read what may follow the letter of a word boundary: a name in braces.  Braces with
anything else in them are left for a count. -/
def readBoundary (f : Flags) (cs : List Char) : Result (Escape × Rest) :=
  match cs with
  | '\x7b' :: rest =>
      match f.skip rest with
      | [] => .error .escape
      | c :: rest =>
          if !isBoundaryLetter c then .ok (.look (.boundary f.unicode), cs)
          else do
            let (name, rest) ← readBoundaryName f (rest.length + 1) [] (c :: rest)
            match boundaryNamed? f.unicode name with
            | some l => return (.look l, rest)
            | none => throw .escape
  | _ => .ok (.look (.boundary f.unicode), cs)

/-- The control characters that letters stand for. -/
def controlOf? : Char → Option Char
  | 'a' => some '\x07'
  | 'f' => some '\x0c'
  | 't' => some '\t'
  | 'n' => some '\n'
  | 'r' => some '\r'
  | 'v' => some '\x0b'
  | _ => none

/-- Read an escape, from the character after the backslash. -/
def readEscape (f : Flags) : List Char → Result (Escape × Rest)
  | [] => .error .escape
  | c :: rest =>
      if c.isDigit then .error .escape
      else if c == 'x' then readHex f 2 rest
      else if c == 'u' then readHex f 4 rest
      else if c == 'U' then readHex f 8 rest
      else if c == 'p' || c == 'P' then readProperty f (c == 'P') rest
      else if "dswDSW".toList.contains c then .ok (.set (letterSet f c), rest)
      else if isEscapable c then .ok (.char c false, rest)
      else
        match controlOf? c with
        | some d => .ok (.char d false, rest)
        | none =>
            if c == 'A' then .ok (.look .start, rest)
            else if c == 'z' then .ok (.look .stop, rest)
            else if c == 'B' then .ok (.look (.noBoundary f.unicode), rest)
            else if c == '<' then .ok (.look (.wordStart f.unicode), rest)
            else if c == '>' then .ok (.look (.wordStop f.unicode), rest)
            else if c == 'b' then readBoundary f rest
            else .error .escape

/-! ## Classes -/

/-- A part of a class: its characters and how deeply it is nested. -/
structure ClassItem where
  set : CharSet
  height : Nat := 0
deriving Repr, Inhabited

/-- The union of parts; the last one comes first in the list. -/
def ClassItem.all : List ClassItem → ClassItem
  | [] => ⟨.none, 0⟩
  | [item] => item
  | items =>
      ⟨items.foldl (fun s i => .union i.set s) .none,
        1 + items.foldl (fun n i => max n i.height) 0⟩

/-- An operation on sets. -/
inductive SetOp where
  | inter
  /-- What is in the first one alone. -/
  | diff
  /-- What is in one of them alone. -/
  | symmetricDiff
deriving DecidableEq, Repr

/-- The result of an operation on sets. -/
def SetOp.apply : SetOp → CharSet → CharSet → CharSet
  | inter, a, b => .inter a b
  | diff, a, b => .diff a b
  | symmetricDiff, a, b => .symmetricDiff a b

/-- What is open while a class is read. -/
inductive ClassFrame where
  /-- A class, with the parts before it in the class around it. -/
  | opened (outer : List ClassItem) (negated : Bool)
  /-- An operation that waits for its second set. -/
  | operation (op : SetOp) (left : ClassItem)
deriving Repr

/-- Complete the operation that waits, if one does. -/
def applyPending (f : Flags) (right : ClassItem) : List ClassFrame → ClassItem × List ClassFrame
  | .operation op left :: frames =>
      (⟨op.apply (f.fold left.set) (f.fold right.set), 1 + max left.height right.height⟩, frames)
  | frames => (right, frames)

/-- Skip minus signs at the beginning of a class, which stand for themselves. -/
def readMinuses (f : Flags) : Nat → List ClassItem → List Char → Result ((List ClassItem) × Rest)
  | _, _, [] => .error .classUnclosed
  | 0, _, _ => .error .classUnclosed
  | fuel + 1, items, c :: rest =>
      if c == '-' then readMinuses f fuel (⟨.single '-', 0⟩ :: items) (f.skip rest)
      else .ok (items, c :: rest)

/-- Read the beginning of a class, from the character after the bracket. -/
def readClassStart (f : Flags) (cs : List Char) : Result ((Bool × List ClassItem) × Rest) := do
  let cs := f.skip cs
  let (negated, cs) := match cs with
    | '^' :: rest => (true, f.skip rest)
    | _ => (false, cs)
  let (items, cs) ← readMinuses f (cs.length + 1) [] cs
  match items, cs with
  | [], ']' :: rest =>
      let rest := f.skip rest
      if rest.isEmpty then throw .classUnclosed
      else return ((negated, [⟨.single ']', 0⟩]), rest)
  | _, _ => return ((negated, items), cs)

/-- Read a named class, from the character after its bracket. -/
def readNamedClass? (f : Flags) : List Char → Option (CharSet × List Char)
  | ':' :: rest =>
      let (negated, rest) := match rest with
        | '^' :: rest => (true, rest)
        | _ => (false, rest)
      let name := rest.takeWhile (· != ':')
      match rest.dropWhile (· != ':') with
      | ':' :: ']' :: rest =>
          (CharSet.ofAsciiName? (.ofList name)).map fun s =>
            (negateIf negated (f.fold s), rest)
      | _ => none
  | _ => none

/-- Read one end of a range in a class, or a part of its own. -/
def readClassItem (f : Flags) : List Char → Result (Escape × Rest)
  | [] => .error .classUnclosed
  | '\\' :: rest => readEscape f rest
  | c :: rest => .ok (.char c false, rest)

/-- The character that stands in a class.  Where characters are bytes it has to be one of
ASCII. -/
def classChar (f : Flags) : Escape → Result Char
  | .char c _ => if f.unicode || c.toNat ≤ 0x7F then .ok c else .error .invalidText
  | _ => .error .classRange

/-- The part of a class that an escape or a character stands for. -/
def classItem (f : Flags) : Escape → Result ClassItem
  | .set s => .ok ⟨s, 0⟩
  | .look _ => .error .classItem
  | e => do
      let c ← classChar f e
      return ⟨.single c, 0⟩

/-- Read a range or a part of a class. -/
def readClassRange (f : Flags) (cs : List Char) : Result (ClassItem × Rest) := do
  let (first, rest) ← readClassItem f cs
  match f.skip rest with
  | [] => throw .classUnclosed
  | '-' :: rest =>
      let next := (f.skip rest).head?
      if next == some ']' || next == some '-' then
        let item ← classItem f first
        return (item, '-' :: rest)
      else
        match f.skip rest with
        | [] => throw .classUnclosed
        | rest =>
            let (last, rest) ← readClassItem f rest
            let a ← classChar f first
            let b ← classChar f last
            if a ≤ b then return (⟨.range a.toNat b.toNat, 0⟩, rest) else throw .classRange
  | rest =>
      let item ← classItem f first
      return (item, rest)

/-- The operation that a class goes on with. -/
def setOp? : List Char → Option (SetOp × List Char)
  | '&' :: '&' :: rest => some (.inter, rest)
  | '-' :: '-' :: rest => some (.diff, rest)
  | '~' :: '~' :: rest => some (.symmetricDiff, rest)
  | _ => none

/-- Read a class with what is open and the parts read so far; `fuel` bounds the
characters. -/
def readClassFrom (f : Flags) :
    Nat → List ClassFrame → List ClassItem → List Char → Result (ClassItem × Rest)
  | 0, _, _, _ => .error .classUnclosed
  | fuel + 1, frames, items, cs =>
      match f.skip cs with
      | [] => .error .classUnclosed
      | '[' :: rest =>
          match readNamedClass? f rest with
          | some (s, rest) => readClassFrom f fuel frames (⟨s, 0⟩ :: items) rest
          | none => do
              let ((negated, inner), rest) ← readClassStart f rest
              readClassFrom f fuel (.opened items negated :: frames) inner rest
      | ']' :: rest =>
          let (whole, frames) := applyPending f (.all items) frames
          match frames with
          | .opened outer negated :: frames =>
              let closed : ClassItem := ⟨negateIf negated (f.fold whole.set), 1 + whole.height⟩
              if frames.isEmpty then .ok (closed, rest)
              else readClassFrom f fuel frames (closed :: outer) rest
          | _ => .error .classUnclosed
      | cs =>
          match setOp? cs with
          | some (op, rest) =>
              let (left, frames) := applyPending f (.all items) frames
              readClassFrom f fuel (.operation op left :: frames) [] rest
          | none => do
              let (item, rest) ← readClassRange f cs
              readClassFrom f fuel frames (item :: items) rest

/-- The numbers of the bytes that are no characters of ASCII. -/
def highBytes : List Char :=
  (List.range 0x80).map fun n => Char.ofNat (n + 0x80)

/-- A set of characters, which must be characters of ASCII where characters are bytes. -/
def restrict (f : Flags) (s : CharSet) : Result CharSet :=
  if f.unicode then .ok s
  else if highBytes.any s.contains then .error .invalidText
  else .ok (.inter .ascii s)

/-- Read a class, from the character after its bracket. -/
def readClass (f : Flags) (cs : List Char) : Result (Item × Rest) := do
  let ((negated, items), rest) ← readClassStart f cs
  let (whole, rest) ← readClassFrom f (cs.length + 1) [.opened [] negated] items rest
  let s ← restrict f whole.set
  return (⟨.set s, whole.height, true⟩, rest)

/-! ## Single characters -/

/-- A character that stands for itself. -/
def literal (f : Flags) (c : Char) : Item :=
  if f.caseless && (f.unicode || c.isAlpha) then ⟨.set (f.fold (.single c)), 0, true⟩
  else ⟨.set (.single c), 0, true⟩

/-- What a dot stands for. -/
def dot (f : Flags) : Result Item :=
  if !f.unicode then .error .invalidText
  else
    let excluded : CharSet :=
      if f.dotAll then .none
      else if f.returns then .union (.single '\n') (.single '\r')
      else .single '\n'
    .ok ⟨.set (.compl excluded), 0, true⟩

/-- What an escape stands for. -/
def ofEscape (f : Flags) : Escape → Result Item
  | .char c isByte =>
      if isByte && !f.unicode && 0x7F < c.toNat then .error .invalidText else .ok (literal f c)
  | .set s => do
      let s ← restrict f s
      return ⟨.set s, 0, true⟩
  | .look l => .ok ⟨.look l, 0, true⟩

/-- The assertion about the beginning of a line. -/
def lineStart (f : Flags) : Look :=
  if f.lines then (if f.returns then .returnLineStart else .lineStart) else .start

/-- The assertion about the end of a line. -/
def lineStop (f : Flags) : Look :=
  if f.lines then (if f.returns then .returnLineStop else .lineStop) else .stop

/-- Read a character, an escape or an assertion. -/
def readPrimitive (f : Flags) : List Char → Result (Item × Rest)
  | [] => .error .escape
  | '\\' :: rest => do
      let (e, rest) ← readEscape f rest
      let item ← ofEscape f e
      return (item, rest)
  | '.' :: rest => do
      let item ← dot f
      return (item, rest)
  | '^' :: rest => .ok (⟨.look (lineStart f), 0, true⟩, rest)
  | '$' :: rest => .ok (⟨.look (lineStop f), 0, true⟩, rest)
  | c :: rest => .ok (literal f c, rest)

/-! ## Repetitions -/

/-- Read digits of a count with blanks between them where they do not count. -/
def readDigits (f : Flags) : Nat → List Char → List Char → List Char × List Char
  | 0, digits, cs => (digits.reverse, cs)
  | _ + 1, digits, [] => (digits.reverse, [])
  | fuel + 1, digits, c :: rest =>
      if c.isDigit then readDigits f fuel (c :: digits) (f.skip rest)
      else (digits.reverse, c :: rest)

/-- The largest count. -/
def maxCount : Nat := 4294967295

/-- Read a count with blanks around it. -/
def readCount (f : Flags) (cs : List Char) : Result (Nat × Rest) :=
  let cs := cs.dropWhile Text.isBlank
  let (digits, rest) := readDigits f (cs.length + 1) [] cs
  let n := digits.foldl (fun n c => 10 * n + (c.toNat - '0'.toNat)) 0
  if digits.isEmpty || maxCount < n then .error .count
  else .ok (n, f.skip (rest.dropWhile Text.isBlank))

/-- Read the counts of a repetition, from the character after the brace. -/
def readCounts (f : Flags) (cs : List Char) : Result ((Nat × Option Nat) × Rest) := do
  let (low, rest) ← readCount f (f.skip cs)
  let ((low, high), rest) ← match rest with
    | ',' :: rest =>
        match f.skip rest with
        | [] => throw .count
        | '\x7d' :: rest => pure ((low, none), '\x7d' :: rest)
        | rest => do
            let (high, rest) ← readCount f rest
            pure ((low, some high), rest)
    | rest => pure ((low, some low), rest)
  match rest with
  | '\x7d' :: rest =>
      if high.all (low ≤ ·) then return ((low, high), f.skip rest) else throw .count
  | _ => throw .count

/-- Skip the mark of a lazy repetition. -/
def skipLazy : List Char → List Char
  | '?' :: rest => rest
  | cs => cs

/-- Repeat the last part read so far. -/
def repeatLast (low : Nat) (high : Option Nat) : List Item → Result (List Item)
  | [] => .error .nothingToRepeat
  | item :: items =>
      if item.repeatable then
        .ok (⟨item.regex.times low high, 1 + item.height, true⟩ :: items)
      else .error .nothingToRepeat

/-! ## Groups -/

/-- The state of a group around the one that is being read. -/
structure Group where
  /-- The flags before the inner group. -/
  flags : Flags
  /-- The parts before it, the last one first. -/
  items : List Item
  /-- The alternatives before it, the last one first. -/
  choices : List Item

/-- Whether a character can stand in the name of a group. -/
def isNameChar (isFirst : Bool) (c : Char) : Bool :=
  if isFirst then c == '_' || Unicode.isAlphabetic c
  else c == '_' || c == '.' || c == '[' || c == ']' || Unicode.isAlphabetic c ||
    Unicode.isNumeric c

/-- Read the name of a group up to its closing bracket. -/
def readGroupName (name : List Char) : List Char → Result (String × Rest)
  | [] => .error .groupName
  | c :: rest =>
      if c == '>' then
        if name.isEmpty then .error .groupName else .ok (String.ofList name.reverse, rest)
      else if isNameChar name.isEmpty c then readGroupName (c :: name) rest
      else .error .groupName

/-- The beginning of a group. -/
inductive Opening where
  | named (name : String)
  /-- A group, perhaps with flags of its own. -/
  | group (flags : Flags)
  /-- Flags for the rest of the group around. -/
  | setFlags (flags : Flags)

/-- Read the beginning of a group, from the character after its parenthesis. -/
def readOpening (f : Flags) (cs : List Char) : Result (Opening × Rest) :=
  match f.skip cs with
  | '?' :: '=' :: _ | '?' :: '!' :: _ | '?' :: '<' :: '=' :: _ | '?' :: '<' :: '!' :: _ =>
      .error .lookaround
  | '?' :: 'P' :: '<' :: rest | '?' :: '<' :: rest => do
      let (name, rest) ← readGroupName [] rest
      return (.named name, rest)
  | '?' :: rest => do
      let ((flags, none?), rest) ← f.read [] true false rest
      match rest with
      | ':' :: rest => return (.group flags, rest)
      | ')' :: rest => if none? then throw .nothingToRepeat else return (.setFlags flags, rest)
      | _ => throw .groupUnclosed
  | rest => .ok (.group f, rest)

/-! ## Expressions -/

/-- What was read so far. -/
structure Reader where
  flags : Flags := {}
  /-- The parts of the current alternative, the last one first. -/
  items : List Item := []
  /-- The alternatives before it, the last one first. -/
  choices : List Item := []
  /-- The groups around, the innermost one first. -/
  groups : List Group := []
  names : List String := []

namespace Reader

/-- The whole of the current group. -/
def whole (r : Reader) : Item :=
  .choice (.concat r.items :: r.choices)

/-- Go into a group. -/
def enter (r : Reader) (flags : Flags) : Reader :=
  { r with
    flags, items := [], choices := []
    groups := ⟨r.flags, r.items, r.choices⟩ :: r.groups }

/-- Open a group or set flags. -/
def opening (r : Reader) : Opening → Result Reader
  | .named name =>
      if r.names.contains name then .error .groupNameRepeated
      else .ok ({ r with names := name :: r.names }.enter r.flags)
  | .group flags => .ok (r.enter flags)
  | .setFlags flags => .ok { r with flags, items := ⟨.empty, 0, false⟩ :: r.items }

/-- Close the current group. -/
def leave (r : Reader) : Result Reader :=
  match r.groups with
  | [] => .error .groupUnopened
  | g :: groups =>
      let whole := r.whole
      .ok { r with
        flags := g.flags
        items := ⟨whole.regex, 1 + whole.height, true⟩ :: g.items
        choices := g.choices
        groups }

/-- Repeat the last part. -/
def again (r : Reader) (low : Nat) (high : Option Nat) : Result Reader := do
  let items ← repeatLast low high r.items
  return { r with items }

/-- Read the next part of an expression. -/
def step (r : Reader) (c : Char) (rest : List Char) : Result (Reader × Rest) :=
  match c with
  | '(' => do
      let (o, rest) ← readOpening r.flags rest
      let r ← r.opening o
      return (r, rest)
  | ')' => do
      let r ← r.leave
      return (r, rest)
  | '|' => .ok ({ r with items := [], choices := .concat r.items :: r.choices }, rest)
  | '[' => do
      let (item, rest) ← readClass r.flags rest
      return ({ r with items := item :: r.items }, rest)
  | '?' => do
      let r ← r.again 0 (some 1)
      return (r, skipLazy rest)
  | '*' => do
      let r ← r.again 0 none
      return (r, skipLazy rest)
  | '+' => do
      let r ← r.again 1 none
      return (r, skipLazy rest)
  | '\x7b' => do
      let _ ← repeatLast 1 none r.items
      let ((low, high), rest) ← readCounts r.flags rest
      let r ← r.again low high
      return (r, skipLazy rest)
  | c => do
      let (item, rest) ← readPrimitive r.flags (c :: rest)
      return ({ r with items := item :: r.items }, rest)

/-- Read an expression to its end; `fuel` bounds the characters. -/
def run : Nat → Reader → List Char → Result Reader
  | 0, _, _ => .error .groupUnclosed
  | fuel + 1, r, cs =>
      match r.flags.skip cs with
      | [] => if r.groups.isEmpty then .ok r else .error .groupUnclosed
      | c :: rest =>
          match r.step c rest with
          | .error fault => .error fault
          | .ok (r, rest) => run fuel r rest

end Reader

/-! ## Size -/

/-- The size of a part of a machine that reads one character of a set. -/
def CharSet.weight : CharSet → Nat
  | .none => 1
  | .range _ last => if last ≤ 0x7F then 1 else 4
  | .categories names => if names == ["Nd"] then 60 else 400
  | .script _ => 40
  | .binary _ => 400
  | .blank => 12
  | .word => 1500
  | .union a b => a.weight + b.weight
  | .inter a b => max a.weight b.weight
  | .diff a b => max a.weight b.weight
  | .compl a => a.weight + 10
  | .folded a => a.weight + 1

/-- The size of a machine for an expression, in states. -/
def weight : Regex → Nat
  | empty => 1
  | set s => s.weight
  | look _ => 1
  | seq a b => a.weight + b.weight
  | alt a b => a.weight + b.weight + 1
  | repeated a low high =>
      match high with
      | none => a.weight * max low 1 + 1
      | some high => a.weight * low + (a.weight + 1) * (high - low) + 1

/-- The largest size of a machine, in states. -/
def maxWeight : Nat := 327680

/-- The greatest depth of nested parts. -/
def maxHeight : Nat := 250

/-- Read a regular expression. -/
def parse (text : String) : Result Regex := do
  let cs := text.toList
  let r ← Reader.run (cs.length + 1) {} cs
  let whole := r.whole
  if maxHeight < whole.height then throw .tooDeep
  else if maxWeight < whole.regex.weight then throw .tooLarge
  else return whole.regex

end Courier.Regex
