/-!
# Blank characters, words and lines

The characters that count as blank space in names, commands and answers, and the
three ways in which a text is cut along them.

Main definitions:

- `isBlank` is the Unicode `White_Space` property.
- `trim` removes the blanks at both ends, `words` splits at runs of blanks.
- `lines` splits at line feeds, `splitAt` at a separating character.

Main statements:

- A word holds no blank and is not empty (`not_isBlank_of_mem_words`, `ne_nil_of_mem_words`).
- The separator occurs in no part (`not_mem_of_mem_splitAt`).
-/

namespace Courier.Text

/-- The characters with the Unicode property `White_Space`. -/
def isBlank (c : Char) : Bool :=
  let n := c.toNat
  (0x9 ≤ n && n ≤ 0xD) || n == 0x20 || n == 0x85 || n == 0xA0 || n == 0x1680 ||
    (0x2000 ≤ n && n ≤ 0x200A) || n == 0x2028 || n == 0x2029 || n == 0x202F ||
    n == 0x205F || n == 0x3000

/-- Every blank of the ASCII range is blank. -/
theorem isBlank_of_isWhitespace {c : Char} (h : c.isWhitespace = true) : isBlank c = true := by
  simp only [Char.isWhitespace, Bool.or_eq_true, decide_eq_true_eq] at h
  rcases h with ((rfl | rfl) | rfl) | rfl <;> decide

/-! ## Trimming -/

/-- The text without the blanks it begins with. -/
def trimStartChars (cs : List Char) : List Char :=
  cs.dropWhile isBlank

/-- The text without the blanks at either end. -/
def trimChars (cs : List Char) : List Char :=
  (trimStartChars (trimStartChars cs).reverse).reverse

/-- The text without the blanks at either end. -/
def trim (s : String) : String :=
  String.ofList (trimChars s.toList)

/-- Whether a text holds nothing but blanks. -/
def isAllBlank (s : String) : Bool :=
  s.toList.all isBlank

/-! ## Words -/

/-- Collect words; `word` holds the current word backwards. -/
def wordsFrom (word : List Char) : List Char → List (List Char)
  | [] => if word.isEmpty then [] else [word.reverse]
  | c :: rest =>
      if isBlank c then
        if word.isEmpty then wordsFrom [] rest else word.reverse :: wordsFrom [] rest
      else wordsFrom (c :: word) rest

/-- The maximal runs of characters that are not blank, in order. -/
def words (s : String) : List String :=
  (wordsFrom [] s.toList).map String.ofList

/-- No word is empty. -/
theorem ne_nil_of_mem_words {word cs : List Char} {w : List Char}
    (h : w ∈ wordsFrom word cs) : w ≠ [] := by
  induction cs generalizing word with
  | nil =>
      cases word with
      | nil => simp [wordsFrom] at h
      | cons c r => simp [wordsFrom] at h; simp [h]
  | cons c rest ih =>
      by_cases hb : isBlank c = true
      · cases word with
        | nil => simp [wordsFrom, hb] at h; exact ih h
        | cons d r =>
            simp [wordsFrom, hb] at h
            rcases h with rfl | h
            · simp
            · exact ih h
      · simp [wordsFrom, hb] at h
        exact ih h

/-- A word holds no blank. -/
theorem not_isBlank_of_mem_words {word cs : List Char} (hw : ∀ c ∈ word, isBlank c = false)
    {w : List Char} (h : w ∈ wordsFrom word cs) : ∀ c ∈ w, isBlank c = false := by
  induction cs generalizing word with
  | nil =>
      cases word with
      | nil => simp [wordsFrom] at h
      | cons c r => simp [wordsFrom] at h; subst h; intro d hd; exact hw d (by simpa [or_comm] using hd)
  | cons c rest ih =>
      by_cases hb : isBlank c = true
      · cases word with
        | nil => simp [wordsFrom, hb] at h; exact ih (by simp) h
        | cons d r =>
            simp [wordsFrom, hb] at h
            rcases h with rfl | h
            · intro e he; exact hw e (by simpa [or_comm] using he)
            · exact ih (by simp) h
      · simp [wordsFrom, hb] at h
        refine ih ?_ h
        intro d hd
        rcases List.mem_cons.1 hd with rfl | hd
        · simpa using hb
        · exact hw d hd

/-! ## Parts between separators -/

/-- Split at every `sep`; `part` holds the current part backwards. -/
def splitCharsFrom (sep : Char) (part : List Char) : List Char → List (List Char)
  | [] => [part.reverse]
  | c :: rest =>
      if c = sep then part.reverse :: splitCharsFrom sep [] rest
      else splitCharsFrom sep (c :: part) rest

/-- The parts between the occurrences of `sep`; one part when there is none. -/
def splitAt (sep : Char) (s : String) : List String :=
  (splitCharsFrom sep [] s.toList).map String.ofList

/-- The separator occurs in no part. -/
theorem not_mem_of_mem_splitAt {sep : Char} {part cs : List Char} (hp : sep ∉ part)
    {p : List Char} (h : p ∈ splitCharsFrom sep part cs) : sep ∉ p := by
  induction cs generalizing part with
  | nil => simp [splitCharsFrom] at h; simpa [h] using hp
  | cons c rest ih =>
      by_cases hc : c = sep
      · simp [splitCharsFrom, hc] at h
        rcases h with rfl | h
        · simpa using hp
        · exact ih (by simp) h
      · simp [splitCharsFrom, hc] at h
        exact ih (by simp [hp, Ne.symm hc]) h

/-- A line without the carriage return that ends it. -/
def chompReturn (cs : List Char) : List Char :=
  match cs.reverse with
  | '\r' :: rest => rest.reverse
  | _ => cs

/-- Collect lines; `line` holds the current line backwards.  Text after the last line feed
is a line only when it is not empty. -/
def linesFrom (line : List Char) : List Char → List (List Char)
  | [] => if line.isEmpty then [] else [line.reverse]
  | '\n' :: rest => chompReturn line.reverse :: linesFrom [] rest
  | c :: rest => linesFrom (c :: line) rest

/-- The lines of a text, each without its line end (`\n` or `\r\n`). -/
def lines (s : String) : List String :=
  (linesFrom [] s.toList).map String.ofList

end Courier.Text
