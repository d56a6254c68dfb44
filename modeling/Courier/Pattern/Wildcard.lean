/-!
# Wildcards

Patterns for names of files.  A star stands for any bytes, possibly none, a question mark
for exactly one byte, and every other character for itself.

The reader of patterns knows more than that: brackets and braces mean something to it, and a
backslash quotes the character after it.  So all of these are quoted before a pattern is read.

Main definitions:

- `Wildcard.escape` quotes the characters of a pattern that stand for themselves, and
  `Wildcard.parse` reads it then.
- `Wildcard.Matches` says which rows of bytes a pattern stands for, and `Wildcard.accepts`
  decides it by following all places in the pattern at once.

Main statements:

- Every pattern can be read, and means what its characters stand for (`parse_eq`).
- `Wildcard.accepts` decides `Wildcard.Matches` (`accepts_iff`).
-/

namespace Courier.Wildcard

/-- A part of a pattern. -/
inductive Part where
  /-- Any bytes. -/
  | many
  | one
  | byte (b : UInt8)
deriving DecidableEq, Repr

/-- The parts that a character stands for that stands for itself. -/
def literal (c : Char) : List Part :=
  c.toString.toUTF8.data.toList.map .byte

/-- The parts that a character of a pattern stands for. -/
def partsOf (c : Char) : List Part :=
  if c = '*' then [.many]
  else if c = '?' then [.one]
  else literal c

/-- The parts that the characters of a pattern stand for. -/
def meaning (pattern : String) : List Part :=
  pattern.toList.flatMap partsOf

/-- Whether a character means something to the reader of patterns, but not in a name. -/
def isQuoted (c : Char) : Bool :=
  c == '[' || c == ']' || c == '\x7b' || c == '\x7d' || c == '\\'

/-- Quote the characters that mean something to the reader only. -/
def escape (pattern : List Char) : List Char :=
  pattern.flatMap fun c => if isQuoted c then ['\\', c] else [c]

/-- Read a pattern.  A backslash quotes the next character.  Classes in brackets and alternatives
in braces are not read, and neither is a backslash at the end. -/
def read : List Char → Option (List Part)
  | [] => some []
  | c :: cs =>
      if c = '\\' then
        match cs with
        | [] => none
        | quoted :: rest => (read rest).map (literal quoted ++ ·)
      else if c = '[' ∨ c = '\x7b' ∨ c = '\x7d' then none
      else (read cs).map (partsOf c ++ ·)

/-- The parts of a pattern. -/
def parse (pattern : String) : List Part :=
  (read (escape pattern.toList)).getD []

theorem partsOf_of_isQuoted {c : Char} (h : isQuoted c = true) : partsOf c = literal c := by
  have hstar : c ≠ '*' := by
    rintro rfl
    simp [isQuoted] at h
  have hone : c ≠ '?' := by
    rintro rfl
    simp [isQuoted] at h
  rw [partsOf, if_neg hstar, if_neg hone]

/-- A quoted pattern is read character by character. -/
theorem read_escape (pattern : List Char) :
    read (escape pattern) = some (pattern.flatMap partsOf) := by
  induction pattern with
  | nil => rfl
  | cons c cs ih =>
      rw [escape, List.flatMap_cons, List.flatMap_cons, ← escape]
      by_cases hc : isQuoted c = true
      · rw [if_pos hc, List.cons_append, List.singleton_append, read, if_pos rfl, ih,
          partsOf_of_isQuoted hc]
        rfl
      · have hback : c ≠ '\\' := by
          rintro rfl
          exact hc rfl
        have hplain : ¬(c = '[' ∨ c = '\x7b' ∨ c = '\x7d') := by
          rintro (rfl | rfl | rfl) <;> exact hc rfl
        rw [if_neg hc, List.singleton_append, read.eq_def]
        simp only [if_neg hback, if_neg hplain, ih, Option.map_some]

/-- Every pattern can be read, and means what its characters stand for. -/
theorem parse_eq (pattern : String) : parse pattern = meaning pattern := by
  rw [parse, read_escape, Option.getD_some, meaning]

/-- Whether a text has a star or a question mark. -/
def isPattern (s : String) : Bool :=
  s.toList.any fun c => c == '*' || c == '?'

/-! ## Matching -/

/-- The rows of bytes that a pattern stands for. -/
inductive Matches : List Part → List UInt8 → Prop where
  | nil : Matches [] []
  | skip {p : List Part} {bs : List UInt8} (h : Matches p bs) : Matches (.many :: p) bs
  /-- A star stands for one byte more. -/
  | more {p : List Part} {bs : List UInt8} (b : UInt8) (h : Matches (.many :: p) bs) :
      Matches (.many :: p) (b :: bs)
  /-- A question mark stands for one byte. -/
  | one {p : List Part} {bs : List UInt8} (b : UInt8) (h : Matches p bs) :
      Matches (.one :: p) (b :: bs)
  | byte {p : List Part} {bs : List UInt8} (b : UInt8) (h : Matches p bs) :
      Matches (.byte b :: p) (b :: bs)

/-- Whether a pattern stands for nothing. -/
def acceptsNil (p : List Part) : Bool :=
  p.all (· == .many)

/-- What a pattern can go on with after a byte. -/
def after (b : UInt8) : List Part → List (List Part)
  | [] => []
  | .many :: p => (.many :: p) :: after b p
  | .one :: p => [p]
  | .byte c :: p => if c = b then [p] else []

/-- Whether one of several patterns stands for a row of bytes. -/
def acceptsAny : List (List Part) → List UInt8 → Bool
  | ps, [] => ps.any acceptsNil
  | ps, b :: bs => acceptsAny (ps.flatMap (after b)).eraseDups bs

/-- Whether a pattern stands for a row of bytes. -/
def accepts (p : List Part) (bs : List UInt8) : Bool :=
  acceptsAny [p] bs

/-- A pattern stands for nothing when it has only stars. -/
theorem acceptsNil_iff {p : List Part} : acceptsNil p = true ↔ Matches p [] := by
  constructor
  · intro h
    induction p with
    | nil => exact .nil
    | cons a p ih =>
        simp only [acceptsNil, List.all_cons, Bool.and_eq_true, beq_iff_eq] at h
        obtain ⟨rfl, h⟩ := h
        exact .skip (ih h)
  · intro h
    induction p with
    | nil => rfl
    | cons a p ih =>
        cases h with
        | skip h =>
            have := ih h
            simpa [acceptsNil] using this

/-- What a pattern stands for after a byte is what its continuations stand for. -/
theorem exists_mem_after_iff {b : UInt8} {p : List Part} {bs : List UInt8} :
    (∃ q ∈ after b p, Matches q bs) ↔ Matches p (b :: bs) := by
  induction p with
  | nil =>
      constructor
      · rintro ⟨q, hq, _⟩
        simp [after] at hq
      · intro h
        cases h
  | cons a p ih =>
      constructor
      · rintro ⟨q, hq, hm⟩
        cases a with
        | many =>
            simp only [after, List.mem_cons] at hq
            rcases hq with rfl | hq
            · exact .more b hm
            · exact .skip (ih.1 ⟨q, hq, hm⟩)
        | one =>
            simp only [after, List.mem_singleton] at hq
            subst hq
            exact .one b hm
        | byte c =>
            simp only [after] at hq
            split at hq
            · next h =>
                subst h
                simp only [List.mem_singleton] at hq
                subst hq
                exact .byte c hm
            · simp at hq
      · intro h
        cases h with
        | skip h =>
            obtain ⟨q, hq, hm⟩ := ih.2 h
            exact ⟨q, by simp [after, hq], hm⟩
        | more _ h => exact ⟨.many :: p, by simp [after], h⟩
        | one _ h => exact ⟨p, by simp [after], h⟩
        | byte _ h => exact ⟨p, by simp [after], h⟩

/-- Following all places at once decides what one of several patterns stands for. -/
theorem acceptsAny_iff {ps : List (List Part)} {bs : List UInt8} :
    acceptsAny ps bs = true ↔ ∃ p ∈ ps, Matches p bs := by
  induction bs generalizing ps with
  | nil => simp [acceptsAny, acceptsNil_iff]
  | cons b bs ih =>
      simp only [acceptsAny, ih, List.mem_eraseDups, List.mem_flatMap]
      constructor
      · rintro ⟨q, ⟨p, hp, hq⟩, hm⟩
        exact ⟨p, hp, exists_mem_after_iff.1 ⟨q, hq, hm⟩⟩
      · rintro ⟨p, hp, hm⟩
        obtain ⟨q, hq, hm⟩ := exists_mem_after_iff.2 hm
        exact ⟨q, ⟨p, hp, hq⟩, hm⟩

/-- The decision is right. -/
theorem accepts_iff {p : List Part} {bs : List UInt8} : accepts p bs = true ↔ Matches p bs := by
  simp [accepts, acceptsAny_iff]

/-- Whether a pattern stands for a name. -/
def acceptsName (pattern name : String) : Bool :=
  accepts (parse pattern) name.toUTF8.data.toList

end Courier.Wildcard
