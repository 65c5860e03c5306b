/-!
# Splitting a text at a separator

A text with `n` separators has `n + 1` parts; a part may be empty.
-/

namespace RequestPipeline.Text

/-- The parts of a list of characters between occurrences of one character. -/
def splitChars (sep : Char) : List Char → List (List Char)
  | [] => [[]]
  | c :: rest =>
    match splitChars sep rest with
    | [] => [[c]]
    | part :: parts => if c = sep then [] :: part :: parts else (c :: part) :: parts

/-- The parts of a text between occurrences of one character. -/
def split (sep : Char) (s : String) : List String :=
  (splitChars sep s.toList).map String.ofList

/-- The parts of a text between occurrences of two underscores, taken from the left. -/
def splitDoubleUnderscore : List Char → List (List Char)
  | [] => [[]]
  | '_' :: '_' :: rest => [] :: splitDoubleUnderscore rest
  | c :: rest =>
    match splitDoubleUnderscore rest with
    | [] => [[c]]
    | part :: parts => (c :: part) :: parts

/-- The rest of a list of characters behind a given beginning. -/
def stripFront : List Char → List Char → Option (List Char)
  | [], cs => some cs
  | _ :: _, [] => none
  | p :: ps, c :: cs => if p = c then stripFront ps cs else none

/-- A split text always has a part. -/
theorem splitChars_ne_nil (sep : Char) (cs : List Char) : splitChars sep cs ≠ [] := by
  cases cs with
  | nil => simp [splitChars]
  | cons c rest =>
    simp only [splitChars]
    split
    · simp
    · split <;> simp

/-- The rest behind a beginning is what has to be appended to the beginning. -/
theorem stripFront_eq_some_iff {ps cs rest : List Char} :
    stripFront ps cs = some rest ↔ cs = ps ++ rest := by
  induction ps generalizing cs with
  | nil => simp [stripFront]
  | cons p ps ih =>
    cases cs with
    | nil => simp [stripFront]
    | cons c cs =>
      by_cases h : p = c
      · simp [stripFront, h, ih]
      · simp [stripFront, h, Ne.symm h]

end RequestPipeline.Text
