/-!
# Lines and lists of texts

Cutting a text into its lines, and putting texts together with a separator between them.
-/

namespace Lexicon.Text

/-- The lines of a text: the parts between its line ends, of which there is at least one. -/
def lines : List Char → List (List Char)
  | [] => [[]]
  | c :: rest =>
    if c = '\n' then [] :: lines rest
    else
      match lines rest with
      | [] => [[c]]
      | line :: more => (c :: line) :: more

theorem lines_ne_nil (s : List Char) : lines s ≠ [] := by
  cases s with
  | nil => simp [lines]
  | cons c rest =>
    rw [lines]
    split
    · simp
    · split <;> simp

/-- The lines of a text. -/
def splitLines (s : String) : List String := (lines s.toList).map String.ofList

/-- Texts of one list, with a comma between them. -/
def commaList (texts : List String) : String := String.intercalate ", " texts

end Lexicon.Text
