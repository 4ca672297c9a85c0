import Lexicon.Dictionary.Basic
import Lexicon.Display.Segment

/-!
# Listings of dictionaries

Every dictionary has a line with its name and the number of its entries, and the last line tells how
many dictionaries there are.
-/

namespace Lexicon.Display

open Segment (plain painted newLine)

/-- The line of a dictionary. -/
def summaryLine (s : Summary) : List Segment :=
  [painted .magenta s.name, plain ":", painted .green (toString s.size)] ++
    (if s.isIncluded then [] else [plain " (excluded)"]) ++ [newLine]

/-- The line that tells how many dictionaries there are. -/
def totalLine : Nat → String
  | 0 => "No dictionaries loaded.\n"
  | n => s!"{n} dictionaries loaded.\n"

/-- The listing of dictionaries. -/
def listing (ss : List Summary) : List Segment :=
  ss.flatMap summaryLine ++ [plain (totalLine ss.length)]

end Lexicon.Display
