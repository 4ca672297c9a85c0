/-!
# Files

A path is a sequence of names. The names are walked from left to right, each in the directory that
was reached, and the walk fails at the first name that does not lead on. The name under which a
dictionary is shown is the last one of its path.
-/

namespace Lexicon.CommandLine

/-- Why a file cannot be read. -/
inductive FileFault where
  | missing
  | notDirectory
  | isDirectory
  /-- Any other reason, in the words of the system. -/
  | other (message : String)
deriving Repr, DecidableEq

/-- The wording of a fault. -/
def FileFault.message : FileFault → String
  | missing => "No such file or directory (os error 2)"
  | notDirectory => "Not a directory (os error 20)"
  | isDirectory => "Is a directory (os error 21)"
  | other message => message

/-- The parts of a path between its slashes. -/
def pathParts : List Char → List (List Char)
  | [] => [[]]
  | c :: rest =>
    match c, pathParts rest with
    | '/', parts => [] :: parts
    | c, part :: parts => (c :: part) :: parts
    | c, [] => [[c]]

/-- The names of a path. Empty parts and single dots do not count. -/
def pathNames (path : String) : List String :=
  ((pathParts path.toList).filter fun part => part ≠ [] && part ≠ ['.']).map String.ofList

/-- Holds of a path that leads to a directory or nowhere: it ends in a slash or in a single dot. -/
def wantsDirectory (path : String) : Bool :=
  match (pathParts path.toList).getLast? with
  | some [] | some ['.'] => true
  | _ => false

/-- The name under which the dictionary of a path is shown. -/
def displayName (path : String) : String :=
  match (pathNames path).getLast? with
  | some name => if name = ".." then path else name
  | none => path

/-- The files below one directory, by the names of their paths from there. -/
structure Tree where
  files : List (List String × List UInt8)

namespace Tree

/-- The tree of files that are given by their paths. -/
def ofFiles (files : List (String × List UInt8)) : Tree :=
  ⟨files.map fun (path, content) => (pathNames path, content)⟩

/-- Where a walk has come to. -/
inductive Place where
  /-- So many directories above the one of the tree. -/
  | above (levels : Nat)
  /-- A directory, given by its names in reverse. -/
  | directory (names : List String)
  | file (content : List UInt8)

/-- The place of names, given in reverse. -/
def placeOf? (t : Tree) (names : List String) : Option Place :=
  match t.files.lookup names.reverse with
  | some content => some (.file content)
  | none =>
    if t.files.any fun (path, _) => names.reverse.isPrefixOf path then some (.directory names)
    else none

/-- Takes one step of a walk. -/
def step (t : Tree) (name : String) : Place → Except FileFault Place
  | .file _ => .error .notDirectory
  | .above levels => if name = ".." then .ok (.above (levels + 1)) else .error .missing
  | .directory names =>
    if name = ".." then
      match names with
      | [] => .ok (.above 1)
      | _ :: names => .ok (.directory names)
    else
      match t.placeOf? (name :: names) with
      | some place => .ok place
      | none => .error .missing

/-- Reads the file of a path. A path that begins with a slash leads out of the tree. -/
def read (t : Tree) (path : String) : Except FileFault (List UInt8) :=
  let start : Place := if path.toList.head? = some '/' then .above 1 else .directory []
  match (pathNames path).foldlM (fun place name => t.step name place) start with
  | .error fault => .error fault
  | .ok (.file content) => if wantsDirectory path then .error .notDirectory else .ok content
  | .ok _ => .error .isDirectory

end Tree

end Lexicon.CommandLine
