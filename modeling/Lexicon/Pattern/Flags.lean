import Lexicon.Pattern.Ast

/-!
# Flags in force

The flags that hold where a part of a pattern stands. Flags set in a group hold up to its end, also
in the later branches of an alternation.
-/

namespace Lexicon.Pattern

/-- The flags that decide what a part of a pattern matches, and whether it prefers long matches. -/
structure Flags where
  caseInsensitive : Bool
  multiLine : Bool
  dotMatchesNewline : Bool
  crlf : Bool
  unicode : Bool
  swapGreed : Bool
deriving DecidableEq

namespace Flags

/-- The flags at the start of a pattern. -/
def standard : Flags := ⟨false, false, false, false, true, false⟩

/-- One flag switched. How blanks are read makes no difference once a pattern is read. -/
def switch (flags : Flags) (value : Bool) : Flag → Flags
  | .caseInsensitive => { flags with caseInsensitive := value }
  | .multiLine => { flags with multiLine := value }
  | .dotMatchesNewline => { flags with dotMatchesNewline := value }
  | .crlf => { flags with crlf := value }
  | .unicode => { flags with unicode := value }
  | .swapGreed => { flags with swapGreed := value }
  | .ignoreSpace => flags

/-- The flags after a list of switches. -/
def switchAll (flags : Flags) (items : List FlagItem) : Flags :=
  go flags true items
where
  go (flags : Flags) (value : Bool) : List FlagItem → Flags
    | [] => flags
    | item :: rest =>
      match item.flag with
      | none => go flags false rest
      | some flag => go (flags.switch value flag) value rest

end Flags

end Lexicon.Pattern
