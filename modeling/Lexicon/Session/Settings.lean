import Lexicon.Search.Query

/-!
# Settings

What a user keeps between runs: the field and the strategy of a search that names none, whether host
predicates may run, and whether output is colored. They are kept as a JSON record.
-/

namespace Lexicon

open Json (Layout)
open Search (Field Strategy)

/-- The settings of a user. -/
structure Settings where
  defaultField : Field := .headword
  defaultStrategy : Strategy := .startsWith
  allowsHost : Bool := false
  isColored : Bool := true
deriving Repr, DecidableEq

namespace Settings

/-- The layout of settings. -/
def layout : Layout Settings where
  shape := .record "AppConfig" <|
    .cons "default_field" false Field.layout.shape <|
    .cons "default_match" false Strategy.layout.shape <|
    .cons "allow_raw_scripts" false (.flag false) <|
    .cons "color" false (.flag true) .nil
  ofValue := fun (field, strategy, allowsHost, isColored, ()) =>
    ⟨Field.layout.ofValue field, Strategy.layout.ofValue strategy, allowsHost, isColored⟩
  toValue s :=
    (Field.layout.toValue s.defaultField, Strategy.layout.toValue s.defaultStrategy, s.allowsHost,
      s.isColored, ())
  ofValue_toValue s := by simp only [Layout.ofValue_toValue]

/-- A settings file that cannot be read. -/
structure ReadFailure where
  error : Json.ReadError
deriving Repr, DecidableEq

/-- What failed, without the cause. -/
def ReadFailure.message (_ : ReadFailure) : String := "Failed to parse config file"

/-- What failed and the cause, without its place. -/
def ReadFailure.summary (f : ReadFailure) : String := s!"{f.message}: {f.error.cause.message}"

/-- The settings that a text writes. -/
def read (text : String) : Except ReadFailure Settings :=
  (layout.decode text).mapError ReadFailure.mk

/-- The text of settings. -/
def toText (s : Settings) : String := (layout.toTree s).toPrettyText

end Settings

end Lexicon
