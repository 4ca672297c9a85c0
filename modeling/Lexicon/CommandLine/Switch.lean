/-!
# Switches

Arguments are operands, and switches with or without a value. A switch has a long name, after two
hyphens, and some have a short name, after one. Short names may be run together, and a value may
stand in the same argument as the name or in the next one. Behind two hyphens that stand alone every
argument is an operand, and one hyphen that stands alone is an operand everywhere.
-/

namespace Lexicon.CommandLine

/-- A switch. -/
inductive Switch where
  | debug
  | noColor
  | field
  | strategy
  | exclude
  | json
  | count
  | details
  | init
deriving Repr, DecidableEq

namespace Switch

/-- Every switch. -/
def all : List Switch :=
  [debug, noColor, field, strategy, exclude, json, count, details, init]

/-- The long name of a switch. -/
def longName : Switch → String
  | debug => "debug"
  | noColor => "no-color"
  | field => "field"
  | strategy => "match"
  | exclude => "exclude"
  | json => "json"
  | count => "count"
  | details => "details"
  | init => "init"

/-- The short name of a switch. -/
def shortName? : Switch → Option Char
  | field => some 'f'
  | strategy => some 'm'
  | exclude => some 'x'
  | count => some 'c'
  | details => some 'd'
  | debug | noColor | json | init => none

/-- Holds of a switch that takes a value. -/
def takesValue : Switch → Bool
  | field | strategy | exclude => true
  | debug | noColor | json | count | details | init => false

/-- Holds of a switch that may be given more than once. -/
def mayRepeat : Switch → Bool
  | exclude => true
  | _ => false

end Switch

/-- A piece of the arguments. -/
inductive Item where
  | flag (switch : Switch)
  | value (switch : Switch) (text : String)
  | operand (text : String)
deriving Repr, DecidableEq

/-- What one argument says: pieces, and the switch whose value is in the next argument. -/
structure Reading where
  items : List Item
  pending : Option Switch
deriving Repr, DecidableEq

/-- Holds of an argument that names switches. -/
def namesSwitch (argument : String) : Bool :=
  match argument.toList with
  | ['-'] => false
  | '-' :: _ => true
  | _ => false

/-- Reads a long name and the value that follows it after an equals sign. -/
def readLong (allowed : List Switch) (text : List Char) : Option Reading :=
  let name := text.takeWhile (· ≠ '=')
  let value := (text.drop name.length).tail
  let isAttached := name.length < text.length
  match allowed.find? fun s => s.longName.toList = name with
  | none => none
  | some s =>
    if s.takesValue then
      if isAttached then some ⟨[.value s (String.ofList value)], none⟩ else some ⟨[], some s⟩
    else if isAttached then none
    else some ⟨[.flag s], none⟩

/-- Reads short names that are run together. The last one may have a value behind it. -/
def readShort (allowed : List Switch) : List Char → Option Reading
  | [] => some ⟨[], none⟩
  | c :: rest =>
    match allowed.find? fun s => s.shortName? = some c with
    | none => none
    | some s =>
      if s.takesValue then
        match rest with
        | [] => some ⟨[], some s⟩
        | '=' :: value => some ⟨[.value s (String.ofList value)], none⟩
        | value => some ⟨[.value s (String.ofList value)], none⟩
      else (readShort allowed rest).map fun r => { r with items := .flag s :: r.items }

/-- Reads one argument. -/
def readArgument (allowed : List Switch) (argument : String) : Option Reading :=
  if namesSwitch argument then
    match argument.toList with
    | '-' :: '-' :: text => readLong allowed text
    | _ :: text => readShort allowed text
    | [] => none
  else some ⟨[.operand argument], none⟩

/-- Reads arguments, of which the first may be the value of a switch. A value does not look like a
switch, and is never missing. -/
def readArguments (allowed : List Switch) : (pending : Option Switch) → List String →
    Option (List Item)
  | none, [] => some []
  | some _, [] => none
  | some s, argument :: rest =>
    if namesSwitch argument then none
    else (readArguments allowed none rest).map (.value s argument :: ·)
  | none, argument :: rest =>
    if argument = "--" then some (rest.map .operand)
    else
      match readArgument allowed argument with
      | none => none
      | some r => (readArguments allowed r.pending rest).map (r.items ++ ·)

namespace Item

/-- The switch of a piece. -/
def switch? : Item → Option Switch
  | flag s | value s _ => some s
  | operand _ => none

/-- The operand that a piece is. -/
def operand? : Item → Option String
  | operand text => some text
  | flag _ | value .. => none

/-- The value that a piece gives to a switch. -/
def valueOf? (s : Switch) : Item → Option String
  | value s' text => if s' = s then some text else none
  | flag _ | operand _ => none

end Item

/-- Holds if no switch is given more often than it may be. -/
def isGivenOnce (items : List Item) : Bool :=
  Switch.all.all fun s => s.mayRepeat || (items.countP fun i => i.switch? = some s) ≤ 1

/-- Holds if a switch is given. -/
def isGiven (s : Switch) (items : List Item) : Bool :=
  items.any fun i => i.switch? = some s

/-- The operands. -/
def operands (items : List Item) : List String := items.filterMap Item.operand?

/-- The values that are given to a switch. -/
def valuesOf (s : Switch) (items : List Item) : List String := items.filterMap (Item.valueOf? s)

end Lexicon.CommandLine
