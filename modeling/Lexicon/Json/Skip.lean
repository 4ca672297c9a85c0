import Lexicon.Json.Lexical

/-!
# Passing over values

A member that nobody asked for is passed over. Its value may nest as deep as it likes: the brackets
that are open are kept in a list, and nothing but the form is checked.
-/

namespace Lexicon.Json

/-- An open bracket: of a list or of a record. -/
inductive Bracket where
  | list
  | record
deriving Repr, DecidableEq

namespace Bracket

/-- The character that closes a bracket. -/
def closing : Bracket → Char
  | list => ']'
  | record => '\x7d'

/-- What is wrong if a text ends within a bracket. -/
def endCause : Bracket → Cause
  | list => .endInList
  | record => .endInRecord

/-- What is wrong if a member is followed by neither a comma nor the end. -/
def separatorCause : Bracket → Cause
  | list => .expectedListEnd
  | record => .expectedRecordEnd

end Bracket

/-- Passes over a value that is no list and no record. -/
def skipScalar (c : Char) (s : List Char) : Except Failure { r : List Char // r.length ≤ s.length } :=
  if c = 'n' then readWord ['u', 'l', 'l'] s
  else if c = 't' then readWord ['r', 'u', 'e'] s
  else if c = 'f' then readWord ['a', 'l', 's', 'e'] s
  else if c = '-' then
    match skipNumber s with
    | .ok ⟨r, h⟩ => .ok ⟨r, Nat.le_of_lt h⟩
    | .error f => .error f
  else if Unicode.isAsciiDigit c then
    match skipNumber (c :: s) with
    | .ok ⟨r, h⟩ => .ok ⟨r, Nat.le_of_lt_succ h⟩
    | .error f => .error f
  else if c = '"' then
    match skipCharacters s (length_lt_succ s) with
    | .ok ⟨r, h⟩ => .ok ⟨r, Nat.le_of_lt_succ h⟩
    | .error f => .error f
  else .error (.next .expectedValue (c :: s))

/-- Passes over the key of a member and the colon behind it. -/
def skipKey (s : List Char) : Except Failure { r : List Char // r.length ≤ s.length } :=
  match h : skipSpace s with
  | [] => .error (.here .endInRecord [])
  | c :: rest =>
    if c = '"' then
      match skipCharacters rest (length_lt_succ rest) with
      | .error f => .error f
      | .ok ⟨r, h'⟩ =>
        match h'' : skipSpace r with
        | [] => .error (.here .endInRecord [])
        | d :: r' =>
          if d = ':' then .ok ⟨r', by
            have h₁ := skipSpace_length_le s
            have h₂ := skipSpace_length_le r
            simp only [h, h'', List.length_cons] at h₁ h₂
            omega⟩
          else .error (.next .expectedColon (d :: r'))
    else .error (.next .keyNotText (c :: rest))

mutual

/-- Passes over a value within open brackets, and over what follows up to their end. -/
def skipWithin (stack : List Bracket) {bound : Nat} (s : List Char) (h : s.length ≤ bound) :
    Except Failure { r : List Char // r.length < bound } :=
  match h₁ : skipSpace s with
  | [] => .error (.here .endInValue [])
  | c :: rest =>
    have short := skipSpace_cons_lt h₁
    if c = '[' then skipAfter (.list :: stack) false rest (by omega)
    else if c = '\x7b' then skipAfter (.record :: stack) false rest (by omega)
    else
      match skipScalar c rest with
      | .error f => .error f
      | .ok ⟨r, h₂⟩ => skipAfter stack true r (by omega)
termination_by 3 * s.length

/-- Passes over what follows a value, or the start of a list or a record if `behindValue` does not
hold. -/
def skipAfter (stack : List Bracket) (behindValue : Bool) {bound : Nat} (s : List Char)
    (h : s.length < bound) : Except Failure { r : List Char // r.length < bound } :=
  match stack with
  | [] => .ok ⟨s, h⟩
  | bracket :: outer =>
    match h₁ : skipSpace s with
    | [] => .error (.here bracket.endCause [])
    | c :: rest =>
      have short := skipSpace_cons_lt h₁
      if c = ',' && behindValue then skipMember bracket outer rest (by omega)
      else if c = bracket.closing then skipAfter outer true rest (by omega)
      else if behindValue then .error (.next bracket.separatorCause (c :: rest))
      else
        have : (c :: rest).length ≤ s.length := by
          simp only [List.length_cons]
          omega
        skipMember bracket outer (c :: rest) (by omega)
termination_by 3 * s.length + 2
decreasing_by
  · omega
  · omega
  · simp only [List.length_cons]; omega

/-- Passes over a member of a list or of a record and what follows it. -/
def skipMember (bracket : Bracket) (outer : List Bracket) {bound : Nat} (s : List Char)
    (h : s.length ≤ bound) : Except Failure { r : List Char // r.length < bound } :=
  match bracket with
  | .list => skipWithin (.list :: outer) s h
  | .record =>
    match skipKey s with
    | .error f => .error f
    | .ok ⟨r, h'⟩ => skipWithin (.record :: outer) r (by omega)
termination_by 3 * s.length + 1

end

/-- Passes over a value. -/
def skipValue (s : List Char) : Except Failure { r : List Char // r.length < s.length } :=
  skipWithin [] s (length_le_self s)

end Lexicon.Json
