import Lexicon.Pattern.Escape

/-!
# Classes in brackets

A class in brackets holds characters, ranges, named classes and further classes in brackets, joined
by operators of set algebra. The operators have one precedence, bind weaker than standing side by
side, and group to the left. Open brackets and pending operators are kept on a stack.
-/

namespace Lexicon.Pattern

/-- Items that stand side by side, last one first, with the stretch that they cover. -/
structure SetItems where
  span : Span
  reversed : List ClassSet

namespace SetItems

/-- No items yet. -/
def none (span : Span) : SetItems := ⟨span, []⟩

/-- One more item. -/
def push (items : SetItems) (item : ClassSet) : SetItems :=
  let start := if items.reversed.isEmpty then item.span.start else items.span.start
  ⟨⟨start, item.span.stop⟩, item :: items.reversed⟩

/-- The set of the items. -/
def toSet (items : SetItems) : ClassSet :=
  match items.reversed with
  | [] => .empty items.span
  | [item] => item
  | reversed => .union items.span reversed.reverse

end SetItems

/-- What is not finished while a class is read. -/
inductive SetFrame where
  /-- A bracket was opened within the items before it. -/
  | opened (before : SetItems) (span : Span) (negated : Bool)
  /-- An operator waits for its right side. -/
  | pending (op : SetOperator) (left : ClassSet)

/-- The complaint that the innermost open bracket is not closed. -/
def unclosedClass {α : Type} (stack : List SetFrame) : Except Complaint α :=
  let spans := stack.filterMap fun
    | .opened _ span _ => some span
    | .pending _ _ => none
  complain .classUnclosed (spans.head?.getD (.point .first))

/-- Reads the hyphens that a class may begin with, as characters. -/
def readLeadingHyphens (start : Place) (c : Cursor) (items : SetItems) :
    (fuel : Nat) → Except Complaint (SetItems × Cursor)
  | 0 => .ok (items, c)
  | fuel + 1 =>
    if c.isAt '-' then
      let items := items.push (.literal ⟨c.charSpan, '-', false⟩)
      let c := c.advance
      if c.atEnd then complain .classUnclosed (.point start)
      else readLeadingHyphens start c items fuel
    else .ok (items, c)

/-- An opened class: its first items, the stretch of its opening, and whether it is negated. -/
structure Opening where
  items : SetItems
  span : Span
  negated : Bool

/-- Reads the opening of a class, with the cursor at the bracket. A closing bracket that comes first
is a character. -/
def readOpening (c : Cursor) : Except Complaint (Opening × Cursor) := do
  let start := c.place
  let c := c.advance
  if c.atEnd then complain .classUnclosed (c.since start)
  else
    let negated := c.isAt '^'
    let c := if negated then c.advance else c
    if c.atEnd then complain .classUnclosed (c.since start)
    else
      let (items, c) ← readLeadingHyphens start c (.none c.here) c.rest.length
      if items.reversed.isEmpty && c.isAt ']' then
        let items := items.push (.literal ⟨c.charSpan, ']', false⟩)
        let c := c.advance
        if c.atEnd then complain .classUnclosed (c.since start)
        else return (⟨items, c.since start, negated⟩, c)
      else return (⟨items, c.since start, negated⟩, c)

/-- Reads a class of ASCII between colons, with the cursor at its bracket. Anything else that a
bracket starts is left for others to read. -/
def readAsciiClass? (c : Cursor) : Option (ClassSet × Cursor) := do
  let start := c.place
  let inside ← c.bumpText? ['[', ':']
  let negated := inside.isAt '^'
  let inside := if negated then inside.bump else inside
  let name := inside.rest.takeWhile (· != ':')
  let behind ← inside.bumpText? name
  let c ← behind.bumpText? [':', ']']
  let kind ← AsciiClass.ofName? (String.ofList name)
  return (.ascii (c.since start) negated kind, c)

/-- Reads a character or an escape of a class. -/
def readSetPrimitive (c : Cursor) : Except Complaint (Primitive × Cursor) :=
  match c.peek? with
  | none => complain .classUnclosed c.here
  | some '\\' => readEscape c
  | some x => .ok (.literal ⟨c.charSpan, x, false⟩, c.bump)

/-- Reads a character, an escape or a range of characters. -/
def readSetItem (stack : List SetFrame) (c : Cursor) : Except Complaint (ClassSet × Cursor) := do
  let (first, c) ← readSetPrimitive c
  let c := c.skipSpace
  if c.atEnd then unclosedClass stack
  else
    let next := c.peekPastSpace?
    if !c.isAt '-' || next == some ']' || next == some '-' then return (← first.toClassSet, c)
    else
      let c := c.advance
      if c.atEnd then unclosedClass stack
      else
        let (last, c) ← readSetPrimitive c
        let span : Span := ⟨first.span.start, last.span.stop⟩
        let lo ← first.toLiteral
        let hi ← last.toLiteral
        if lo.char ≤ hi.char then return (.range span lo hi, c)
        else complain .classRangeInvalid span

/-- Finishes the operator that waits for this right side, if one does. -/
def finishOperator (right : ClassSet) : List SetFrame → ClassSet × List SetFrame
  | .pending op left :: stack =>
    (.binary ⟨left.span.start, right.span.stop⟩ op left right, stack)
  | stack => (right, stack)

/-- The operator that two characters write. -/
def setOperator? (c : Cursor) : Option SetOperator :=
  match c.rest with
  | '&' :: '&' :: _ => some .intersection
  | '-' :: '-' :: _ => some .difference
  | '~' :: '~' :: _ => some .symmetricDifference
  | _ => none

/-- Reads a class up to the bracket that closes it, given the items read so far in the innermost
bracket and what encloses them. -/
def readClassItems (c : Cursor) (items : SetItems) (stack : List SetFrame) :
    (fuel : Nat) → Except Complaint (Ast × Cursor)
  | 0 => unclosedClass stack
  | fuel + 1 =>
    let c := c.skipSpace
    if c.atEnd then unclosedClass stack
    else if c.isAt '[' then
      match if stack.isEmpty then none else readAsciiClass? c with
      | some (set, c) => readClassItems c (items.push set) stack fuel
      | none =>
        match readOpening c with
        | .error e => .error e
        | .ok (opening, c) =>
          readClassItems c opening.items (.opened items opening.span opening.negated :: stack) fuel
    else if c.isAt ']' then
      match finishOperator items.toSet stack with
      | (set, .opened before span negated :: stack) =>
        let c := c.bump
        let span := c.since span.start
        if stack.isEmpty then .ok (.bracketed span negated set, c)
        else readClassItems c (before.push (.bracketed span negated set)) stack fuel
      | _ => unclosedClass stack
    else
      match setOperator? c with
      | some op =>
        let (left, stack) := finishOperator items.toSet stack
        let c := c.bump.bump
        readClassItems c (.none c.here) (.pending op left :: stack) fuel
      | none =>
        match readSetItem stack c with
        | .error e => .error e
        | .ok (item, c) => readClassItems c (items.push item) stack fuel

/-- Reads a class in brackets, with the cursor at the opening bracket. -/
def readClass (c : Cursor) : Except Complaint (Ast × Cursor) :=
  readClassItems c (.none c.here) [] (c.rest.length + 1)

end Lexicon.Pattern
