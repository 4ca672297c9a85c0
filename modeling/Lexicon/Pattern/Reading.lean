import Lexicon.Pattern.Brackets

/-!
# Reading patterns

A pattern is read from left to right. The items of the innermost open group are collected in a row;
what encloses them waits on a stack: groups that are still open, and the branches of an alternation
that come before the current one. Once a pattern is read whole, its nesting is checked.
-/

namespace Lexicon.Pattern

/-- Items in a row, last one first, with the place where the row starts. -/
structure Row where
  start : Place
  reversed : List Ast

namespace Row

/-- One more item. -/
def push (row : Row) (item : Ast) : Row := ⟨row.start, item :: row.reversed⟩

/-- The pattern of a row that ends at a place. -/
def toAst (row : Row) (stop : Place) : Ast :=
  .ofItems ⟨row.start, stop⟩ row.reversed.reverse

end Row

/-- What is not finished while a pattern is read. -/
inductive Frame where
  /-- A group was opened behind a row, where blanks were ignored or not. -/
  | group (before : Row) (opening : Span) (kind : GroupKind) (ignoredSpace : Bool)
  /-- Branches of an alternation, last one first, and where the first starts. -/
  | alternation (start : Place) (reversed : List Ast)

/-- A reading in progress. -/
structure Progress where
  cursor : Cursor
  row : Row
  stack : List Frame
  /-- The names of groups so far, with their stretches. -/
  names : List (String × Span)

/-- Reads a decimal number, with blanks around it, if there are digits. -/
def readDecimal (c : Cursor) : Except Complaint (Nat × Cursor) :=
  let c := passBlanks c (c.rest.length + 1) Cursor.bump
  let start := c.place
  let (digits, c) := takeDigits c [] (c.rest.length + 1)
  let span := c.since start
  let c := passBlanks c (c.rest.length + 1) Cursor.advance
  if digits.isEmpty then complain .countDecimalEmpty span
  else
    let value := digits.foldl (fun n d => n * 10 + (d.toNat - '0'.toNat)) 0
    if value < 0x100000000 then .ok (value, c) else complain .decimalInvalid span
where
  passBlanks (c : Cursor) (fuel : Nat) (move : Cursor → Cursor) : Cursor :=
    match fuel with
    | 0 => c
    | fuel + 1 =>
      if c.peek?.any Unicode.isBlank then passBlanks (move c) fuel move else c
  takeDigits (c : Cursor) (done : List Char) : Nat → List Char × Cursor
    | 0 => (done.reverse, c)
    | fuel + 1 =>
      match c.peek? with
      | some d =>
        if Unicode.isAsciiDigit d then takeDigits c.advance (d :: done) fuel
        else (done.reverse, c)
      | none => (done.reverse, c)

/-- Takes the last item of a row as the body of a repetition. -/
def popBody (p : Progress) : Except Complaint (Ast × Row) :=
  match p.row.reversed with
  | [] | .empty _ :: _ | .flags _ _ :: _ => complain .repetitionMissing p.cursor.here
  | body :: rest => .ok (body, { p.row with reversed := rest })

/-- Puts a repetition in the place of its body. A mark behind it makes it lazy. -/
def pushRepetition (p : Progress) (row : Row) (body : Ast) (least : Nat) (most : Option Nat)
    (c : Cursor) : Progress :=
  let isLazy := c.isAt '?'
  let c := if isLazy then c.bump else c
  let item := .repetition ⟨body.span.start, c.place⟩ least most (!isLazy) body
  { p with cursor := c, row := row.push item }

/-- Reads a repetition of one character. -/
def readRepetition (p : Progress) (least : Nat) (most : Option Nat) :
    Except Complaint Progress := do
  let (body, row) ← popBody p
  return pushRepetition p row body least most p.cursor.bump

/-- Reads a repetition with counts in braces. -/
def readCounts (p : Progress) : Except Complaint Progress := do
  let start := p.cursor.place
  let (body, row) ← popBody p
  let c := p.cursor.advance
  if c.atEnd then complain .countUnclosed (c.since start)
  else
    let leastOrNone := readDecimal c
    let c := match leastOrNone with
      | .ok (_, c) => c
      | .error _ => afterDecimal c
    if c.atEnd then complain .countUnclosed (c.since start)
    else
      let (least, most, c) ← readBounds start leastOrNone c
      if c.isAt '}' then
        let c := c.advance
        let next := pushRepetition p row body least most c
        if most.all (least ≤ ·) then return next
        else complain .countInvalid (next.cursor.since start)
      else complain .countUnclosed (c.since start)
where
  /-- The cursor behind a number that could not be read. -/
  afterDecimal (c : Cursor) : Cursor :=
    let c := readDecimal.passBlanks c (c.rest.length + 1) Cursor.bump
    let (_, c) := readDecimal.takeDigits c [] (c.rest.length + 1)
    readDecimal.passBlanks c (c.rest.length + 1) Cursor.advance
  /-- Reads what follows the first number, with the cursor behind it. -/
  readBounds (start : Place) (first : Except Complaint (Nat × Cursor)) (c : Cursor) :
      Except Complaint (Nat × Option Nat × Cursor) := do
    if c.isAt ',' then
      let c := c.advance
      if c.atEnd then complain .countUnclosed (c.since start)
      else if c.isAt '}' then
        let (least, _) ← first
        return (least, none, c)
      else
        let (least, _) ← first
        let (most, c) ← readDecimal c
        return (least, some most, c)
    else
      let (count, _) ← first
      return (count, some count, c)

/-- Adds the row read last to the branches of the innermost alternation. -/
def pushBranch (p : Progress) : Progress :=
  let c := p.cursor
  let branch := p.row.toAst c.place
  let stack := match p.stack with
    | .alternation start branches :: rest => .alternation start (branch :: branches) :: rest
    | stack => .alternation p.row.start [branch] :: stack
  let c := c.bump
  { p with cursor := c, row := ⟨c.place, []⟩, stack }

/-- Holds of the characters that the name of a group may start with. -/
def isGroupNameStart (c : Char) : Bool :=
  c = '_' || Unicode.isAlphabetic c

/-- Holds of the characters that the name of a group may go on with. -/
def isGroupNamePart (c : Char) : Bool :=
  c = '_' || c = '.' || c = '[' || c = ']' || Unicode.isAlphanumeric c

/-- Reads the name of a group up to the bracket that closes it. -/
def readGroupName (names : List (String × Span)) (c : Cursor) :
    Except Complaint (String × Span × Cursor) := do
  let start := c.place
  let (name, c) ← go c [] (c.rest.length + 1)
  let span := c.since start
  if c.atEnd then complain .groupNameUnexpectedEnd c.here
  else if name.isEmpty then complain .groupNameEmpty (.point start)
  else
    match names.lookup name with
    | some earlier => .error ⟨.groupNameDuplicate, span, some earlier⟩
    | none => return (name, span, c.bump)
where
  go (c : Cursor) (done : List Char) : Nat → Except Complaint (String × Cursor)
    | 0 => .ok (String.ofList done.reverse, c)
    | fuel + 1 =>
      match c.peek? with
      | none => .ok (String.ofList done.reverse, c)
      | some '>' => .ok (String.ofList done.reverse, c)
      | some x =>
        if if done.isEmpty then isGroupNameStart x else isGroupNamePart x then
          go c.bump (x :: done) fuel
        else complain .groupNameInvalid c.charSpan

/-- The flag of a letter. -/
def Flag.ofLetter? : Char → Option Flag
  | 'i' => some .caseInsensitive
  | 'm' => some .multiLine
  | 's' => some .dotMatchesNewline
  | 'U' => some .swapGreed
  | 'u' => some .unicode
  | 'R' => some .crlf
  | 'x' => some .ignoreSpace
  | _ => none

/-- Reads flags up to the colon or the parenthesis that ends them, given those read so far, last
one first. -/
def readFlags (c : Cursor) (done : List FlagItem) :
    (fuel : Nat) → Except Complaint (List FlagItem × Cursor)
  | 0 => .ok (done.reverse, c)
  | fuel + 1 =>
    match c.peek? with
    | none => complain .flagUnexpectedEnd c.here
    | some x =>
      if x = ':' || x = ')' then
        match done with
        | ⟨span, none⟩ :: _ => complain .flagDanglingNegation span
        | _ => .ok (done.reverse, c)
      else
        let flag := if x = '-' then some none else (Flag.ofLetter? x).map some
        match flag with
        | none => complain .flagUnrecognized c.charSpan
        | some flag =>
          match done.find? fun item => item.flag == flag with
          | some earlier =>
            let fault := if flag.isNone then .flagRepeatedNegation else .flagDuplicate
            .error ⟨fault, c.charSpan, some earlier.span⟩
          | none =>
            let item : FlagItem := ⟨c.charSpan, flag⟩
            let c := c.bump
            if c.atEnd then complain .flagUnexpectedEnd c.here
            else readFlags c (item :: done) fuel

/-- The beginnings of groups that look around. -/
def lookArounds : List (List Char) :=
  [['?', '='], ['?', '!'], ['?', '<', '='], ['?', '<', '!']]

/-- Opens a group behind the row read so far. -/
def openGroup (p : Progress) (opening : Span) (kind : GroupKind) (ignoresSpace : Bool)
    (c : Cursor) : Progress :=
  { p with
    cursor := { c with ignoresSpace }
    row := ⟨c.place, []⟩
    stack := .group p.row opening kind p.cursor.ignoresSpace :: p.stack }

/-- Reads the opening of a group, or flags that hold for the rest of the group around them. -/
def readOpeningGroup (p : Progress) : Except Complaint Progress := do
  let opening := p.cursor.charSpan
  let c := p.cursor.advance
  if let some c := lookArounds.findSome? c.bumpText? then
    complain .lookAround (c.since opening.start)
  else if let some c := c.bumpText? ['?', 'P', '<'] <|> c.bumpText? ['?', '<'] then
    let (name, span, c) ← readGroupName p.names c
    return openGroup { p with names := (name, span) :: p.names } opening .capturing
      c.ignoresSpace c
  else if let some inside := c.bumpText? ['?'] then
    if inside.atEnd then complain .groupUnclosed opening
    else
      let (items, after) ← readFlags inside [] (inside.rest.length + 1)
      let isGroup := after.isAt ':'
      let after := after.bump
      let ignoresSpace := (flagState .ignoreSpace items).getD c.ignoresSpace
      if isGroup then return openGroup p opening (.flagged items) ignoresSpace after
      else if items.isEmpty then complain .repetitionMissing c.here
      else
        return { p with
          cursor := { after with ignoresSpace }
          row := p.row.push (.flags ⟨opening.start, after.place⟩ items) }
  else return openGroup p opening .capturing c.ignoresSpace c

/-- Closes the innermost group. -/
def closeGroup (p : Progress) : Except Complaint Progress :=
  let c := p.cursor
  let last := p.row.toAst c.place
  let finish (body : Ast) (before : Row) (opening : Span) (kind : GroupKind) (ignoredSpace : Bool)
      (stack : List Frame) : Progress :=
    let after := { c.bump with ignoresSpace := ignoredSpace }
    { p with
      cursor := after
      row := before.push (.group (after.since opening.start) kind body)
      stack }
  match p.stack with
  | .group before opening kind ignored :: stack =>
    .ok (finish last before opening kind ignored stack)
  | .alternation start branches :: .group before opening kind ignored :: stack =>
    let body := .alternation ⟨start, c.place⟩ (last :: branches).reverse
    .ok (finish body before opening kind ignored stack)
  | _ => complain .groupUnopened c.charSpan

/-- Reads one construct, with the cursor at its first character. -/
def readConstruct (p : Progress) (x : Char) : Except Complaint Progress := do
  let c := p.cursor
  let item (ast : Ast) (c : Cursor) : Progress := { p with cursor := c, row := p.row.push ast }
  match x with
  | '(' => readOpeningGroup p
  | ')' => closeGroup p
  | '|' => return pushBranch p
  | '[' =>
    let (ast, c) ← readClass c
    return item ast c
  | '?' => readRepetition p 0 (some 1)
  | '*' => readRepetition p 0 none
  | '+' => readRepetition p 1 none
  | '\x7b' => readCounts p
  | '\\' =>
    let (primitive, c) ← readEscape c
    return item primitive.toAst c
  | '.' => return item (.dot c.charSpan) c.bump
  | '^' => return item (.assertion c.charSpan .lineStart) c.bump
  | '$' => return item (.assertion c.charSpan .lineEnd) c.bump
  | x => return item (.literal ⟨c.charSpan, x, false⟩) c.bump

/-- Reads constructs to the end of the pattern. -/
def readConstructs (p : Progress) : (fuel : Nat) → Except Complaint Progress
  | 0 => .ok p
  | fuel + 1 =>
    let c := p.cursor.skipSpace
    match c.peek? with
    | none => .ok { p with cursor := c }
    | some x =>
      match readConstruct { p with cursor := c } x with
      | .ok p => readConstructs p fuel
      | .error e => .error e

/-- The pattern that a reading to the end amounts to. -/
def finishReading (p : Progress) : Except Complaint Ast :=
  let stop := p.cursor.place
  let last := p.row.toAst stop
  match p.stack with
  | [] => .ok last
  | .group _ opening _ _ :: _ => complain .groupUnclosed opening
  | .alternation start branches :: stack =>
    match stack with
    | .group _ opening _ _ :: _ => complain .groupUnclosed opening
    | _ => .ok (.alternation ⟨start, stop⟩ (last :: branches).reverse)

/-- Checks that classes stay within the limit of nesting, when `depth` nodes enclose them. -/
def checkSetNesting (depth : Nat) : ClassSet → Except Complaint Unit
  | .bracketed span _ set => enter depth span fun depth => checkSetNesting depth set
  | .union span items => enter depth span fun depth => checkAll depth items
  | .binary span _ left right => enter depth span fun depth => do
    checkSetNesting depth left
    checkSetNesting depth right
  | _ => .ok ()
where
  enter (depth : Nat) (span : Span) (inside : Nat → Except Complaint Unit) :
      Except Complaint Unit :=
    if depth < nestLimit then inside (depth + 1) else complain .nestLimitExceeded span
  checkAll (depth : Nat) : List ClassSet → Except Complaint Unit
    | [] => .ok ()
    | item :: rest =>
      match checkSetNesting depth item with
      | .error e => .error e
      | .ok () => checkAll depth rest

/-- Checks that a pattern stays within the limit of nesting, when `depth` nodes enclose it. -/
def checkNesting (depth : Nat) : Ast → Except Complaint Unit
  | .bracketed span _ set => checkSetNesting.enter depth span fun depth => checkSetNesting depth set
  | .repetition span _ _ _ body => checkSetNesting.enter depth span fun depth =>
    checkNesting depth body
  | .group span _ body => checkSetNesting.enter depth span fun depth => checkNesting depth body
  | .alternation span items => checkSetNesting.enter depth span fun depth => checkAll depth items
  | .concat span items => checkSetNesting.enter depth span fun depth => checkAll depth items
  | _ => .ok ()
where
  checkAll (depth : Nat) : List Ast → Except Complaint Unit
    | [] => .ok ()
    | item :: rest =>
      match checkNesting depth item with
      | .error e => .error e
      | .ok () => checkAll depth rest

/-- Reads a pattern. -/
def readPattern (pattern : List Char) : Except Complaint Ast := do
  let start : Progress := ⟨.first pattern, ⟨.first, []⟩, [], []⟩
  let ast ← finishReading (← readConstructs start (pattern.length + 1))
  checkNesting 0 ast
  return ast

end Lexicon.Pattern
