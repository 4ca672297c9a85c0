import Lexicon.Script.Expr
import Lexicon.Script.Lexer

/-!
# Parsing scripts

The grammar has four levels. A disjunction is a chain of conjunctions, a conjunction a chain of
unary phrases, and a unary phrase is a negated one, a disjunction in parentheses, a constant or a
test. A chain of one member is the member itself.

Each negation and each parenthesis spends one level of a budget, which its inner phrase does not
get back; so the budget bounds how deep phrases nest, and it is what the recursion goes down on.
-/

namespace Lexicon.Script

/-- How many negations and parentheses may enclose a phrase. -/
def maxNesting : Nat := 128

/-- An expression read from the front of some tokens, and the tokens after it. -/
structure Parsed (ts : List Placed) where
  expr : Expr
  rest : List Placed
  shorter : rest.length < ts.length

/-- A way to read an expression from the front of tokens. -/
abbrev Phrase := (ts : List Placed) → Except CompileError (Parsed ts)

/-- The members of a chain, and the tokens after it. -/
structure Members (ts : List Placed) where
  exprs : List Expr
  rest : List Placed
  shorter : rest.length < ts.length

/-- Reads the members of a chain that follow the first ones, as long as a separator stands before
them. The members read so far are given in reverse. -/
def moreMembers (separator : Token) (member : Phrase) {start : List Placed} (done : List Expr)
    (ts : List Placed) (h : ts.length < start.length) : Except CompileError (Members start) :=
  match ts with
  | [] => .ok ⟨done.reverse, [], h⟩
  | t :: rest =>
    if t.token = separator then
      match member rest with
      | .ok p =>
        have := p.shorter
        moreMembers separator member (p.expr :: done) p.rest
          (by simp only [List.length_cons] at h; omega)
      | .error e => .error e
    else .ok ⟨done.reverse, t :: rest, h⟩
termination_by ts.length
decreasing_by simp only [List.length_cons]; omega

/-- A chain of one member is that member, a longer one a node of its own. -/
def joinMembers (node : List Expr → Expr) : List Expr → Expr
  | [e] => e
  | es => node es

/-- Reads a chain of members with separators between them. -/
def chain (separator : Token) (node : List Expr → Expr) (member : Phrase) : Phrase := fun ts =>
  match member ts with
  | .error e => .error e
  | .ok first =>
    match moreMembers separator member [first.expr] first.rest first.shorter with
    | .error e => .error e
    | .ok ms => .ok ⟨joinMembers node ms.exprs, ms.rest, ms.shorter⟩

/-- Reads a disjunction of conjunctions of unary phrases. -/
def disjunction (unary : Phrase) : Phrase :=
  chain .disj .any (chain .conj .all unary)

/-- Reads what follows a field: an operator and a text, or nothing. -/
def readTest (fin : Nat) (field : Field) (t : Placed) (ts : List Placed) :
    Except CompileError (Parsed (t :: ts)) :=
  match ts with
  | ⟨offset, .operator op⟩ :: rest =>
    match op.textRelation? with
    | none => .error ⟨offset, .numericOperator op⟩
    | some relation =>
      match rest with
      | ⟨_, .text literal⟩ :: rest' =>
        .ok ⟨.test field relation literal, rest', by simp only [List.length_cons]; omega⟩
      | ⟨offset', found⟩ :: _ => .error ⟨offset', .mismatch .textLiteral found⟩
      | [] => .error ⟨fin, .missing .textLiteral⟩
  | ts => .ok ⟨.present field, ts, by simp⟩

/-- Reads what follows the name of the entry's number: a comparison and an integer. -/
def readComparison (fin : Nat) (t : Placed) (ts : List Placed) :
    Except CompileError (Parsed (t :: ts)) :=
  match ts with
  | ⟨offset, .operator op⟩ :: rest =>
    match op.comparison? with
    | none => .error ⟨offset, .textOperatorOnId op⟩
    | some comparison =>
      match rest with
      | ⟨_, .integer value⟩ :: rest' =>
        .ok ⟨.compareId comparison value, rest', by simp only [List.length_cons]; omega⟩
      | ⟨offset', found⟩ :: _ => .error ⟨offset', .mismatch .integer found⟩
      | [] => .error ⟨fin, .missing .integer⟩
  | ⟨_, found⟩ :: _ => .error ⟨t.offset, .idNotCompared found⟩
  | [] => .error ⟨fin, .missing .comparison⟩

/-- Reads a constant or a test. -/
def atom (fin : Nat) : Phrase := fun ts =>
  match ts with
  | [] => .error ⟨fin, .missing .expression⟩
  | t :: rest =>
    match t.token with
    | .constant value => .ok ⟨.const value, rest, by simp⟩
    | .name name =>
      if isIdName name then readComparison fin t rest
      else
        match Field.ofName? name with
        | some field => readTest fin field t rest
        | none => .error ⟨t.offset, .unknownField name⟩
    | found => .error ⟨t.offset, .mismatch .expression found⟩

/-- Closes the parenthesis before an expression. -/
def closeParen (fin : Nat) (t : Placed) {ts : List Placed} (p : Parsed ts) :
    Except CompileError (Parsed (t :: ts)) :=
  match h : p.rest with
  | ⟨_, .rightParen⟩ :: rest =>
    .ok ⟨p.expr, rest, by have := p.shorter; simp only [h, List.length_cons] at this ⊢; omega⟩
  | ⟨offset, found⟩ :: _ => .error ⟨offset, .mismatch .closingParen found⟩
  | [] => .error ⟨fin, .missing .closingParen⟩

/-- Reads a unary phrase with a budget of levels. -/
def unary (fin : Nat) (budget : Nat) : Phrase := fun ts =>
  match ts with
  | ⟨offset, .neg⟩ :: rest =>
    match budget with
    | 0 => .error ⟨offset, .tooDeep⟩
    | budget + 1 =>
      match unary fin budget rest with
      | .ok p => .ok ⟨.not p.expr, p.rest, Nat.lt_succ_of_lt p.shorter⟩
      | .error e => .error e
  | ⟨offset, .leftParen⟩ :: rest =>
    match budget with
    | 0 => .error ⟨offset, .tooDeep⟩
    | budget + 1 =>
      match disjunction (unary fin budget) rest with
      | .ok p => closeParen fin ⟨offset, .leftParen⟩ p
      | .error e => .error e
  | ts => atom fin ts

/-- Reads an expression that takes up all the tokens of a script with `fin` bytes. -/
def parseTokens (fin : Nat) (ts : List Placed) : Except CompileError Expr :=
  if ts.isEmpty then .error ⟨0, .emptyScript⟩
  else
    match disjunction (unary fin maxNesting) ts with
    | .error e => .error e
    | .ok p =>
      match p.rest with
      | [] => .ok p.expr
      | t :: _ => .error ⟨t.offset, .trailing t.token⟩

/-- The tree of a script. -/
def parse (source : String) : Except CompileError Expr := do
  let tokens ← tokenize source
  parseTokens source.utf8ByteSize tokens

end Lexicon.Script
