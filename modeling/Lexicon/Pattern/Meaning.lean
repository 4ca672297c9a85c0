import Lexicon.Pattern.Classes
import Lexicon.Pattern.Compose

/-!
# The meaning of written patterns

A written pattern and the flags in force where it stands give a pattern, and the flags in force
behind it.
-/

namespace Lexicon.Pattern

open Unicode

/-- What a literal matches. -/
def Flags.literal (flags : Flags) (l : Literal) : Except Complaint Pattern := do
  return .ofSet (flags.fold (.single (← flags.literalChar l)))

/-- What a dot matches: every character but the ends of lines, or every character. -/
def Flags.dot (flags : Flags) (span : Span) : Except Complaint Pattern :=
  if !flags.unicode then .error ⟨.invalidUtf8, span, none⟩
  else if flags.dotMatchesNewline then .ok (.oneOf .all)
  else if flags.crlf then .ok (.oneOf (CharSet.ofList ['\n', '\x0D']).complement)
  else .ok (.oneOf (CharSet.single '\n').complement)

/-- The condition of an assertion. -/
def Flags.look (flags : Flags) (kind : Assertion) : Look :=
  let word := if flags.unicode then wordCharacter else asciiWordCharacter
  match kind with
  | .lineStart =>
    if !flags.multiLine then .textStart else if flags.crlf then .anyLineStart else .lineStart
  | .lineEnd =>
    if !flags.multiLine then .textEnd else if flags.crlf then .anyLineEnd else .lineEnd
  | .textStart => .textStart
  | .textEnd => .textEnd
  | .wordBoundary => .wordBoundary word
  | .notWordBoundary => .notWordBoundary word
  | .wordStart => .wordStart word
  | .wordEnd => .wordEnd word
  | .wordStartHalf => .wordStartHalf word
  | .wordEndHalf => .wordEndHalf word

/-- The pattern of a written one, and the flags behind it. -/
def Ast.meaning (flags : Flags) : Ast → Except Complaint (Pattern × Flags)
  | .empty _ => .ok (.empty, flags)
  | .flags _ items => .ok (.empty, flags.switchAll items)
  | .literal l => do return (← flags.literal l, flags)
  | .dot span => do return (← flags.dot span, flags)
  | .assertion _ kind => .ok (.look (flags.look kind), flags)
  | .short span negated name => do return (.ofSet (← flags.shortSet span negated name), flags)
  | .property span negated query => do
    return (.ofSet (← flags.propertySet span negated query), flags)
  | .bracketed span negated set => do
    let s ← flags.negate span negated (flags.fold (← flags.charSet set))
    return (.ofSet s, flags)
  | .repetition _ least most isGreedy body => do
    let (p, _) ← body.meaning flags
    return (.repetition least most (isGreedy != flags.swapGreed) p, flags)
  | .group _ .capturing body => do
    let (p, _) ← body.meaning flags
    return (.capture p, flags)
  | .group _ (.flagged items) body => do
    let (p, _) ← body.meaning (flags.switchAll items)
    return (p, flags)
  | .alternation _ branches => do
    let (ps, flags) ← meanings flags [] branches
    return (.alternation ps, flags)
  | .concat _ items => do
    let (ps, flags) ← meanings flags [] items
    return (.concat ps, flags)
where
  meanings (flags : Flags) (done : List Pattern) :
      List Ast → Except Complaint (List Pattern × Flags)
    | [] => .ok (done.reverse, flags)
    | a :: rest =>
      match a.meaning flags with
      | .ok (p, flags) => meanings flags (p :: done) rest
      | .error e => .error e

end Lexicon.Pattern
