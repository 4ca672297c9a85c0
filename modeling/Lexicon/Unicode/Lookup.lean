import Lexicon.Unicode.Age
import Lexicon.Unicode.Category
import Lexicon.Unicode.Class
import Lexicon.Unicode.Property
import Lexicon.Unicode.Script
import Lexicon.Unicode.ScriptExtension
import Lexicon.Unicode.Segmentation

/-!
# Looking up properties by name

A set of characters is asked for by one name (a binary property, a general category or a script) or
by the name of a property and one of its values. Names are compared in their loose form.
-/

namespace Lexicon.Unicode

/-- Why a look-up gives no set. -/
inductive LookupFault where
  | unknownProperty
  | unknownValue
deriving Repr, DecidableEq

/-- The loose form of a name: lower case, without blanks, hyphens, underscores and characters beyond
ASCII, and without `is` in front. Of the name `isc` the front belongs to the name. -/
def looseName (name : String) : String :=
  let keep (cs : List Char) : List Char :=
    (cs.filter fun c => c.toNat < 128 && c != ' ' && c != '_' && c != '-').map Char.toLower
  let kept := match name.toList with
    | i :: s :: rest =>
      if i.toLower = 'i' && s.toLower = 's' then
        let rest := keep rest
        if rest = ['c'] then ['i', 's', 'c'] else rest
      else keep (i :: s :: rest)
    | cs => keep cs
  String.ofList kept

/-- The names of properties that have no set here. -/
def otherProperties : List String :=
  ["bc", "bidiclass", "bidimirroringglyph", "bidipairedbracket", "bidipairedbrackettype", "blk",
   "block", "bmg", "bpb", "bpt", "canonicalcombiningclass", "casefolding", "ccc", "ce", "cf",
   "changeswhennfkccasefolded", "cjkaccountingnumeric", "cjkcompatibilityvariant", "cjkiicore",
   "cjkirggsource", "cjkirghsource", "cjkirgjsource", "cjkirgkpsource", "cjkirgksource",
   "cjkirgmsource", "cjkirgssource", "cjkirgtsource", "cjkirguksource", "cjkirgusource",
   "cjkirgvsource", "cjkothernumeric", "cjkprimarynumeric", "cjkrsunicode", "compex",
   "compositionexclusion", "cwkcf", "decompositionmapping", "decompositiontype", "dm", "dt",
   "ea", "eastasianwidth", "equideo", "equivalentunifiedideograph", "expandsonnfc",
   "expandsonnfd", "expandsonnfkc", "expandsonnfkd", "fcnfkc", "fcnfkcclosure",
   "fullcompositionexclusion", "hangulsyllabletype", "hst", "incb", "indicconjunctbreak",
   "indicpositionalcategory", "indicsyllabiccategory", "inpc", "insc", "isc", "jamoshortname",
   "jg", "joininggroup", "joiningtype", "jsn", "jt", "kaccountingnumeric",
   "kcompatibilityvariant", "kehcat", "kehdesc", "kehhg", "kehifao", "kehjsesh", "kehnomirror",
   "kehnorotate", "kiicore", "kirggsource", "kirghsource", "kirgjsource", "kirgkpsource",
   "kirgksource", "kirgmsource", "kirgssource", "kirgtsource", "kirguksource", "kirgusource",
   "kirgvsource", "kothernumeric", "kprimarynumeric", "krsunicode", "lb", "lc", "linebreak",
   "lowercasemapping", "na", "na1", "name", "namealias", "nfcqc", "nfcquickcheck", "nfdqc",
   "nfdquickcheck", "nfkccasefold", "nfkccf", "nfkcqc", "nfkcquickcheck", "nfkcscf",
   "nfkcsimplecasefold", "nfkdqc", "nfkdquickcheck", "nt", "numerictype", "numericvalue", "nv",
   "ocomment", "scf", "sfc", "simplecasefolding", "simplelowercasemapping",
   "simpletitlecasemapping", "simpleuppercasemapping", "slc", "stc", "suc", "tc",
   "titlecasemapping", "uc", "unicode1name", "unicoderadicalstroke", "uppercasemapping", "urs",
   "verticalorientation", "vo", "xonfc", "xonfd", "xonfkc", "xonfkd"]

/-- The properties whose values have names. -/
inductive ValuedProperty where
  | age
  | category
  | graphemeBreak
  | script
  | scriptExtensions
  | sentenceBreak
  | wordBreak
deriving Repr, DecidableEq

/-- The property of a loose name, if its values have names. -/
def ValuedProperty.ofName? : String → Option ValuedProperty
  | "age" => some .age
  | "gc" | "generalcategory" => some .category
  | "gcb" | "graphemeclusterbreak" => some .graphemeBreak
  | "sc" | "script" => some .script
  | "scx" | "scriptextensions" => some .scriptExtensions
  | "sb" | "sentencebreak" => some .sentenceBreak
  | "wb" | "wordbreak" => some .wordBreak
  | _ => none

/-- The set of a binary property by its loose name. -/
def binaryProperty? (name : String) : Option CharSet :=
  if ["alpha", "alphabetic"].contains name then some alphabetic
  else if ["wspace", "whitespace", "space"].contains name then some whiteSpace
  else (NamedSet.find? propertyTable name).map NamedSet.charSet

/-- The set of a general category that is no group, by its loose name. -/
def category? (name : String) : Option CharSet :=
  if ["nd", "decimalnumber", "digit"].contains name then some decimalDigit
  else if ["nl", "letternumber"].contains name then some letterNumber
  else if ["no", "othernumber"].contains name then some otherNumber
  else (NamedSet.find? categoryTable name).map NamedSet.charSet

/-- The set of a member of a group of categories. Surrogates are no characters and have no category
of their own to ask for, but in a group they close the gap between their neighbours. -/
def groupMember? (name : String) : Option CharSet :=
  if name = "cs" then some ⟨[(0xD800, 0xDFFF)]⟩ else category? name

/-- The set of a general category or of a group of them, by its loose name. -/
def generalCategory? (name : String) : Option CharSet :=
  match name with
  | "any" => some .all
  | "ascii" => some ⟨[(0, 127)]⟩
  | "assigned" => (category? "cn").map CharSet.complement
  | _ =>
    match categoryGroups.find? fun g => g.1.contains name with
    | some (_, members) => some (.unions (members.filterMap groupMember?))
    | none => category? name

/-- The set of a script by its loose name. -/
def script? (name : String) : Option CharSet :=
  (NamedSet.find? scriptTable name).map NamedSet.charSet

/-- The characters that are used with a script, by its loose name. -/
def scriptExtension? (name : String) : Option CharSet :=
  (script? name).map fun own =>
    let guests := (NamedSet.find? scriptGuests name).map NamedSet.charSet
    let leavers := (NamedSet.find? scriptLeavers name).map NamedSet.charSet
    (own.union (guests.getD .empty)).difference (leavers.getD .empty)

/-- The characters assigned in a version of Unicode or before it. -/
def age? (name : String) : Option CharSet :=
  go [] ageTable
where
  go (before : List CharSet) : List NamedSet → Option CharSet
    | [] => none
    | s :: rest =>
      let upTo := s.charSet :: before
      if s.names.contains name then some (.unions upTo) else go upTo rest

/-- The values that have a name but no set. -/
def emptyValue (property : ValuedProperty) (name : String) : Bool :=
  match property with
  | .category => ["cs", "surrogate"].contains name
  | .script | .scriptExtensions =>
    ["hrkt", "katakanaorhiragana", "zzzz", "unknown"].contains name
  | _ => false

/-- The set of the characters for which a property has a value. -/
def valueSet? (property : ValuedProperty) (value : String) : Option CharSet :=
  match property with
  | .age => age? value
  | .category => generalCategory? value
  | .graphemeBreak => (NamedSet.find? graphemeBreakTable value).map NamedSet.charSet
  | .script => script? value
  | .scriptExtensions => scriptExtension? value
  | .sentenceBreak => (NamedSet.find? sentenceBreakTable value).map NamedSet.charSet
  | .wordBreak => (NamedSet.find? wordBreakTable value).map NamedSet.charSet

/-- The set that one name asks for: of a binary property, else of a general category, else of a
script. The short names `cf`, `sc` and `lc` are those of categories, although properties have them
too. -/
def lookup (name : String) : Except LookupFault CharSet :=
  let name := looseName name
  let isProperty := otherProperties.contains name || (ValuedProperty.ofName? name).isSome
  if let some s := binaryProperty? name then .ok s
  else if isProperty && !(["cf", "sc", "lc"].contains name) then .error .unknownProperty
  else if let some s := generalCategory? name then .ok s
  else if emptyValue .category name then .error .unknownValue
  else if let some s := script? name then .ok s
  else if emptyValue .script name then .error .unknownValue
  else .error .unknownProperty

/-- The set that the name of a property and a value ask for. -/
def lookupValue (property value : String) : Except LookupFault CharSet :=
  let property := looseName property
  match ValuedProperty.ofName? property with
  | some p =>
    match valueSet? p (looseName value) with
    | some s => .ok s
    | none => .error .unknownValue
  | none =>
    if otherProperties.contains property || (binaryProperty? property).isSome then
      .error .unknownValue
    else .error .unknownProperty

end Lexicon.Unicode
