import Lexicon.Json.Shape
import Lexicon.Json.Skip

/-!
# Reading values of a shape

A text is read in one pass, guided by the shape that is wanted, and the first problem in the order
of reading is the one that is reported: a value of another type at once, a member that comes twice
at its second key, a missing member at the end of its record. Members that a record does not have
are passed over. A record may also be written as the list of its members.
-/

namespace Lexicon.Json

open Unicode (isAsciiDigit)

/-- What is found where the next part of a list or of a record may stand: its closing bracket, or a
part, of whose beginning so many characters were read. -/
inductive NextPart (s : List Char) (consumed : Nat) where
  | done (rest : List Char) (h : rest.length ≤ s.length)
  | more (rest : List Char) (h : rest.length + consumed ≤ s.length)

/-- Finds the next item of a list. -/
def nextItem (isFirst : Bool) (s : List Char) : Except Failure (NextPart s 0) :=
  match h : skipSpace s with
  | [] => .error (.here .endInList [])
  | c :: rest =>
    if c = ']' then .ok (.done (c :: rest) (skipSpace_cons_lt h))
    else if isFirst then .ok (.more (c :: rest) (skipSpace_cons_lt h))
    else if c = ',' then
      match h' : skipSpace rest with
      | [] => .error (.here .endInValue [])
      | d :: rest' =>
        if d = ']' then .error (.next .trailingComma (d :: rest'))
        else .ok (.more (d :: rest') (skipSpace_cons_cons_lt h h'))
    else .error (.next .expectedListEnd (c :: rest))

/-- Finds the next key of a record and reads its opening quote. -/
def nextKey (isFirst : Bool) (s : List Char) : Except Failure (NextPart s 1) :=
  match h : skipSpace s with
  | [] => .error (.here .endInRecord [])
  | c :: rest =>
    if c = '\x7d' then .ok (.done (c :: rest) (skipSpace_cons_lt h))
    else if isFirst then
      if c = '"' then .ok (.more rest (skipSpace_cons_lt h))
      else .error (.next .keyNotText (c :: rest))
    else if c = ',' then
      match h' : skipSpace rest with
      | [] => .error (.here .endInValue [])
      | d :: rest' =>
        if d = '"' then .ok (.more rest' (skipSpace_cons_cons_lt h h'))
        else if d = '\x7d' then .error (.next .trailingComma (d :: rest'))
        else .error (.next .keyNotText (d :: rest'))
    else .error (.next .expectedRecordEnd (c :: rest))

/-- Reads the colon behind a key. -/
def readColon (s : List Char) : Except Failure { r : List Char // r.length < s.length } :=
  match h : skipSpace s with
  | [] => .error (.here .endInRecord [])
  | c :: rest =>
    if c = ':' then .ok ⟨rest, skipSpace_cons_lt h⟩
    else .error (.next .expectedColon (c :: rest))

/-- Places a failure within a record behind the end of the record, if its end comes next. -/
def Failure.placeInRecord (f : Failure) : Failure :=
  if f.isPlaced then f
  else
    match skipSpace f.rest with
    | '\x7d' :: rest => .here f.cause rest
    | rest => .here f.cause rest

/-- Places a failure within a list behind the end of the list, or behind a comma, if that comes
next. -/
def Failure.placeInList (f : Failure) : Failure :=
  if f.isPlaced then f
  else
    match skipSpace f.rest with
    | ']' :: rest => .here f.cause rest
    | ',' :: rest => .here f.cause (skipSpace rest)
    | rest => .here f.cause rest

/-- Reads a value by its first character. -/
def onFirst {α : Type}
    (read : (c : Char) → (rest : List Char) → Except Failure (Read α (rest.length + 1))) :
    Reader α := fun s =>
  match h : skipSpace s with
  | [] => .error (.here .endInValue [])
  | c :: rest =>
    match read c rest with
    | .ok r => .ok (r.within (skipSpace_cons_lt h))
    | .error f => .error f

/-- The failure that a value is of another type than the one wanted, given its first character. -/
def wrongTypeAt (wanted : String) (c : Char) (s : List Char) : Failure :=
  let word (letters : List Char) (actual : Actual) : Failure :=
    match readWord letters s with
    | .ok ⟨r, _⟩ => .here (.wrongType actual wanted) r
    | .error f => f
  let number (negative : Bool) (s : List Char) : Failure :=
    match readUnsigned negative s with
    | .ok ⟨(n, r), _⟩ => .here (.wrongType (.number n) wanted) r
    | .error f => f
  if c = 'n' then word ['u', 'l', 'l'] .null
  else if c = 't' then word ['r', 'u', 'e'] (.flag true)
  else if c = 'f' then word ['a', 'l', 's', 'e'] (.flag false)
  else if c = '-' then number true s
  else if isAsciiDigit c then number false (c :: s)
  else if c = '"' then
    match readTextBody s with
    | .ok r => .here (.wrongType (.text r.value) wanted) r.rest
    | .error f => f
  else if c = '[' then .here (.wrongType .list wanted) (c :: s)
  else if c = '\x7b' then .here (.wrongType .record wanted) (c :: s)
  else .next .expectedValue (c :: s)

/-- Reads a text. -/
def readText (wanted : String) : Reader String :=
  onFirst fun c rest =>
    if c = '"' then readTextBody rest else .error (wrongTypeAt wanted c rest)

/-- Reads a flag. -/
def readFlag : Reader Bool :=
  onFirst fun c rest =>
    let word (letters : List Char) (value : Bool) : Except Failure (Read Bool (rest.length + 1)) :=
      match readWord letters rest with
      | .ok ⟨r, h⟩ => .ok ⟨value, r, Nat.lt_succ_of_le h⟩
      | .error f => .error f
    if c = 't' then word ['r', 'u', 'e'] true
    else if c = 'f' then word ['a', 'l', 's', 'e'] false
    else .error (wrongTypeAt "a boolean" c rest)

/-- Reads a number, given its first character. -/
def readNumberAt (c : Char) (s : List Char) : Option (Except Failure (Read Number (s.length + 1))) :=
  if c = '-' then
    some <| match readUnsigned true s with
      | .ok ⟨(n, r), h⟩ => .ok ⟨n, r, Nat.lt_succ_of_le h⟩
      | .error f => .error f
  else if isAsciiDigit c then
    some <| match readDigits false c s with
      | .ok ⟨(n, r), h⟩ => .ok ⟨n, r, Nat.lt_succ_of_le h⟩
      | .error f => .error f
  else none

/-- Reads the number of a headword. The place of a number that is no integer is left open. -/
def readId : Reader Int64 :=
  onFirst fun c rest =>
    match readNumberAt c rest with
    | some (.ok r) =>
      match r.value.toInt64? with
      | some n => .ok ⟨n, r.rest, r.shorter⟩
      | none => .error (.within (.idNotInteger r.value) r.rest)
    | some (.error f) => .error f
    | none =>
      if c = '[' then
        .error (Failure.within (.wrongType .list "a JSON number") rest).placeInList
      else if c = '\x7b' then
        .error (Failure.within (.wrongType .record "a JSON number") rest).placeInRecord
      else .error (wrongTypeAt "a JSON number" c rest)

/-- Reads an integer of 32 bits. -/
def readWord32 : Reader UInt32 :=
  onFirst fun c rest =>
    match readNumberAt c rest with
    | some (.ok r) =>
      match r.value with
      | .integer n =>
        if 0 ≤ n && n < 0x100000000 then .ok ⟨UInt32.ofNat n.toNat, r.rest, r.shorter⟩
        else .error (.here (.wrongValue (.number r.value) "u32") r.rest)
      | .real .. => .error (.here (.wrongType (.number r.value) "u32") r.rest)
    | some (.error f) => .error f
    | none => .error (wrongTypeAt "u32" c rest)

/-- The index of a name, or the complaint that it is none of the names. -/
def chosen (first : String) (others : List String) (name : String) :
    Except Cause (Fin (others.length + 1)) :=
  match choiceIndex? name first others with
  | some i => .ok i
  | none => .error (.unknownVariant name (choiceNames first others))

/-- Reads a null. -/
def readNull : Reader Unit :=
  onFirst fun c rest =>
    if c = 'n' then
      match readWord ['u', 'l', 'l'] rest with
      | .ok ⟨r, h⟩ => .ok ⟨(), r, Nat.lt_succ_of_le h⟩
      | .error f => .error f
    else .error (wrongTypeAt "unit" c rest)

/-- Reads the key of a record that wraps a name, with the brace read. -/
def readWrappedName : Reader String := fun s =>
  match h : skipSpace s with
  | [] => .error (.here .endInRecord [])
  | c :: rest =>
    if c = '"' then
      match readTextBody rest with
      | .ok r => .ok (r.within (skipSpace_cons_lt h))
      | .error f => .error f
    else if c = '\x7d' then .error (.next .expectedValue (c :: rest))
    else .error (.next .keyNotText (c :: rest))

/-- Reads a name, by itself or as the key of a record whose only value is null. -/
def readChoice (first : String) (others : List String) : Reader (Fin (others.length + 1)) :=
  onFirst fun c rest =>
    if c = '"' then
      match readTextBody rest with
      | .error f => .error f
      | .ok r =>
        match chosen first others r.value with
        | .ok i => .ok ⟨i, r.rest, r.shorter⟩
        | .error cause => .error (.here cause r.rest)
    else if c = '\x7b' then
      match readWrappedName rest with
      | .error f => .error f
      | .ok key =>
        match chosen first others key.value with
        | .error cause => .error (.here cause key.rest)
        | .ok i =>
          match readColon key.rest with
          | .error f => .error f
          | .ok ⟨r, h⟩ =>
            match readNull r with
            | .error f => .error f
            | .ok content =>
              match h' : skipSpace content.rest with
              | [] => .error (.here .endInRecord [])
              | d :: behind =>
                if d = '\x7d' then .ok ⟨i, behind, by
                  have h₁ := skipSpace_cons_lt h'
                  have h₂ := content.shorter
                  have h₃ := key.shorter
                  omega⟩
                else .error (.here .expectedValue (d :: behind))
    else .error (.next .expectedValue (c :: rest))

/-- Reads the items of a list up to its end, given those so far in reverse. -/
def readItems {α : Type} (item : Reader α) (done : List α) (isFirst : Bool) {bound : Nat}
    (s : List Char) (h : s.length < bound) : Except Failure (Read (List α) bound) :=
  match nextItem isFirst s with
  | .error f => .error f
  | .ok (.done rest h₁) =>
    .ok ⟨done.reverse, rest.tail, by simp only [List.length_tail]; omega⟩
  | .ok (.more rest h₁) =>
    match item rest with
    | .error f => .error f
    | .ok r =>
      have := r.shorter
      readItems item (r.value :: done) false r.rest (by omega)
termination_by s.length
decreasing_by omega

/-- Reads a list of items. -/
def readList {α : Type} (item : Reader α) : Reader (List α) :=
  onFirst fun c rest =>
    if c = '[' then readItems item [] true rest (length_lt_succ rest)
    else .error (wrongTypeAt "a sequence" c rest)

/-- What a record does with a key: it does not have it, it has it already, or it reads its value. -/
abbrev Dispatch (σ : Type) := String → σ → Option (Except Cause (Reader σ))

/-- Reads the members of a record up to the bracket that closes it. -/
def readMembers {σ : Type} (dispatch : Dispatch σ) (slots : σ) (isFirst : Bool) {bound : Nat}
    (s : List Char) (h : s.length < bound) : Except Failure (Read σ bound) :=
  match nextKey isFirst s with
  | .error f => .error f
  | .ok (.done rest h₁) => .ok ⟨slots, rest, by omega⟩
  | .ok (.more rest h₁) =>
    match readTextBody rest with
    | .error f => .error f
    | .ok key =>
      have := key.shorter
      match dispatch key.value slots with
      | some (.error cause) => .error (.within cause key.rest)
      | none =>
        match readColon key.rest with
        | .error f => .error f
        | .ok ⟨r, h₂⟩ =>
          match skipValue r with
          | .error f => .error f
          | .ok ⟨r', h₃⟩ => readMembers dispatch slots false r' (by omega)
      | some (.ok reader) =>
        match readColon key.rest with
        | .error f => .error f
        | .ok ⟨r, h₂⟩ =>
          match reader r with
          | .error f => .error f
          | .ok value =>
            have := value.shorter
            readMembers dispatch value.value false value.rest (by omega)
termination_by s.length
decreasing_by all_goals omega

/-- Reads the end of a list whose wanted items were read. -/
def closeList (s : List Char) : Except Failure { r : List Char // r.length < s.length } :=
  match h : skipSpace s with
  | [] => .error (.here .endInList [])
  | c :: rest =>
    if c = ']' then .ok ⟨rest, skipSpace_cons_lt h⟩
    else if c = ',' then
      match skipSpace rest with
      | ']' :: rest' => .error (.next .trailingComma (']' :: rest'))
      | rest' => .error (.next .trailingCharacters rest')
    else .error (.next .trailingCharacters (c :: rest))

mutual

/-- Reads a value of a shape. -/
def Shape.read : (shape : Shape) → Reader shape.Value
  | .text => readText "a string"
  | .flag _ => readFlag
  | .id => readId
  | .word => readWord32
  | .choice first others => readChoice first others
  | .list item => readList item.read
  | .record name members =>
    onFirst fun c rest =>
      if c = '\x7b' then
        match readMembers members.dispatch members.unknown true rest (length_lt_succ rest) with
        | .error f => .error f.placeInRecord
        | .ok r =>
          match members.complete r.value with
          | .ok values =>
            .ok ⟨values, r.rest.tail, by
              have := r.shorter
              simp only [List.length_tail]
              omega⟩
          | .error key => .error (Failure.within (.missingMember key) r.rest).placeInRecord
      else if c = '[' then
        let length (n : Nat) : Cause := .wrongLength n name members.count
        match members.readInOrder length 0 true rest (length_lt_succ rest) with
        | .error f => .error f.placeInList
        | .ok r =>
          match closeList r.rest with
          | .error f => .error f
          | .ok ⟨rest', h⟩ => .ok ⟨r.value, rest', Nat.lt_trans h r.shorter⟩
      else .error (wrongTypeAt ("struct " ++ name) c rest)

/-- What members do with a key. -/
def Members.dispatch : (members : Members) → Dispatch members.Slots
  | .nil => fun _ _ => none
  | .cons key _ shape rest => fun name (slot, slots) =>
    if name = key then
      if slot.isSome then some (.error (.duplicateMember key))
      else some (.ok fun s =>
        match shape.read s with
        | .ok r => .ok ⟨(some r.value, slots), r.rest, r.shorter⟩
        | .error f => .error f)
    else
      match rest.dispatch name slots with
      | none => none
      | some (.error cause) => some (.error cause)
      | some (.ok reader) => some (.ok fun s =>
        match reader s with
        | .ok r => .ok ⟨(slot, r.value), r.rest, r.shorter⟩
        | .error f => .error f)

/-- Reads the values of members one after the other from a list, up to its end. -/
def Members.readInOrder : (members : Members) → (length : Nat → Cause) → (index : Nat) →
    (isFirst : Bool) → {bound : Nat} → (s : List Char) → s.length < bound →
    Except Failure (Read members.Values bound)
  | .nil => fun _ _ _ _ s h => .ok ⟨(), s, h⟩
  | .cons _ isRequired shape rest => fun length index isFirst _ s h =>
    match nextItem isFirst s with
    | .error f => .error f
    | .ok (.done r h₁) =>
      if isRequired then .error (.within (length index) r)
      else
        match rest.readInOrder length (index + 1) isFirst r (Nat.lt_of_le_of_lt h₁ h) with
        | .ok values => .ok ⟨(shape.fallback, values.value), values.rest, values.shorter⟩
        | .error f => .error f
    | .ok (.more r h₁) =>
      match shape.read r with
      | .error f => .error f
      | .ok value =>
        match rest.readInOrder length (index + 1) false value.rest
            (Nat.lt_trans (Nat.lt_of_lt_of_le value.shorter h₁) h) with
        | .ok values => .ok ⟨(value.value, values.value), values.rest, values.shorter⟩
        | .error f => .error f

end

/-- The value of a shape that a text is, with nothing but blanks around it. -/
def Shape.decode (shape : Shape) (text : String) : Except ReadError shape.Value :=
  let s := text.toList
  match shape.read s with
  | .error f => .error (.ofFailure s f)
  | .ok r =>
    match skipSpace r.rest with
    | [] => .ok r.value
    | rest => .error (.ofFailure s (.next .trailingCharacters rest))

/-- The name that a tree chooses: a text, or a record of that one key with null as its value. -/
def chooseFromTree (first : String) (others : List String) :
    Tree → Except Cause (Fin (others.length + 1))
  | .text name => chosen first others name
  | .record [(name, content)] => do
    let i ← chosen first others name
    match content with
    | .null => return i
    | content => .error (.wrongType (actualOf content) "unit")
  | .record _ => .error (.wrongValue .record "map with a single key")
  | t => .error (.wrongType (actualOf t) "string or map")
where
  actualOf : Tree → Actual
    | .null => .null
    | .flag b => .flag b
    | .number n => .number n
    | .text s => .text s
    | .list _ => .list
    | .record _ => .record

end Lexicon.Json
