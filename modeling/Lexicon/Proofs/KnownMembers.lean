import Lexicon.Proofs.Accepted
import Lexicon.Proofs.MemberChanges

/-!
# What is known of a document

The entries of a document are those of its tree, and they stay when the members of its records are
rearranged, however deep the records stand, or when it is written with other blanks. Without a
required member of a record that is read, there is no document.
-/

namespace Lexicon

namespace Json

section Decoding
variable {α : Type} {layout : Layout α} {t t' : Node} {text text' : String} {a : α}

/-- A text that is decoded is that of a tree. -/
theorem Layout.exists_written (hplain : layout.shape.IsPlain) (hread : layout.decode text = .ok a) :
    ∃ t, Written t text := by
  rw [Layout.decode] at hread
  cases hvalue : layout.shape.decode text with
  | ok value => exact Shape.exists_written hplain hvalue
  | error e =>
      rw [hvalue] at hread
      cases hread

/-- A text of a tree is decoded as the value of the tree. -/
theorem Written.decode_eq_ok_iff (h : Written t text) (hplain : layout.shape.IsPlain) :
    layout.decode text = .ok a ↔ (layout.shape.ofNode? t).map layout.ofValue = some a := by
  obtain ⟨pre, w, post, hpre, hw, hpost, rfl⟩ := h
  exact Layout.decode_append_eq_ok_iff (layout.shape.yields hplain hw) hpre hpost

theorem Written.exists_value (h : Written t text) (hplain : layout.shape.IsPlain)
    (hread : layout.decode text = .ok a) :
    ∃ value, layout.shape.ofNode? t = some value ∧ layout.ofValue value = a :=
  Option.map_eq_some_iff.mp ((h.decode_eq_ok_iff hplain).mp hread)

/-- What is decoded stays when the members of records are rearranged. -/
theorem Written.decode_eq_of_rearranged (h : Written t text) (h' : Written t' text')
    (hplain : layout.shape.IsPlain) (hdistinct : layout.shape.IsDistinct)
    (hchange : Rearranged layout.shape t t') (hread : layout.decode text = .ok a) :
    layout.decode text' = .ok a := by
  obtain ⟨value, hvalue, rfl⟩ := h.exists_value hplain hread
  rw [h'.decode_eq_ok_iff hplain, hchange.ofNode?_eq_some hdistinct hvalue]
  rfl

/-- Nothing is decoded without a required member, whatever was rearranged before. -/
theorem Written.decode_eq_error_of_strips {t'' : Node} (h : Written t text)
    (h' : Written t'' text') (hplain : layout.shape.IsPlain) (hdistinct : layout.shape.IsDistinct)
    (hchange : Rearranged layout.shape t t') (hstrips : Within Strips layout.shape t' t'')
    (hread : layout.decode text = .ok a) : ∃ e, layout.decode text' = .error e := by
  obtain ⟨value, hvalue, rfl⟩ := h.exists_value hplain hread
  have hnone := hstrips.ofNode?_eq_none hdistinct (hchange.ofNode?_eq_some hdistinct hvalue)
  cases hread' : layout.decode text' with
  | error e => exact ⟨e, rfl⟩
  | ok b =>
      rw [h'.decode_eq_ok_iff hplain, hnone] at hread'
      cases hread'

end Decoding

/-- A member under a key, as the writer writes the key. -/
def under (key : String) (t : Node) : List Char × Node := (key.toList.flatMap escapedChar, t)

section Writing
variable {t : Node} {w : List Char}

theorem keyed_under (key : String) (hw : Spelled t w) :
    Keyed Spelled (under key t) (writeText key ++ ':' :: w) := by
  have hkey : Letters (key.toList.flatMap escapedChar) :=
    (spells_flatMap_escapedChar key.toList).letters
  simpa [writeText, under] using Keyed.mk hkey blanks_nil blanks_nil hw

theorem fill?_under (members : Members) (slots : members.Slots) (key : String) (t : Node)
    (ms : List (List Char × Node)) : members.fill? slots (under key t :: ms) =
      (members.put? slots key t).bind fun slots => members.fill? slots ms := by
  rw [fill?_cons, under, takeMember?_of_spells (spells_flatMap_escapedChar key.toList)]

/-- The first member of a record comes first. -/
theorem fill?_under_cons {key : String} {isRequired : Bool} {shape : Shape} {rest : Members}
    {value : shape.Value} (hvalue : shape.ofNode? t = some value) (slots : rest.Slots)
    (ms : List (List Char × Node)) :
    (Members.cons key isRequired shape rest).fill? (none, slots) (under key t :: ms) =
      (Members.cons key isRequired shape rest).fill? (some value, slots) ms := by
  refine (fill?_under _ _ key t ms).trans ?_
  rw [Members.put?_key, hvalue]
  rfl

end Writing

end Json

open Json

namespace Document

theorem layout_isPlain : layout.shape.IsPlain := by
  simp [layout, Entry.layout, Headword.layout, Translation.layout, Gloss.layout, Variation.layout,
    Relation.layout, Layout.list, Shape.IsPlain, Members.ArePlain]

variable {name text : String} {es : List Entry} {e : ParseError}

theorem read_eq_ok_iff : read name text = .ok es ↔ layout.decode text = .ok es := by
  unfold read
  cases layout.decode text <;> simp [Except.mapError]

theorem exists_read_eq_error {e : ReadError} (h : layout.decode text = .error e) (name : String) :
    ∃ e, read name text = .error e := by
  rw [read, h]
  exact ⟨_, rfl⟩

/-- The document of one word. -/
def ofWord (ms : List (List Char × Node)) : Node :=
  .record [under "words" (.list [.record ms])]

theorem written_ofWord {ms : List (List Char × Node)} {w : List Char}
    (h : Separated (Keyed Spelled) true ms w) : Written (ofWord ms)
      (String.ofList ("\x7b\"words\":[\x7b".toList ++ w ++ "\x7d]\x7d".toList)) := by
  have hword := Spelled.list (.cons (.first blanks_nil) (.record h) (.nil blanks_nil))
  have hdocument := Spelled.record
    (.cons (.first blanks_nil) (keyed_under "words" hword) (.nil blanks_nil))
  refine ⟨[], _, [], blanks_nil, hdocument, blanks_nil, ?_⟩
  simp [writeText, escapedChar]

theorem within_ofWord {change} {ms ms' : List (List Char × Node)}
    (h : Within change Entry.layout.shape (.record ms) (.record ms')) :
    Within change layout.shape (ofWord ms) (ofWord ms') :=
  @Within.member _ _ _ [] [] _ _ _ "words" false _ (spells_flatMap_escapedChar _)
    (List.mem_singleton.mpr rfl) (@Within.item _ _ [] [] _ _ h)

/-- The headword of number seven. -/
def headSeven : Node := .record [under "id" (.token ['7'])]

theorem ofNode?_headSeven :
    Headword.layout.shape.ofNode? headSeven = some ((7 : Int64), "", ()) := by
  refine (Shape.ofNode?_record _ _ _).trans ?_
  rw [fill?_under]
  rfl

theorem ofNode?_seven : layout.shape.ofNode?
      (ofWord [under "entry" headSeven, under "tags" (.list [])]) =
    some ([(((7 : Int64), "", ()), [], [], [], [], [], ())], ()) := by
  have hword : Entry.layout.shape.ofNode?
      (.record [under "entry" headSeven, under "tags" (.list [])]) =
        some (((7 : Int64), "", ()), [], [], [], [], [], ()) := by
    refine (Shape.ofNode?_record _ _ _).trans ?_
    rw [Members.unknown, fill?_under_cons ofNode?_headSeven]
    exact congrArg (Option.bind · _) (fill?_under _ _ "tags" (.list []) [])
  have hlist : Entry.layout.list.shape.ofNode?
      (.list [.record [under "entry" headSeven, under "tags" (.list [])]]) =
        some [(((7 : Int64), "", ()), [], [], [], [], [], ())] := by
    show [_].mapM Entry.layout.shape.ofNode? = _
    rw [List.mapM_cons, hword]
    rfl
  refine (Shape.ofNode?_record _ _ _).trans ?_
  rw [Members.unknown, fill?_under_cons hlist]
  rfl

theorem keyed_seven :
    Keyed Spelled (under "entry" headSeven) "\"entry\":\x7b\"id\":7\x7d".toList := by
  have hid : Spelled (.token ['7']) ['7'] := .token (.number (.ofInt 7))
  exact keyed_under "entry"
    (.record (.cons (.first blanks_nil) (keyed_under "id" hid) (.nil blanks_nil)))

end Document

/-- Loading depends on the known members of a document only. A text that can be read is that of a
tree. Whatever is rearranged in the tree, and whatever blanks it is written with, the text has the
same entries; and it has none once a required member is gone. -/
theorem known_members_decide {name text : String} {es : List Entry}
    (h : Document.read name text = .ok es) :
    (∃ t, Written t text) ∧
      ∀ t, Written t text → ∀ t', Rearranged Document.layout.shape t t' →
        (∀ text', Written t' text' → Document.read name text' = .ok es ∧
          ∀ s : Store, s.ingest name text' = s.ingest name text) ∧
        ∀ t'' text'', Within Strips Document.layout.shape t' t'' → Written t'' text'' →
          ∃ e, Document.read name text'' = .error e ∧
            ∀ s : Store, s.ingest name text'' = (s, .error e) := by
  have hplain := Document.layout_isPlain
  have hdistinct := Document.layout_isDistinct
  have hread := Document.read_eq_ok_iff.mp h
  refine ⟨Layout.exists_written hplain hread, fun t ht t' hchange => ⟨fun text' ht' => ?_, ?_⟩⟩
  · have hread' : Document.read name text' = .ok es :=
      Document.read_eq_ok_iff.mpr (ht.decode_eq_of_rearranged ht' hplain hdistinct hchange hread)
    exact ⟨hread', fun s => by rw [Store.ingest, Store.ingest, hread', h]⟩
  · intro t'' text'' hstrips ht''
    obtain ⟨_, hfail⟩ := ht.decode_eq_error_of_strips ht'' hplain hdistinct hchange hstrips hread
    obtain ⟨e, he⟩ := Document.exists_read_eq_error hfail name
    exact ⟨e, he, fun s => by rw [Store.ingest, he]⟩

/-- Tags that are none may go, and another member may come, but the headword has to stay. -/
theorem known_members_decide_seven :
    Document.read "Dict" "\x7b\"words\":[\x7b\"entry\":\x7b\"id\":7\x7d,\"tags\":[]\x7d]\x7d" =
        .ok [.ofForm 7 ""] ∧
      Document.read "Dict" "\x7b\"words\":[\x7b \"of\":null, \"entry\":\x7b\"id\":7\x7d\x7d]\x7d" =
        .ok [.ofForm 7 ""] ∧
      ∃ e, Document.read "Dict" "\x7b\"words\":[\x7b\"of\":null\x7d]\x7d" = .error e := by
  have hspace : Blanks [' '] := by simp [Blanks, isSpace]
  have htags := keyed_under "tags" (.list (.nil blanks_nil))
  have hof := keyed_under "of" (.token .null)
  have ht := Document.written_ofWord (.cons (.first blanks_nil) Document.keyed_seven
    (.cons (.later blanks_nil blanks_nil) htags (.nil blanks_nil)))
  have ht' := Document.written_ofWord (.cons (.first hspace) hof
    (.cons (.later blanks_nil hspace) Document.keyed_seven (.nil blanks_nil)))
  have ht'' := Document.written_ofWord (.cons (.first blanks_nil) hof (.nil blanks_nil))
  have hread : Document.read "Dict" _ = .ok [.ofForm 7 ""] :=
    Document.read_eq_ok_iff.mpr ((ht.decode_eq_ok_iff Document.layout_isPlain).mpr
      (congrArg (Option.map Document.layout.ofValue) Document.ofNode?_seven))
  have hremoved : Within Rearranges Entry.layout.shape
      (.record [under "entry" Document.headSeven, under "tags" (.list [])])
      (.record [under "entry" Document.headSeven]) :=
    .here (@Rearranges.removed_list _ _ _ [under "entry" Document.headSeven] [] .text
      (spells_flatMap_escapedChar "tags".toList) (by simp [Members.toList]))
  have hinserted : Within Rearranges Entry.layout.shape
      (.record [under "entry" Document.headSeven])
      (.record [under "of" (.token "null".toList), under "entry" Document.headSeven]) :=
    .here (@Rearranges.inserted _ [] _ _ _ "of"
      (spells_flatMap_escapedChar "of".toList) (by simp [Members.keys]))
  have hstripped : Within Strips Entry.layout.shape
      (.record [under "of" (.token "null".toList), under "entry" Document.headSeven])
      (.record [under "of" (.token "null".toList)]) :=
    .here (@Strips.mk _ [under "of" (.token "null".toList)] [] _ _ "entry" Headword.layout.shape
      (spells_flatMap_escapedChar "entry".toList) (by simp [Members.toList]))
  have hchange : Rearranged Document.layout.shape _ _ :=
    .head (Document.within_ofWord hremoved) (.single (Document.within_ofWord hinserted))
  obtain ⟨hkept, hgone⟩ := (known_members_decide hread).2 _ ht _ hchange
  obtain ⟨e, he, -⟩ := hgone _ _ (Document.within_ofWord hstripped) ht''
  exact ⟨hread, (hkept _ ht').1, e, he⟩

end Lexicon
