import Lexicon.Dictionary.Store
import Lexicon.Display.Results
import Lexicon.Proofs.Decoding

/-!
# Documents and results that are read again

Entries are written without blanks or over several lines. A document made of such texts becomes a
dictionary of the entries, and the results of a search, written as a list, are read as what they
were.
-/

namespace Lexicon

namespace Json

/-- How a value is written: without blanks, or over several lines behind an indentation. -/
inductive Style where
  | compact
  | pretty (depth : Nat)

/-- The notation of a value in a style. -/
def Style.write : Style → Tree → List Char
  | .compact, t => t.compact
  | .pretty depth, t => t.pretty depth

/-- A text of blanks. -/
abbrev Gap := { s : List Char // Blanks s }

theorem Layout.writes {α : Type} (l : Layout α) (style : Style) (a : α) :
    Writes (l.toTree a) (style.write (l.toTree a)) := by
  cases style with
  | compact => exact l.shape.writes_compact (l.toValue a)
  | pretty depth => exact l.shape.writes_pretty (l.toValue a) depth

theorem Layout.toTree_list {α : Type} (l : Layout α) (as : List α) :
    l.list.toTree as = .list (as.map l.toTree) :=
  congrArg Tree.list (List.map_map ..)

end Json

open Json (Writes Quoted Separated Member Style Gap Blanks)

theorem Entry.layout_isDistinct : Entry.layout.shape.IsDistinct := by
  simp [Entry.layout, Headword.layout, Translation.layout, Gloss.layout, Variation.layout,
    Relation.layout, Json.Layout.list, Json.Shape.IsDistinct, Json.Members.AreDistinct,
    Json.Members.keys]

theorem Document.layout_isDistinct : Document.layout.shape.IsDistinct :=
  ⟨by simp [Json.Members.keys], Entry.layout_isDistinct, trivial⟩

theorem Display.Row.layout_isDistinct : Display.Row.layout.shape.IsDistinct :=
  ⟨by simp [Json.Members.keys], trivial, by simp [Json.Members.keys], Entry.layout_isDistinct, trivial⟩

/-- The text of an entry in a style. -/
def Entry.write (e : Entry) (style : Style) : List Char := style.write (Entry.layout.toTree e)

namespace Document

/-- The document of the texts of entries, with blanks around them. -/
def ofWords (pre gap post : Gap) (words : List (List Char)) : String :=
  "\x7b\"words\": [" ++
    String.ofList (pre.val ++ Json.joinWith (',' :: gap.val) words ++ post.val) ++ "]\x7d"

theorem toTree_eq (es : List Entry) :
    layout.toTree es = .record [("words", .list (es.map Entry.layout.toTree))] := by
  rw [← Entry.layout.toTree_list]
  rfl

/-- A document of written entries is a notation of the entries. -/
theorem writes_ofWords (pre gap post : Gap) (words : List (Entry × Style)) :
    Writes (layout.toTree (words.map Prod.fst))
      (ofWords pre gap post (words.map fun (e, style) => e.write style)).toList := by
  have hwords : List.Forall₂ Writes ((words.map Prod.fst).map Entry.layout.toTree)
      (words.map fun (e, style) => e.write style) := by
    rw [List.map_map, List.forall₂_map_left_iff, List.forall₂_map_right_iff, List.forall₂_same]
    exact fun (e, style) _ => Entry.layout.writes style e
  have hlist := Writes.list (Json.separated_joinWith hwords pre.property gap.property post.property)
  have hspace : Blanks [' '] := by simp [Blanks, Json.isSpace]
  have hmember := Member.mk (Json.quoted_writeText "words") Json.blanks_nil hspace hlist
  have hrecord := Writes.record
    (Separated.cons (.first Json.blanks_nil) hmember (.nil Json.blanks_nil))
  rw [toTree_eq]
  simpa [ofWords, Json.writeText, Json.escapedChar] using hrecord

theorem read_ofWords (name : String) (pre gap post : Gap) (words : List (Entry × Style)) :
    read name (ofWords pre gap post (words.map fun (e, style) => e.write style)) =
      .ok (words.map Prod.fst) := by
  have hdecode := Json.Layout.decode_ofList layout_isDistinct (writes_ofWords pre gap post words)
  rw [String.ofList_toList] at hdecode
  rw [read, hdecode]
  rfl

end Document

namespace Display

/-- What stands under a key of a row. -/
inductive Cell where
  | name (dictionary : String)
  | word (e : Entry)

namespace Cell

/-- The JSON value of a cell. -/
def toTree : Cell → Json.Tree
  | name dictionary => .text dictionary
  | word e => Entry.layout.toTree e

/-- The text is a notation of the cell, and that of an entry is read as the entry. -/
def Written : Cell → List Char → Prop
  | name dictionary, w => Quoted dictionary w
  | word e, w =>
    Writes (Entry.layout.toTree e) w ∧ Entry.layout.decode (String.ofList w) = .ok e

theorem written_of_writes {c : Cell} {w : List Char} (h : Writes c.toTree w) : c.Written w := by
  cases c with
  | name dictionary => exact h.quoted
  | word e => exact ⟨h, Json.Layout.decode_ofList Entry.layout_isDistinct h⟩

end Cell

/-- The cells of the row of a hit, by their keys. -/
def cells (h : Search.Hit) : List (String × Cell) :=
  [("dictionary", .name h.dictionaryName), ("word", .word h.entry)]

/-- The text is a record of the cells of a hit. -/
def WritesRow (h : Search.Hit) (w : List Char) : Prop :=
  ∃ body, w = '\x7b' :: body ++ ['\x7d'] ∧ Separated (Member Cell.Written) true (cells h) body

theorem writesRow_of_writes {h : Search.Hit} {w : List Char}
    (hw : Writes (Row.layout.toTree (Row.ofHit h)) w) : WritesRow h w := by
  obtain ⟨body, rfl, hbody⟩ := hw.exists_members
  refine ⟨body, rfl, ?_⟩
  have hcells : Separated (Member Writes) true
      ((cells h).map fun (key, c) => (key, c.toTree)) body := hbody
  refine hcells.of_map.imp fun (key, c) _ w hw => ?_
  obtain ⟨hk, hs, ht, hw⟩ := hw
  exact .mk hk hs ht (Cell.written_of_writes hw)

/-- The results are a list of one row for each hit, in the order of the hits. -/
theorem json_rows (hits : List Search.Hit) :
    ∃ body, json hits = String.ofList ('[' :: body ++ [']']) ++ "\n" ∧
      Separated WritesRow true hits body := by
  have hw := Row.layout.list.writes (.pretty 0) (hits.map Row.ofHit)
  rw [Row.layout.toTree_list, List.map_map] at hw
  obtain ⟨body, htext, hbody⟩ := hw.exists_items
  refine ⟨body, ?_, hbody.of_map.imp fun h _ w hw => writesRow_of_writes hw⟩
  rw [json, Json.Tree.toPrettyText, Row.layout.toTree_list, List.map_map, ← htext]
  rfl

theorem decode_json (hits : List Search.Hit) :
    Row.layout.list.decode (json hits) = .ok (hits.map Row.ofHit) := by
  have hw := Row.layout.list.writes (.pretty 0) (hits.map Row.ofHit)
  have hline : Blanks ['\n'] := by simp [Blanks, Json.isSpace]
  have hdecode := Json.Layout.decode_of_writes (l := Row.layout.list) Row.layout_isDistinct
    Json.blanks_nil hw hline
  rw [List.nil_append, String.ofList_append] at hdecode
  exact hdecode

end Display

/-- Writing entries and reading them go back and forth: a document of written entries becomes a
dictionary of new records of the entries in their order, and the results of a search are written as a
list of one row for each hit, of the name of its dictionary and of a notation that is read as its
entry. -/
theorem written_is_read (s : Store) (name : String) (pre gap post : Gap)
    (words : List (Entry × Style)) (hits : List Search.Hit) :
    s.ingest name (Document.ofWords pre gap post (words.map fun (e, style) => e.write style)) =
        (⟨s.dictionaries ++ [⟨⟨s.nextNumber⟩, name, s.allocate (words.map Prod.fst), true⟩],
            s.nextNumber + 1, s.nextReference + words.length⟩,
          .ok ⟨s.nextNumber⟩) ∧
      (∃ body, Display.json hits = String.ofList ('[' :: body ++ [']']) ++ "\n" ∧
        Separated Display.WritesRow true hits body) ∧
      Display.Row.layout.list.decode (Display.json hits) = .ok (hits.map Display.Row.ofHit) := by
  refine ⟨?_, Display.json_rows hits, Display.decode_json hits⟩
  have hnext : Record.above s.nextReference (s.allocate (words.map Prod.fst)) =
      s.nextReference + words.length := by
    rw [Store.allocate, Record.above_allocate, List.length_map]
  rw [Store.ingest, Document.read_ofWords, ← hnext]
  rfl

end Lexicon
