import Lexicon.Display.Listing
import Lexicon.Display.Results
import Lexicon.Proofs.Texts

/-!
# Colors on a terminal

A terminal takes characters one by one. Escape sequences change the look of what follows and are not
shown themselves. What is written in color shows the same text as what is written without, and it
leaves the terminal at rest behind every segment, so that a color reaches no further than the segment
that is painted in it.
-/

namespace Lexicon.Display

open Search (Hit)
open Segment (plain painted newLine)

/-- How a terminal shows text. -/
structure Look where
  color : Option Color := none
  isBold : Bool := false
deriving Repr, DecidableEq

/-- The look that the parameters of a sequence select. Others than these leave it as it is. -/
def Look.select (l : Look) (parameters : List Char) : Look :=
  if parameters = [] ∨ parameters = ['0'] then {}
  else if parameters = ['1'] then { l with isBold := true }
  else
    match [Color.red, .green, .magenta, .cyan].find? fun color => color.code = parameters with
    | some color => { l with color := some color }
    | none => l

/-- What a terminal has read of an escape sequence. -/
inductive Pending where
  | nothing
  | escape
  | control (parameters : List Char)
deriving Repr, DecidableEq

/-- The state of a terminal. -/
structure Terminal where
  look : Look := {}
  pending : Pending := .nothing
deriving Repr, DecidableEq

/-- Holds of the characters that end a control sequence. -/
def endsControl (c : Char) : Bool := '@' ≤ c && c ≤ '~'

namespace Terminal

/-- The terminal after a character. Behind the escape character, a bracket opens a control sequence
and any other character ends the sequence. A control sequence that ends in an `m` changes the look. -/
def read (t : Terminal) (c : Char) : Terminal :=
  match t.pending with
  | .nothing => if c = '\x1b' then { t with pending := .escape } else t
  | .escape => { t with pending := if c = '[' then .control [] else .nothing }
  | .control parameters =>
    if endsControl c then ⟨if c = 'm' then t.look.select parameters else t.look, .nothing⟩
    else { t with pending := .control (parameters ++ [c]) }

/-- What the terminal shows of a character: the character in its look, unless it belongs to an escape
sequence. -/
def shows? (t : Terminal) (c : Char) : Option (Char × Look) :=
  if t.pending = .nothing ∧ c ≠ '\x1b' then some (c, t.look) else none

/-- The terminal after characters. -/
def run (t : Terminal) (cs : List Char) : Terminal := cs.foldl read t

/-- What the terminal shows of characters. -/
def shown (t : Terminal) : List Char → List (Char × Look)
  | [] => []
  | c :: cs => (t.shows? c).toList ++ (t.read c).shown cs

end Terminal

/-- A text without its escape sequences. -/
def withoutEscapes (s : String) : String :=
  String.ofList ((({} : Terminal).shown s.toList).map Prod.fst)

namespace Segment

/-- The look of a segment: that of its paint. -/
def look (s : Segment) : Look :=
  match s.paint with
  | some paint => ⟨some paint.color, paint.isBold⟩
  | none => {}

/-- The characters of a segment, in its look. -/
def cells (s : Segment) : List (Char × Look) := s.text.toList.map fun c => (c, s.look)

end Segment

/-- A text has no escape character. -/
def HasNoEscape (s : String) : Prop := '\x1b' ∉ s.toList

/-- Color makes no difference to the text of segments. The given texts are those that may be painted. -/
structure ColorsOnly (segments : List Segment) (given : String → Prop) : Prop where
  text : withoutEscapes (render true segments) = render false segments
  /-- Every character is shown in the paint of its segment, and without color if that has none. -/
  looks : ({} : Terminal).shown (render true segments).toList = segments.flatMap Segment.cells
  /-- In front of every segment, and behind the last one, no color is active. -/
  atRest : ∀ before after, segments = before ++ after →
    ({} : Terminal).run (render true before).toList = {}
  /-- The line breaks in color are those of a given text, which is painted with or without brackets. -/
  lineBreaks : ∀ s ∈ segments, s.paint ≠ none → '\n' ∈ s.text.toList →
    ∃ t, given t ∧ (s.text = t ∨ s.text = "[" ++ t ++ "]")

section Terminals
variable {t t' t'' : Terminal} {cs ds : List Char} {xs ys : List (Char × Look)}

/-- A terminal shows characters in some looks, and gets into another state. -/
structure Terminal.Prints (t : Terminal) (cs : List Char) (xs : List (Char × Look)) (t' : Terminal) :
    Prop where
  shown : t.shown cs = xs
  run : t.run cs = t'

theorem Terminal.prints_nil (t : Terminal) : t.Prints [] [] t := ⟨rfl, rfl⟩

theorem Terminal.Prints.cons {c : Char} {x : Option (Char × Look)} (hread : t.read c = t')
    (hshows : t.shows? c = x) (h : t'.Prints cs xs t'') :
    t.Prints (c :: cs) (x.toList ++ xs) t'' := by
  subst hread hshows
  exact ⟨congrArg (_ ++ ·) h.shown, h.run⟩

theorem Terminal.Prints.append (h : t.Prints cs xs t') (h' : t'.Prints ds ys t'') :
    t.Prints (cs ++ ds) (xs ++ ys) t'' := by
  induction cs generalizing t xs with
  | nil =>
      obtain ⟨rfl, rfl⟩ := h
      exact h'
  | cons c cs ih =>
      obtain ⟨rfl, rfl⟩ := h
      rw [Terminal.shown, List.append_assoc]
      exact .cons rfl rfl (ih ⟨rfl, rfl⟩)

/-- Outside of escape sequences, text is shown as it is. -/
theorem Terminal.prints_text (l : Look) (h : '\x1b' ∉ cs) :
    (⟨l, .nothing⟩ : Terminal).Prints cs (cs.map fun c => (c, l)) ⟨l, .nothing⟩ := by
  induction cs with
  | nil => exact prints_nil _
  | cons c cs ih =>
      obtain ⟨hc, hcs⟩ := not_or.mp (mt List.mem_cons.mpr h)
      have hread : (⟨l, .nothing⟩ : Terminal).read c = ⟨l, .nothing⟩ := if_neg (Ne.symm hc)
      exact .cons hread (if_pos ⟨rfl, Ne.symm hc⟩) (ih hcs)

/-- The rest of a control sequence is read up to its end. -/
theorem Terminal.prints_parameters (l : Look) (before : List Char)
    (h : ∀ c ∈ cs, endsControl c = false) :
    (⟨l, .control before⟩ : Terminal).Prints (cs ++ ['m']) []
      ⟨l.select (before ++ cs), .nothing⟩ := by
  induction cs generalizing before with
  | nil =>
      rw [List.append_nil]
      exact ⟨rfl, rfl⟩
  | cons c cs ih =>
      obtain ⟨hc, hcs⟩ := List.forall_mem_cons.mp h
      have hread : (⟨l, .control before⟩ : Terminal).read c = ⟨l, .control (before ++ [c])⟩ := by
        simp [Terminal.read, hc]
      have hrest := ih (before ++ [c]) hcs
      rw [List.append_assoc, List.singleton_append] at hrest
      exact .cons hread rfl hrest

/-- An escape sequence is not shown. It selects a look. -/
theorem Terminal.prints_escapeSequence (l : Look) (h : ∀ c ∈ cs, endsControl c = false) :
    (⟨l, .nothing⟩ : Terminal).Prints (escapeSequence cs) [] ⟨l.select cs, .nothing⟩ := by
  have hbracket :
      (⟨l, .escape⟩ : Terminal).Prints ('[' :: (cs ++ ['m'])) [] ⟨l.select cs, .nothing⟩ :=
    .cons rfl rfl (prints_parameters l [] h)
  exact .cons rfl rfl hbracket

theorem Terminal.prints_reset (l : Look) :
    (⟨l, .nothing⟩ : Terminal).Prints resetSequence [] {} :=
  prints_escapeSequence l (by simp [endsControl])

theorem endsControl_code (color : Color) : ∀ c ∈ color.code, endsControl c = false := by
  cases color <;> simp [Color.code, endsControl]

theorem select_code (l : Look) (color : Color) :
    l.select color.code = { l with color := some color } := by
  cases color <;> rfl

theorem Terminal.prints_paint (paint : Paint) :
    ({} : Terminal).Prints paint.sequence [] ⟨⟨some paint.color, paint.isBold⟩, .nothing⟩ := by
  -- The sequence starts with a reset, so the color is added to the look at rest or to a bold one.
  have hcode (l : Look) := prints_escapeSequence l (endsControl_code paint.color)
  have hreset := prints_reset {}
  rw [Paint.sequence]
  cases hbold : paint.isBold with
  | false =>
      rw [← select_code {}]
      exact (hreset.append (prints_nil _)).append (hcode {})
  | true =>
      have hset : Terminal.Prints {} (escapeSequence ['1']) [] ⟨{ isBold := true }, .nothing⟩ :=
        prints_escapeSequence {} (by simp [endsControl])
      rw [← select_code { isBold := true }]
      exact (hreset.append hset).append (hcode _)

/-- A segment in color is shown in its look, and leaves no color behind. -/
theorem Terminal.prints_written {s : Segment} (h : HasNoEscape s.text) :
    ({} : Terminal).Prints (s.written true) s.cells {} := by
  obtain ⟨paint, text⟩ := s
  cases paint with
  | none => exact prints_text {} h
  | some paint =>
      have hshown := ((prints_paint paint).append (prints_text _ h)).append (prints_reset _)
      rwa [List.append_nil] at hshown

theorem Terminal.prints_segments {segments : List Segment}
    (h : ∀ s ∈ segments, HasNoEscape s.text) :
    ({} : Terminal).Prints (segments.flatMap (Segment.written true))
      (segments.flatMap Segment.cells) {} := by
  induction segments with
  | nil => exact prints_nil _
  | cons s segments ih =>
      obtain ⟨hs, hsegments⟩ := List.forall_mem_cons.mp h
      rw [List.flatMap_cons, List.flatMap_cons]
      exact (prints_written hs).append (ih hsegments)

end Terminals

section Soundness
variable {segments : List Segment} {given : String → Prop} {isColored : Bool}

/-- A segment may be written in color: it has no escape character, and its line breaks, if it is
painted, are those of a given text. -/
structure IsSound (given : String → Prop) (s : Segment) : Prop where
  noEscape : HasNoEscape s.text
  lineBreaks (hpaint : s.paint ≠ none) (h : '\n' ∈ s.text.toList) :
    ∃ t, given t ∧ (s.text = t ∨ s.text = "[" ++ t ++ "]")

theorem toList_render (isColored : Bool) (segments : List Segment) :
    (render isColored segments).toList = segments.flatMap (Segment.written isColored) :=
  String.toList_ofList

theorem map_fst_cells (segments : List Segment) :
    (segments.flatMap Segment.cells).map Prod.fst = segments.flatMap (Segment.written false) := by
  rw [List.map_flatMap]
  congr 1
  funext s
  exact (List.map_map ..).trans (List.map_id _)

theorem colorsOnly_of_sound (h : ∀ s ∈ segments, IsSound given s) : ColorsOnly segments given := by
  have hescape : ∀ s ∈ segments, HasNoEscape s.text := fun s hs => (h s hs).noEscape
  have hshown : ({} : Terminal).shown (render true segments).toList =
      segments.flatMap Segment.cells := by
    rw [toList_render]
    exact (Terminal.prints_segments hescape).shown
  refine ⟨?_, hshown, ?_, fun s hs => (h s hs).lineBreaks⟩
  · rw [withoutEscapes, hshown, map_fst_cells, render]
  · rintro before after rfl
    rw [toList_render]
    exact (Terminal.prints_segments fun s hs => hescape s (List.mem_append_left _ hs)).run

theorem isSound_plain {text : String} (h : HasNoEscape text) : IsSound given (plain text) :=
  ⟨h, fun hpaint => absurd rfl hpaint⟩

theorem isSound_painted {text : String} (paint : Paint) (h : HasNoEscape text)
    (hgiven : '\n' ∈ text.toList → given text) : IsSound given ⟨some paint, text⟩ :=
  ⟨h, fun _ hbreak => ⟨text, hgiven hbreak, .inl rfl⟩⟩

theorem isSound_newLine : IsSound given newLine := isSound_plain (by simp [HasNoEscape])

end Soundness

section Texts
variable {s t : String} {c : Char}

theorem HasNoEscape.append (hs : HasNoEscape s) (ht : HasNoEscape t) : HasNoEscape (s ++ t) := by
  rw [HasNoEscape, String.toList_append, List.mem_append]
  exact not_or.mpr ⟨hs, ht⟩

theorem mem_intercalate {separator : List Char} {texts : List (List Char)}
    (h : c ∈ separator.intercalate texts) : c ∈ separator ∨ ∃ text ∈ texts, c ∈ text := by
  induction texts with
  | nil => simp at h
  | cons text texts ih =>
      cases texts with
      | nil => exact .inr ⟨text, List.mem_cons_self, by simpa using h⟩
      | cons next texts =>
          rw [List.intercalate_cons_cons, List.mem_append, List.mem_append] at h
          rcases h with (h | h) | h
          · exact .inr ⟨text, List.mem_cons_self, h⟩
          · exact .inl h
          · exact (ih h).imp_right fun ⟨t, ht, hc⟩ => ⟨t, List.mem_cons_of_mem _ ht, hc⟩

theorem hasNoEscape_intercalate {separator : String} {texts : List String}
    (hseparator : HasNoEscape separator) (h : ∀ text ∈ texts, HasNoEscape text) :
    HasNoEscape (String.intercalate separator texts) := by
  intro hc
  rw [String.toList_intercalate] at hc
  rcases mem_intercalate hc with hc | ⟨_, htext, hc⟩
  · exact hseparator hc
  · obtain ⟨text, hmem, rfl⟩ := List.mem_map.mp htext
    exact h text hmem hc

theorem hasNoEscape_commaList {texts : List String} (h : ∀ text ∈ texts, HasNoEscape text) :
    HasNoEscape (Text.commaList texts) :=
  hasNoEscape_intercalate (by simp [HasNoEscape]) h

/-- The lines of a text hold nothing but its characters. -/
theorem mem_of_mem_lines {s line : List Char} (hline : line ∈ Text.lines s) (hc : c ∈ line) :
    c ∈ s := by
  induction s generalizing line with
  | nil =>
      obtain rfl := List.mem_singleton.mp hline
      exact hc
  | cons d rest ih =>
      rw [Text.lines] at hline
      split at hline
      · rcases List.mem_cons.mp hline with rfl | hline
        · cases hc
        · exact List.mem_cons_of_mem _ (ih hline hc)
      · split at hline
        · rename_i hlines
          exact absurd hlines (Text.lines_ne_nil rest)
        · rename_i first more hlines
          rw [hlines] at ih
          rcases List.mem_cons.mp hline with rfl | hline
          · rcases List.mem_cons.mp hc with rfl | hc
            · exact List.mem_cons_self
            · exact List.mem_cons_of_mem _ (ih List.mem_cons_self hc)
          · exact List.mem_cons_of_mem _ (ih (List.mem_cons_of_mem _ hline) hc)

theorem hasNoEscape_of_mem_splitLines {line : String} (h : HasNoEscape s)
    (hline : line ∈ Text.splitLines s) : HasNoEscape line := by
  obtain ⟨chars, hchars, rfl⟩ := List.mem_map.mp hline
  rw [HasNoEscape, String.toList_ofList]
  exact fun hc => h (mem_of_mem_lines hchars hc)

theorem isDigit_of_mem_toString {n : Nat} (h : c ∈ (toString n).toList) : c.isDigit = true := by
  rw [Nat.toString_eq_repr, Nat.repr_eq_ofList_toDigits, String.toList_ofList] at h
  exact Nat.isDigit_of_mem_toDigits (by decide) (by decide) h

theorem hasNoEscape_toString (n : Nat) : HasNoEscape (toString n) := by
  intro h
  have hdigit := isDigit_of_mem_toString h
  simp at hdigit

end Texts

/-- The text is a label of the entry. -/
def IsLabel (e : Entry) (s : String) : Prop :=
  ∃ l ∈ [Location.translationLabel, .glossLabel, .variationLabel, .relationLabel], l.Carries e s

/-- The hit has the text: as the name of its dictionary, or anywhere in its entry. -/
def IsTextOf (h : Hit) (s : String) : Prop :=
  s = h.dictionaryName ∨ ∃ l : Location, l.Carries h.entry s

/-- The text of the hit may be painted: the name of its dictionary, the form of the headword, and its
labels. -/
def MayBePainted (h : Hit) (s : String) : Prop :=
  s = h.dictionaryName ∨ s = h.form ∨ IsLabel h.entry s

section Results
variable {given : String → Prop} {name text : String} {e : Entry} {h : Hit} {s : Segment}

theorem isSound_of_mem_label (hname : HasNoEscape name) (hgiven : '\n' ∈ name.toList → given name)
    (hs : s ∈ label name) : IsSound given s := by
  have hindent : IsSound given (plain "    ") := isSound_plain (by simp [HasNoEscape])
  rw [label] at hs
  split at hs
  · exact List.mem_singleton.mp hs ▸ hindent
  · simp only [List.mem_cons, List.not_mem_nil, or_false] at hs
    rcases hs with rfl | rfl | rfl
    · exact hindent
    · have hescape : HasNoEscape ("[" ++ name ++ "]") :=
        (HasNoEscape.append (by simp [HasNoEscape]) hname).append (by simp [HasNoEscape])
      refine ⟨hescape, fun _ hbreak => ⟨name, hgiven ?_, .inr rfl⟩⟩
      simpa [painted] using hbreak
    · exact isSound_plain (by simp [HasNoEscape])

theorem isSound_of_mem_detail (hname : HasNoEscape name) (hgiven : '\n' ∈ name.toList → given name)
    (htext : HasNoEscape text) (hs : s ∈ detail name text) : IsSound given s := by
  simp only [detail, List.mem_append, List.mem_cons, List.not_mem_nil, or_false] at hs
  rcases hs with hs | rfl | rfl
  · exact isSound_of_mem_label hname hgiven hs
  · exact isSound_plain htext
  · exact isSound_newLine

theorem isSound_of_mem_glossDetail {g : Gloss} (hlabel : HasNoEscape g.label)
    (hgiven : given g.label) (htext : HasNoEscape g.text) (hs : s ∈ glossDetail g) :
    IsSound given s := by
  have hline (line : String) (hmem : line ∈ Text.splitLines g.text) : HasNoEscape line :=
    hasNoEscape_of_mem_splitLines htext hmem
  rw [glossDetail] at hs
  split at hs
  · exact isSound_of_mem_detail hlabel (fun _ => hgiven) (by simp [HasNoEscape]) hs
  · rename_i first more hlines
    rw [hlines] at hline
    rcases List.mem_append.mp hs with hs | hs
    · exact isSound_of_mem_detail hlabel (fun _ => hgiven) (hline _ List.mem_cons_self) hs
    · obtain ⟨later, hmem, hs⟩ := List.mem_flatMap.mp hs
      simp only [List.mem_cons, List.not_mem_nil, or_false] at hs
      rcases hs with rfl | rfl
      · have hlater := hline later (List.mem_cons_of_mem _ hmem)
        exact isSound_plain (HasNoEscape.append (by simp [HasNoEscape]) hlater)
      · exact isSound_newLine

/-- The details of an entry without escape characters are sound. -/
theorem isSound_of_mem_details (hclean : ∀ l t, Location.Carries e l t → HasNoEscape t)
    (hgiven : ∀ t, IsLabel e t → given t) (hs : s ∈ details e) : IsSound given s := by
  simp only [details, List.mem_append, List.mem_flatMap] at hs
  rcases hs with (((⟨t, ht, hs⟩ | hs) | ⟨g, hg, hs⟩) | ⟨v, hv, hs⟩) | ⟨r, hr, hs⟩
  · have hlabel := Location.Carries.translationLabel ht
    refine isSound_of_mem_detail (hclean _ _ hlabel) (fun _ => hgiven _ ⟨_, by simp, hlabel⟩) ?_ hs
    exact hasNoEscape_commaList fun form hform => hclean _ _ (.translationForm ht hform)
  · split at hs
    · cases hs
    · refine isSound_of_mem_detail (by simp [HasNoEscape]) (fun hbreak => ?_) ?_ hs
      · simp at hbreak
      · exact hasNoEscape_commaList fun tag htag => hclean _ _ (.tag htag)
  · have hlabel := Location.Carries.glossLabel hg
    exact isSound_of_mem_glossDetail (hclean _ _ hlabel) (hgiven _ ⟨_, by simp, hlabel⟩)
      (hclean _ _ (.glossText hg)) hs
  · have hlabel := Location.Carries.variationLabel hv
    exact isSound_of_mem_detail (hclean _ _ hlabel) (fun _ => hgiven _ ⟨_, by simp, hlabel⟩)
      (hclean _ _ (.variationForm hv)) hs
  · have hlabel := Location.Carries.relationLabel hr
    refine isSound_of_mem_detail (hclean _ _ hlabel) (fun _ => hgiven _ ⟨_, by simp, hlabel⟩) ?_ hs
    exact HasNoEscape.append (by simp [HasNoEscape]) (hclean _ _ (.relationForm hr))

theorem hasNoEscape_translationLine
    (hclean : ∀ t ∈ e.translations, ∀ form ∈ t.forms, HasNoEscape form) :
    HasNoEscape (translationLine e) := by
  apply hasNoEscape_intercalate (by simp [HasNoEscape])
  intro group hgroup
  obtain ⟨t, ht, rfl⟩ := List.mem_map.mp hgroup
  exact hasNoEscape_commaList (hclean t (List.mem_of_mem_filter ht))

theorem isSound_of_mem_headline (hclean : ∀ t, IsTextOf h t → HasNoEscape t)
    (hname : given h.dictionaryName) (hform : given h.form) (hs : s ∈ headline h) :
    IsSound given s := by
  have hcarried {l : Location} {t : String} (ht : l.Carries h.entry t) : HasNoEscape t :=
    hclean t (.inr ⟨l, ht⟩)
  simp only [headline, List.mem_append, List.mem_cons, List.not_mem_nil, or_false] at hs
  rcases hs with ((rfl | rfl | rfl) | hs) | rfl
  · exact isSound_painted _ (hclean _ (.inl rfl)) fun _ => hname
  · exact isSound_plain (by simp [HasNoEscape])
  · exact isSound_painted _ (hcarried .headwordForm) fun _ => hform
  · split at hs
    · obtain rfl := List.mem_singleton.mp hs
      refine isSound_plain (HasNoEscape.append (by simp [HasNoEscape]) ?_)
      exact hasNoEscape_translationLine fun t ht form hmem => hcarried (.translationForm ht hmem)
    · cases hs
  · exact isSound_newLine

/-- The results of hits without escape characters are sound. -/
theorem isSound_of_mem_results {hits : List Hit} {isDetailed : Bool}
    (hclean : ∀ h ∈ hits, ∀ t, IsTextOf h t → HasNoEscape t) (hs : s ∈ results isDetailed hits) :
    IsSound (fun t => ∃ h ∈ hits, MayBePainted h t) s := by
  obtain ⟨h, hmem, hs⟩ := List.mem_flatMap.mp hs
  have hclean := hclean h hmem
  rcases List.mem_append.mp hs with hs | hs
  · exact isSound_of_mem_headline hclean ⟨h, hmem, .inl rfl⟩ ⟨h, hmem, .inr (.inl rfl)⟩ hs
  · split at hs
    · exact isSound_of_mem_details (fun l t ht => hclean t (.inr ⟨l, ht⟩))
        (fun t ht => ⟨h, hmem, .inr (.inr ht)⟩) hs
    · cases hs

end Results

section Listings
variable {given : String → Prop} {ss : List Summary} {s : Segment}

theorem hasNoEscape_totalLine (n : Nat) : HasNoEscape (totalLine n) := by
  cases n with
  | zero => simp [HasNoEscape, totalLine]
  | succ n =>
      have hrest : HasNoEscape " dictionaries loaded.\n" := by simp [HasNoEscape]
      exact (hasNoEscape_toString (n + 1)).append hrest

theorem isSound_of_mem_summaryLine {d : Summary} (hname : HasNoEscape d.name)
    (hgiven : given d.name) (hs : s ∈ summaryLine d) : IsSound given s := by
  simp only [summaryLine, List.mem_append, List.mem_cons, List.not_mem_nil, or_false] at hs
  rcases hs with ((rfl | rfl | rfl) | hs) | rfl
  · exact isSound_painted _ hname fun _ => hgiven
  · exact isSound_plain (by simp [HasNoEscape])
  · refine isSound_painted _ (hasNoEscape_toString d.size) fun hbreak => ?_
    have hdigit := isDigit_of_mem_toString hbreak
    simp at hdigit
  · split at hs
    · cases hs
    · exact List.mem_singleton.mp hs ▸ isSound_plain (by simp [HasNoEscape])
  · exact isSound_newLine

/-- The listing of dictionaries whose names have no escape characters is sound. -/
theorem isSound_of_mem_listing (hclean : ∀ d ∈ ss, HasNoEscape d.name) (hs : s ∈ listing ss) :
    IsSound (fun t => ∃ d ∈ ss, t = d.name) s := by
  rcases List.mem_append.mp hs with hs | hs
  · obtain ⟨d, hd, hs⟩ := List.mem_flatMap.mp hs
    exact isSound_of_mem_summaryLine (hclean d hd) ⟨d, hd, rfl⟩ hs
  · exact List.mem_singleton.mp hs ▸ isSound_plain (hasNoEscape_totalLine _)

end Listings

/-- Color never changes the text of results, with or without details, and of listings, as long as no
text in them has an escape character. Without its escape sequences the colored output is the plain
one. Every character is shown in the paint of its own segment, no color is active between segments,
and the only line breaks in color are those that a dictionary's name, a headword's form or a label
has itself. -/
theorem color_keeps_text {hits : List Hit} {ss : List Summary}
    (hhits : ∀ h ∈ hits, ∀ t, IsTextOf h t → HasNoEscape t)
    (hss : ∀ d ∈ ss, HasNoEscape d.name) :
    (∀ isDetailed, ColorsOnly (results isDetailed hits) fun t => ∃ h ∈ hits, MayBePainted h t) ∧
      ColorsOnly (listing ss) fun t => ∃ d ∈ ss, t = d.name :=
  ⟨fun _ => colorsOnly_of_sound fun _ => isSound_of_mem_results hhits,
    colorsOnly_of_sound fun _ => isSound_of_mem_listing hss⟩

/-- The details of a hit with a label and a gloss of several lines, and a listing with a dictionary
that is left out. -/
theorem color_keeps_text_cat :
    let e : Entry := ⟨⟨1, "kato"⟩, [⟨"noun", ["cat", "feline"]⟩, ⟨"", []⟩], ["animal"],
      [⟨"", "line one\nline two"⟩], [⟨"plural\n", "katoj"⟩], [⟨"see", ⟨3, "hundo"⟩⟩]⟩
    let hits : List Hit := [⟨⟨0⟩, "eo.json", 0, e⟩]
    let ss : List Summary := [⟨⟨0⟩, "eo.json", 12, true⟩, ⟨⟨1⟩, "de.json", 0, false⟩]
    (∀ h ∈ hits, ∀ t, IsTextOf h t → HasNoEscape t) ∧ (∀ d ∈ ss, HasNoEscape d.name) ∧
      withoutEscapes (render true (results true hits)) =
        "eo.json:kato  cat, feline\n    [noun] cat, feline\n    \n    [tags] animal\n" ++
          "    line one\n      line two\n    [plural\n] katoj\n    [see] -> hundo\n" ∧
      withoutEscapes (render true (listing ss)) =
        "eo.json:12\nde.json:0 (excluded)\n2 dictionaries loaded.\n" := by
  intro e hits ss
  have hentry (l : Location) : ∀ t ∈ l.texts e, HasNoEscape t := by
    cases l <;> simp [e, Location.texts, Entry.form, HasNoEscape]
  have hhits : ∀ h ∈ hits, ∀ t, IsTextOf h t → HasNoEscape t := by
    rw [List.forall_mem_singleton]
    rintro t (rfl | ⟨l, hl⟩)
    · simp [HasNoEscape]
    · exact hentry l t (Location.mem_texts.mpr hl)
  have hss : ∀ d ∈ ss, HasNoEscape d.name := by simp [ss, HasNoEscape]
  obtain ⟨hresults, hlisting⟩ := color_keeps_text hhits hss
  refine ⟨hhits, hss, (hresults true).text.trans ?_, hlisting.text.trans ?_⟩
  · decide +kernel
  · decide +kernel

end Lexicon.Display
