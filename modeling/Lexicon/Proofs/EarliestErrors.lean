import Lexicon.Proofs.Refusal
import Lexicon.Proofs.Tiling

/-!
# Errors are found as early as possible

A script that the parser refuses is refused at the first token that cannot stand where it does. The
tokens before it begin a script, and with it no script begins. Only the name of the number has to
wait for the token behind it. A script that merely stops too early is refused at its end.
-/

namespace Lexicon.Script

open Unicode Text

section Completion
variable {ts : List Token}

/-- The tokens are those of a text that is accepted as a script. -/
def IsScript (ts : List Token) : Prop :=
  ∃ source ps e, tokenize source = .ok ps ∧ ps.map Placed.token = ts ∧ parse source = .ok e

theorem IsScript.isPhrase (h : IsScript ts) : IsPhrase maxNesting .disjunction ts := by
  obtain ⟨source, ps, e, hps, rfl, he⟩ := h
  rw [parse_eq_parseTokens hps] at he
  exact ⟨e, parseTokens_eq_ok_iff.mp he⟩

/-- Every token of a text has a spelling of its own. -/
theorem Lexes.exists_yields {offset : Nat} {s : List Char} {ps : List Placed}
    (h : Lexes offset s ps) : ∀ p ∈ ps, ∃ w, Yields w [p.token] := by
  induction h with
  | nil => exact List.forall_mem_nil _
  | blank _ _ ih => exact ih
  | @lexeme offset c s l ps hc hl _ ih =>
      obtain ⟨w, hw⟩ := readLexeme_isCut hl
      rw [List.forall_mem_cons]
      refine ⟨⟨c :: (w ++ []), ?_⟩, ih⟩
      exact @Yields.lexeme c _ ⟨_, _, []⟩ _ yields_nil hc (hw.again [] (by simp))

theorem exists_yields_fillers : ∀ t ∈ fillers, ∃ w, Yields w [t] := by
  have hyields {c : Char} {s : List Char} {t : Token} {n : Nat} (hc : isBlank c = false)
      (hl : readLexeme c s = .ok ⟨t, n, []⟩) : ∃ w, Yields w [t] :=
    ⟨c :: s, @Yields.lexeme c s ⟨t, n, []⟩ [] yields_nil hc hl⟩
  have htrue : readLexeme 't' ['r', 'u', 'e'] = .ok ⟨.constant true, 4, []⟩ := by decide +kernel
  have hparen : readLexeme ')' [] = .ok ⟨.rightParen, 1, []⟩ := rfl
  have heq : readLexeme '=' ['='] = .ok ⟨.operator .eq, 2, []⟩ := rfl
  have htext : readLexeme '\'' ['\''] = .ok ⟨.text "", 2, []⟩ := by decide +kernel
  have hzero : readLexeme '0' [] = .ok ⟨.integer 0, 1, []⟩ := by decide +kernel
  simp only [fillers, List.forall_mem_cons]
  exact ⟨hyields (by decide) htrue, hyields (by decide) hparen, hyields (by decide) heq,
    hyields (by decide) htext, hyields (by decide) hzero, List.forall_mem_nil _⟩

/-- Spellings with blanks between them are one text of all the tokens. -/
theorem exists_yields (h : ∀ t ∈ ts, ∃ w, Yields w [t]) : ∃ w, Yields w ts := by
  induction ts with
  | nil => exact ⟨[], yields_nil⟩
  | cons t ts ih =>
      obtain ⟨⟨w, hw⟩, hts⟩ := List.forall_mem_cons.mp h
      obtain ⟨ws, hws⟩ := ih hts
      exact ⟨_, hw.append separates_space (hws.blank (by decide))⟩

theorem isScript_of_isPhrase (h : IsPhrase maxNesting .disjunction ts)
    (hts : ∀ t ∈ ts, ∃ w, Yields w [t]) : IsScript ts := by
  obtain ⟨e, d⟩ := h
  obtain ⟨w, hw⟩ := exists_yields hts
  rw [← String.toList_ofList (l := w)] at hw
  obtain ⟨ps, hps, rfl⟩ := hw.tokenize
  refine ⟨_, ps, e, hps, rfl, ?_⟩
  rw [parse_eq_parseTokens hps]
  exact parseTokens_eq_ok_iff.mpr d

end Completion

section Errors
variable {ts : List Placed} {e : CompileError}

/-- What is no script within the limit is the beginning of no text that is accepted. -/
theorem IsNoScript.not_isScript (h : IsNoScript e ts) : ¬ IsScript (ts.map Placed.token) := by
  intro hs
  exact h maxNesting (Nat.le_refl _) (fun _ => rfl) hs.isPhrase

/-- Only where a level is missing there is a greater limit with which the tokens are a script. -/
theorem IsNoScript.tooDeep_of_derives (h : IsNoScript e ts) {limit : Nat} {tree : Expr}
    (d : Derives limit 0 .disjunction (ts.map Placed.token) tree) : e.problem = .tooDeep := by
  by_contra hdeep
  apply h (max limit maxNesting) (Nat.le_max_right _ _) fun htoo => absurd htoo hdeep
  exact ⟨tree, d.mono (Nat.le_max_left _ _)⟩

theorem length_afterToken_of_opens {t : Token} (ht : t = .leftParen ∨ t = .neg)
    (levels : List Level) : (afterToken levels t).length = levels.length + 1 := by
  rcases ht with rfl | rfl
  · rfl
  · rfl

theorem exists_placed (us : List Token) : ∃ ps : List Placed, ps.map Placed.token = us :=
  ⟨us.map (Placed.mk 0), by simp [Function.comp_def]⟩

/-- An error of the parser lies at the end of the script, if the script goes on to be accepted, or
at the first token that cannot stand where it does: the tokens before it begin a script that is
accepted, and no such script begins with the tokens up to it. The name of the number is refused for
the token behind it. A level is missing just where a greater limit would let the token stand; then it
is the first parenthesis or negation whose level is 129. -/
theorem parse_error_earliest {source : String} {tokens : List Placed}
    (h : tokenize source = .ok tokens) (hne : tokens ≠ []) (he : parse source = .error e) :
    (e.offset = source.utf8ByteSize ∧ e.problem ≠ .tooDeep ∧
        ∃ more, more ≠ [] ∧ IsScript (tokens.map Placed.token ++ more)) ∨
      ∃ before t seen after, tokens = before ++ (seen ++ after) ∧ Shows t seen ∧
        e.offset = t.offset ∧ (∃ more, IsScript (before.map Placed.token ++ more)) ∧
        (∀ more, ¬ IsScript ((before ++ seen).map Placed.token ++ more)) ∧
        (e.problem = .tooDeep ↔ ∃ limit more tree,
          Derives limit 0 .disjunction ((before ++ seen).map Placed.token ++ more) tree) ∧
        (e.problem = .tooDeep → (t.token = .leftParen ∨ t.token = .neg) ∧
          deepest [] (before.map Placed.token) ≤ 128 ∧
          (afterToken (afterTokens [] (before.map Placed.token)) t.token).length = 129) := by
  have hspelled := (tokenize_eq_ok_iff.mp h).exists_yields
  -- The tokens of the script and the fillers have spellings, so what completes them is a text.
  have hcompletes {us : List Placed} {more : List Token} (hus : ∀ p ∈ us, p ∈ tokens)
      (hmore : ∀ t ∈ more, t ∈ fillers)
      (hphrase : IsPhrase maxNesting .disjunction (us.map Placed.token ++ more)) :
      IsScript (us.map Placed.token ++ more) := by
    apply isScript_of_isPhrase hphrase
    rw [List.forall_mem_append, List.forall_mem_map]
    constructor
    · exact fun p hp => hspelled p (hus p hp)
    · exact fun t ht => exists_yields_fillers t (hmore t ht)
  rw [parse_eq_parseTokens h] at he
  cases parseTokens_refused hne he with
  | @atEnd more ho hdeep hne' hmore hphrase =>
      exact .inl ⟨ho, hdeep, more, hne', hcompletes (fun _ => id) hmore hphrase⟩
  | @atToken before t seen after more hts hseen ho hmore hphrase hrejects hdeep =>
      have hno (us : List Token) : ∃ ps : List Placed, IsNoScript e ps ∧
          ps.map Placed.token = (before ++ seen).map Placed.token ++ us := by
        obtain ⟨ps, rfl⟩ := exists_placed us
        exact ⟨_, hrejects ps, by simp⟩
      have hbefore : ∀ p ∈ before, p ∈ tokens := by
        intro p hp
        rw [hts]
        exact List.mem_append_left _ hp
      refine .inr ⟨before, t, seen, after, hts, hseen, ho,
        ⟨more, hcompletes hbefore hmore hphrase⟩, ?_, ?_, ?_⟩
      · intro us
        obtain ⟨ps, hps, hus⟩ := hno us
        exact hus ▸ hps.not_isScript
      · constructor
        · intro htoo
          obtain ⟨rfl, hoverflows⟩ := hdeep htoo
          obtain ⟨us, tree, d⟩ := hoverflows.fits
          exact ⟨_, us, tree, by simpa using d⟩
        · rintro ⟨limit, us, tree, d⟩
          obtain ⟨ps, hps, hus⟩ := hno us
          rw [← hus] at d
          exact hps.tooDeep_of_derives d
      · intro htoo
        obtain ⟨-, hoverflows⟩ := hdeep htoo
        refine ⟨hoverflows.opens, ?_, ?_⟩
        · obtain ⟨tree, d⟩ := hphrase
          have hdeepest := d.deepest_le (Nat.zero_le _)
          rw [deepest_append] at hdeepest
          exact le_of_max_le_left hdeepest
        · rw [length_afterToken_of_opens hoverflows.opens, hoverflows.levels [] rfl]
          rfl

theorem eq_error_of_map {ε α β : Type} {r : Except ε α} {f : α → β} {e : ε}
    (h : r.map f = .error e) : r = .error e := by
  cases r with
  | ok a => cases h
  | error e' =>
      obtain rfl := Except.error.inj h
      rfl

/-- The name of the number is refused, although the script could go on behind it: what follows is
no comparison. -/
theorem parse_number_alone :
    tokenize "(tag) and (ID or word)" = .ok
        [⟨0, .leftParen⟩, ⟨1, .name "tag"⟩, ⟨4, .rightParen⟩, ⟨6, .conj⟩, ⟨10, .leftParen⟩,
          ⟨11, .name "ID"⟩, ⟨14, .disj⟩, ⟨17, .name "word"⟩, ⟨21, .rightParen⟩] ∧
      parse "(tag) and (ID or word)" = .error ⟨11, .idNotCompared .disj⟩ ∧
      ∃ before t seen after, [.leftParen, .name "tag", .rightParen, .conj, .leftParen, .name "ID",
          .disj, .name "word", .rightParen] = (before ++ (seen ++ after)).map Placed.token ∧
        Shows t seen ∧ t.offset = 11 ∧ (∃ more, IsScript (before.map Placed.token ++ more)) ∧
        ∀ more, ¬ IsScript ((before ++ seen).map Placed.token ++ more) := by
  have h : tokenize "(tag) and (ID or word)" = .ok
      [⟨0, .leftParen⟩, ⟨1, .name "tag"⟩, ⟨4, .rightParen⟩, ⟨6, .conj⟩, ⟨10, .leftParen⟩,
        ⟨11, .name "ID"⟩, ⟨14, .disj⟩, ⟨17, .name "word"⟩, ⟨21, .rightParen⟩] := by decide +kernel
  have he : parse "(tag) and (ID or word)" = .error ⟨11, .idNotCompared .disj⟩ :=
    eq_error_of_map (f := fun _ => ()) (by decide +kernel)
  refine ⟨h, he, ?_⟩
  rcases parse_error_earliest h (by simp) he with
    ⟨hend, -⟩ | ⟨before, t, seen, after, hts, hseen, ho, hbegins, hno, -⟩
  · exact absurd hend (by decide)
  · exact ⟨before, t, seen, after, by rw [← hts]; rfl, hseen, ho.symm, hbegins, hno⟩

end Errors

end Lexicon.Script
