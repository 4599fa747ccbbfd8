import TurnScript.Proofs.Form.Nesting
import TurnScript.Proofs.Form.Reader
import TurnScript.Proofs.Form.Symbol
import TurnScript.Proofs.Integer
import TurnScript.Proofs.Token.Scan

/-!
# Forms and their source text

What reading can yield, and that it yields it from what was displayed.

* `Reads.isReadable`: whatever is read is well formed, i.e., its symbols are symbols that write no
  number, and its lists are nested no deeper than allowed;
* `spells_display`: the text of a form is scanned as the tokens of the form, whatever its texts and
  numbers are;
* `Reads.append`: these tokens are read as the form, wherever they stand.

Together: the forms that some text is read as are well formed (`wellFormed_of_readAll`), and the own
text of well-formed forms is one that is read as them (`readAll_display`).
-/

namespace TurnScript.Form

open Token Text

/-! ## Well-formed forms -/

/-- The symbols of the form are symbols, rather than numbers, to the reader. -/
def HasReadableSymbols (form : Form) : Prop :=
  ∀ name ∈ form.symbols, isSymbol name.toList ∧ Integer.ofText? name = none

instance (form : Form) : Decidable form.HasReadableSymbols :=
  inferInstanceAs (Decidable (∀ name ∈ form.symbols, isSymbol name.toList ∧ _))

/-- The form can be read: its symbols are symbols to the reader, and its lists are nested no deeper
    than allowed. -/
structure WellFormed (options : ReadOptions) (form : Form) : Prop where
  symbols : form.HasReadableSymbols
  nesting : form.nesting ≤ options.maxDepth

instance (options : ReadOptions) (form : Form) : Decidable (form.WellFormed options) :=
  decidable_of_iff (form.HasReadableSymbols ∧ form.nesting ≤ options.maxDepth)
    ⟨fun h => ⟨h.1, h.2⟩, fun h => ⟨h.symbols, h.nesting⟩⟩

theorem hasReadableSymbols_list_iff {items : List Form} :
    (list items).HasReadableSymbols ↔ ∀ item ∈ items, item.HasReadableSymbols := by
  simp only [HasReadableSymbols, mem_symbols_list_iff]
  exact ⟨fun h item hitem name hname => h name ⟨item, hitem, hname⟩,
    fun h name ⟨item, hitem, hname⟩ => h item hitem name hname⟩

/-- A word that is read as a form is read as a readable one without lists. -/
theorem hasReadableSymbols_of_ofWord {word : String} {form : Form} (h : ofWord word = .ok form) :
    form.HasReadableSymbols ∧ form.nesting = 0 := by
  rcases ofWord_eq_ok_iff.1 h with ⟨n, -, rfl⟩ | ⟨hnone, hsymbol, rfl⟩
  · exact ⟨fun name hname => absurd hname List.not_mem_nil, rfl⟩
  · refine ⟨fun name hname => ?_, rfl⟩
    rw [List.mem_singleton.1 hname]
    exact ⟨hsymbol, hnone⟩

/-- What is read is readable, and its lists fit below those that are open. -/
theorem Reads.isReadable {maxDepth depth : Nat} {opened? : Option Nat} {tokens rest : List Token}
    {forms : List Form} (h : Reads maxDepth depth opened? tokens forms rest)
    (hdepth : depth ≤ maxDepth) :
    ∀ form ∈ forms, form.HasReadableSymbols ∧ form.nesting + depth ≤ maxDepth := by
  induction h with
  | done | closed => exact fun _ hform => absurd hform List.not_mem_nil
  | @list depth _ _ _ _ _ items _ hless _ _ inner outer =>
    intro form hform
    rcases List.mem_cons.1 hform with rfl | hform
    · have hitems := inner hless
      -- the elements fit below one more open list
      have hnesting : (Form.list items).nesting ≤ maxDepth - (depth + 1) + 1 :=
        nesting_list_le_iff.2 fun item hitem => by have := (hitems item hitem).2; omega
      exact ⟨hasReadableSymbols_list_iff.2 fun item hitem => (hitems item hitem).1, by omega⟩
    · exact outer hdepth form hform
  | text _ ih =>
    intro form hform
    rcases List.mem_cons.1 hform with rfl | hform
    · exact ⟨fun name hname => absurd hname List.not_mem_nil, by simpa [nesting] using hdepth⟩
    · exact ih hdepth form hform
  | word hword _ ih =>
    intro form hform
    rcases List.mem_cons.1 hform with rfl | hform
    · obtain ⟨hreadable, hflat⟩ := hasReadableSymbols_of_ofWord hword
      exact ⟨hreadable, by omega⟩
    · exact ih hdepth form hform

/-! ## The tokens of a form -/

mutual

/-- The tokens that a form is written with. -/
def kinds : Form → List Kind
  | .symbol name => [.word name]
  | .text content => [.text content]
  | .number value => [.word (Integer.toText value)]
  | .list items => .opening :: (kindsIn items ++ [.closing])

/-- The tokens that several forms are written with. -/
def kindsIn : List Form → List Kind
  | [] => []
  | form :: rest => kinds form ++ kindsIn rest

end

theorem displayAll_eq_map (forms : List Form) : displayAll forms = forms.map display := by
  induction forms with
  | nil => rfl
  | cons form rest ih => simp [displayAll, ih]

/-! ## Scanning what is displayed -/

/-- An escaped character is scanned as itself. -/
theorem run_quoted_escapeChar {comments : Bool} {offset first : Nat} {content rest : List Char}
    (c : Char) :
    (Scanner.quoted first content).run comments offset (escapeChar c ++ rest) =
      (Scanner.quoted first (c :: content)).run comments
        (offset + byteLength (escapeChar c)) rest := by
  unfold escapeChar
  split
  case h_6 hquote hbackslash _ _ _ => exact Scanner.run_quoted_raw hquote hbackslash
  all_goals exact Scanner.run_quoted_escape rfl

theorem run_quoted_escaped {comments : Bool} {first : Nat} {rest : List Char} (cs : List Char) :
    ∀ (offset : Nat) (content : List Char),
      (Scanner.quoted first content).run comments offset (cs.flatMap escapeChar ++ rest) =
        (Scanner.quoted first (cs.reverse ++ content)).run comments
          (offset + byteLength (cs.flatMap escapeChar)) rest := by
  induction cs with
  | nil => exact fun _ _ => rfl
  | cons c cs ih =>
    intro offset content
    rw [List.flatMap_cons, List.append_assoc, run_quoted_escapeChar, ih, byteLength_append,
      Nat.add_assoc, List.reverse_cons, List.append_assoc, List.singleton_append]

theorem spells_textLiteral {comments : Bool} (content : String) :
    Spells comments (textLiteral content).toList [.text content] := by
  intro offset rest _
  refine ⟨[⟨.text content, offset⟩], rfl, ?_⟩
  rw [textLiteral, String.toList_ofList, List.cons_append, List.append_assoc,
    Scanner.run_between_quote, run_quoted_escaped, List.singleton_append, Scanner.run_quoted_quote]
  simp [byteLength, byteLength_append, Nat.add_assoc]

theorem spells_toText {comments : Bool} (n : Int64) :
    Spells comments (Integer.toText n).toList [.word (Integer.toText n)] := by
  have hword : ∀ c ∈ (Integer.toText n).toList, isWordChar c := by
    intro c hc
    rcases Integer.isDigit_or_eq_minus_of_mem_toText hc with hc | rfl
    · exact isWordChar_of_isSymbolChar (by simp [isSymbolChar, isAlphanumeric, Char.isAlphanum, hc])
    · decide
  have hspells : Spells comments _ _ := .word (Integer.toList_toText_ne_nil n) hword
  simpa using hspells

/-- Texts that spell tokens spell them all if a blank is put between any two. -/
theorem spells_intercalate {comments : Bool} {c : Char} (hc : isBlank c) {forms : List Form}
    (h : ∀ form ∈ forms, Spells comments form.display.toList form.kinds) :
    Spells comments ([c].intercalate (forms.map (·.display.toList))) (kindsIn forms) := by
  induction forms with
  | nil => exact .nil
  | cons form rest ih =>
    have hform := h form List.mem_cons_self
    have hrest := ih fun other hother => h other (List.mem_cons_of_mem _ hother)
    cases rest with
    | nil => simpa [kindsIn] using hform
    | cons next rest =>
      -- no word of the first form runs into the blank behind it
      have hseparate : Separate (c :: [c].intercalate ((next :: rest).map (·.display.toList))) :=
        separate_cons (isWordChar_of_isBlank hc)
      have happend := hform.append (hrest.blank hc) hseparate
      simpa [kindsIn, List.intercalate, List.intersperse] using happend

theorem display_list (items : List Form) :
    (display (.list items)).toList =
      '(' :: ([' '].intercalate (items.map (·.display.toList)) ++ [')']) := by
  simp only [display, displayAll_eq_map, String.toList_append, String.toList_intercalate,
    List.map_map]
  rfl

/-- The text of a form is scanned as the tokens of the form. -/
theorem spells_display {comments : Bool} (form : Form) (h : form.HasReadableSymbols) :
    Spells comments form.display.toList form.kinds := by
  induction form with
  | symbol name =>
    obtain ⟨hne, hword⟩ := isWord_of_isSymbol (h name List.mem_cons_self).1
    have hspells : Spells comments _ _ := .word hne hword
    simpa [display, kinds] using hspells
  | text content => exact spells_textLiteral content
  | number value => exact spells_toText value
  | list items ih =>
    have hitems : Spells comments ([' '].intercalate (items.map (·.display.toList)))
        (kindsIn items) :=
      spells_intercalate (by decide) fun item hitem =>
        ih item hitem (hasReadableSymbols_list_iff.1 h item hitem)
    rw [display_list, kinds]
    exact (hitems.append .closing (separate_cons (by decide))).opening

/-! ## Reading the tokens of forms -/

/-- The tokens of forms can be read, in front of anything, if the tokens of each of them can. -/
theorem Reads.append_all {maxDepth depth : Nat} {opened? : Option Nat}
    {tokens tail rest : List Token} {forms others : List Form}
    (h : ∀ form ∈ forms, ∀ {tokens tail : List Token} {others : List Form},
      tokens.map Token.kind = form.kinds → Reads maxDepth depth opened? tail others rest →
        Reads maxDepth depth opened? (tokens ++ tail) (form :: others) rest)
    (htokens : tokens.map Token.kind = kindsIn forms)
    (htail : Reads maxDepth depth opened? tail others rest) :
    Reads maxDepth depth opened? (tokens ++ tail) (forms ++ others) rest := by
  induction forms generalizing tokens with
  | nil =>
    rw [kindsIn, List.map_eq_nil_iff] at htokens
    rw [htokens]
    exact htail
  | cons form forms ih =>
    obtain ⟨first, later, rfl, hfirst, hlater⟩ := List.map_eq_append_iff.1 htokens
    rw [List.append_assoc]
    exact h form List.mem_cons_self hfirst
      (ih (fun other hother => h other (List.mem_cons_of_mem _ hother)) hlater)

/-- The tokens of a form are read as the form, in front of anything. -/
theorem Reads.append {maxDepth depth : Nat} {opened? : Option Nat} {tokens tail rest : List Token}
    {form : Form} {others : List Form} (hform : form.HasReadableSymbols)
    (hnesting : form.nesting + depth ≤ maxDepth) (htokens : tokens.map Token.kind = form.kinds)
    (htail : Reads maxDepth depth opened? tail others rest) :
    Reads maxDepth depth opened? (tokens ++ tail) (form :: others) rest := by
  induction form generalizing depth opened? tokens tail others rest with
  | symbol name =>
    obtain ⟨⟨_, offset⟩, rfl, rfl⟩ := List.map_eq_singleton_iff.1 htokens
    obtain ⟨hsymbol, hnone⟩ := hform name List.mem_cons_self
    exact .word (ofWord_eq_ok_iff.2 (.inr ⟨hnone, hsymbol, rfl⟩)) htail
  | text content =>
    obtain ⟨⟨_, offset⟩, rfl, rfl⟩ := List.map_eq_singleton_iff.1 htokens
    exact .text htail
  | number value =>
    obtain ⟨⟨_, offset⟩, rfl, rfl⟩ := List.map_eq_singleton_iff.1 htokens
    exact .word (ofWord_eq_ok_iff.2 (.inl ⟨value, Integer.ofText?_toText value, rfl⟩)) htail
  | list items ih =>
    -- an opening token, the tokens of the elements, and a closing token
    obtain ⟨⟨_, offset⟩, behind, rfl, rfl, hbehind⟩ := List.map_eq_cons_iff.1 htokens
    obtain ⟨inner, last, rfl, hinner, hlast⟩ := List.map_eq_append_iff.1 hbehind
    obtain ⟨⟨_, closed⟩, rfl, rfl⟩ := List.map_eq_singleton_iff.1 hlast
    have hless : depth < maxDepth := by rw [nesting] at hnesting; omega
    have hitems : ∀ item ∈ items, item.nesting ≤ maxDepth - (depth + 1) :=
      nesting_list_le_iff.1 (by omega)
    have hclosed : Reads maxDepth (depth + 1) (some offset) (⟨.closing, closed⟩ :: tail) [] tail :=
      .closed
    have hread := Reads.append_all (fun item hitem _ _ _ hkinds hreads =>
      ih item hitem (hasReadableSymbols_list_iff.1 hform item hitem)
        (by have := hitems item hitem; omega) hkinds hreads) hinner hclosed
    rw [List.append_nil] at hread
    simpa using Reads.list hless hread htail

/-! ## Round trip -/

/-- The texts of well-formed forms, one below the other, are read as the forms. -/
theorem readAll_display {options : ReadOptions} {forms : List Form}
    (h : ∀ form ∈ forms, form.WellFormed options) :
    readAll options ("\n".intercalate (forms.map display)) = .ok forms := by
  have hspells : Spells options.comments ("\n".intercalate (forms.map display)).toList
      (kindsIn forms) := by
    rw [String.toList_intercalate, List.map_map]
    exact spells_intercalate (by decide)
      fun form hform => spells_display form (h form hform).symbols
  obtain ⟨tokens, hkinds, hscan⟩ := hspells.scan
  have hnone : Reads options.maxDepth 0 none [] [] [] := .done
  have hreads := Reads.append_all (fun form hform _ _ _ hkinds hreads =>
    Reads.append (h form hform).symbols (h form hform).nesting hkinds hreads) hkinds hnone
  rw [List.append_nil, List.append_nil] at hreads
  exact readAll_eq_ok_iff.2 ⟨tokens, hscan, hreads⟩

/-- What a text is read as is well formed. -/
theorem wellFormed_of_readAll {options : ReadOptions} {source : String} {forms : List Form}
    (h : readAll options source = .ok forms) : ∀ form ∈ forms, form.WellFormed options := by
  obtain ⟨tokens, -, hreads⟩ := readAll_eq_ok_iff.1 h
  intro form hform
  obtain ⟨hsymbols, hnesting⟩ := hreads.isReadable (Nat.zero_le _) form hform
  exact ⟨hsymbols, hnesting⟩

/-- The forms that some text is read as are the well-formed ones, and these are read from their own
    texts, one below the other. So whatever is read can be written and read again. -/
theorem exists_readAll_iff_wellFormed (options : ReadOptions) (forms : List Form) :
    ((∃ source, readAll options source = .ok forms) ↔ ∀ form ∈ forms, form.WellFormed options) ∧
      ((∀ form ∈ forms, form.WellFormed options) →
        readAll options ("\n".intercalate (forms.map display)) = .ok forms) ∧
      ∀ source, readAll options source = .ok forms →
        readAll options ("\n".intercalate (forms.map display)) = .ok forms :=
  ⟨⟨fun ⟨_, h⟩ => wellFormed_of_readAll h, fun h => ⟨_, readAll_display h⟩⟩, readAll_display,
    fun _ h => readAll_display (wellFormed_of_readAll h)⟩

/-- Among others, the least number, a symbol that is almost a number, and a text with a quote, a
    line feed and what would be a comment outside of it. -/
theorem readAll_display_almost_number :
    (∀ form ∈ [Form.list [.symbol "+99999999999999999999", .number (-9223372036854775808)],
        .text ";; \"(\n"], form.WellFormed { maxDepth := 1 }) ∧
      readAll { maxDepth := 1 } ("\n".intercalate
          ([Form.list [.symbol "+99999999999999999999", .number (-9223372036854775808)],
            .text ";; \"(\n"].map display)) =
        .ok [Form.list [.symbol "+99999999999999999999", .number (-9223372036854775808)],
          .text ";; \"(\n"] := by
  have hforms : ∀ form ∈ [Form.list [.symbol "+99999999999999999999",
      .number (-9223372036854775808)], .text ";; \"(\n"], form.WellFormed { maxDepth := 1 } := by
    decide
  exact ⟨hforms, (exists_readAll_iff_wellFormed _ _).2.1 hforms⟩

end TurnScript.Form
