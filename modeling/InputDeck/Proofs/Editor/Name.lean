import InputDeck.Editor.Hover
import InputDeck.Proofs.Editor.Hint
import InputDeck.Proofs.Statement.Block
import InputDeck.Proofs.Statement.Layout
import InputDeck.Proofs.Text.Word

/-!
# One name for hover, hints and verdicts

A line that defines a name is read by its grammar, the name under a cursor by looking for a word,
and both ask the catalog. A name consists of word characters, and what may stand beside it on such a
line is none: blanks, an equals sign or a percent sign. So wherever the cursor touches the name, the
word is the name, and hover, hint and verdict agree on whether it is known and on where it ends.
-/

namespace InputDeck.Editor

open InputDeck.Text
open InputDeck.Statement

/-! ## Names are words -/

/-- Among the ASCII characters, words are made of what names are made of. -/
theorem isCursorWordChar_of_lt {c : Char} (h : c.toNat < 128) :
    isCursorWordChar c = isNameChar c := by
  rw [isCursorWordChar, isAlphanumeric, isAlphabetic, isNumeral, if_pos h, if_pos h]
  rfl

theorem isCursorWordChar_of_isNameChar {c : Char} (h : isNameChar c = true) :
    isCursorWordChar c = true := by
  have hcode := toNat_of_isNameChar h
  rw [isCursorWordChar_of_lt (by omega), h]

theorem isCursorWordChar_of_isBlank {c : Char} (h : isBlank c = true) :
    isCursorWordChar c = false := by
  by_cases hcode : c.toNat < 128
  · rw [isCursorWordChar_of_lt hcode, isNameChar_eq_false_of_isBlank h]
  · have halphabetic := inRanges_eq_false_of_not_meet rangesMeet_blank_alphabetic h
    have hnumeral := inRanges_eq_false_of_not_meet rangesMeet_blank_numeral h
    have hlow : c ≠ '_' := by
      rintro rfl
      exact hcode (by decide)
    rw [isCursorWordChar, isAlphanumeric, isAlphabetic, isNumeral, if_neg hcode, if_neg hcode,
      halphabetic, hnumeral]
    simpa using hlow

/-- A name stands alone if blanks surround it, or characters that are no word characters. -/
theorem standsAlone_of_isName {before name after : List Char} (hname : isName name = true)
    (hbefore : ∀ c ∈ before.getLast?, isCursorWordChar c = false)
    (hafter : ∀ c ∈ after.head?, isCursorWordChar c = false) : StandsAlone before name after where
  word_ne_nil := by
    rintro rfl
    cases hname
  isWordChar c hc := isCursorWordChar_of_isNameChar (isNameChar_of_mem hname hc)
  before_last := hbefore
  after_head := hafter

/-! ## What a line defines -/

/-- What a line defines, and the name as a word of the line. -/
inductive Defines (line : String) : DefinitionKind → Word → Prop where
  | assignment {a : Assignment} (h : assignment? line = some a) :
      Defines line .variable ⟨a.name, a.nameStart⟩
  | block {b : BlockOpening} (h : blockOpening? line = some b) :
      Defines line .block ⟨b.name, b.start + 1⟩

namespace Defines

variable {line : String} {kind : DefinitionKind} {word : Word}

theorem exists_standsAlone (h : Defines line kind word) :
    ∃ before name after, line.toList = before ++ (name ++ after) ∧ StandsAlone before name after ∧
      word = ⟨String.ofList name, before.length⟩ := by
  cases h with
  | assignment ha =>
    obtain ⟨l, hl, rfl⟩ := exists_layout_of_assignment? ha
    refine ⟨l.lead, l.name, l.gap ++ '=' :: l.tail, hl.symm, ?_, ?_⟩
    · apply standsAlone_of_isName l.isName_name
      · intro c hc
        exact isCursorWordChar_of_isBlank (l.lead_blank c (List.mem_of_getLast? hc))
      · intro c hc
        rw [List.head?_append, Option.mem_def, Option.or_eq_some_iff] at hc
        rcases hc with hgap | ⟨_, hequals⟩
        · exact isCursorWordChar_of_isBlank (l.gap_blank c (List.mem_of_mem_head? hgap))
        · cases hequals
          decide
    · exact congrArg (Word.mk (String.ofList l.name)) l.nameStart_locate
  | block hb =>
    obtain ⟨lead, name, fill, _, hname, hfill, hline, rfl⟩ := blockOpening?_eq_some_iff.1 hb
    refine ⟨lead ++ ['%'], name, fill, ?_, ?_, ?_⟩
    · rw [hline, List.append_assoc]
      rfl
    · apply standsAlone_of_isName hname
      · intro c hc
        rw [List.getLast?_concat] at hc
        cases hc
        decide
      · intro c hc
        exact isCursorWordChar_of_isBlank (hfill c (List.mem_of_mem_head? hc))
    · rw [List.length_append]
      rfl

/-- The word under a cursor that touches the name is the name. -/
theorem wordAt?_eq (h : Defines line kind word) {column : Nat} (hstart : word.start ≤ column)
    (hstop : column ≤ word.stop) : wordAt? line column = some word := by
  obtain ⟨before, name, after, hline, halone, rfl⟩ := h.exists_standsAlone
  rw [Word.stop, String.length_ofList] at hstop
  exact halone.wordAt?_eq hline hstart hstop

theorem hintOn?_eq (h : Defines line kind word) (c : Catalog) (index : Nat) :
    hintOn? c index line =
      some ⟨.on index line word.stop, word.text, kind, knownSince c word.text⟩ := by
  cases h with
  | assignment ha =>
    rw [hintOn?, ha]
    rfl
  | block hb =>
    rw [hintOn?, assignment?_of_blockOpening? hb]
    dsimp only
    rw [hb]
    rfl

theorem hover?_eq (h : Defines line kind word) {column : Nat} (hstart : word.start ≤ column)
    (hstop : column ≤ word.stop) (c : Catalog) (index : Nat) :
    hover? c index line column =
      (c.get? word.text).map fun v => ⟨c.markdown v, .on index line word.start word.stop⟩ := by
  rw [hover?, h.wordAt?_eq hstart hstop]

end Defines

/-! ## Labels -/

def builtinLabel : DefinitionKind → String
  | .variable => " [builtin]"
  | .block => " [builtin block]"

def userLabel : DefinitionKind → String
  | .variable => " [user]"
  | .block => " [user block]"

theorem Hint.label_eq_builtinLabel_iff (h : Hint) :
    h.label = builtinLabel h.kind ↔ h.release.isSome = true := by
  rw [Hint.label]
  cases h.release <;> cases h.kind <;> simp [builtinLabel]

theorem Hint.label_eq_userLabel_iff (h : Hint) :
    h.label = userLabel h.kind ↔ h.release.isSome = false := by
  rw [Hint.label]
  cases h.release <;> cases h.kind <;> simp [userLabel]

theorem shows_all (h : Hint) : shows ⟨true, true, true⟩ h = true := by
  rw [shows]
  split <;> rfl

/-! ## Agreement -/

/-- The features agree on a name: it is the word at a column, hovering there shows something exactly
if values can be judged for it, and the hint on the line has one of two labels accordingly and
stands where what is hovered over ends. -/
structure AgreeOn (c : Catalog) (index : Nat) (line : String) (column : Nat) (name : Word)
    (builtin user : String) : Prop where
  wordAt?_eq : wordAt? line column = some name
  hover_iff : ∀ raw, (hover? c index line column).isSome = true ↔
    (c.verdict? name.text raw).isSome = true
  exists_hint : ∃ h, hintOn? c index line = some h ∧
    ((hover? c index line column).isSome = true ↔ h.label = builtin) ∧
    ((hover? c index line column).isSome = false ↔ h.label = user) ∧
    (∀ shown ∈ hover? c index line column, shown.range.stop = h.position) ∧
    ∀ doc : Document, doc.line? index = some line → ∀ first last, first ≤ index → index ≤ last →
      (hints c ⟨true, true, true⟩ doc first last).filter (·.position.line = index) = [h]

theorem Defines.agreeOn {line : String} {kind : DefinitionKind} {name : Word}
    (h : Defines line kind name) {column : Nat} (hstart : name.start ≤ column)
    (hstop : column ≤ name.stop) (c : Catalog) (index : Nat) :
    AgreeOn c index line column name (builtinLabel kind) (userLabel kind) := by
  have hhover := h.hover?_eq hstart hstop c index
  have hhint := h.hintOn?_eq c index
  have hknown : (hover? c index line column).isSome = (knownSince c name.text).isSome := by
    rw [hhover, knownSince, Option.isSome_map, Option.isSome_map]
  generalize hdef : (⟨.on index line name.stop, name.text, kind, knownSince c name.text⟩ : Hint) =
    hint at hhint
  refine ⟨h.wordAt?_eq hstart hstop, ?_, hint, hhint, ?_, ?_, ?_, ?_⟩
  · intro raw
    rw [hhover, Catalog.verdict?, Option.isSome_map, Option.isSome_map]
  · rw [hknown, ← hdef]
    exact (Hint.label_eq_builtinLabel_iff ⟨_, _, kind, _⟩).symm
  · rw [hknown, ← hdef]
    exact (Hint.label_eq_userLabel_iff ⟨_, _, kind, _⟩).symm
  · intro shown hshown
    rw [hhover] at hshown
    obtain ⟨v, _, rfl⟩ := Option.map_eq_some_iff.1 hshown
    rw [← hdef]
    rfl
  · intro doc hline first last hfirst hlast
    rw [filter_hints rfl hline hfirst hlast, hhint, Option.filter_some, shows_all]
    rfl

/-- On every column that touches the name of an assignment, or that of a block behind its percent
sign, hover, hint and verdict agree on this name. -/
theorem features_agree_on_names (c : Catalog) (index : Nat) (line : String) (column : Nat) :
    (∀ a, assignment? line = some a → a.nameStart ≤ column → column ≤ a.nameEnd →
      AgreeOn c index line column ⟨a.name, a.nameStart⟩ " [builtin]" " [user]") ∧
    ∀ b, blockOpening? line = some b → b.start + 1 ≤ column → column ≤ b.stop →
      AgreeOn c index line column ⟨b.name, b.start + 1⟩ " [builtin block]" " [user block]" := by
  constructor
  · intro a ha hstart hstop
    exact (Defines.assignment ha).agreeOn hstart hstop c index
  · intro b hb hstart hstop
    exact (Defines.block hb).agreeOn hstart hstop c index

def shapeCatalog : Catalog :=
  .ofVariables "14.1"
    [⟨"BoxShape", .integer, ["minimum"], "Mesh", [], [⟨"sphere", "1"⟩], none⟩,
      ⟨"Species", .block, [], "System", [], [], none⟩]

/-- The cursor is behind the name of a known variable, and in front of that of an unknown block. -/
theorem features_agree_on_names_shape :
    assignment? "\u00a0boxshape=𝛼" = some ⟨"boxshape", "𝛼", 1, 10⟩ ∧
      AgreeOn shapeCatalog 4 "\u00a0boxshape=𝛼" 9 ⟨"boxshape", 1⟩ " [builtin]" " [user]" ∧
      (hover? shapeCatalog 4 "\u00a0boxshape=𝛼" 9).isSome = true ∧
      blockOpening? "\t%MyTable " = some ⟨"MyTable", 1⟩ ∧
      AgreeOn shapeCatalog 7 "\t%MyTable " 2 ⟨"MyTable", 2⟩ " [builtin block]" " [user block]" ∧
      (hover? shapeCatalog 7 "\t%MyTable " 2).isSome = false := by
  have ha : assignment? "\u00a0boxshape=𝛼" = some ⟨"boxshape", "𝛼", 1, 10⟩ := by decide +kernel
  have hb : blockOpening? "\t%MyTable " = some ⟨"MyTable", 1⟩ := by decide +kernel
  refine ⟨ha, ?_, by decide +kernel, hb, ?_, by decide +kernel⟩
  · exact (features_agree_on_names shapeCatalog 4 _ 9).1 _ ha (by decide) (by decide +kernel)
  · exact (features_agree_on_names shapeCatalog 7 _ 2).2 _ hb (by decide) (by decide +kernel)

end InputDeck.Editor
