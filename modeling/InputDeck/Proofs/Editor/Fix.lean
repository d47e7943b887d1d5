import InputDeck.Editor.Fix
import InputDeck.Proofs.Dictionary
import InputDeck.Proofs.Statement.Layout
import InputDeck.Proofs.Text.Line

/-!
# What quick fixes do

A fix is an edit, and here the edit is made: `Edit.applied` is the document that an editor has
afterwards. All lines but the one of the diagnostic stay, and the fix assigns the offered text to
the same variable, if the value on that line stands clear of its equals sign.
-/

namespace InputDeck.Editor

open InputDeck.Text
open InputDeck.Statement

/-! ## Making an edit -/

/-- The number of characters in front of a position. -/
def Document.offset (doc : Document) (p : Position) : Nat :=
  lineOffset doc.text.toList p.line + charColumn ((doc.line? p.line).getD "").toList p.column

/-- The document after an edit. -/
def Edit.applied (e : Edit) (doc : Document) : Document :=
  { doc with text := String.ofList (splice doc.text.toList (doc.offset e.range.start)
      (doc.offset e.range.stop) e.text.toList) }

theorem Document.offset_on {doc : Document} {index column : Nat} {line : String}
    (hline : doc.line? index = some line) (hcolumn : column ≤ line.toList.length) :
    doc.offset (.on index line column) = lineOffset doc.text.toList index + column := by
  rw [Document.offset, Position.on, hline, Option.getD_some, charColumn_unitColumn,
    Nat.min_eq_left hcolumn]

theorem Document.getElem?_documentLines {doc : Document} {index : Nat} {line : String}
    (h : doc.line? index = some line) :
    (documentLines doc.text.toList)[index]? = some line.toList := by
  rw [Document.line?, Document.lines, List.getElem?_map] at h
  obtain ⟨cs, hcs, rfl⟩ := Option.map_eq_some_iff.1 h
  rw [hcs, String.toList_ofList]

theorem Document.unbroken_line {doc : Document} {index : Nat} {line : String}
    (h : doc.line? index = some line) : Unbroken line.toList :=
  unbroken_of_mem_documentLines (List.mem_of_getElem? (Document.getElem?_documentLines h))

def exchanged (line : String) (start stop : Nat) (text : String) : String :=
  String.ofList (splice line.toList start stop text.toList)

/-- An edit within one line exchanges this line and leaves the others as they are. -/
theorem lines_applied {doc : Document} {index start stop : Nat} {line text : String}
    (hline : doc.line? index = some line) (hstart : start ≤ stop)
    (hstop : stop ≤ line.toList.length) (hne : text.toList ≠ []) (htext : Unbroken text.toList) :
    (Edit.applied ⟨.on index line start stop, text⟩ doc).lines =
      doc.lines.set index (exchanged line start stop text) := by
  have hget := Document.getElem?_documentLines hline
  have hnonempty : splice line.toList start stop text.toList ≠ [] := by
    intro h
    exact hne (List.append_eq_nil_iff.1 (List.append_eq_nil_iff.1 h).2).1
  have hunbroken := unbroken_splice start stop (Document.unbroken_line hline) htext
  have hlines := documentLines_splice hget hstart hstop hnonempty hunbroken
  have hoffsets : doc.offset (.on index line start) = lineOffset doc.text.toList index + start ∧
      doc.offset (.on index line stop) = lineOffset doc.text.toList index + stop :=
    ⟨Document.offset_on hline (Nat.le_trans hstart hstop), Document.offset_on hline hstop⟩
  rw [Document.lines, Edit.applied, Range.on]
  dsimp only
  rw [String.toList_ofList, hoffsets.1, hoffsets.2, hlines, List.map_set]
  rfl

/-! ## Reading the edited line -/

/-- A text that can stand as a value: it is not empty, has no blanks around it, starts no comment
and stays on its line. -/
def Plain (text : String) : Prop :=
  Tight text.toList ∧ ∀ c ∈ text.toList, c ≠ '#' ∧ isBreakChar c = false

instance (text : String) : Decidable (Plain text) :=
  @instDecidableAnd _ _ (inferInstanceAs (Decidable (_ ≠ _ ∧ _ = _))) (List.decidableBAll _ _)

theorem Plain.unbroken {text : String} (h : Plain text) : Unbroken text.toList :=
  fun c hc => (h.2 c hc).2

theorem Plain.hash_not_mem {text : String} (h : Plain text) : '#' ∉ text.toList :=
  fun hc => (h.2 '#' hc).1 rfl

theorem assignment?_exchanged {line text : String} {a : Assignment} (hline : Unbroken line.toList)
    (ha : assignment? line = some a) (hclear : a.StandsClear line) (htext : Plain text) :
    ∃ b, assignment? (exchanged line a.valueStart a.valueEnd text) = some b ∧ b.name = a.name ∧
      b.value = text := by
  obtain ⟨l, hl, rfl⟩ := (assignment?_eq_some_iff hline.feed_not_mem).1 ha
  have hlclear := (standsClear_located_iff hl).1 hclear
  have hunbroken := unbroken_splice l.located.valueStart l.located.valueEnd hline htext.unbroken
  have hsplice := l.splice_of_clear hlclear htext.1 htext.hash_not_mem
  rw [hl] at hsplice
  refine ⟨(l.assign text.toList htext.1 htext.hash_not_mem).located, ?_, rfl, ?_⟩
  · apply (assignment?_eq_some_iff ?_).2
    · exact ⟨_, by rw [exchanged, String.toList_ofList, hsplice], rfl⟩
    · rw [exchanged, String.toList_ofList]
      exact hunbroken.feed_not_mem
  · exact String.ofList_toList

theorem name_exchanged_ne {line text : String} {a b : Assignment} (hline : Unbroken line.toList)
    (ha : assignment? line = some a) (hclear : ¬ a.StandsClear line) (htext : Plain text)
    (hequals : text.toList.head? ≠ some '=')
    (hb : assignment? (exchanged line a.valueStart a.valueEnd text) = some b) :
    b.name ≠ a.name := by
  obtain ⟨l, hl, rfl⟩ := (assignment?_eq_some_iff hline.feed_not_mem).1 ha
  have hlclear : ¬ l.Clear := fun h => hclear ((standsClear_located_iff hl).2 h)
  obtain ⟨c, rest, hcons, hc⟩ := htext.1.exists_cons
  have hne : c ≠ '=' := by
    rintro rfl
    rw [hcons] at hequals
    exact hequals rfl
  intro hname
  rw [assignment?] at hb
  obtain ⟨⟨name, value⟩, hassigned, rfl⟩ := Option.map_eq_some_iff.1 hb
  have hname' : name = l.name := String.ofList_injective hname
  rw [exchanged, String.toList_ofList, ← hl, hcons, hname'] at hassigned
  exact l.assigned?_splice_ne_of_not_clear hlclear hc hne value hassigned

/-! ## Fixes -/

def OffersPlain (c : Catalog) : Prop :=
  ∀ v ∈ c.toList, ∀ text ∈ v.optionNames ++ v.firstDefault?.toList, Plain text

instance (c : Catalog) : Decidable (OffersPlain c) :=
  inferInstanceAs (Decidable (∀ v ∈ c.toList, ∀ text ∈ v.optionNames ++ v.firstDefault?.toList,
    Plain text))

def Fix.TitleNames (f : Fix) : Prop :=
  f.title = "Set to '" ++ f.edit.text ++ "'" ∨
    f.title = "Set to default value '" ++ f.edit.text ++ "'"

theorem mem_replacements {v : Variable} {title text : String} (h : (title, text) ∈ replacements v) :
    text ∈ v.optionNames ++ v.firstDefault?.toList ∧
      (title = "Set to '" ++ text ++ "'" ∨ title = "Set to default value '" ++ text ++ "'") := by
  rw [replacements] at h
  split at h
  · obtain ⟨t, ht, hpair⟩ := List.mem_map.1 h
    cases hpair
    exact ⟨List.mem_append_right _ ht, Or.inr rfl⟩
  · obtain ⟨t, ht, hpair⟩ := List.mem_map.1 h
    cases hpair
    exact ⟨List.mem_append_left _ (List.mem_of_mem_take ht), Or.inl rfl⟩

/-- There is something to offer for a diagnostic: it is one of this tool, and its line assigns to a
known variable now. -/
structure Fixable (c : Catalog) (doc : Document) (d : Diagnostic) (line : String) (a : Assignment)
    (v : Variable) : Prop where
  source : d.source = some diagnosticSource
  there : doc.line? d.range.start.line = some line
  reads : assignment? line = some a
  known : c.get? a.name = some v

theorem fixesFor_of_fixable {c : Catalog} {doc : Document} {d : Diagnostic} {line : String}
    {a : Assignment} {v : Variable} (h : Fixable c doc d line a v) :
    fixesFor c doc d = (replacements v).map fun r =>
      ⟨r.1, d, .on d.range.start.line line a.valueStart a.valueEnd, r.2⟩ := by
  simp only [fixesFor, fixesOn, h.source, h.there, h.reads, h.known, if_true]

theorem exists_fixable_of_ne_nil {c : Catalog} {doc : Document} {d : Diagnostic}
    (h : fixesFor c doc d ≠ []) : ∃ line a v, Fixable c doc d line a v := by
  rw [fixesFor] at h
  split at h
  · next hsource =>
    split at h
    · exact absurd rfl h
    · next line hline =>
      rw [fixesOn] at h
      split at h
      · exact absurd rfl h
      · next a ha =>
        split at h
        · exact absurd rfl h
        · next v hv => exact ⟨line, a, v, hsource, hline, ha, hv⟩
  · exact absurd rfl h

/-- Every fix puts an offered text in place of the value on the line of its diagnostic. -/
theorem mem_fixesFor {c : Catalog} {doc : Document} {d : Diagnostic} {f : Fix}
    (hf : f ∈ fixesFor c doc d) :
    ∃ line a v, Fixable c doc d line a v ∧ f.diagnostic = d ∧
      (f.title, f.edit.text) ∈ replacements v ∧
      f.edit.range = .on d.range.start.line line a.valueStart a.valueEnd := by
  obtain ⟨line, a, v, hfixable⟩ := exists_fixable_of_ne_nil (List.ne_nil_of_mem hf)
  rw [fixesFor_of_fixable hfixable] at hf
  obtain ⟨r, hr, rfl⟩ := List.mem_map.1 hf
  exact ⟨line, a, v, hfixable, rfl, hr, rfl⟩

theorem mem_fixes {c : Catalog} {doc : Document} {ds : List Diagnostic} {f : Fix}
    (hf : f ∈ fixes c doc ds) :
    ∃ line a v, doc.line? f.diagnostic.range.start.line = some line ∧ assignment? line = some a ∧
      c.get? a.name = some v ∧ f.edit.text ∈ v.optionNames ++ v.firstDefault?.toList ∧
      f.TitleNames ∧
      f.edit.range = .on f.diagnostic.range.start.line line a.valueStart a.valueEnd := by
  obtain ⟨d, _, hfd⟩ := List.mem_flatMap.1 hf
  obtain ⟨line, a, v, hfixable, rfl, hr, hrange⟩ := mem_fixesFor hfd
  obtain ⟨hoffered, htitle⟩ := mem_replacements hr
  exact ⟨line, a, v, hfixable.there, hfixable.reads, hfixable.known, hoffered, htitle, hrange⟩

theorem OffersPlain.plain {c : Catalog} (h : OffersPlain c) {name text : String} {v : Variable}
    (hv : c.get? name = some v) (htext : text ∈ v.optionNames ++ v.firstDefault?.toList) :
    Plain text := by
  have hentry := (Dictionary.get?_eq_some_iff _ _ _).1 hv
  exact h v (List.mem_map.2 ⟨_, hentry, rfl⟩) text htext

/-- A fix changes no line but that of its diagnostic. There it assigns the text that its title names
to the same variable, if the value on the line stands clear of the equals sign. If it does not, the
line assigns nothing to this variable any more, unless the text brings an equals sign along. -/
theorem fix_assigns_named_text {c : Catalog} (hc : OffersPlain c) (doc : Document)
    (ds : List Diagnostic) (f : Fix) (hf : f ∈ fixes c doc ds) :
    ∃ line a edited, doc.line? f.diagnostic.range.start.line = some line ∧
      assignment? line = some a ∧ f.TitleNames ∧
      (f.edit.applied doc).lines = doc.lines.set f.diagnostic.range.start.line edited ∧
      (a.StandsClear line →
        ∃ b, assignment? edited = some b ∧ b.name = a.name ∧ b.value = f.edit.text) ∧
      (¬ a.StandsClear line → f.edit.text.toList.head? ≠ some '=' →
        ∀ b, assignment? edited = some b → b.name ≠ a.name) := by
  obtain ⟨line, a, v, hline, ha, hv, hoffered, htitle, hrange⟩ := mem_fixes hf
  have hplain := hc.plain hv hoffered
  have hunbroken := Document.unbroken_line hline
  have hstop : a.valueEnd ≤ line.toList.length := by
    obtain ⟨l, hl, rfl⟩ := (assignment?_eq_some_iff hunbroken.feed_not_mem).1 ha
    rw [← hl]
    exact l.valueEnd_located_le
  have hstart : a.valueStart ≤ a.valueEnd := Nat.le_add_right _ _
  have hlines := lines_applied hline hstart hstop hplain.1.1 hplain.unbroken
  refine ⟨line, a, exchanged line a.valueStart a.valueEnd f.edit.text, hline, ha, htitle,
    ?_, ?_, ?_⟩
  · rw [← hlines, ← hrange]
  · intro hclear
    exact assignment?_exchanged hunbroken ha hclear hplain
  · intro hclear hequals b hb
    exact name_exchanged_ne hunbroken ha hclear hplain hequals hb

def sampleCatalog : Catalog :=
  .ofVariables "14.1"
    [⟨"ExtraStates", .integer, ["0"], "States", [], [], none⟩,
      ⟨"BoxShape", .string, [], "Mesh", [], [⟨"sphere", "1"⟩, ⟨"cylinder", "2"⟩], none⟩]

def sampleDeck : Document :=
  ⟨"ExtraStates = # many\r\nBoxShape = 𝛼𝛽 # 𝛼𝛽\n", 1⟩

theorem fix_assigns_named_text_sample :
    OffersPlain sampleCatalog ∧
      ∃ f ∈ fixes sampleCatalog sampleDeck (sampleDeck.diagnostics sampleCatalog),
        f.edit.text = "cylinder" ∧
        ∃ line a edited, sampleDeck.line? f.diagnostic.range.start.line = some line ∧
          assignment? line = some a ∧ f.TitleNames ∧
          (f.edit.applied sampleDeck).lines =
            sampleDeck.lines.set f.diagnostic.range.start.line edited ∧
          (a.StandsClear line →
            ∃ b, assignment? edited = some b ∧ b.name = a.name ∧ b.value = f.edit.text) ∧
          (¬ a.StandsClear line → f.edit.text.toList.head? ≠ some '=' →
            ∀ b, assignment? edited = some b → b.name ≠ a.name) := by
  have hplain : OffersPlain sampleCatalog := by decide +kernel
  obtain ⟨f, hf, htext⟩ : ∃ f ∈ fixes sampleCatalog sampleDeck
      (sampleDeck.diagnostics sampleCatalog), f.edit.text = "cylinder" := by decide +kernel
  exact ⟨hplain, f, hf, htext, fix_assigns_named_text hplain _ _ f hf⟩

/-- The fix for a value that is empty does not assign its text to the variable. -/
theorem fix_of_empty_value_misses :
    OffersPlain sampleCatalog ∧
      ¬ ∀ f ∈ fixes sampleCatalog sampleDeck (sampleDeck.diagnostics sampleCatalog),
        (((f.edit.applied sampleDeck).line? f.diagnostic.range.start.line).bind assignment?).map
            (fun b => (b.name, b.value)) =
          ((sampleDeck.line? f.diagnostic.range.start.line).bind assignment?).map
            (fun a => (a.name, f.edit.text)) := by
  decide +kernel

end InputDeck.Editor
