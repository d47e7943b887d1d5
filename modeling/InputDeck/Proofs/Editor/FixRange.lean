import InputDeck.Editor.Encoding
import InputDeck.Proofs.Editor.Fix
import InputDeck.Proofs.Finding
import InputDeck.Proofs.Json.Field
import InputDeck.Proofs.Json.RoundTrip
import InputDeck.Proofs.Statement.Columns

/-!
# Where quick fixes are made

A client may send any diagnostics, with any lines and ranges, also such as belong to an earlier
text. Of such a diagnostic only its source and its line count. The line is read again as it is now,
so an edit covers the value that stands there, and never anything else. For a diagnostic that the
document has now this is the range of the diagnostic itself.

Ranges are sent in numbers of 32 bits. A client gets the range that was meant on every line that is
not too long to be addressed so.
-/

namespace InputDeck.Editor

open InputDeck.Text
open InputDeck.Statement

/-! ## What a range covers -/

/-- The range lies on a line of the document and covers the given text there. -/
structure Range.Covers (r : Range) (doc : Document) (line text : String) : Prop where
  there : doc.line? r.start.line = some line
  one_line : r.stop.line = r.start.line
  ordered : r.start.column ≤ r.stop.column
  inside : r.stop.column ≤ unitLength line.toList
  covered : ∃ left right, line.toList = left ++ (text.toList ++ right) ∧
    r.start.column = unitLength left ∧ r.stop.column = unitLength (left ++ text.toList)

theorem covers_value {doc : Document} {index : Nat} {line : String} {a : Assignment}
    (hline : doc.line? index = some line) (ha : assignment? line = some a) :
    (Range.on index line a.valueStart a.valueEnd).Covers doc line a.value := by
  obtain ⟨l, htext, rfl⟩ := exists_layout_of_assignment? ha
  have hstands := l.standsIn_located htext
  generalize l.located = a at hstands
  have htake := take_append_extract line.toList hstands.value_ordered
  rw [hstands.value_there] at htake
  have hpieces : line.toList = line.toList.take a.valueStart ++
      (a.value.toList ++ line.toList.drop a.valueEnd) := by
    rw [← List.append_assoc, htake, List.take_append_drop]
  have hstart : unitColumn line.toList a.valueStart =
      unitLength (line.toList.take a.valueStart) := rfl
  have hstop : unitColumn line.toList a.valueEnd =
      unitLength (line.toList.take a.valueStart ++ a.value.toList) := by
    rw [htake, unitColumn]
  have hlength := congrArg unitLength hpieces
  rw [← List.append_assoc, unitLength_append, ← hstop] at hlength
  refine ⟨hline, rfl, ?_, ?_, _, _, hpieces, hstart, hstop⟩
  · change unitColumn line.toList a.valueStart ≤ unitColumn line.toList a.valueEnd
    rw [hstart, hstop, unitLength_append]
    exact Nat.le_add_right _ _
  · change unitColumn line.toList a.valueEnd ≤ unitLength line.toList
    rw [hlength]
    exact Nat.le_add_right _ _

/-- A diagnostic of the document covers the value on its line. -/
theorem range_of_mem_diagnostics {c : Catalog} {doc : Document} {d : Diagnostic} {line : String}
    {a : Assignment} (hd : d ∈ doc.diagnostics c) (hline : doc.line? d.range.start.line = some line)
    (ha : assignment? line = some a) :
    d.range = .on d.range.start.line line a.valueStart a.valueEnd := by
  obtain ⟨f, hf, rfl⟩ := List.mem_map.1 hd
  obtain ⟨scanned, b, v, hscanned, hrefuses, hfinding⟩ := c.mem_scan_iff.1 hf
  have hsame : scanned = line := Option.some.inj (hscanned.symm.trans hline)
  rw [hsame] at hscanned hrefuses
  have hread : b = a := Option.some.inj (hrefuses.reads.symm.trans ha)
  have hcolumns : f.startColumn = a.valueStart ∧ f.endColumn = a.valueEnd := by
    rw [hfinding, hread]
    exact ⟨rfl, rfl⟩
  change Range.on f.line ((doc.line? f.line).getD "") f.startColumn f.endColumn = _
  rw [Document.line?, hscanned, hcolumns.1, hcolumns.2]
  rfl

/-! ## The fixes for one diagnostic -/

theorem map_text_replacements (v : Variable) :
    (replacements v).map Prod.snd =
      if v.options = [] then v.firstDefault?.toList else v.optionNames.take optionFixLimit := by
  rw [replacements]
  simp only [List.isEmpty_iff]
  split <;> rw [List.map_map] <;> exact List.map_id _

theorem length_replacements_le (v : Variable) : (replacements v).length ≤ optionFixLimit := by
  rw [← List.length_map Prod.snd, map_text_replacements]
  split
  · cases v.firstDefault? <;> simp [optionFixLimit]
  · exact List.length_take_le _ _

theorem length_fixesFor_le (c : Catalog) (doc : Document) (d : Diagnostic) :
    (fixesFor c doc d).length ≤ optionFixLimit := by
  by_cases h : fixesFor c doc d = []
  · rw [h]
    exact Nat.zero_le _
  · obtain ⟨line, a, v, hfixable⟩ := exists_fixable_of_ne_nil h
    rw [fixesFor_of_fixable hfixable, List.length_map]
    exact length_replacements_le v

theorem map_text_fixesFor {c : Catalog} {doc : Document} {d : Diagnostic} {line : String}
    {a : Assignment} {v : Variable} (h : Fixable c doc d line a v) :
    (fixesFor c doc d).map (·.edit.text) =
      if v.options = [] then v.firstDefault?.toList else v.optionNames.take optionFixLimit := by
  rw [fixesFor_of_fixable h, ← map_text_replacements, List.map_map]
  rfl

/-! ## Actions as they are sent -/

def Position.Fits (p : Position) : Prop :=
  p.line < Json.halfWordLimit ∧ p.column < Json.halfWordLimit

theorem unsigned?_ofNat {n : Nat} (h : n < Json.halfWordLimit) :
    (Json.ofNat n).unsigned? = some n := by
  have hword : n < Json.Number.wordLimit := Nat.lt_trans h (by decide)
  have hnat : (Json.ofNat n).nat? = some n := by
    rw [Json.ofNat, Json.nat?, Json.Number.integer?_ofNat hword]
  rw [Json.unsigned?, hnat, Option.filter_some, if_pos (decide_eq_true h)]

theorem Position.ofJson?_toJson {p : Position} (h : p.Fits) : ofJson? p.toJson = some p := by
  have hline : Json.needed? p.toJson "line" Json.unsigned? = some p.line := by
    change (Json.ofNat (p.line % Json.halfWordLimit)).unsigned? = _
    rw [Nat.mod_eq_of_lt h.1, unsigned?_ofNat h.1]
  have hcolumn : Json.needed? p.toJson "character" Json.unsigned? = some p.column := by
    change (Json.ofNat (p.column % Json.halfWordLimit)).unsigned? = _
    rw [Nat.mod_eq_of_lt h.2, unsigned?_ofNat h.2]
  have hrecord : Json.record? ["line", "character"] p.toJson = some p.toJson := rfl
  rw [ofJson?, hrecord, Option.bind_eq_bind, Option.bind_some, hline, Option.bind_eq_bind,
    Option.bind_some, hcolumn]
  rfl

theorem Range.ofJson?_toJson {r : Range} (hstart : r.start.Fits) (hstop : r.stop.Fits) :
    ofJson? r.toJson = some r := by
  have hfirst : Json.needed? r.toJson "start" Position.ofJson? = some r.start :=
    Position.ofJson?_toJson hstart
  have hsecond : Json.needed? r.toJson "end" Position.ofJson? = some r.stop :=
    Position.ofJson?_toJson hstop
  have hrecord : Json.record? ["start", "end"] r.toJson = some r.toJson := rfl
  rw [ofJson?, hrecord, Option.bind_eq_bind, Option.bind_some, hfirst, Option.bind_eq_bind,
    Option.bind_some, hsecond]
  rfl

theorem Range.Covers.ofJson?_toJson {r : Range} {doc : Document} {line text : String}
    (h : r.Covers doc line text) (hline : r.start.line < Json.halfWordLimit)
    (hlength : unitLength line.toList < Json.halfWordLimit) : Range.ofJson? r.toJson = some r := by
  have hstop := Nat.lt_of_le_of_lt h.inside hlength
  have hstart := Nat.lt_of_le_of_lt h.ordered hstop
  exact Range.ofJson?_toJson ⟨hline, hstart⟩ ⟨h.one_line ▸ hline, hstop⟩

def actionEdits (action : Json) : List (String × Json) :=
  match (action.get? "edit").bind (Json.get? "changes") with
  | some (.object members) =>
    members.flatMap fun member => (member.2.array?.getD []).map (Prod.mk member.1)
  | _ => []

def actionDiagnostics (action : Json) : List Json :=
  ((action.get? "diagnostics").bind Json.array?).getD []

theorem actionEdits_toJson (f : Fix) (uri : String) :
    actionEdits (f.toJson uri) = [(uri, f.edit.toJson)] := rfl

theorem actionDiagnostics_toJson (f : Fix) (uri : String) :
    actionDiagnostics (f.toJson uri) = [f.diagnostic.toJson] := rfl

/-- The object has the members of a diagnostic, each with its value if that is set. -/
structure Diagnostic.WrittenAs (d : Diagnostic) (v : Json) : Prop where
  range : v.get? "range" = some d.range.toJson
  severity : v.get? "severity" = d.severity.map Json.ofInt
  code : v.get? "code" = d.code.map Code.toJson
  codeLink : v.get? "codeDescription" = d.codeLink.map fun link => .object [("href", .string link)]
  source : v.get? "source" = d.source.map Json.string
  message : v.get? "message" = some (.string d.message)
  related : v.get? "relatedInformation" = d.related.map fun items =>
    .array (items.map Related.toJson)
  tags : v.get? "tags" = d.tags.map fun tags => .array (tags.map Json.ofInt)
  data : v.get? "data" = d.data

theorem Diagnostic.writtenAs_toJson (d : Diagnostic) : d.WrittenAs d.toJson := by
  constructor <;> simp only [toJson, Json.get?_append, Json.get?_single, Json.get?_member] <;> simp

structure Edit.WrittenAs (e : Edit) (v : Json) : Prop where
  range : v.get? "range" = some e.range.toJson
  text : v.get? "newText" = some (.string e.text)

theorem Edit.writtenAs_toJson (e : Edit) : e.WrittenAs e.toJson :=
  ⟨rfl, rfl⟩

/-- Whatever diagnostics a client sends, every fix is for one of them that names this tool. It is
sent with that diagnostic and one edit, which covers the value that the line of the diagnostic
assigns now; the range is read back as it was meant if it fits into numbers of 32 bits. For a
diagnostic of the document the edit covers what the diagnostic does. Each diagnostic is fixed on its
own, in five ways at most: by the first options of the variable in their order or, if it has none,
by its default. -/
theorem fixes_stay_on_value (c : Catalog) (doc : Document) (ds : List Diagnostic) :
    (∀ f ∈ fixes c doc ds,
      f.diagnostic ∈ ds ∧ f.diagnostic.source = some "octopus" ∧
      (∀ uri, actionDiagnostics (f.toJson uri) = [f.diagnostic.toJson] ∧
        actionEdits (f.toJson uri) = [(uri, f.edit.toJson)]) ∧
      f.diagnostic.WrittenAs f.diagnostic.toJson ∧ f.edit.WrittenAs f.edit.toJson ∧
      (∃ line a, assignment? line = some a ∧ f.edit.range.Covers doc line a.value ∧
        f.edit.range.start.line = f.diagnostic.range.start.line ∧
        (f.edit.range.start.line < Json.halfWordLimit →
          unitLength line.toList < Json.halfWordLimit →
          Range.ofJson? f.edit.range.toJson = some f.edit.range)) ∧
      (f.diagnostic ∈ doc.diagnostics c → f.edit.range = f.diagnostic.range)) ∧
    fixes c doc ds = ds.flatMap (fun d => fixes c doc [d]) ∧
    ∀ d, (fixes c doc [d]).length ≤ 5 ∧
      (fixes c doc [d] ≠ [] → ∃ line a v, doc.line? d.range.start.line = some line ∧
        assignment? line = some a ∧ c.get? a.name = some v ∧
        (fixes c doc [d]).map (·.edit.text) =
          if v.options = [] then v.firstDefault?.toList else v.optionNames.take 5) := by
  have hone : ∀ d, fixes c doc [d] = fixesFor c doc d := fun d => List.flatMap_singleton ..
  refine ⟨?_, ?_, ?_⟩
  · intro f hf
    obtain ⟨d, hd, hfd⟩ := List.mem_flatMap.1 hf
    obtain ⟨line, a, v, hfixable, rfl, _, hrange⟩ := mem_fixesFor hfd
    have hcovers : f.edit.range.Covers doc line a.value := by
      rw [hrange]
      exact covers_value hfixable.there hfixable.reads
    refine ⟨hd, hfixable.source, fun uri => ⟨actionDiagnostics_toJson f uri,
      actionEdits_toJson f uri⟩, f.diagnostic.writtenAs_toJson, f.edit.writtenAs_toJson,
      ⟨line, a, hfixable.reads, hcovers, ?_, hcovers.ofJson?_toJson⟩, ?_⟩
    · rw [hrange]
      rfl
    · intro hreported
      rw [hrange, ← range_of_mem_diagnostics hreported hfixable.there hfixable.reads]
  · simp only [hone]
    rfl
  · intro d
    rw [hone]
    refine ⟨length_fixesFor_le c doc d, ?_⟩
    intro hne
    obtain ⟨line, a, v, hfixable⟩ := exists_fixable_of_ne_nil hne
    exact ⟨line, a, v, hfixable.there, hfixable.reads, hfixable.known, map_text_fixesFor hfixable⟩

def bareDiagnostic (range : Range) (source : Option String) : Diagnostic :=
  ⟨range, none, none, none, source, "", none, none, none⟩

def staleDiagnostic : Diagnostic :=
  bareDiagnostic ⟨⟨1, 40⟩, ⟨0, 3⟩⟩ (some "octopus")

def strayDiagnostics : List Diagnostic :=
  [bareDiagnostic ⟨⟨1, 11⟩, ⟨1, 15⟩⟩ (some "spelling"), staleDiagnostic,
    bareDiagnostic ⟨⟨9, 0⟩, ⟨9, 1⟩⟩ (some "octopus")]

theorem fixes_stay_on_value_stray :
    (fixes sampleCatalog sampleDeck strayDiagnostics).map (·.edit) =
      [⟨⟨⟨1, 11⟩, ⟨1, 15⟩⟩, "sphere"⟩, ⟨⟨⟨1, 11⟩, ⟨1, 15⟩⟩, "cylinder"⟩] ∧
    (∀ f ∈ fixes sampleCatalog sampleDeck strayDiagnostics,
      ∃ line a, assignment? line = some a ∧ f.edit.range.Covers sampleDeck line a.value ∧
        f.edit.toJson.get? "newText" = some (.string f.edit.text) ∧
        Range.ofJson? f.edit.range.toJson = some f.edit.range) ∧
    (∃ line a v, sampleDeck.line? 1 = some line ∧ assignment? line = some a ∧
      sampleCatalog.get? a.name = some v ∧
      (fixes sampleCatalog sampleDeck [staleDiagnostic]).map (·.edit.text) =
        if v.options = [] then v.firstDefault?.toList else v.optionNames.take 5) ∧
    ∃ f ∈ fixes sampleCatalog sampleDeck (sampleDeck.diagnostics sampleCatalog),
      f.edit.text = "cylinder" ∧ f.edit.range = f.diagnostic.range := by
  have hedits : (fixes sampleCatalog sampleDeck strayDiagnostics).map (·.edit) =
      [⟨⟨⟨1, 11⟩, ⟨1, 15⟩⟩, "sphere"⟩, ⟨⟨⟨1, 11⟩, ⟨1, 15⟩⟩, "cylinder"⟩] := by decide +kernel
  have hsome : (fixes sampleCatalog sampleDeck [staleDiagnostic]).length = 2 := by decide +kernel
  have hne : fixes sampleCatalog sampleDeck [staleDiagnostic] ≠ [] := by
    intro hnil
    rw [hnil] at hsome
    cases hsome
  obtain ⟨hstray, _, heach⟩ := fixes_stay_on_value sampleCatalog sampleDeck strayDiagnostics
  obtain ⟨f, hf, htext⟩ : ∃ f ∈ fixes sampleCatalog sampleDeck
      (sampleDeck.diagnostics sampleCatalog), f.edit.text = "cylinder" := by decide +kernel
  obtain ⟨hreported, _, _, _, _, _, hrange⟩ := (fixes_stay_on_value sampleCatalog sampleDeck
    (sampleDeck.diagnostics sampleCatalog)).1 f hf
  refine ⟨hedits, ?_, (heach staleDiagnostic).2 hne, f, hf, htext, hrange hreported⟩
  intro g hg
  obtain ⟨_, _, _, _, hwritten, ⟨line, a, ha, hcovers, _, hsent⟩, _⟩ := hstray g hg
  have hstart : g.edit.range.start.line = 1 := by
    have hmem := List.mem_map_of_mem (f := (·.edit)) hg
    rw [hedits, List.mem_cons, List.mem_singleton] at hmem
    rcases hmem with hedit | hedit <;> rw [hedit]
  have hline : line = "BoxShape = 𝛼𝛽 # 𝛼𝛽" := by
    have hthere : sampleDeck.line? 1 = some "BoxShape = 𝛼𝛽 # 𝛼𝛽" := by decide +kernel
    have hfound := hcovers.there
    rw [hstart, hthere] at hfound
    exact (Option.some.inj hfound).symm
  refine ⟨line, a, ha, hcovers, hwritten.text, hsent ?_ ?_⟩
  · rw [hstart]
    decide
  · rw [hline]
    decide +kernel

end InputDeck.Editor
