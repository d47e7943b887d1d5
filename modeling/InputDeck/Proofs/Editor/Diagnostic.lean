import InputDeck.Catalog.Load
import InputDeck.Editor.Diagnostic
import InputDeck.Proofs.Finding
import InputDeck.Proofs.Text.Line

/-!
# An editor shows what a check of the file finds

A file is cut into lines in one way and an open document in another, but where each carriage return
comes with a line feed this makes no difference to a scan. The diagnostics of a document are then
the findings in its file, one by one, with their columns counted in UTF-16 units.
-/

namespace InputDeck

open InputDeck.Text

namespace Catalog

theorem scan_append_blank (c : Catalog) (lines : List String) :
    c.scan (lines ++ [""]) = c.scan lines := by
  have hblank : c.scan [""] = [] := by
    rw [scan_eq, List.zipIdx_singleton, List.filterMap_cons, c.findingOn?_of_isSkippedLine rfl]
    rfl
  rw [scan_append, hblank, List.map_nil, List.append_nil]

theorem getElem?_of_mem_scan {c : Catalog} {lines : List String} {f : Finding}
    (h : f ∈ c.scan lines) : ∃ line, lines[f.line]? = some line := by
  obtain ⟨line, _, _, hline, _⟩ := c.mem_scan_iff.1 h
  exact ⟨line, hline⟩

end Catalog

namespace Editor

theorem Document.lines_eq_append {doc : Document} (h : ReturnsPaired doc.text.toList) :
    doc.lines = fileLines doc.text ∨ doc.lines = fileLines doc.text ++ [""] := by
  obtain ⟨rest, hrest, hlines⟩ := documentLines_eq_append h
  have hmap : doc.lines = fileLines doc.text ++ rest.map String.ofList := by
    rw [Document.lines, hlines, List.map_append, List.map_map]
    rfl
  rcases hrest with rfl | rfl
  · left
    rw [hmap, List.map_nil, List.append_nil]
  · right
    exact hmap

theorem Document.scan_lines {doc : Document} (h : ReturnsPaired doc.text.toList) (c : Catalog) :
    c.scan doc.lines = c.scanText doc.text := by
  rcases doc.lines_eq_append h with hlines | hlines
  · rw [hlines, Catalog.scanText]
  · rw [hlines, c.scan_append_blank, Catalog.scanText]

theorem Document.line?_eq_of_some {doc : Document} (h : ReturnsPaired doc.text.toList) {index : Nat}
    {line : String} (hline : (fileLines doc.text)[index]? = some line) :
    doc.line? index = some line := by
  rw [Document.line?]
  rcases doc.lines_eq_append h with hlines | hlines
  · rw [hlines, hline]
  · obtain ⟨hindex, _⟩ := List.getElem?_eq_some_iff.1 hline
    rw [hlines, List.getElem?_append_left hindex, hline]

/-- The diagnostics of a document are the findings in its text, each put in terms of the line that
it is on: on the same line, with the same message, and between the UTF-16 columns of its two
columns. -/
theorem diagnostics_eq_map_scanText (c : Catalog) (doc : Document)
    (h : ReturnsPaired doc.text.toList) :
    doc.diagnostics c = (c.scanText doc.text).map
      (fun f => .ofFinding f ((fileLines doc.text)[f.line]?.getD "")) ∧
    ∀ f ∈ c.scanText doc.text, ∃ line, (fileLines doc.text)[f.line]? = some line ∧
      (Diagnostic.ofFinding f line).range =
        ⟨⟨f.line, unitColumn line.toList f.startColumn⟩,
          ⟨f.line, unitColumn line.toList f.endColumn⟩⟩ ∧
      (Diagnostic.ofFinding f line).message = f.message := by
  constructor
  · rw [Document.diagnostics, doc.scan_lines h]
    refine List.map_congr_left ?_
    intro f hf
    obtain ⟨line, hline⟩ := Catalog.getElem?_of_mem_scan hf
    rw [doc.line?_eq_of_some h hline, hline]
  · intro f hf
    obtain ⟨line, hline⟩ := Catalog.getElem?_of_mem_scan hf
    exact ⟨line, hline, rfl, rfl⟩

def mixedDeck : Document :=
  ⟨"# 𝜋\r\nExtraStates = 𝜋𝜋 # many\r\n\nSpacing = 1\n", 3⟩

theorem diagnostics_eq_map_scanText_mixedDeck :
    ReturnsPaired mixedDeck.text.toList ∧
      (mixedDeck.diagnostics Catalog.bundled141).map (·.range) = [⟨⟨1, 14⟩, ⟨1, 18⟩⟩] ∧
      mixedDeck.diagnostics Catalog.bundled141 = (Catalog.bundled141.scanText mixedDeck.text).map
        (fun f => .ofFinding f ((fileLines mixedDeck.text)[f.line]?.getD "")) := by
  have hpaired : ReturnsPaired mixedDeck.text.toList := by
    simp [mixedDeck, returnsPaired_cons_iff, returnsPaired_nil]
  refine ⟨hpaired, by decide +kernel, ?_⟩
  exact (diagnostics_eq_map_scanText Catalog.bundled141 mixedDeck hpaired).1

end Editor

end InputDeck
