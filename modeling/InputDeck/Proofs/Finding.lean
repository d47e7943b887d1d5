import InputDeck.Finding
import InputDeck.Proofs.Statement.Assignment

/-!
# What a scan finds

A scan goes through numbered lines, and each line has a finding of its own or none: `scan_eq`. So
findings come in the order of their lines, and scanning two pieces of a deck finds what scanning the
whole does. Lines that are passed over without being read would have no finding anyway.
-/

namespace InputDeck

open InputDeck.Text
open InputDeck.Statement

/-! ## Lines that are passed over -/

theorem isSkippedLine_iff {line : String} :
    isSkippedLine line = true ↔
      ∀ c ∈ (trimStart line.toList).head?, c = '-' ∨ c = '#' ∨ c = '%' := by
  rw [← head?_trim, isSkippedLine]
  cases trim line.toList with
  | nil => simp
  | cons c rest => simp [or_assoc]

/-- A line that assigns something begins with the letter of a name. -/
theorem isAlpha_of_assigned? {cs : List Char} {pair : List Char × List Char}
    (h : assigned? cs = some pair) : ∃ c ∈ (trimStart cs).head?, c.isAlpha = true := by
  unfold assigned? at h
  split at h
  · cases h
  · next name tail hsplit =>
    obtain ⟨lead, gap, hlead, hname, _, rfl⟩ := splitAssignment?_eq_some_iff.1 hsplit
    obtain ⟨c, rest, rfl, hc⟩ := exists_cons_of_isName hname
    refine ⟨c, ?_, (isName_cons_iff.1 hname).1⟩
    rw [trimStart_append hlead, List.cons_append, trimStart_cons hc]
    rfl

theorem assignment?_of_isSkippedLine {line : String} (h : isSkippedLine line = true) :
    assignment? line = none := by
  rw [assignment?, Option.map_eq_none_iff]
  cases hassigned : assigned? line.toList with
  | none => rfl
  | some pair =>
    obtain ⟨c, hc, halpha⟩ := isAlpha_of_assigned? hassigned
    rcases isSkippedLine_iff.1 h c hc with rfl | rfl | rfl <;> cases halpha

/-! ## One line -/

/-- The finding as it stands when so many lines are put in front. -/
def Finding.shift (f : Finding) (count : Nat) : Finding :=
  { f with line := f.line + count }

namespace Catalog

variable (c : Catalog)

/-- The line assigns to a known variable a value that the variable does not take. -/
structure Refuses (line : String) (a : Assignment) (v : Variable) : Prop where
  reads : assignment? line = some a
  known : c.get? a.name = some v
  refused : (v.verdict a.value).isValid = false

theorem findingOn?_eq_some_iff {index : Nat} {line : String} {f : Finding} :
    c.findingOn? index line = some f ↔ ∃ a v, c.Refuses line a v ∧
      f = ⟨index, a.valueStart, a.valueEnd, (v.verdict a.value).fullMessage⟩ := by
  rw [findingOn?]
  constructor
  · intro h
    split at h
    · cases h
    · next a ha =>
      split at h
      · next fault hverdict =>
        obtain ⟨v, hv, hinvalid⟩ := Option.map_eq_some_iff.1 hverdict
        have hrefused : (v.verdict a.value).isValid = false := by
          rw [hinvalid]
          rfl
        refine ⟨a, v, ⟨ha, hv, hrefused⟩, ?_⟩
        rw [hinvalid]
        exact (Option.some.inj h).symm
      · cases h
  · rintro ⟨a, v, ⟨ha, hv, hrefused⟩, rfl⟩
    cases hverdict : v.verdict a.value with
    | valid =>
      rw [hverdict] at hrefused
      cases hrefused
    | invalid fault =>
      have hsome : c.verdict? a.name a.value = some (.invalid fault) := by
        rw [verdict?, hv, Option.map_some, hverdict]
      rw [ha]
      dsimp only
      rw [hsome]

theorem findingOn?_of_isSkippedLine {line : String} (h : isSkippedLine line = true) (index : Nat) :
    c.findingOn? index line = none := by
  rw [findingOn?, assignment?_of_isSkippedLine h]

/-- Where a line stands shows only in the number of its finding. -/
theorem findingOn?_add (index count : Nat) (line : String) :
    c.findingOn? (count + index) line = (c.findingOn? index line).map (·.shift count) := by
  ext f
  rw [Option.map_eq_some_iff, findingOn?_eq_some_iff]
  constructor
  · rintro ⟨a, v, hrefuses, rfl⟩
    refine ⟨_, (c.findingOn?_eq_some_iff).2 ⟨a, v, hrefuses, rfl⟩, ?_⟩
    rw [Finding.shift, Nat.add_comm]
  · rintro ⟨g, hg, rfl⟩
    obtain ⟨a, v, hrefuses, rfl⟩ := c.findingOn?_eq_some_iff.1 hg
    refine ⟨a, v, hrefuses, ?_⟩
    rw [Finding.shift, Nat.add_comm]

/-! ## All lines -/

/-- Passing lines over loses nothing: a scan collects the findings on all lines. -/
theorem scanFrom_eq (start : Nat) (lines : List String) :
    c.scanFrom start lines = (lines.zipIdx start).filterMap fun p => c.findingOn? p.2 p.1 := by
  induction lines generalizing start with
  | nil => rfl
  | cons line lines ih =>
    have hline : (if isSkippedLine line = true then none else c.findingOn? start line) =
        c.findingOn? start line := by
      split
      · next hskipped => rw [c.findingOn?_of_isSkippedLine hskipped]
      · rfl
    rw [scanFrom, hline, ih, List.zipIdx_cons, List.filterMap_cons]
    cases c.findingOn? start line <;> rfl

theorem scan_eq (lines : List String) :
    c.scan lines = lines.zipIdx.filterMap fun p => c.findingOn? p.2 p.1 :=
  c.scanFrom_eq 0 lines

theorem mem_scan_iff {lines : List String} {f : Finding} :
    f ∈ c.scan lines ↔ ∃ line a v, lines[f.line]? = some line ∧ c.Refuses line a v ∧
      f = ⟨f.line, a.valueStart, a.valueEnd, (v.verdict a.value).fullMessage⟩ := by
  rw [scan_eq, List.mem_filterMap]
  constructor
  · rintro ⟨⟨line, index⟩, hmem, hf⟩
    have hline := List.mk_mem_zipIdx_iff_getElem?.1 hmem
    obtain ⟨a, v, hrefuses, rfl⟩ := c.findingOn?_eq_some_iff.1 hf
    exact ⟨line, a, v, hline, hrefuses, rfl⟩
  · rintro ⟨line, a, v, hline, hrefuses, hf⟩
    exact ⟨(line, f.line), List.mk_mem_zipIdx_iff_getElem?.2 hline,
      c.findingOn?_eq_some_iff.2 ⟨a, v, hrefuses, hf⟩⟩

theorem scan_pairwise_lt (lines : List String) :
    (c.scan lines).Pairwise fun f g => f.line < g.line := by
  have hnumbers : lines.zipIdx.Pairwise fun p q => p.2 < q.2 := by
    rw [← List.pairwise_map, List.zipIdx_map_snd]
    exact List.pairwise_lt_range' 1
  rw [scan_eq]
  refine hnumbers.filterMap _ ?_
  intro p q hlt f hf g hg
  obtain ⟨_, _, _, rfl⟩ := c.findingOn?_eq_some_iff.1 hf
  obtain ⟨_, _, _, rfl⟩ := c.findingOn?_eq_some_iff.1 hg
  exact hlt

theorem scan_append (lines more : List String) :
    c.scan (lines ++ more) = c.scan lines ++ (c.scan more).map (·.shift lines.length) := by
  have hmore : (more.zipIdx lines.length).filterMap (fun p => c.findingOn? p.2 p.1) =
      (c.scan more).map (·.shift lines.length) := by
    rw [List.zipIdx_eq_map_add, List.filterMap_map, scan_eq, List.map_filterMap]
    congr 1
    funext p
    exact c.findingOn?_add p.2 lines.length p.1
  rw [scan_eq, List.zipIdx_append, List.filterMap_append, Nat.zero_add, hmore, ← scan_eq]

/-- A scan finds on each line what there is to find there. There is a finding on a line exactly if
the line assigns to a known variable a value that it does not take; the finding then covers the
value and tells why. There is one at most for each line, in the order of the lines, and what is
found in one piece of a deck does not depend on the others. -/
theorem scan_exact (lines : List String) :
    (∀ index, (∃ f ∈ c.scan lines, f.line = index) ↔
      ∃ line a v, lines[index]? = some line ∧ c.Refuses line a v) ∧
    (∀ f, f ∈ c.scan lines ↔ ∃ line a v, lines[f.line]? = some line ∧ c.Refuses line a v ∧
      f.startColumn = a.valueStart ∧ f.endColumn = a.valueEnd ∧
      f.message = (v.verdict a.value).fullMessage) ∧
    (c.scan lines).Pairwise (fun f g => f.line < g.line) ∧
    ∀ more, c.scan (lines ++ more) = c.scan lines ++ (c.scan more).map (·.shift lines.length) := by
  refine ⟨?_, ?_, c.scan_pairwise_lt lines, c.scan_append lines⟩
  · intro index
    constructor
    · rintro ⟨f, hf, rfl⟩
      obtain ⟨line, a, v, hline, hrefuses, _⟩ := c.mem_scan_iff.1 hf
      exact ⟨line, a, v, hline, hrefuses⟩
    · rintro ⟨line, a, v, hline, hrefuses⟩
      exact ⟨⟨index, a.valueStart, a.valueEnd, (v.verdict a.value).fullMessage⟩,
        c.mem_scan_iff.2 ⟨line, a, v, hline, hrefuses, rfl⟩, rfl⟩
  · intro f
    rw [c.mem_scan_iff]
    cases f
    simp only [Finding.mk.injEq, true_and]

end Catalog

end InputDeck
