import InputDeck.Editor.Hint
import InputDeck.Proofs.Finding
import InputDeck.Proofs.Statement.Block

/-!
# The hint of a line

Hints are made line by line, and each stands on its line. Lines that are passed over without being
read would have no hint anyway: `hintsFrom_cons`. So the hints of a document on one of the requested
lines are what `hintOn?` gives for this line, if its class is switched on.
-/

namespace InputDeck.Editor

open InputDeck.Text
open InputDeck.Statement

variable {c : Catalog} {settings : HintSettings}

theorem line_of_hintOn? {index : Nat} {line : String} {h : Hint}
    (hh : hintOn? c index line = some h) :
    h.position.line = index := by
  rw [hintOn?] at hh
  split at hh
  · cases hh
    rfl
  · obtain ⟨b, _, rfl⟩ := Option.map_eq_some_iff.1 hh
    rfl

/-- A line that is blank or a comment defines nothing. -/
theorem hintOn?_of_comment {line : String} (h : ∀ ch ∈ (trim line.toList).head?, ch = '#')
    (c : Catalog) (index : Nat) : hintOn? c index line = none := by
  rw [head?_trim] at h
  have hassignment : assignment? line = none :=
    assignment?_of_isSkippedLine (isSkippedLine_iff.2 fun ch hch => Or.inr (Or.inl (h ch hch)))
  have hblock : blockOpening? line = none := by
    rw [Option.eq_none_iff_forall_ne_some]
    intro b hb
    obtain ⟨lead, name, fill, hlead, _, _, hline, _⟩ := blockOpening?_eq_some_iff.1 hb
    rw [hline, trimStart_append hlead, trimStart_cons isBlank_percent] at h
    have hpercent := h '%' rfl
    cases hpercent
  rw [hintOn?, hassignment]
  dsimp only
  rw [hblock]
  rfl

theorem hasNoHint_iff {line : String} :
    hasNoHint line = true ↔ ∀ ch ∈ (trim line.toList).head?, ch = '#' := by
  rw [hasNoHint]
  cases trim line.toList with
  | nil => simp
  | cons ch rest => simp

/-- Passing lines over loses nothing. -/
theorem hintsFrom_cons (start : Nat) (line : String) (lines : List String) :
    hintsFrom c settings start (line :: lines) =
      ((hintOn? c start line).filter (shows settings)).toList ++
        hintsFrom c settings (start + 1) lines := by
  rw [hintsFrom]
  split
  · next hnone => rw [hintOn?_of_comment (hasNoHint_iff.1 hnone) c start]
  · rfl

theorem hintsFrom_append (start : Nat) (lines more : List String) :
    hintsFrom c settings start (lines ++ more) =
      hintsFrom c settings start lines ++ hintsFrom c settings (start + lines.length) more := by
  induction lines generalizing start with
  | nil => rfl
  | cons line lines ih =>
    rw [List.cons_append, hintsFrom_cons, hintsFrom_cons, ih, List.append_assoc, List.length_cons]
    congr 3
    omega

theorem line_of_mem_hintsFrom {start : Nat} {lines : List String} {h : Hint}
    (hh : h ∈ hintsFrom c settings start lines) :
    start ≤ h.position.line ∧ h.position.line < start + lines.length := by
  induction lines generalizing start with
  | nil => cases hh
  | cons line lines ih =>
    rw [hintsFrom_cons] at hh
    rw [List.length_cons]
    rcases List.mem_append.1 hh with hh | hh
    · rw [Option.mem_toList] at hh
      have hline := line_of_hintOn? (Option.eq_some_of_filter_eq_some hh)
      omega
    · have hline := ih hh
      omega

theorem filter_hintsFrom_eq_nil {start index : Nat} {lines : List String}
    (h : index < start ∨ start + lines.length ≤ index) :
    (hintsFrom c settings start lines).filter (·.position.line = index) = [] := by
  rw [List.filter_eq_nil_iff]
  intro hint hhint
  have hline := line_of_mem_hintsFrom hhint
  simp only [decide_eq_true_eq]
  omega

/-- Of the hints on a list of lines, one line has its own. -/
theorem filter_hintsFrom {start index : Nat} {lines : List String} {line : String}
    (hline : lines[index]? = some line) :
    (hintsFrom c settings start lines).filter (·.position.line = start + index) =
      ((hintOn? c (start + index) line).filter (shows settings)).toList := by
  obtain ⟨hindex, hget⟩ := List.getElem?_eq_some_iff.1 hline
  have hsplit : lines = lines.take index ++ line :: lines.drop (index + 1) := by
    rw [← hget, ← List.drop_eq_getElem_cons, List.take_append_drop]
  have hlength : (lines.take index).length = index := by
    rw [List.length_take]
    omega
  have hbefore : (hintsFrom c settings start (lines.take index)).filter
      (·.position.line = start + index) = [] := filter_hintsFrom_eq_nil (Or.inr (by omega))
  have hafter : (hintsFrom c settings (start + index + 1) (lines.drop (index + 1))).filter
      (·.position.line = start + index) = [] := filter_hintsFrom_eq_nil (Or.inl (by omega))
  rw [hsplit, hintsFrom_append, hlength, hintsFrom_cons, List.filter_append, List.filter_append,
    hbefore, hafter, List.nil_append, List.append_nil, List.filter_eq_self]
  intro h hh
  rw [Option.mem_toList] at hh
  have := line_of_hintOn? (Option.eq_some_of_filter_eq_some hh)
  simpa using this

/-- The hints on one of the requested lines of a document. -/
theorem filter_hints {doc : Document} {first last index : Nat} {line : String}
    (henabled : settings.enabled = true) (hline : doc.line? index = some line)
    (hfirst : first ≤ index) (hlast : index ≤ last) :
    (hints c settings doc first last).filter (·.position.line = index) =
      ((hintOn? c index line).filter (shows settings)).toList := by
  obtain ⟨k, rfl⟩ := Nat.exists_eq_add_of_le hfirst
  have hrequested : ((doc.lines.take (last + 1)).drop first)[k]? = some line := by
    rw [List.getElem?_drop, List.getElem?_take_of_lt (by omega)]
    exact hline
  rw [hints, if_pos henabled, filter_hintsFrom hrequested]

end InputDeck.Editor
