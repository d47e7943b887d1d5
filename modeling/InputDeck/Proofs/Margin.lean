import InputDeck.Proofs.Finding
import InputDeck.Proofs.Statement.Layout
import Mathlib.Data.List.Forall2

/-!
# Comments and outer blanks

What stands around an assignment does not take part in it. A comment or blanks after it leave it as
it is, although the line is searched anew and the added text may repeat the name or the value;
blanks in front of it move its columns. So a scan of a deck finds the same after such changes, moved
along.
-/

namespace InputDeck

open InputDeck.Text
open InputDeck.Statement

/-! ## Text after an assignment -/

namespace Statement

theorem uncommented_append_of_mem {cs : List Char} (h : '#' ∈ cs) (t : List Char) :
    uncommented (cs ++ t) = uncommented cs := by
  obtain ⟨left, right, rfl, hleft⟩ := List.eq_append_cons_of_mem h
  rw [List.append_assoc, uncommented_append hleft, uncommented_append hleft]
  rfl

theorem uncommented_of_not_mem {cs : List Char} (h : '#' ∉ cs) : uncommented cs = cs := by
  have happend : uncommented (cs ++ []) = cs ++ uncommented [] := uncommented_append h
  rw [List.append_nil] at happend
  exact happend.trans (List.append_nil cs)

/-- Text adds nothing to a value if nothing but blanks stands in it in front of a comment. -/
theorem trim_uncommented_append_right {t : List Char} (ht : AllBlank (uncommented t))
    (cs : List Char) : trim (uncommented (cs ++ t)) = trim (uncommented cs) := by
  by_cases h : '#' ∈ cs
  · rw [uncommented_append_of_mem h]
  · rw [uncommented_append h, trim_append_right ht, uncommented_of_not_mem h]

theorem assigned?_append {cs t name value : List Char} (h : assigned? cs = some (name, value))
    (ht : AllBlank (uncommented t)) (hfeed : '\n' ∉ t) :
    assigned? (cs ++ t) = some (name, value) := by
  obtain ⟨r, rfl, rfl, rfl⟩ := Reading.exists_of_assigned? h
  have hne : r.text ++ t ≠ [] := fun hnil => r.text_ne_nil (List.append_eq_nil_iff.1 hnil).1
  have hfeed' : '\n' ∉ r.text ++ t := by
    intro hmem
    rcases List.mem_append.1 hmem with hmem | hmem
    · exact r.feed_not_mem hmem
    · exact hfeed hmem
  refine Reading.assigned?_eq_some_iff.2 ⟨{ r with
    text := r.text ++ t, text_ne_nil := hne, feed_not_mem := hfeed' }, ?_, rfl, ?_⟩
  · simp only [Reading.line, List.append_assoc, List.cons_append]
  · exact trim_uncommented_append_right ht r.text

theorem Layout.locate_append (l : Layout) (t : List Char) :
    locate (l.text ++ t) l.name l.value = l.located := by
  obtain ⟨k, hk⟩ := l.exists_indexOf?_value
  have hvalue := l.indexFrom?_value hk
  -- both searches succeed on the line itself, so they never come to the text that follows
  simp only [located, locate, l.indexOf?_name, indexOf?_append_right l.indexOf?_name,
    Option.getD_some, hvalue, indexFrom?_append_right hvalue]

theorem assignment?_append {line t : String} {a : Assignment} (h : assignment? line = some a)
    (ht : AllBlank (uncommented t.toList)) (hfeed : '\n' ∉ t.toList) :
    assignment? (line ++ t) = some a := by
  rw [assignment?, Option.map_eq_some_iff] at h ⊢
  obtain ⟨⟨name, value⟩, hassigned, rfl⟩ := h
  obtain ⟨l, htext, rfl, rfl⟩ := exists_layout hassigned
  rw [String.toList_append]
  refine ⟨(l.name, l.value), assigned?_append hassigned ht hfeed, ?_⟩
  rw [← htext]
  exact l.locate_append t.toList

theorem assignment?_append_comment {line note : String} {a : Assignment}
    (h : assignment? line = some a) (hfeed : '\n' ∉ note.toList) :
    assignment? (line ++ "#" ++ note) = some a := by
  have hlist : ("#" ++ note).toList = '#' :: note.toList := String.toList_append
  rw [String.append_assoc]
  apply assignment?_append h
  · rw [hlist]
    exact allBlank_nil
  · rw [hlist]
    intro hmem
    rcases List.mem_cons.1 hmem with hmem | hmem
    · cases hmem
    · exact hfeed hmem

theorem assignment?_append_blanks {line w : String} {a : Assignment}
    (h : assignment? line = some a) (hw : AllBlank w.toList) (hfeed : '\n' ∉ w.toList) :
    assignment? (line ++ w) = some a := by
  apply assignment?_append h _ hfeed
  rwa [uncommented_of_not_mem (hw.not_mem (by decide))]

/-! ## Blanks in front of an assignment -/

def Assignment.indent (a : Assignment) (k : Nat) : Assignment :=
  { a with nameStart := a.nameStart + k, valueStart := a.valueStart + k }

theorem Assignment.nameEnd_indent (a : Assignment) (k : Nat) :
    (a.indent k).nameEnd = a.nameEnd + k :=
  Nat.add_right_comm _ _ _

theorem Assignment.valueEnd_indent (a : Assignment) (k : Nat) :
    (a.indent k).valueEnd = a.valueEnd + k :=
  Nat.add_right_comm _ _ _

theorem Assignment.indent_indent (a : Assignment) (j k : Nat) :
    (a.indent j).indent k = a.indent (j + k) := by
  simp only [indent, Nat.add_assoc]

theorem assigned?_indent {w : List Char} (hw : AllBlank w) (cs : List Char) :
    assigned? (w ++ cs) = assigned? cs := by
  rw [assigned?, assigned?, splitAssignment?, splitAssignment?, trimStart_append hw]

def Layout.indent (l : Layout) (w : List Char) (hw : AllBlank w) : Layout :=
  { l with lead := w ++ l.lead, lead_blank := hw.append l.lead_blank }

theorem Layout.text_indent (l : Layout) {w : List Char} (hw : AllBlank w) :
    (l.indent w hw).text = w ++ l.text :=
  List.append_assoc _ _ _

theorem Layout.located_indent (l : Layout) {w : List Char} (hw : AllBlank w) :
    (l.indent w hw).located = l.located.indent w.length := by
  obtain ⟨k, hk⟩ := l.exists_indexOf?_value
  have hlength : (l.indent w hw).lead.length = l.lead.length + w.length := by
    rw [indent, List.length_append, Nat.add_comm]
  have hname : (l.indent w hw).located.nameStart = l.located.nameStart + w.length := by
    rw [located, nameStart_locate, located, nameStart_locate, hlength]
  have hvalue : (l.indent w hw).located.valueStart = l.located.valueStart + w.length := by
    have hindent := (l.indent w hw).valueStart_locate hk
    have hplain := l.valueStart_locate hk
    have hsame : (l.indent w hw).name.length = l.name.length := rfl
    rw [located, located, hindent, hplain]
    omega
  rw [Assignment.indent, ← hname, ← hvalue]
  rfl

theorem assignment?_indent {line w : String} {a : Assignment} (h : assignment? line = some a)
    (hw : AllBlank w.toList) : assignment? (w ++ line) = some (a.indent w.length) := by
  rw [assignment?, Option.map_eq_some_iff] at h ⊢
  obtain ⟨⟨name, value⟩, hassigned, rfl⟩ := h
  obtain ⟨l, htext, rfl, rfl⟩ := exists_layout hassigned
  rw [String.toList_append]
  refine ⟨(l.name, l.value), by rw [assigned?_indent hw, hassigned], ?_⟩
  rw [← htext, ← l.text_indent hw, ← String.length_toList]
  exact l.located_indent hw

/-! ## Framed lines -/

/-- A line, and the same line after changes to what stands around its assignment. The number tells
how many characters have come in front of it. -/
inductive Framed (line : String) : Nat → String → Prop where
  | same : Framed line 0 line
  | comment {k : Nat} {other : String} (h : Framed line k other)
      (hread : (assignment? other).isSome) (note : String) (hfeed : '\n' ∉ note.toList) :
      Framed line k (other ++ "#" ++ note)
  | blanks {k : Nat} {other : String} (h : Framed line k other)
      (hread : (assignment? other).isSome) (w : String) (hw : AllBlank w.toList)
      (hfeed : '\n' ∉ w.toList) : Framed line k (other ++ w)
  | indent {k : Nat} {other : String} (h : Framed line k other)
      (hread : (assignment? other).isSome) (w : String) (hw : AllBlank w.toList) :
      Framed line (k + w.length) (w ++ other)

theorem Framed.assignment?_eq {line other : String} {k : Nat} (h : Framed line k other) :
    assignment? other = (assignment? line).map (·.indent k) := by
  induction h with
  | same => exact Option.map_id'.symm
  | comment _ hread note hfeed ih =>
    obtain ⟨a, ha⟩ := Option.isSome_iff_exists.1 hread
    rw [assignment?_append_comment ha hfeed, ← ha, ih]
  | blanks _ hread w hw hfeed ih =>
    obtain ⟨a, ha⟩ := Option.isSome_iff_exists.1 hread
    rw [assignment?_append_blanks ha hw hfeed, ← ha, ih]
  | indent _ hread w hw ih =>
    obtain ⟨a, ha⟩ := Option.isSome_iff_exists.1 hread
    rw [ha] at ih
    obtain ⟨b, hb, rfl⟩ := Option.map_eq_some_iff.1 ih.symm
    rw [assignment?_indent ha hw, hb, Option.map_some, Assignment.indent_indent]

end Statement

/-! ## Findings -/

def Finding.indent (f : Finding) (k : Nat) : Finding :=
  { f with startColumn := f.startColumn + k, endColumn := f.endColumn + k }

namespace Catalog

variable (c : Catalog)

theorem findingOn?_of_framed {line other : String} {k : Nat} (h : Framed line k other)
    (index : Nat) : c.findingOn? index other = (c.findingOn? index line).map (·.indent k) := by
  rw [findingOn?, findingOn?, h.assignment?_eq]
  cases assignment? line with
  | none => rfl
  | some a =>
    have hname : (a.indent k).name = a.name := rfl
    have hvalue : (a.indent k).value = a.value := rfl
    simp only [Option.map_some, hname, hvalue]
    cases c.verdict? a.name a.value with
    | none => rfl
    | some verdict =>
      cases verdict with
      | valid => rfl
      | invalid fault =>
        simp only [Option.map_some, Finding.indent, a.valueEnd_indent]
        rfl

theorem scanFrom_of_framed {shift : Nat → Nat} {lines others : List String} {start : Nat}
    (h : List.Forall₂ (fun p other => Framed p.1 (shift p.2) other) (lines.zipIdx start) others) :
    c.scanFrom start others = (c.scanFrom start lines).map fun f => f.indent (shift f.line) := by
  induction lines generalizing start others with
  | nil =>
    cases h
    rfl
  | cons line lines ih =>
    obtain ⟨other, others, hframed, hrest, rfl⟩ := List.forall₂_cons_left_iff.1 h
    rw [scanFrom_eq, scanFrom_eq, List.zipIdx_cons, List.zipIdx_cons, List.filterMap_cons,
      List.filterMap_cons, ← scanFrom_eq, ← scanFrom_eq, ih hrest]
    dsimp only at hframed ⊢
    rw [c.findingOn?_of_framed hframed]
    cases hfinding : c.findingOn? start line with
    | none => rfl
    | some f =>
      -- the number of a finding is that of its line, so the shift is the one of this line
      obtain ⟨_, _, _, rfl⟩ := c.findingOn?_eq_some_iff.1 hfinding
      rfl

/-- Comments and outer blanks change no verdict. A comment or blanks after an assignment leave it as
it is, and blanks in front move all its columns by their number. A scan of lines that are framed in
these ways finds what it found before, moved by what has come in front of each line. -/
theorem margins_change_no_verdict :
    (∀ (line : String) (a : Assignment), assignment? line = some a →
      (∀ note : String, '\n' ∉ note.toList → assignment? (line ++ "#" ++ note) = some a) ∧
      (∀ w : String, AllBlank w.toList → '\n' ∉ w.toList → assignment? (line ++ w) = some a) ∧
      ∀ w : String, AllBlank w.toList → ∃ b, assignment? (w ++ line) = some b ∧
        b.name = a.name ∧ b.value = a.value ∧
        b.nameStart = a.nameStart + w.length ∧ b.nameEnd = a.nameEnd + w.length ∧
        b.valueStart = a.valueStart + w.length ∧ b.valueEnd = a.valueEnd + w.length) ∧
    ∀ (shift : Nat → Nat) (lines others : List String),
      List.Forall₂ (fun p other => Framed p.1 (shift p.2) other) lines.zipIdx others →
      c.scan others = (c.scan lines).map fun f => f.indent (shift f.line) := by
  refine ⟨?_, fun shift lines others h => c.scanFrom_of_framed h⟩
  intro line a h
  refine ⟨fun note hfeed => assignment?_append_comment h hfeed,
    fun w hw hfeed => assignment?_append_blanks h hw hfeed, ?_⟩
  intro w hw
  exact ⟨a.indent w.length, assignment?_indent h hw, rfl, rfl, rfl, a.nameEnd_indent _, rfl,
    a.valueEnd_indent _⟩

def spinCatalog : Catalog :=
  .ofVariables "14.1" [⟨"Spin", .integer, [], "", [], [], none⟩]

def bareDeck : List String :=
  ["Spin = in", "Spin = =", "Spin = # in", "Spin ="]

def framedDeck : List String :=
  ["\n\u3000" ++ ("Spin = in" ++ "#" ++ " Spin = in # ="), "Spin = =" ++ "\t\r" ++ "#" ++ "= =",
    " " ++ "Spin = # in", "Spin ="]

def framedShift (index : Nat) : Nat :=
  [2, 0, 1, 0].getD index 0

theorem framed_framedDeck :
    List.Forall₂ (fun p other => Framed p.1 (framedShift p.2) other)
      bareDeck.zipIdx framedDeck := by
  have hblank : ∀ w : String, w.toList.all isBlank = true → AllBlank w.toList :=
    fun w hw => List.all_eq_true.1 hw
  refine .cons ?_ (.cons ?_ (.cons ?_ (.cons .same .nil)))
  · exact .indent (.comment .same (by decide +kernel) _ (by decide)) (by decide +kernel) "\n\u3000"
      (hblank _ (by decide))
  · exact .comment (.blanks .same (by decide +kernel) "\t\r" (hblank _ (by decide)) (by decide))
      (by decide +kernel) _ (by decide)
  · exact .indent .same (by decide +kernel) " " (hblank _ (by decide))

theorem margins_change_no_verdict_framedDeck :
    assignment? "Spin = in" = some ⟨"Spin", "in", 0, 7⟩ ∧
      assignment? ("Spin = in" ++ "#" ++ " Spin = in # =") = some ⟨"Spin", "in", 0, 7⟩ ∧
      List.Forall₂ (fun p other => Framed p.1 (framedShift p.2) other) bareDeck.zipIdx framedDeck ∧
      (spinCatalog.scan bareDeck).map (fun f => (f.line, f.startColumn, f.endColumn)) =
        [(0, 7, 9), (1, 5, 6), (2, 4, 4)] ∧
      (spinCatalog.scan framedDeck).map (fun f => (f.line, f.startColumn, f.endColumn)) =
        [(0, 9, 11), (1, 5, 6), (2, 5, 5)] := by
  have hread : assignment? "Spin = in" = some ⟨"Spin", "in", 0, 7⟩ := by decide +kernel
  obtain ⟨hlines, hscan⟩ := spinCatalog.margins_change_no_verdict
  refine ⟨hread, (hlines _ _ hread).1 _ (by decide), framed_framedDeck, by decide +kernel, ?_⟩
  rw [hscan framedShift bareDeck framedDeck framed_framedDeck]
  decide +kernel

end Catalog

end InputDeck
