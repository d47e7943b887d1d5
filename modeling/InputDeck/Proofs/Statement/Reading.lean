import InputDeck.Proofs.Statement.Assignment

/-!
# The grammar of assignments

`Reading` is one way to write a line as an assignment: blanks, a name, blanks, an equals sign,
blanks and text on one line. Blanks right of the equals sign belong to either of the last two
pieces, and if blanks are all there is, the last of them has to be text. So a line may have several
readings, but they agree in the name and the value, and these are what is read off the line.
-/

namespace InputDeck.Statement

open InputDeck.Text

/-! ## The text right of the equals sign -/

theorem getLast?_any_ne_feed_iff {tail : List Char} (h : AllBlank tail) :
    tail.getLast?.any (· != '\n') = true ↔
      ∃ pad rest, AllBlank pad ∧ rest ≠ [] ∧ '\n' ∉ rest ∧ tail = pad ++ rest := by
  rw [Option.any_eq_true]
  constructor
  · rintro ⟨c, hlast, hc⟩
    obtain ⟨pad, rfl⟩ := List.getLast?_eq_some_iff.1 hlast
    refine ⟨pad, [c], ?_, List.cons_ne_nil c [], ?_, rfl⟩
    · exact fun d hd => h d (List.mem_append_left [c] hd)
    · intro hmem
      rw [← List.mem_singleton.1 hmem] at hc
      cases hc
  · rintro ⟨pad, rest, _, hne, hfeed, rfl⟩
    refine ⟨rest.getLast hne, ?_, ?_⟩
    · rw [List.getLast?_append, List.getLast?_eq_some_getLast hne, Option.some_or]
    · rw [bne_iff_ne]
      intro hlast
      exact hfeed (hlast ▸ List.getLast_mem hne)

/-- The text right of an equals sign is assigned if it ends in a piece on one line, with nothing but
blanks in front of that piece. -/
theorem assignedText?_iff {tail text : List Char} :
    assignedText? tail = some text ↔ text = trimStart tail ∧
      ∃ pad rest, AllBlank pad ∧ rest ≠ [] ∧ '\n' ∉ rest ∧ tail = pad ++ rest := by
  rw [assignedText?]
  cases h : trimStart tail with
  | nil =>
    dsimp only
    rw [Option.ite_none_right_eq_some, getLast?_any_ne_feed_iff (trimStart_eq_nil_iff.1 h),
      Option.some.injEq, and_comm, eq_comm]
  | cons c more =>
    dsimp only
    rw [Option.ite_none_left_eq_some, Option.some.injEq, and_comm, eq_comm (a := text)]
    refine and_congr_right fun _ => ?_
    constructor
    · intro hfeed
      refine ⟨tail.takeWhile isBlank, c :: more, allBlank_takeWhile tail, List.cons_ne_nil c more,
        by simpa using hfeed, ?_⟩
      rw [← h, takeWhile_append_trimStart]
    · rintro ⟨pad, rest, hpad, _, hfeed, rfl⟩ hmem
      rw [trimStart_append hpad] at h
      rw [← h, List.contains_iff_mem] at hmem
      exact hfeed (List.dropWhile_subset _ hmem)

theorem uncommented_append {v rest : List Char} (hv : '#' ∉ v) :
    uncommented (v ++ rest) = v ++ uncommented rest := by
  rw [uncommented, uncommented, List.takeWhile_append_of_pos]
  intro c hc
  simpa using fun he : c = '#' => hv (he ▸ hc)

/-- It makes no difference to the value whether blanks in front of it count as text. -/
theorem trim_uncommented_append {w : List Char} (hw : AllBlank w) (cs : List Char) :
    trim (uncommented (w ++ cs)) = trim (uncommented cs) := by
  rw [uncommented_append (hw.not_mem (by decide)), trim_append_left hw]

theorem trim_uncommented_trimStart (cs : List Char) :
    trim (uncommented (trimStart cs)) = trim (uncommented cs) := by
  rw [← trim_uncommented_append (allBlank_takeWhile cs), takeWhile_append_trimStart]

/-! ## Readings -/

/-- One way to write a line as an assignment. Line feeds may stand among the blanks, but the text to
the right of them is on one line. -/
structure Reading where
  lead : List Char
  name : List Char
  gap : List Char
  pad : List Char
  text : List Char
  lead_blank : AllBlank lead
  isName_name : isName name = true
  gap_blank : AllBlank gap
  pad_blank : AllBlank pad
  text_ne_nil : text ≠ []
  feed_not_mem : '\n' ∉ text

namespace Reading

def line (r : Reading) : List Char :=
  r.lead ++ (r.name ++ (r.gap ++ '=' :: (r.pad ++ r.text)))

def value (r : Reading) : List Char :=
  trim (uncommented r.text)

theorem splitAssignment?_line (r : Reading) :
    splitAssignment? r.line = some (r.name, r.pad ++ r.text) :=
  splitAssignment?_eq_some_iff.2 ⟨r.lead, r.gap, r.lead_blank, r.isName_name, r.gap_blank, rfl⟩

theorem assigned?_line (r : Reading) : assigned? r.line = some (r.name, r.value) := by
  have htext : assignedText? (r.pad ++ r.text) = some (trimStart (r.pad ++ r.text)) :=
    assignedText?_iff.2 ⟨rfl, r.pad, r.text, r.pad_blank, r.text_ne_nil, r.feed_not_mem, rfl⟩
  rw [assigned?, r.splitAssignment?_line]
  dsimp only
  rw [htext, Option.map_some, trim_uncommented_trimStart, trim_uncommented_append r.pad_blank,
    value]

theorem exists_of_assigned? {cs name value : List Char} (h : assigned? cs = some (name, value)) :
    ∃ r : Reading, r.line = cs ∧ r.name = name ∧ r.value = value := by
  rw [assigned?] at h
  split at h
  · cases h
  · next name' tail hsplit =>
    obtain ⟨text, htext, hpair⟩ := Option.map_eq_some_iff.1 h
    cases hpair
    obtain ⟨lead, gap, hlead, hname, hgap, rfl⟩ := splitAssignment?_eq_some_iff.1 hsplit
    obtain ⟨rfl, pad, rest, hpad, hne, hfeed, rfl⟩ := assignedText?_iff.1 htext
    refine ⟨⟨lead, name, gap, pad, rest, hlead, hname, hgap, hpad, hne, hfeed⟩, rfl, rfl, ?_⟩
    rw [value, trim_uncommented_trimStart, trim_uncommented_append hpad]

theorem assigned?_eq_some_iff {cs name value : List Char} :
    assigned? cs = some (name, value) ↔
      ∃ r : Reading, r.line = cs ∧ r.name = name ∧ r.value = value := by
  constructor
  · exact exists_of_assigned?
  · rintro ⟨r, rfl, rfl, rfl⟩
    exact r.assigned?_line

/-- All readings of a line agree in the name and the value. -/
theorem eq_of_line_eq {r s : Reading} (h : r.line = s.line) :
    r.name = s.name ∧ r.value = s.value := by
  have hr := r.assigned?_line
  rw [h, s.assigned?_line, Option.some.injEq, Prod.mk.injEq] at hr
  exact ⟨hr.1.symm, hr.2.symm⟩

end Reading

theorem exists_assignment?_iff {line name value : String} :
    (∃ a, assignment? line = some a ∧ a.name = name ∧ a.value = value) ↔
      assigned? line.toList = some (name.toList, value.toList) := by
  rw [assignment?]
  constructor
  · rintro ⟨a, ha, rfl, rfl⟩
    obtain ⟨⟨name, value⟩, hassigned, rfl⟩ := Option.map_eq_some_iff.1 ha
    rw [hassigned]
    simp only [locate, String.toList_ofList]
  · intro h
    rw [h]
    exact ⟨_, rfl, String.ofList_toList, String.ofList_toList⟩

/-- A line reads as an assignment of a value to a name exactly if it has a reading with this name
and this value, and it does not matter which of its readings is taken. -/
theorem assignment?_iff_reading (line : String) :
    (∀ name value, (∃ a, assignment? line = some a ∧ a.name = name ∧ a.value = value) ↔
      ∃ r : Reading, r.line = line.toList ∧ r.name = name.toList ∧ r.value = value.toList) ∧
    ∀ r s : Reading, r.line = line.toList → s.line = line.toList →
      r.name = s.name ∧ r.value = s.value := by
  constructor
  · intro name value
    rw [exists_assignment?_iff, Reading.assigned?_eq_some_iff]
  · intro r s hr hs
    exact Reading.eq_of_line_eq (hr.trans hs.symm)

def twoBlanks : Reading where
  lead := []
  name := ['A']
  gap := [' ']
  pad := ['\n']
  text := ['\t', ' ']
  lead_blank := allBlank_nil
  isName_name := by decide
  gap_blank := List.all_eq_true.1 (by decide)
  pad_blank := List.all_eq_true.1 (by decide)
  text_ne_nil := by decide
  feed_not_mem := by decide

def oneBlank : Reading :=
  { twoBlanks with
    pad := ['\n', '\t']
    text := [' ']
    pad_blank := List.all_eq_true.1 (by decide)
    text_ne_nil := by decide
    feed_not_mem := by decide }

theorem assignment?_iff_reading_blanks :
    twoBlanks.line = "A =\n\t ".toList ∧ oneBlank.line = "A =\n\t ".toList ∧
      twoBlanks.text ≠ oneBlank.text ∧ twoBlanks.name = oneBlank.name ∧
      twoBlanks.value = oneBlank.value ∧
      ∃ a, assignment? "A =\n\t " = some a ∧ a.name = "A" ∧ a.value = "" := by
  have htwo : twoBlanks.line = "A =\n\t ".toList := by decide
  have hone : oneBlank.line = "A =\n\t ".toList := by decide
  obtain ⟨hiff, hagree⟩ := assignment?_iff_reading "A =\n\t "
  obtain ⟨hname, hvalue⟩ := hagree twoBlanks oneBlank htwo hone
  exact ⟨htwo, hone, by decide, hname, hvalue,
    (hiff "A" "").2 ⟨oneBlank, hone, by decide, by decide⟩⟩

end InputDeck.Statement
