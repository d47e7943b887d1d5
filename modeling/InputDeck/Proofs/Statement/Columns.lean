import InputDeck.Proofs.Statement.Layout

/-!
# The columns of an assignment

Name and value are located by search, and the columns found are right: between them stands the name
and the value. For the value this says only that the text stands there, since the search may hit a
repeat of it at the equals sign. A value that does not begin with an equals sign is found in its own
place, and a text put in that place is what the line then assigns.
-/

namespace InputDeck.Statement

open InputDeck.Text

/-! ## Lines that read as their layout says -/

/-- A line with a value reads as it is laid out if no line feed comes after the start of the value.
Line feeds among the blanks to the left of it do no harm. -/
theorem Layout.assigned?_text_iff (l : Layout) (hvalue : l.value ≠ []) :
    assigned? l.text = some (l.name, l.value) ↔ '\n' ∉ l.value ++ (l.fill ++ l.comment) := by
  constructor
  · intro h hmem
    obtain ⟨r, hline, _, _⟩ := Reading.exists_of_assigned? h
    have hsplit : splitAssignment? l.text = some (l.name, l.tail) :=
      splitAssignment?_eq_some_iff.2
        ⟨l.lead, l.gap, l.lead_blank, l.isName_name, l.gap_blank, rfl⟩
    rw [← hline, r.splitAssignment?_line, Option.some.injEq, Prod.mk.injEq] at hsplit
    -- the layout ends its blanks at the value, the reading maybe earlier
    have hstart := congrArg trimStart hsplit.2
    rw [tail, trimStart_append l.pad_blank, trimStart_append_of_tight (l.tight_value hvalue),
      trimStart_append r.pad_blank] at hstart
    rw [← hstart] at hmem
    exact r.feed_not_mem (List.dropWhile_subset _ hmem)
  · intro hfeed
    have hne : l.value ++ (l.fill ++ l.comment) ≠ [] :=
      fun hnil => hvalue (List.append_eq_nil_iff.1 hnil).1
    have hread := Reading.assigned?_line ⟨l.lead, l.name, l.gap, l.pad, _, l.lead_blank,
      l.isName_name, l.gap_blank, l.pad_blank, hne, hfeed⟩
    rw [Reading.value, ← trim_uncommented_append l.pad_blank] at hread
    exact hread.trans (congrArg (fun v => some (l.name, v)) l.trim_uncommented_tail)

theorem Layout.assignment?_eq_some_located_iff {l : Layout} {line : String}
    (h : l.text = line.toList) :
    assignment? line = some l.located ↔ assigned? l.text = some (l.name, l.value) := by
  rw [assignment?, ← h, Option.map_eq_some_iff]
  constructor
  · rintro ⟨⟨name, value⟩, hassigned, hlocated⟩
    have hname : String.ofList name = String.ofList l.name := congrArg Assignment.name hlocated
    have hval : String.ofList value = String.ofList l.value := congrArg Assignment.value hlocated
    rw [hassigned, String.ofList_injective hname, String.ofList_injective hval]
  · intro hassigned
    exact ⟨_, hassigned, rfl⟩

/-! ## Columns -/

/-- The assignment stands in the line where its columns say. -/
structure Assignment.StandsIn (a : Assignment) (line : String) : Prop where
  name_nonempty : a.nameStart < a.nameEnd
  name_before_value : a.nameEnd ≤ a.valueStart
  value_ordered : a.valueStart ≤ a.valueEnd
  value_inside : a.valueEnd ≤ line.length
  name_there : line.toList.extract a.nameStart a.nameEnd = a.name.toList
  value_there : line.toList.extract a.valueStart a.valueEnd = a.value.toList
  name_first : a.nameStart = (line.toList.takeWhile isBlank).length

theorem Layout.takeWhile_text (l : Layout) : l.text.takeWhile isBlank = l.lead := by
  obtain ⟨c, rest, hname, hc⟩ := exists_cons_of_isName l.isName_name
  refine (takeWhile_dropWhile_of_run l.lead_blank ?_).1
  intro d hd
  rw [hname] at hd
  cases hd
  exact hc

theorem Layout.nameEnd_located (l : Layout) :
    l.located.nameEnd = l.lead.length + l.name.length := by
  rw [Assignment.nameEnd, located, l.nameStart_locate]
  exact congrArg (l.lead.length + ·) String.length_ofList

theorem Layout.standsIn_located (l : Layout) {line : String} (h : l.text = line.toList) :
    l.located.StandsIn line := by
  obtain ⟨gap, after, htext, hstart⟩ := l.exists_located
  have hname : l.located.nameStart = l.lead.length := l.nameStart_locate
  obtain ⟨c, rest, hcons, _⟩ := exists_cons_of_isName l.isName_name
  have hpos : 0 < l.name.length := by
    rw [hcons]
    exact Nat.succ_pos _
  have hend := l.nameEnd_located
  refine ⟨by omega, ?_, Nat.le_add_right _ _, ?_, ?_, ?_, ?_⟩
  · rw [hend, hstart]
    simp only [List.length_append]
    omega
  · rw [← String.length_toList, ← h]
    exact l.valueEnd_located_le
  · rw [← h, text, extract_append hname hend]
    exact String.toList_ofList.symm
  · rw [← h, htext, extract_append hstart (by rw [valueEnd_located, hstart])]
    exact String.toList_ofList.symm
  · rw [hname, ← h, l.takeWhile_text]

/-- Right of the first equals sign, the first character that is no blank stands in this column. -/
def StartsRight (cs : List Char) (column : Nat) : Prop :=
  ∃ left pad c rest, cs = left ++ '=' :: (pad ++ c :: rest) ∧ '=' ∉ left ∧ AllBlank pad ∧
    isBlank c = false ∧ column = left.length + 1 + pad.length

theorem Layout.clear_of_head?_ne (l : Layout) (hvalue : l.value ≠ [])
    (hequals : l.value.head? ≠ some '=') : l.Clear := by
  obtain ⟨c, rest, hcons, _⟩ := (l.tight_value hvalue).exists_cons
  intro hprefix
  rw [hcons] at hprefix hequals
  exact hequals (congrArg some (List.cons_prefix_cons.1 hprefix).1)

theorem Layout.startsRight_located (l : Layout) (hclear : l.Clear) :
    StartsRight l.text l.located.valueStart := by
  obtain ⟨c, rest, hcons, hc⟩ := (l.tight_value hclear.value_ne_nil).exists_cons
  refine ⟨l.lead ++ (l.name ++ l.gap), l.pad, c, rest ++ (l.fill ++ l.comment), ?_,
    l.equals_not_mem, l.pad_blank, hc, ?_⟩
  · rw [text, tail, hcons]
    simp only [List.append_assoc, List.cons_append]
  · rw [(l.located_of_clear hclear).2]
    simp only [List.length_append, List.length_cons]
    omega

theorem Layout.assigned?_assign (l : Layout) (hvalue : l.value ≠ [])
    (hread : assigned? l.text = some (l.name, l.value)) {v : List Char} (hv : Tight v)
    (hcomment : '#' ∉ v) (hfeed : '\n' ∉ v) :
    assigned? (l.assign v hv hcomment).text = some (l.name, v) := by
  have hrest := (l.assigned?_text_iff hvalue).1 hread
  refine ((l.assign v hv hcomment).assigned?_text_iff hv.1).2 ?_
  intro hmem
  rcases List.mem_append.1 hmem with hmem | hmem
  · exact hfeed hmem
  · exact hrest (List.mem_append_right _ hmem)

/-- The columns of an assignment are those of its name and of its value, in this order, and blanks
are all that stands in front of the name. A value that is not empty and does not begin with an
equals sign starts right of the first equals sign of the line, and whatever can stand as a value may
be put in its place: the line then assigns that to the same name. -/
theorem assignment?_columns_exact {line : String} {a : Assignment}
    (h : assignment? line = some a) :
    a.StandsIn line ∧
    (a.value ≠ "" → a.value.toList.head? ≠ some '=' →
      StartsRight line.toList a.valueStart ∧
      ∀ v : String, Tight v.toList → '#' ∉ v.toList → '\n' ∉ v.toList →
        ∃ b, assignment? (String.ofList (splice line.toList a.valueStart a.valueEnd v.toList)) =
          some b ∧ b.name = a.name ∧ b.value = v) := by
  obtain ⟨l, htext, rfl⟩ := exists_layout_of_assignment? h
  have hread := (Layout.assignment?_eq_some_located_iff htext).1 h
  have hlist : l.located.value.toList = l.value := String.toList_ofList
  refine ⟨l.standsIn_located htext, ?_⟩
  intro hne hequals
  rw [hlist] at hequals
  have hvalue : l.value ≠ [] := by
    intro hnil
    apply hne
    rw [← String.toList_inj, hlist, hnil]
    rfl
  have hclear := l.clear_of_head?_ne hvalue hequals
  refine ⟨htext ▸ l.startsRight_located hclear, ?_⟩
  intro v hv hcomment hfeed
  have hassign := l.assigned?_assign hvalue hread hv hcomment hfeed
  rw [← htext, l.splice_of_clear hclear hv hcomment]
  refine ⟨(l.assign v.toList hv hcomment).located, ?_, rfl, String.ofList_toList⟩
  exact (Layout.assignment?_eq_some_located_iff String.toList_ofList.symm).2 hassign

def spinLine : String :=
  "\n\u3000Spin =\n in # in"

theorem assignment?_columns_exact_spinLine :
    assignment? spinLine = some ⟨"Spin", "in", 2, 10⟩ ∧
      Assignment.StandsIn ⟨"Spin", "in", 2, 10⟩ spinLine ∧ StartsRight spinLine.toList 10 ∧
      ∃ b, assignment? (String.ofList (splice spinLine.toList 10 12 "Å = in".toList)) = some b ∧
        b.name = "Spin" ∧ b.value = "Å = in" := by
  have hread : assignment? spinLine = some ⟨"Spin", "in", 2, 10⟩ := by decide +kernel
  obtain ⟨hstands, hvalue⟩ := assignment?_columns_exact hread
  obtain ⟨hright, hexchange⟩ := hvalue (by decide) (by decide)
  exact ⟨hread, hstands, hright,
    hexchange "Å = in" ⟨by decide, by decide +kernel⟩ (by decide) (by decide)⟩

end InputDeck.Statement
