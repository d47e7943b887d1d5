import InputDeck.Proofs.Statement.Reading
import InputDeck.Proofs.Text.Column

/-!
# The layout of an assignment

The pieces of a line that assigns a value: `assigned?_eq_some_iff` takes every such line apart and
puts it together again. A value is exchanged by exchanging its piece.

The value is located by search, and the search starts at the end of the name. It finds the value in
its place unless the same text stands already at the equals sign, as the empty text always does.
-/

namespace InputDeck.Statement

open InputDeck.Text

/-- The pieces of the line `Name = value # comment` and the blanks between them. -/
structure Layout where
  lead : List Char
  name : List Char
  gap : List Char
  pad : List Char
  value : List Char
  fill : List Char
  comment : List Char
  lead_blank : AllBlank lead
  isName_name : isName name = true
  gap_blank : AllBlank gap
  pad_blank : AllBlank pad
  trim_value : trim value = value
  value_uncommented : '#' ∉ value
  fill_blank : AllBlank fill
  comment_head : ∀ c ∈ comment.head?, c = '#'
  tail_ne_nil : pad ++ (value ++ (fill ++ comment)) ≠ []

namespace Layout

def tail (l : Layout) : List Char :=
  l.pad ++ (l.value ++ (l.fill ++ l.comment))

def text (l : Layout) : List Char :=
  l.lead ++ (l.name ++ (l.gap ++ '=' :: l.tail))

def assign (l : Layout) (v : List Char) (hv : Tight v) (hcomment : '#' ∉ v) : Layout :=
  { l with
    value := v
    trim_value := hv.2
    value_uncommented := hcomment
    tail_ne_nil := by
      intro h
      exact hv.1 (List.append_eq_nil_iff.1 (List.append_eq_nil_iff.1 h).2).1 }

theorem tight_value (l : Layout) (h : l.value ≠ []) : Tight l.value :=
  ⟨h, l.trim_value⟩

end Layout

/-! ## Taking a line apart -/

theorem uncommented_comment {rest : List Char} (h : ∀ c ∈ rest.head?, c = '#') :
    uncommented rest = [] := by
  cases rest with
  | nil => rfl
  | cons c rest =>
    rw [h c rfl]
    rfl

theorem hash_not_mem_uncommented (cs : List Char) : '#' ∉ uncommented cs := by
  intro hmem
  have hne := List.all_eq_true.1 (List.all_takeWhile (p := (· != '#'))) '#' hmem
  cases hne

theorem Layout.trim_uncommented_tail (l : Layout) : trim (uncommented l.tail) = l.value := by
  have hrest : uncommented (l.fill ++ l.comment) = l.fill := by
    rw [uncommented_append (l.fill_blank.not_mem (by decide)),
      uncommented_comment l.comment_head, List.append_nil]
  rw [tail, trim_uncommented_append l.pad_blank, uncommented_append l.value_uncommented, hrest]
  by_cases hvalue : l.value = []
  · rw [hvalue, List.nil_append, trim_eq_nil_iff.2 l.fill_blank]
  · exact trim_append_of_tight (l.tight_value hvalue) l.fill_blank

theorem trimStart_uncommented_trimStart (cs : List Char) :
    trimStart (uncommented (trimStart cs)) = uncommented (trimStart cs) := by
  cases h : trimStart cs with
  | nil => rfl
  | cons c rest =>
    by_cases hc : c = '#'
    · rw [hc]
      rfl
    · have huncommented : uncommented (c :: rest) = c :: uncommented rest :=
        List.takeWhile_cons_of_pos (by simpa using hc)
      rw [huncommented, trimStart_cons (isBlank_of_trimStart_eq_cons h)]

/-- What follows an equals sign is laid out around the value that stands in it. -/
theorem exists_pieces (tail : List Char) :
    ∃ pad fill comment, AllBlank pad ∧ AllBlank fill ∧ (∀ c ∈ comment.head?, c = '#') ∧
      tail = pad ++ (trim (uncommented tail) ++ (fill ++ comment)) := by
  obtain ⟨fill, hfill, happend⟩ := exists_trimEnd_append (uncommented (trimStart tail))
  refine ⟨tail.takeWhile isBlank, fill, (trimStart tail).dropWhile (· != '#'),
    allBlank_takeWhile tail, hfill, ?_, ?_⟩
  · intro c hc
    simpa using head?_dropWhile_eq_false hc
  · rw [← trim_uncommented_trimStart, trim, trimStart_uncommented_trimStart,
      ← List.append_assoc (trimEnd _), happend, uncommented, List.takeWhile_append_dropWhile,
      takeWhile_append_trimStart]

/-- Every line that assigns a value has a layout. -/
theorem exists_layout {cs name value : List Char} (h : assigned? cs = some (name, value)) :
    ∃ l : Layout, l.text = cs ∧ l.name = name ∧ l.value = value := by
  obtain ⟨r, rfl, rfl, rfl⟩ := Reading.exists_of_assigned? h
  obtain ⟨pad, fill, comment, hpad, hfill, hcomment, htail⟩ := exists_pieces (r.pad ++ r.text)
  rw [trim_uncommented_append r.pad_blank] at htail
  have hne : r.pad ++ r.text ≠ [] := fun hnil => r.text_ne_nil (List.append_eq_nil_iff.1 hnil).2
  refine ⟨⟨r.lead, r.name, r.gap, pad, r.value, fill, comment, r.lead_blank, r.isName_name,
    r.gap_blank, hpad, trim_trim _, ?_, hfill, hcomment, htail ▸ hne⟩, ?_, rfl, rfl⟩
  · exact fun hmem => hash_not_mem_uncommented _ (mem_of_mem_trim hmem)
  · exact congrArg (fun t => r.lead ++ (r.name ++ (r.gap ++ '=' :: t))) htail.symm

/-- A line assigns a value to a name exactly if it has a layout with this name and this value. -/
theorem assigned?_eq_some_iff {cs name value : List Char} (hfeed : '\n' ∉ cs) :
    assigned? cs = some (name, value) ↔
      ∃ l : Layout, l.text = cs ∧ l.name = name ∧ l.value = value := by
  constructor
  · exact exists_layout
  · rintro ⟨l, rfl, rfl, rfl⟩
    have hfeed' : '\n' ∉ l.tail := by
      intro hmem
      exact hfeed (by simp [Layout.text, hmem])
    refine Reading.assigned?_eq_some_iff.2 ⟨⟨l.lead, l.name, l.gap, [], l.tail, l.lead_blank,
      l.isName_name, l.gap_blank, allBlank_nil, l.tail_ne_nil, hfeed'⟩, rfl, rfl, ?_⟩
    exact l.trim_uncommented_tail

/-! ## Where the value is found -/

namespace Layout

/-- The value does not stand at the equals sign already. -/
def Clear (l : Layout) : Prop :=
  ¬ l.value <+: '=' :: l.tail

/-- The equals sign after the name is the first one of the line. -/
theorem equals_not_mem (l : Layout) : '=' ∉ l.lead ++ (l.name ++ l.gap) :=
  equals_not_mem_pieces l.lead_blank l.isName_name l.gap_blank

theorem dropWhile_text (l : Layout) : l.text.dropWhile (· != '=') = '=' :: l.tail := by
  have htext : l.text = (l.lead ++ (l.name ++ l.gap)) ++ '=' :: l.tail := by
    simp only [text, List.append_assoc]
  have hne : ∀ c ∈ l.lead ++ (l.name ++ l.gap), (c != '=') = true := by
    intro c hc
    simpa using fun he : c = '=' => l.equals_not_mem (he ▸ hc)
  rw [htext, List.dropWhile_append_of_pos hne]
  rfl

theorem indexOf?_name (l : Layout) : indexOf? l.name l.text = some l.lead.length := by
  obtain ⟨c, rest, hname, hc⟩ := exists_cons_of_isName l.isName_name
  rw [text, hname, indexOf?_append (l.lead_blank.not_mem hc),
    indexOf?_of_prefix (List.prefix_append _ _)]
  rfl

theorem nameStart_locate (l : Layout) :
    (locate l.text l.name l.value).nameStart = l.lead.length := by
  rw [locate, l.indexOf?_name]
  rfl

theorem indexFrom?_value (l : Layout) {k : Nat}
    (h : indexOf? l.value (l.gap ++ '=' :: l.tail) = some k) :
    indexFrom? l.value (l.lead.length + l.name.length) l.text =
      some (l.lead.length + l.name.length + k) := by
  have hdrop : l.text.drop (l.lead.length + l.name.length) = l.gap ++ '=' :: l.tail := by
    rw [text, ← List.drop_drop, List.drop_left, List.drop_left]
  rw [indexFrom?, hdrop, h]
  rfl

theorem valueStart_locate (l : Layout) {k : Nat}
    (h : indexOf? l.value (l.gap ++ '=' :: l.tail) = some k) :
    (locate l.text l.name l.value).valueStart = l.lead.length + l.name.length + k := by
  have hstart := l.nameStart_locate
  rw [locate] at hstart ⊢
  dsimp only at hstart ⊢
  rw [hstart, l.indexFrom?_value h]
  rfl

theorem Clear.value_ne_nil {l : Layout} (h : l.Clear) : l.value ≠ [] := by
  intro hnil
  rw [Clear, hnil] at h
  exact h List.nil_prefix

theorem indexOf?_value_of_clear (l : Layout) (h : l.Clear) :
    indexOf? l.value (l.gap ++ '=' :: l.tail) = some (l.gap.length + 1 + l.pad.length) := by
  obtain ⟨c, rest, hvalue, hc⟩ := (l.tight_value h.value_ne_nil).exists_cons
  rw [Clear, hvalue] at h
  rw [hvalue, indexOf?_append (l.gap_blank.not_mem hc), indexOf?_cons_of_not_prefix h, tail, hvalue,
    indexOf?_append (l.pad_blank.not_mem hc), indexOf?_of_prefix (List.prefix_append _ _)]
  simp only [Option.map_some, Nat.add_zero]
  congr 1
  omega

theorem indexOf?_value_of_eq_nil (l : Layout) (h : l.value = []) :
    indexOf? l.value (l.gap ++ '=' :: l.tail) = some 0 := by
  rw [h, indexOf?_of_prefix List.nil_prefix]

/-- A value that stands at the equals sign is found there. -/
theorem indexOf?_value_of_ne_nil (l : Layout) (h : ¬ l.Clear) (hne : l.value ≠ []) :
    indexOf? l.value (l.gap ++ '=' :: l.tail) = some l.gap.length := by
  obtain ⟨c, rest, hcons, hc⟩ := (l.tight_value hne).exists_cons
  have hprefix : l.value <+: '=' :: l.tail := Decidable.not_not.1 h
  rw [hcons] at hprefix ⊢
  rw [indexOf?_append (l.gap_blank.not_mem hc), indexOf?_of_prefix hprefix]
  rfl

/-- A value that stands at the equals sign, or the empty one, is found too early. -/
theorem indexOf?_value_of_not_clear (l : Layout) (h : ¬ l.Clear) :
    ∃ gap rest, AllBlank gap ∧ l.gap ++ '=' :: l.tail = gap ++ (l.value ++ rest) ∧
      indexOf? l.value (l.gap ++ '=' :: l.tail) = some gap.length := by
  by_cases hvalue : l.value = []
  · refine ⟨[], l.gap ++ '=' :: l.tail, allBlank_nil, ?_, l.indexOf?_value_of_eq_nil hvalue⟩
    rw [hvalue]
    rfl
  · have hprefix : l.value <+: '=' :: l.tail := Decidable.not_not.1 h
    obtain ⟨more, hmore⟩ := hprefix
    refine ⟨l.gap, more, l.gap_blank, ?_, l.indexOf?_value_of_ne_nil h hvalue⟩
    rw [hmore]

theorem exists_indexOf?_value (l : Layout) :
    ∃ k, indexOf? l.value (l.gap ++ '=' :: l.tail) = some k := by
  by_cases h : l.Clear
  · exact ⟨_, l.indexOf?_value_of_clear h⟩
  · obtain ⟨gap, _, _, _, hfind⟩ := l.indexOf?_value_of_not_clear h
    exact ⟨_, hfind⟩

/-! ## Exchanging what is found -/

def located (l : Layout) : Assignment :=
  locate l.text l.name l.value

theorem valueEnd_located (l : Layout) :
    l.located.valueEnd = l.located.valueStart + l.value.length := by
  rw [Assignment.valueEnd, located, locate, String.length_ofList]

theorem splice_located (l : Layout) {before after : List Char}
    (htext : l.text = before ++ (l.value ++ after)) (hstart : l.located.valueStart = before.length)
    (v : List Char) :
    splice l.text l.located.valueStart l.located.valueEnd v = before ++ (v ++ after) := by
  rw [htext, splice_append hstart]
  rw [valueEnd_located, hstart]

theorem located_of_clear (l : Layout) (h : l.Clear) :
    l.text = (l.lead ++ (l.name ++ (l.gap ++ '=' :: l.pad))) ++ (l.value ++ (l.fill ++ l.comment)) ∧
      l.located.valueStart = (l.lead ++ (l.name ++ (l.gap ++ '=' :: l.pad))).length := by
  constructor
  · simp only [text, tail, List.append_assoc, List.cons_append]
  · rw [located, l.valueStart_locate (l.indexOf?_value_of_clear h)]
    simp only [List.length_append, List.length_cons]
    omega

theorem located_of_not_clear (l : Layout) (h : ¬ l.Clear) :
    ∃ gap after, AllBlank gap ∧ l.text = (l.lead ++ (l.name ++ gap)) ++ (l.value ++ after) ∧
      l.located.valueStart = (l.lead ++ (l.name ++ gap)).length := by
  obtain ⟨gap, after, hgap, hpieces, hfind⟩ := l.indexOf?_value_of_not_clear h
  refine ⟨gap, after, hgap, ?_, ?_⟩
  · rw [text, hpieces]
    simp only [List.append_assoc]
  · rw [located, l.valueStart_locate hfind]
    simp only [List.length_append, Nat.add_assoc]

/-- The value is found somewhere right of the name. -/
theorem exists_located (l : Layout) :
    ∃ gap after, l.text = (l.lead ++ (l.name ++ gap)) ++ (l.value ++ after) ∧
      l.located.valueStart = (l.lead ++ (l.name ++ gap)).length := by
  by_cases h : l.Clear
  · exact ⟨_, _, l.located_of_clear h⟩
  · obtain ⟨gap, after, _, hlocated⟩ := l.located_of_not_clear h
    exact ⟨gap, after, hlocated⟩

theorem valueEnd_located_le (l : Layout) : l.located.valueEnd ≤ l.text.length := by
  obtain ⟨gap, after, htext, hstart⟩ := l.exists_located
  rw [valueEnd_located, hstart, htext]
  simp only [List.length_append]
  omega

/-- A value that stands clear of the equals sign is exchanged where it stands. -/
theorem splice_of_clear (l : Layout) (h : l.Clear) {v : List Char} (hv : Tight v)
    (hcomment : '#' ∉ v) :
    splice l.text l.located.valueStart l.located.valueEnd v = (l.assign v hv hcomment).text := by
  obtain ⟨htext, hstart⟩ := l.located_of_clear h
  rw [l.splice_located htext hstart]
  simp only [text, tail, assign, List.append_assoc, List.cons_append]

/-- In any other line the new text comes right after the name, where an equals sign has to stand. -/
theorem assigned?_splice_ne_of_not_clear (l : Layout) (h : ¬ l.Clear) {c : Char} {v : List Char}
    (hc : isBlank c = false) (hne : c ≠ '=') (value : List Char) :
    assigned? (splice l.text l.located.valueStart l.located.valueEnd (c :: v)) ≠
      some (l.name, value) := by
  obtain ⟨gap, after, hgap, htext, hstart⟩ := l.located_of_not_clear h
  have hsplice : splice l.text l.located.valueStart l.located.valueEnd (c :: v) =
      l.lead ++ (l.name ++ (gap ++ c :: (v ++ after))) := by
    rw [l.splice_located htext hstart]
    simp only [List.append_assoc, List.cons_append]
  rw [hsplice, assigned?]
  split
  · intro hnone
    cases hnone
  · next name tail hsplit =>
    intro hsome
    obtain ⟨text, _, hpair⟩ := Option.map_eq_some_iff.1 hsome
    cases hpair
    exact splitAssignment?_ne_of_head l.lead_blank l.isName_name hgap hc hne tail hsplit

end Layout

/-- The value does not stand at the equals sign of the line already. The empty value always does. -/
def Assignment.StandsClear (a : Assignment) (line : String) : Prop :=
  ¬ a.value.toList <+: line.toList.dropWhile (· != '=')

theorem standsClear_located_iff {l : Layout} {line : String} (h : l.text = line.toList) :
    l.located.StandsClear line ↔ l.Clear := by
  rw [Assignment.StandsClear, ← h, l.dropWhile_text, Layout.located, locate, String.toList_ofList,
    Layout.Clear]

theorem exists_layout_of_assignment? {line : String} {a : Assignment}
    (h : assignment? line = some a) : ∃ l : Layout, l.text = line.toList ∧ l.located = a := by
  rw [assignment?, Option.map_eq_some_iff] at h
  obtain ⟨⟨name, value⟩, hassigned, rfl⟩ := h
  obtain ⟨l, htext, rfl, rfl⟩ := exists_layout hassigned
  exact ⟨l, htext, by rw [Layout.located, htext]⟩

/-- A line reads as an assignment exactly if it has a layout that the assignment is located in. -/
theorem assignment?_eq_some_iff {line : String} (hfeed : '\n' ∉ line.toList) {a : Assignment} :
    assignment? line = some a ↔ ∃ l : Layout, l.text = line.toList ∧ l.located = a := by
  constructor
  · exact exists_layout_of_assignment?
  · rintro ⟨l, htext, rfl⟩
    rw [assignment?, Option.map_eq_some_iff]
    refine ⟨(l.name, l.value), (assigned?_eq_some_iff hfeed).2 ⟨l, htext, rfl, rfl⟩, ?_⟩
    rw [Layout.located, htext]

end InputDeck.Statement
