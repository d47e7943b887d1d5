import InputDeck.Proofs.Text.Blank
import InputDeck.Proofs.Text.Column
import InputDeck.Text.Word

/-!
# The word under a cursor

A word that no word character touches on either side is found from every column on it, from the one
in front of its first character to the one behind its last. Nothing else is found: `StandsAlone`
says this of pieces of text and `IsWord` of columns.

The same word is found by stepping from character to character in both directions, and on the way no
character is looked up that the line does not have.
-/

namespace InputDeck.Text

def rangesMeet (rs ss : List (Nat × Nat)) : Bool :=
  rs.any fun r => ss.any fun s => r.1 ≤ s.2 && s.1 ≤ r.2

theorem inRanges_eq_false_of_not_meet {rs ss : List (Nat × Nat)} (h : rangesMeet rs ss = false)
    {n : Nat} (hn : inRanges rs n = true) : inRanges ss n = false := by
  rw [Bool.eq_false_iff]
  intro hs
  obtain ⟨r, hr, hrlo, hrhi⟩ := inRanges_iff.1 hn
  obtain ⟨s, hs, hslo, hshi⟩ := inRanges_iff.1 hs
  have hmeet : rangesMeet rs ss = true := by
    refine List.any_eq_true.2 ⟨r, hr, List.any_eq_true.2 ⟨s, hs, ?_⟩⟩
    simp only [Bool.and_eq_true, decide_eq_true_eq]
    omega
  rw [h] at hmeet
  cases hmeet

theorem rangesMeet_blank_alphabetic : rangesMeet blankRanges alphabeticRanges = false := by
  decide +kernel

theorem rangesMeet_blank_numeral : rangesMeet blankRanges numeralRanges = false := by
  decide +kernel

/-- The word stands alone between two other pieces of text. -/
structure StandsAlone (before word after : List Char) : Prop where
  word_ne_nil : word ≠ []
  isWordChar : ∀ c ∈ word, isCursorWordChar c = true
  before_last : ∀ c ∈ before.getLast?, isCursorWordChar c = false
  after_head : ∀ c ∈ after.head?, isCursorWordChar c = false

namespace StandsAlone

variable {before word after : List Char}

theorem takeWhile_before (h : StandsAlone before word after) (k : Nat) :
    (before ++ word.take k).reverse.takeWhile isCursorWordChar = (word.take k).reverse := by
  rw [List.reverse_append]
  refine (takeWhile_dropWhile_of_run ?_ ?_).1
  · intro c hc
    exact h.isWordChar c (List.mem_of_mem_take (List.mem_reverse.1 hc))
  · rw [List.head?_reverse]
    exact h.before_last

theorem takeWhile_after (h : StandsAlone before word after) (k : Nat) :
    (word.drop k ++ after).takeWhile isCursorWordChar = word.drop k := by
  refine (takeWhile_dropWhile_of_run ?_ h.after_head).1
  intro c hc
  exact h.isWordChar c (List.mem_of_mem_drop hc)

theorem wordAt?_eq (h : StandsAlone before word after) {line : String}
    (hline : line.toList = before ++ (word ++ after)) {column : Nat}
    (hstart : before.length ≤ column)
    (hstop : column ≤ before.length + word.length) :
    wordAt? line column = some ⟨String.ofList word, before.length⟩ := by
  obtain ⟨k, rfl⟩ := Nat.exists_eq_add_of_le hstart
  have hk : k ≤ word.length := by omega
  have htake : line.toList.take (before.length + k) = before ++ word.take k := by
    rw [hline, List.take_length_add_append, List.take_append_of_le_length hk]
  have hdrop : line.toList.drop (before.length + k) = word.drop k ++ after := by
    rw [hline, List.drop_length_add_append, List.drop_append_of_le_length hk]
  have hlength : ¬ line.toList.length < before.length + k := by
    rw [hline]
    simp only [List.length_append]
    omega
  have hcount : before.length + k - (word.take k).reverse.length = before.length := by
    rw [List.length_reverse, List.length_take]
    omega
  obtain ⟨c, rest, hword⟩ := List.exists_cons_of_ne_nil h.word_ne_nil
  rw [wordAt?]
  simp only [if_neg hlength, htake, hdrop, h.takeWhile_before, h.takeWhile_after,
    List.reverse_reverse, List.take_append_drop, hcount]
  rw [hword]

end StandsAlone

/-! ## Words by their columns -/

/-- The characters between two columns are all word characters, there is one at least, and none
touches them on either side. -/
structure IsWord (cs : List Char) (start stop : Nat) : Prop where
  ordered : start < stop
  inside : stop ≤ cs.length
  isWordChar : ∀ i, start ≤ i → i < stop → ∀ c ∈ cs[i]?, isCursorWordChar c = true
  before_start : ∀ i, i + 1 = start → ∀ c ∈ cs[i]?, isCursorWordChar c = false
  at_stop : ∀ c ∈ cs[stop]?, isCursorWordChar c = false

theorem getLast?_take_succ {cs : List Char} {i : Nat} (h : i < cs.length) :
    (cs.take (i + 1)).getLast? = cs[i]? := by
  rw [List.take_succ_eq_append_getElem h, List.getLast?_concat, List.getElem?_eq_getElem h]

theorem StandsAlone.isWord {before word after : List Char} (h : StandsAlone before word after) :
    IsWord (before ++ (word ++ after)) before.length (before.length + word.length) where
  ordered := Nat.lt_add_of_pos_right (List.length_pos_iff.2 h.word_ne_nil)
  inside := by
    simp only [List.length_append]
    omega
  isWordChar := by
    intro i hstart hstop c hc
    rw [Option.mem_def, List.getElem?_append_right hstart,
      List.getElem?_append_left (by omega)] at hc
    exact h.isWordChar c (List.mem_of_getElem? hc)
  before_start := by
    intro i hi c hc
    rw [Option.mem_def, List.getElem?_append_left (by omega)] at hc
    apply h.before_last c
    rw [List.getLast?_eq_getElem?, ← hi]
    exact hc
  at_stop := by
    intro c hc
    rw [Option.mem_def, List.getElem?_append_right (by omega), Nat.add_sub_cancel_left,
      List.getElem?_append_right (by omega), Nat.sub_self] at hc
    apply h.after_head c
    rw [List.head?_eq_getElem?]
    exact hc

namespace IsWord

variable {cs : List Char} {start stop : Nat}

theorem append_eq (h : IsWord cs start stop) :
    cs = cs.take start ++ (cs.extract start stop ++ cs.drop stop) := by
  rw [← List.append_assoc, take_append_extract cs (Nat.le_of_lt h.ordered), List.take_append_drop]

theorem length_take_start (h : IsWord cs start stop) : (cs.take start).length = start := by
  have hordered := h.ordered
  have hinside := h.inside
  rw [List.length_take]
  omega

theorem length_extract (h : IsWord cs start stop) :
    (cs.extract start stop).length = stop - start := by
  have hinside := h.inside
  rw [List.extract_eq_take_drop, List.length_take, List.length_drop]
  omega

theorem standsAlone (h : IsWord cs start stop) :
    StandsAlone (cs.take start) (cs.extract start stop) (cs.drop stop) where
  word_ne_nil := by
    have hordered := h.ordered
    rw [← List.length_pos_iff, h.length_extract]
    omega
  isWordChar := by
    intro c hc
    obtain ⟨i, hi⟩ := List.mem_iff_getElem?.1 hc
    obtain ⟨hlt, -⟩ := List.getElem?_eq_some_iff.1 hi
    rw [h.length_extract] at hlt
    rw [List.extract_eq_take_drop, List.getElem?_take_of_lt hlt, List.getElem?_drop] at hi
    exact h.isWordChar (start + i) (by omega) (by omega) c hi
  before_last := by
    intro c hc
    have hordered := h.ordered
    have hinside := h.inside
    cases start with
    | zero => cases hc
    | succ i =>
      rw [getLast?_take_succ (by omega)] at hc
      exact h.before_start i rfl c hc
  after_head := by
    intro c hc
    rw [List.head?_drop] at hc
    exact h.at_stop c hc

end IsWord

/-! ## What is found -/

section

variable (left right : List Char)

theorem reverse_runs_append : (left.reverse.dropWhile isCursorWordChar).reverse ++
    (left.reverse.takeWhile isCursorWordChar).reverse = left := by
  rw [← List.reverse_append, List.takeWhile_append_dropWhile, List.reverse_reverse]

/-- The word characters right before a place and right behind it, taken together, stand alone. -/
theorem standsAlone_runs (h : (left.reverse.takeWhile isCursorWordChar).reverse ++
      right.takeWhile isCursorWordChar ≠ []) :
    StandsAlone (left.reverse.dropWhile isCursorWordChar).reverse
      ((left.reverse.takeWhile isCursorWordChar).reverse ++ right.takeWhile isCursorWordChar)
      (right.dropWhile isCursorWordChar) where
  word_ne_nil := h
  isWordChar := by
    intro c hc
    rcases List.mem_append.1 hc with hc | hc
    · exact List.all_eq_true.1 List.all_takeWhile c (List.mem_reverse.1 hc)
    · exact List.all_eq_true.1 List.all_takeWhile c hc
  before_last := by
    intro c hc
    rw [List.getLast?_reverse] at hc
    exact head?_dropWhile_eq_false hc
  after_head := fun _ hc => head?_dropWhile_eq_false hc

end

variable {line : String} {column : Nat}

theorem wordAt?_of_isWord {start stop : Nat} (h : IsWord line.toList start stop)
    (hstart : start ≤ column) (hstop : column ≤ stop) :
    wordAt? line column = some ⟨String.ofList (line.toList.extract start stop), start⟩ := by
  have htake := h.length_take_start
  have hextract := h.length_extract
  have hfound : wordAt? line column =
      some ⟨String.ofList (line.toList.extract start stop), (line.toList.take start).length⟩ :=
    h.standsAlone.wordAt?_eq h.append_eq (by omega) (by omega)
  rw [hfound, htake]

theorem exists_standsAlone_of_wordAt? {w : Word} (h : wordAt? line column = some w) :
    ∃ before word after, line.toList = before ++ (word ++ after) ∧
      StandsAlone before word after ∧ w = ⟨String.ofList word, before.length⟩ ∧
      before.length ≤ column ∧ column ≤ before.length + word.length := by
  simp only [wordAt?] at h
  split at h
  · cases h
  next hlength =>
    have hleft := reverse_runs_append (line.toList.take column)
    have hcount := congrArg List.length hleft
    rw [List.length_append, List.length_reverse, List.length_reverse, List.length_take] at hcount
    split at h
    · cases h
    next word hword =>
      refine ⟨_, _, _, ?_, standsAlone_runs (line.toList.take column) (line.toList.drop column)
        hword, ?_, ?_, ?_⟩
      · rw [List.append_assoc, List.takeWhile_append_dropWhile, ← List.append_assoc, hleft,
          List.take_append_drop]
      · cases h
        congr 1
        rw [List.length_reverse]
        omega
      · rw [List.length_reverse]
        omega
      · rw [List.length_append, List.length_reverse, List.length_reverse]
        omega

/-- The word under a cursor by its columns. -/
theorem wordAt?_eq_some_iff {w : Word} :
    wordAt? line column = some w ↔ IsWord line.toList w.start w.stop ∧ w.start ≤ column ∧
      column ≤ w.stop ∧ w.text.toList = line.toList.extract w.start w.stop := by
  constructor
  · intro h
    obtain ⟨before, word, after, hline, halone, rfl, hstart, hstop⟩ :=
      exists_standsAlone_of_wordAt? h
    rw [Word.stop, String.length_ofList, String.toList_ofList, hline]
    exact ⟨halone.isWord, hstart, hstop, (extract_append rfl rfl).symm⟩
  · rintro ⟨hword, hstart, hstop, htext⟩
    rw [wordAt?_of_isWord hword hstart hstop, ← htext, String.ofList_toList]

theorem takeWhile_eq_nil_iff {p : Char → Bool} {cs : List Char} :
    cs.takeWhile p = [] ↔ ∀ c ∈ cs.head?, p c = false := by
  rw [← List.head?_eq_none_iff, List.head?_takeWhile, Option.filter_eq_none_iff]
  simp

/-- Nothing is found exactly past the end and where no word character touches the cursor. -/
theorem wordAt?_eq_none_iff :
    wordAt? line column = none ↔ line.toList.length < column ∨
      (∀ c ∈ line.toList[column]?, isCursorWordChar c = false) ∧
      ∀ i, i + 1 = column → ∀ c ∈ line.toList[i]?, isCursorWordChar c = false := by
  by_cases hlength : line.toList.length < column
  · exact iff_of_true (by simp only [wordAt?, if_pos hlength]) (Or.inl hlength)
  · have hruns : wordAt? line column = none ↔
        (line.toList.take column).reverse.takeWhile isCursorWordChar = [] ∧
          (line.toList.drop column).takeWhile isCursorWordChar = [] := by
      rw [← List.reverse_eq_nil_iff, ← List.append_eq_nil_iff]
      simp only [wordAt?, if_neg hlength]
      split
      · next hnil => exact iff_of_true rfl hnil
      · next hword => exact iff_of_false (fun hsome => by cases hsome) hword
    have hleft : (∀ c ∈ (line.toList.take column).reverse.head?, isCursorWordChar c = false) ↔
        ∀ i, i + 1 = column → ∀ c ∈ line.toList[i]?, isCursorWordChar c = false := by
      cases column with
      | zero => simp
      | succ i =>
        rw [List.head?_reverse, getLast?_take_succ (by omega)]
        simp
    rw [hruns, takeWhile_eq_nil_iff, takeWhile_eq_nil_iff, hleft, List.head?_drop, and_comm,
      or_iff_right hlength]

/-! ## Stepping from character to character -/

/-- Steps left while there is a word character on that side. A character that is looked up has to be
there. -/
def stepLeft? (cs : List Char) : Nat → Option Nat
  | 0 => some 0
  | column + 1 => do
    let c ← cs[column]?
    if isCursorWordChar c then stepLeft? cs column else some (column + 1)

def stepRight? (cs : List Char) (column : Nat) : Option Nat :=
  if column < cs.length then do
    let c ← cs[column]?
    if isCursorWordChar c then stepRight? cs (column + 1) else some column
  else some column
termination_by cs.length - column

def isWordAt? (cs : List Char) (i : Nat) : Option Bool :=
  if i < cs.length then (cs[i]?).map isCursorWordChar else some false

/-- The index to start from: that of the character right of the cursor or else that of the one left
of it, if it is a word character. -/
def anchor? (cs : List Char) (column : Nat) : Option (Option Nat) := do
  if ← isWordAt? cs column then return some column
  match column with
  | 0 => return none
  | i + 1 => return if ← isWordAt? cs i then some i else none

def slice? (cs : List Char) (start stop : Nat) : Option (List Char) :=
  if start ≤ stop ∧ stop ≤ cs.length then some (cs.extract start stop) else none

/-- Looks for the word under a cursor by indices. There is no result if one is out of range. -/
def wordByIndex? (line : String) (column : Nat) : Option (Option Word) := do
  match ← anchor? line.toList column with
  | none => return none
  | some i =>
    let start ← stepLeft? line.toList i
    let stop ← stepRight? line.toList (i + 1)
    let word ← slice? line.toList start stop
    return some ⟨String.ofList word, start⟩

theorem isWordAt?_eq (cs : List Char) (i : Nat) :
    isWordAt? cs i = some ((cs[i]?).any isCursorWordChar) := by
  rw [isWordAt?]
  split
  · next hlt => rw [List.getElem?_eq_getElem hlt, Option.map_some, Option.any_some]
  · next hge => rw [List.getElem?_eq_none (Nat.le_of_not_lt hge), Option.any_none]

theorem any_getElem?_eq_false {cs : List Char} {i : Nat}
    (h : ∀ c ∈ cs[i]?, isCursorWordChar c = false) : (cs[i]?).any isCursorWordChar = false := by
  cases hc : cs[i]? with
  | none => rfl
  | some c => exact h c hc

theorem anchor?_eq (cs : List Char) (column : Nat) :
    anchor? cs column = some (if (cs[column]?).any isCursorWordChar then some column
      else match column with
        | 0 => none
        | i + 1 => if (cs[i]?).any isCursorWordChar then some i else none) := by
  unfold anchor?
  rw [isWordAt?_eq, Option.bind_eq_bind, Option.bind_some]
  split
  · rfl
  · cases column with
    | zero => rfl
    | succ i =>
      dsimp only
      rw [isWordAt?_eq]
      rfl

namespace IsWord

variable {cs : List Char} {start stop column : Nat}

theorem stepLeft?_eq (h : IsWord cs start stop) (hstart : start ≤ column) (hstop : column ≤ stop) :
    stepLeft? cs column = some start := by
  induction column with
  | zero => rw [Nat.le_zero.1 hstart, stepLeft?]
  | succ column ih =>
    have hinside := h.inside
    have hc := List.getElem?_eq_getElem (l := cs) (i := column) (by omega)
    rw [stepLeft?, hc, Option.bind_eq_bind, Option.bind_some]
    by_cases hhere : column + 1 = start
    · rw [h.before_start column hhere _ hc, hhere]
      rfl
    · rw [h.isWordChar column (by omega) hstop _ hc, if_pos rfl, ih (by omega) (by omega)]

theorem stepRight?_eq {column : Nat} (h : IsWord cs start stop) (hstart : start ≤ column)
    (hstop : column ≤ stop) : stepRight? cs column = some stop := by
  have hinside := h.inside
  rw [stepRight?]
  by_cases hlt : column < cs.length
  · have hc := List.getElem?_eq_getElem hlt
    rw [if_pos hlt, hc, Option.bind_eq_bind, Option.bind_some]
    by_cases hhere : column = stop
    · subst hhere
      rw [h.at_stop _ hc]
      rfl
    · rw [h.isWordChar column hstart (by omega) _ hc, if_pos rfl,
        h.stepRight?_eq (by omega) (by omega)]
  · rw [if_neg hlt, show column = stop by omega]
termination_by stop - column

theorem any_getElem?_iff (h : IsWord cs start stop) {i : Nat} (hstart : start ≤ i)
    (hstop : i ≤ stop) : (cs[i]?).any isCursorWordChar = true ↔ i < stop := by
  have hinside := h.inside
  constructor
  · intro hany
    rcases Nat.lt_or_eq_of_le hstop with hlt | rfl
    · exact hlt
    · rw [any_getElem?_eq_false h.at_stop] at hany
      cases hany
  · intro hlt
    have hc := List.getElem?_eq_getElem (l := cs) (i := i) (by omega)
    rw [hc, Option.any_some]
    exact h.isWordChar i hstart hlt _ hc

/-- Whichever side of the cursor the search starts on, it starts inside the word. -/
theorem exists_anchor? (h : IsWord cs start stop) (hstart : start ≤ column)
    (hstop : column ≤ stop) : ∃ i, anchor? cs column = some (some i) ∧ start ≤ i ∧ i < stop := by
  have hordered := h.ordered
  rw [anchor?_eq]
  by_cases hright : column < stop
  · rw [if_pos ((h.any_getElem?_iff hstart hstop).2 hright)]
    exact ⟨column, rfl, hstart, hright⟩
  · rw [if_neg fun hany => hright ((h.any_getElem?_iff hstart hstop).1 hany)]
    cases column with
    | zero => omega
    | succ i =>
      dsimp only
      rw [if_pos ((h.any_getElem?_iff (by omega) (by omega)).2 (by omega))]
      exact ⟨i, rfl, by omega, by omega⟩

theorem slice?_eq (h : IsWord cs start stop) :
    slice? cs start stop = some (cs.extract start stop) :=
  if_pos ⟨Nat.le_of_lt h.ordered, h.inside⟩

end IsWord

theorem anchor?_of_wordAt? (h : wordAt? line column = none) :
    anchor? line.toList column = some none := by
  rw [anchor?_eq]
  rcases wordAt?_eq_none_iff.1 h with hlength | ⟨hright, hleft⟩
  · rw [List.getElem?_eq_none (Nat.le_of_lt hlength)]
    cases column with
    | zero => rfl
    | succ i =>
      dsimp only
      rw [List.getElem?_eq_none (Nat.le_of_lt_succ hlength)]
      rfl
  · rw [any_getElem?_eq_false hright]
    cases column with
    | zero => rfl
    | succ i =>
      dsimp only
      rw [any_getElem?_eq_false (hleft i rfl)]
      rfl

/-- Stepping from character to character finds the word under a cursor, and never looks for a
character where there is none. -/
theorem wordByIndex?_eq (line : String) (column : Nat) :
    wordByIndex? line column = some (wordAt? line column) := by
  rw [wordByIndex?, Option.bind_eq_bind]
  cases hword : wordAt? line column with
  | none =>
    rw [anchor?_of_wordAt? hword]
    rfl
  | some w =>
    obtain ⟨hisWord, hstart, hstop, htext⟩ := wordAt?_eq_some_iff.1 hword
    obtain ⟨i, hanchor, hlow, hhigh⟩ := hisWord.exists_anchor? hstart hstop
    have hleft := hisWord.stepLeft?_eq hlow (Nat.le_of_lt hhigh)
    have hright := hisWord.stepRight?_eq (Nat.le_succ_of_le hlow) hhigh
    simp only [hanchor, hleft, hright, hisWord.slice?_eq, Option.bind_eq_bind, Option.bind_some,
      ← htext, String.ofList_toList]
    rfl

end InputDeck.Text
