import Mathlib.Data.List.Infix
import InputDeck.Editor.Document
import InputDeck.Proofs.Text.Blank
import InputDeck.Proofs.Text.Line

/-!
# A document is its lines and the breaks between them

The lines of an open document and the breaks behind all of them but the last make up its text, and
`Interleaved` says which lines and breaks can do so. A text is made up in one way only, so nothing
is lost when a document is cut into lines. How many lines there are follows from the characters at
which a break ends.

A line together with its break loses all breaks at its end, however many there are, and what is left
is the line: `withoutBreaks_slices`.
-/

namespace InputDeck.Text

/-! ## Counting breaks -/

/-- A break ends with the first character: a line feed, or a carriage return that no line feed
follows. -/
def endsBreak : List Char → Bool
  | '\n' :: _ => true
  | '\r' :: cs => cs.head? != some '\n'
  | _ => false

/-- The number of breaks in a text. CR LF is one, and so is every other CR or LF. -/
def breakCount (cs : List Char) : Nat :=
  cs.tails.countP endsBreak

theorem breakCount_cons (c : Char) (cs : List Char) :
    breakCount (c :: cs) = breakCount cs + if endsBreak (c :: cs) then 1 else 0 := by
  rw [breakCount, List.tails_cons, List.countP_cons]
  rfl

theorem endsBreak_cons_of_isBreakChar_eq_false {c : Char} (h : isBreakChar c = false)
    (cs : List Char) : endsBreak (c :: cs) = false := by
  obtain ⟨hr, hn⟩ := isBreakChar_eq_false_iff.1 h
  rw [endsBreak.eq_def]
  split
  · next heq => exact absurd (List.cons.inj heq).1 hn
  · next heq => exact absurd (List.cons.inj heq).1 hr
  · rfl

theorem length_consFirst {pieces : List (List Char)} (h : pieces ≠ []) (c : Char) :
    (consFirst c pieces).length = pieces.length := by
  cases pieces with
  | nil => exact absurd rfl h
  | cons piece pieces => rfl

theorem length_documentLines (cs : List Char) : (documentLines cs).length = breakCount cs + 1 := by
  fun_induction documentLines cs with
  | case1 => rfl
  | case2 cs ih =>
    -- the return ends no break here, the feed behind it does
    rw [List.length_cons, ih, breakCount_cons, breakCount_cons]
    rfl
  | case3 cs hcs ih =>
    have hends : endsBreak ('\r' :: cs) = true := by
      simpa [endsBreak] using head?_ne_feed hcs
    rw [List.length_cons, ih, breakCount_cons, if_pos hends]
  | case4 cs ih =>
    rw [List.length_cons, ih, breakCount_cons]
    rfl
  | case5 c cs _ hr hn ih =>
    have hends := endsBreak_cons_of_isBreakChar_eq_false (isBreakChar_eq_false_iff.2 ⟨hr, hn⟩) cs
    rw [length_consFirst (documentLines_ne_nil cs), ih, breakCount_cons, hends]
    rfl

/-! ## Lines and breaks in turn -/

/-- Lines without breaks in them, and what ends all but the last. A carriage return alone does so
only if no line feed comes next. -/
structure Interleaved (lines stops : List (List Char)) : Prop where
  count : lines.length = stops.length + 1
  unbroken : ∀ line ∈ lines, '\r' ∉ line ∧ '\n' ∉ line
  stop : ∀ stop ∈ stops, stop = ['\n'] ∨ stop = ['\r', '\n'] ∨ stop = ['\r']
  longest : ∀ i, stops[i]? = some ['\r'] → lines[i + 1]? = some [] → stops[i + 1]? ≠ some ['\n']

def slices (lines stops : List (List Char)) : List (List Char) :=
  List.zipWith (· ++ ·) lines (stops ++ [[]])

def withoutBreaks (cs : List Char) : List Char :=
  (cs.reverse.dropWhile isBreakChar).reverse

theorem unbroken_iff {line : List Char} : Unbroken line ↔ '\r' ∉ line ∧ '\n' ∉ line := by
  constructor
  · intro h
    refine ⟨?_, h.feed_not_mem⟩
    intro hr
    cases h '\r' hr
  · rintro ⟨hr, hn⟩ c hc
    refine isBreakChar_eq_false_iff.2 ⟨?_, ?_⟩
    · rintro rfl
      exact hr hc
    · rintro rfl
      exact hn hc

theorem Interleaved.tail {line next stop : List Char} {lines stops : List (List Char)}
    (h : Interleaved (line :: next :: lines) (stop :: stops)) :
    Interleaved (next :: lines) stops where
  count := Nat.succ.inj h.count
  unbroken l hl := h.unbroken l (List.mem_cons_of_mem line hl)
  stop s hs := h.stop s (List.mem_cons_of_mem stop hs)
  longest i := h.longest (i + 1)

theorem WellCut.cons {line stop : List Char} {parts : List LinePart} (hline : Unbroken line)
    (hstop : stop = ['\n'] ∨ stop = ['\r', '\n'] ∨ stop = ['\r'])
    (hnext : stop = ['\r'] → ∀ next ∈ parts.head?, next.1 = [] → next.2.head? ≠ some '\n')
    (h : WellCut parts) : WellCut ((line, stop) :: parts) := by
  cases parts with
  | nil => exact h.elim
  | cons next rest =>
    refine ⟨hline, ?_, h⟩
    rcases hstop with hstop | hstop | hstop
    · exact Or.inl hstop
    · exact Or.inr (Or.inl hstop)
    · exact Or.inr (Or.inr ⟨hstop, fun hfeed => hnext hstop next rfl hfeed.1 hfeed.2⟩)

theorem Interleaved.wellCut {lines stops : List (List Char)} (h : Interleaved lines stops) :
    WellCut (lines.zip (stops ++ [[]])) := by
  induction stops generalizing lines with
  | nil =>
    obtain ⟨line, rfl⟩ := List.length_eq_one_iff.1 h.count
    exact ⟨unbroken_iff.2 (h.unbroken line List.mem_cons_self), rfl⟩
  | cons stop stops ih =>
    match lines, h with
    | [], h => cases h.count
    | [line], h => cases h.count
    | line :: next :: lines, h =>
      have hline := unbroken_iff.2 (h.unbroken line List.mem_cons_self)
      refine WellCut.cons hline (h.stop stop List.mem_cons_self) ?_ (ih h.tail)
      rintro rfl part hpart hempty hfeed
      cases stops with
      | nil =>
        cases hpart
        cases hfeed
      | cons stop' stops =>
        cases hpart
        have hnot := h.longest 0 rfl (by rw [← hempty]; rfl)
        rcases h.stop stop' (List.mem_cons_of_mem _ List.mem_cons_self) with rfl | rfl | rfl
        · exact hnot rfl
        · cases hfeed
        · cases hfeed

theorem WellCut.exists_interleaved {parts : List LinePart} (h : WellCut parts) :
    ∃ stops, parts.map Prod.snd = stops ++ [[]] ∧ Interleaved (parts.map Prod.fst) stops := by
  induction parts with
  | nil => exact h.elim
  | cons part rest ih =>
    obtain ⟨line, stop⟩ := part
    cases rest with
    | nil =>
      obtain ⟨hline, rfl⟩ := h
      refine ⟨[], rfl, rfl, ?_, ?_, ?_⟩
      · intro l hl
        rw [List.mem_singleton.1 hl]
        exact unbroken_iff.1 hline
      · intro s hs
        cases hs
      · intro i hi
        cases hi
    | cons next rest =>
      obtain ⟨hline, hstop, hrest⟩ := h
      obtain ⟨stops, hstops, hinter⟩ := ih hrest
      refine ⟨stop :: stops, congrArg (stop :: ·) hstops, congrArg (· + 1) hinter.count, ?_, ?_, ?_⟩
      · intro l hl
        rcases List.mem_cons.1 hl with rfl | hl
        · exact unbroken_iff.1 hline
        · exact hinter.unbroken l hl
      · intro s hs
        rcases List.mem_cons.1 hs with rfl | hs
        · rcases hstop with hstop | hstop | ⟨hstop, _⟩
          · exact Or.inl hstop
          · exact Or.inr (Or.inl hstop)
          · exact Or.inr (Or.inr hstop)
        · exact hinter.stop s hs
      · intro i hi hnext
        cases i with
        | succ i => exact hinter.longest i hi hnext
        | zero =>
          -- only here does the break of `next` matter, the first of `stops` if there is one
          obtain rfl : stop = ['\r'] := Option.some.inj hi
          intro hfeed
          cases stops with
          | nil => cases hfeed
          | cons stop' stops =>
            obtain rfl : stop' = ['\n'] := Option.some.inj hfeed
            have hsnd : next.2 = ['\n'] := (List.cons.inj hstops).1
            rcases hstop with hstop | hstop | ⟨_, hnot⟩
            · cases hstop
            · cases hstop
            · exact hnot ⟨Option.some.inj hnext, by rw [hsnd]; rfl⟩

theorem joinParts_zip (lines stops : List (List Char)) :
    joinParts (lines.zip (stops ++ [[]])) = (slices lines stops).flatten := by
  rw [joinParts, List.flatMap_def, slices, List.map_zip_eq_zipWith]
  rfl

/-- A text is made up of lines and breaks in one way only. -/
theorem Interleaved.unique {lines stops : List (List Char)} (h : Interleaved lines stops) :
    documentLines (slices lines stops).flatten = lines ∧
      (lineParts (slices lines stops).flatten).map Prod.snd = stops ++ [[]] := by
  have hcount : lines.length = (stops ++ [[]]).length := by
    rw [h.count, List.length_append, List.length_singleton]
  have hparts : lineParts (slices lines stops).flatten = lines.zip (stops ++ [[]]) := by
    rw [← joinParts_zip, lineParts_joinParts h.wellCut]
  rw [documentLines_eq, hparts]
  exact ⟨List.map_fst_zip hcount.le, List.map_snd_zip hcount.ge⟩

theorem exists_interleaved_documentLines (cs : List Char) :
    ∃ stops, Interleaved (documentLines cs) stops ∧
      (slices (documentLines cs) stops).flatten = cs := by
  obtain ⟨stops, hstops, hinter⟩ := (wellCut_lineParts cs).exists_interleaved
  rw [documentLines_eq]
  refine ⟨stops, hinter, ?_⟩
  rw [← joinParts_zip, ← List.zip_of_prod rfl hstops, joinParts_lineParts]

theorem withoutBreaks_append {line stop : List Char} (hline : Unbroken line)
    (hstop : ∀ c ∈ stop, isBreakChar c = true) : withoutBreaks (line ++ stop) = line := by
  have hrun : ∀ c ∈ stop.reverse, isBreakChar c = true := by
    intro c hc
    exact hstop c (List.mem_reverse.1 hc)
  have hrest : ∀ c ∈ line.reverse.head?, isBreakChar c = false := by
    intro c hc
    exact hline c (List.mem_reverse.1 (List.mem_of_head? hc))
  rw [withoutBreaks, List.reverse_append, (takeWhile_dropWhile_of_run hrun hrest).2,
    List.reverse_reverse]

theorem isBreakChar_of_stop {stop : List Char}
    (h : stop = ['\n'] ∨ stop = ['\r', '\n'] ∨ stop = ['\r']) :
    ∀ c ∈ stop, isBreakChar c = true := by
  rcases h with rfl | rfl | rfl <;> simp [isBreakChar]

/-- Dropping all breaks at the end of a line with its break drops this break and nothing else. -/
theorem Interleaved.withoutBreaks_slices {lines stops : List (List Char)}
    (h : Interleaved lines stops) : (slices lines stops).map withoutBreaks = lines := by
  induction stops generalizing lines with
  | nil =>
    obtain ⟨line, rfl⟩ := List.length_eq_one_iff.1 h.count
    have hline := unbroken_iff.2 (h.unbroken line List.mem_cons_self)
    exact congrArg ([·]) (withoutBreaks_append hline (by simp))
  | cons stop stops ih =>
    match lines, h with
    | [], h => cases h.count
    | [line], h => cases h.count
    | line :: next :: lines, h =>
      have hline := unbroken_iff.2 (h.unbroken line List.mem_cons_self)
      have hstop := isBreakChar_of_stop (h.stop stop List.mem_cons_self)
      have hfirst := withoutBreaks_append hline hstop
      exact congrArg₂ List.cons hfirst (ih h.tail)

end InputDeck.Text

namespace InputDeck.Editor.Document

open InputDeck.Text

theorem map_toList_lines (d : Document) :
    d.lines.map String.toList = documentLines d.text.toList := by
  simp [lines]

def updates (d : Document) (news : List (String × Int)) : Document :=
  news.foldl (fun d new => d.update new.1 new.2) d

theorem text_updates (d : Document) (news : List (String × Int)) :
    (d.updates news).text = (news.getLast?.map Prod.fst).getD d.text := by
  induction news generalizing d with
  | nil => rfl
  | cons new news ih =>
    have hstep : d.updates (new :: news) = (d.update new.1 new.2).updates news := rfl
    rw [hstep, ih, List.getLast?_cons]
    cases news.getLast? <;> rfl

/-- However often a document has been updated, it has one more line than its last text has breaks,
and these lines, in which there are no breaks, are the ones that can be asked for. With breaks
between them they make up that text, which no other lines and breaks do. Each is what is left of a
line with its break if all breaks at the end are dropped. -/
theorem lines_cut_text (text : String) (version : Int) (news : List (String × Int)) :
    let d := Document.updates ⟨text, version⟩ news
    let last := (news.getLast?.map Prod.fst).getD text
    d.lines.length = d.lineCount ∧ (∀ i, d.lines[i]? = d.line? i) ∧
      (∀ i, d.line? i = none ↔ d.lineCount ≤ i) ∧
      (∀ line ∈ d.lines, '\r' ∉ line.toList ∧ '\n' ∉ line.toList) ∧
      d.lineCount = breakCount last.toList + 1 ∧
      ∃ stops, Interleaved (d.lines.map String.toList) stops ∧
        (slices (d.lines.map String.toList) stops).flatten = last.toList ∧
        d.lines = (slices (d.lines.map String.toList) stops).map (String.ofList ∘ withoutBreaks) ∧
        ∀ others stops', Interleaved others stops' → (slices others stops').flatten = last.toList →
          others = d.lines.map String.toList ∧ stops' = stops := by
  intro d last
  have hlast : d.text = last := text_updates ⟨text, version⟩ news
  have hlines := d.map_toList_lines
  rw [hlast] at hlines
  obtain ⟨stops, hinter, hjoined⟩ := exists_interleaved_documentLines last.toList
  rw [← hlines] at hinter hjoined
  refine ⟨rfl, fun _ => rfl, fun i => List.getElem?_eq_none_iff, ?_, ?_, stops, hinter, hjoined,
    ?_, ?_⟩
  · intro line hline
    exact hinter.unbroken _ (List.mem_map_of_mem hline)
  · rw [← length_documentLines, ← hlines, List.length_map]
    rfl
  · rw [← List.map_map, hinter.withoutBreaks_slices, List.map_map]
    simp
  · intro others stops' hothers hflatten
    have hunique := hinter.unique
    have hunique' := hothers.unique
    rw [hjoined] at hunique
    rw [hflatten] at hunique'
    refine ⟨hunique'.1.symm.trans hunique.1, ?_⟩
    exact List.append_cancel_right (hunique'.2.symm.trans hunique.2)

def mixedBreaks : String :=
  "a\r\r\n\nb\r"

theorem interleaved_mixedBreaks :
    Interleaved [['a'], [], [], ['b'], []] [['\r'], ['\r', '\n'], ['\n'], ['\r']] where
  count := rfl
  unbroken := by decide
  stop := by decide
  longest i hi hnext := by
    match i with
    | 0 | 3 => decide
    | 1 | 2 => cases hi
    | i + 4 => cases hi

theorem lines_cut_text_mixedBreaks :
    let d := Document.updates ⟨"x", 1⟩ [("y\n", 2), (mixedBreaks, 3)]
    d.lines = ["a", "", "", "b", ""] ∧ breakCount mixedBreaks.toList = 4 ∧
      ∃ stops, Interleaved (d.lines.map String.toList) stops ∧
        stops = [['\r'], ['\r', '\n'], ['\n'], ['\r']] ∧
        (slices (d.lines.map String.toList) stops).flatten = mixedBreaks.toList := by
  intro d
  obtain ⟨_, _, _, _, hcount, stops, hinter, hjoined, _, hunique⟩ :=
    lines_cut_text "x" 1 [("y\n", 2), (mixedBreaks, 3)]
  have hsame := hunique _ _ interleaved_mixedBreaks (by decide)
  have hlines : d.lines = ["a", "", "", "b", ""] := by decide
  refine ⟨hlines, ?_, stops, hinter, hsame.2.symm, hjoined⟩
  have hlength : d.lineCount = 5 := congrArg List.length hlines
  rw [hlength] at hcount
  exact (Nat.succ.inj hcount).symm

end InputDeck.Editor.Document
