import InputDeck.Proofs.Text.Column
import InputDeck.Text.Line

/-!
# Lines and what ends them

A document is its lines together with the breaks between them: `lineParts` keeps both, and joining
the parts gives the text back. A list of parts is `WellCut` if it can come about in this way; then
cutting the joined text gives these parts again. So a line can be exchanged without touching any
other.

A file breaks at line feeds only. It has the lines of the document if each carriage return comes
with a line feed, except for an empty line at the end: `documentLines_eq_append`.
-/

namespace InputDeck.Text

/-- A line and the break that ends it; the last line has none. -/
abbrev LinePart := List Char × List Char

def consPart (c : Char) : List LinePart → List LinePart
  | [] => [([c], [])]
  | (line, stop) :: parts => (c :: line, stop) :: parts

def lineParts : List Char → List LinePart
  | [] => [([], [])]
  | '\r' :: '\n' :: cs => ([], ['\r', '\n']) :: lineParts cs
  | '\r' :: cs => ([], ['\r']) :: lineParts cs
  | '\n' :: cs => ([], ['\n']) :: lineParts cs
  | c :: cs => consPart c (lineParts cs)

def joinParts (parts : List LinePart) : List Char :=
  parts.flatMap fun part => part.1 ++ part.2

def isBreakChar (c : Char) : Bool :=
  c == '\r' || c == '\n'

def Unbroken (cs : List Char) : Prop :=
  ∀ c ∈ cs, isBreakChar c = false

/-- Parts that a document can be cut into. A carriage return alone ends a line only if no line feed
follows it. -/
def WellCut : List LinePart → Prop
  | [] => False
  | [(line, stop)] => Unbroken line ∧ stop = []
  | (line, stop) :: next :: rest =>
    Unbroken line ∧ (stop = ['\n'] ∨ stop = ['\r', '\n'] ∨
      (stop = ['\r'] ∧ ¬(next.1 = [] ∧ next.2.head? = some '\n'))) ∧ WellCut (next :: rest)

/-! ## Cutting and joining -/

theorem isBreakChar_eq_false_iff {c : Char} :
    isBreakChar c = false ↔ c ≠ '\r' ∧ c ≠ '\n' := by
  simp [isBreakChar]

theorem head?_ne_feed {cs : List Char} (h : ∀ rest, cs = '\n' :: rest → False) :
    cs.head? ≠ some '\n' := by
  intro hhead
  obtain ⟨rest, rfl⟩ := List.head?_eq_some_iff.1 hhead
  exact h rest rfl

theorem lineParts_cons {c : Char} (h : isBreakChar c = false) (cs : List Char) :
    lineParts (c :: cs) = consPart c (lineParts cs) := by
  obtain ⟨hr, hn⟩ := isBreakChar_eq_false_iff.1 h
  rw [lineParts]
  · intro _ hc
    exact absurd hc hr
  · exact hr
  · exact hn

theorem lineParts_return {cs : List Char} (h : cs.head? ≠ some '\n') :
    lineParts ('\r' :: cs) = ([], ['\r']) :: lineParts cs := by
  rw [lineParts]
  rintro rest rfl
  exact h rfl

theorem map_fst_consPart (c : Char) (parts : List LinePart) :
    (consPart c parts).map Prod.fst = consFirst c (parts.map Prod.fst) := by
  cases parts <;> rfl

theorem documentLines_eq (cs : List Char) : documentLines cs = (lineParts cs).map Prod.fst := by
  fun_induction documentLines cs with
  | case1 => rfl
  | case2 cs ih => rw [lineParts, List.map_cons, ih]
  | case3 cs hcs ih => rw [lineParts_return (head?_ne_feed hcs), List.map_cons, ih]
  | case4 cs ih => rw [lineParts, List.map_cons, ih]
  | case5 c cs _ hr hn ih =>
    rw [lineParts_cons (isBreakChar_eq_false_iff.2 ⟨hr, hn⟩), map_fst_consPart, ih]

/-! ## Joining -/

theorem joinParts_cons (part : LinePart) (parts : List LinePart) :
    joinParts (part :: parts) = part.1 ++ (part.2 ++ joinParts parts) := by
  rw [joinParts, List.flatMap_cons, List.append_assoc]
  rfl

theorem joinParts_append (parts more : List LinePart) :
    joinParts (parts ++ more) = joinParts parts ++ joinParts more :=
  List.flatMap_append

theorem joinParts_consPart (c : Char) (parts : List LinePart) :
    joinParts (consPart c parts) = c :: joinParts parts := by
  cases parts with
  | nil => rfl
  | cons part parts => rfl

theorem joinParts_lineParts (cs : List Char) : joinParts (lineParts cs) = cs := by
  fun_induction lineParts cs with
  | case1 => rfl
  | case2 cs ih => rw [joinParts_cons, ih]; rfl
  | case3 cs _ ih => rw [joinParts_cons, ih]; rfl
  | case4 cs ih => rw [joinParts_cons, ih]; rfl
  | case5 c cs _ _ _ ih => rw [joinParts_consPart, ih]

/-! ## Parts that a document is cut into -/

theorem unbroken_nil : Unbroken [] := by
  intro c hc
  cases hc

theorem Unbroken.cons {c : Char} {cs : List Char} (hc : isBreakChar c = false) (h : Unbroken cs) :
    Unbroken (c :: cs) := by
  intro d hd
  rcases List.mem_cons.1 hd with rfl | hd
  · exact hc
  · exact h d hd

theorem Unbroken.feed_not_mem {cs : List Char} (h : Unbroken cs) : '\n' ∉ cs := by
  intro hc
  have hbreak := h '\n' hc
  cases hbreak

theorem unbroken_splice {cs v : List Char} (start stop : Nat) (hcs : Unbroken cs)
    (hv : Unbroken v) : Unbroken (splice cs start stop v) := by
  intro c hc
  rcases List.mem_append.1 hc with hc | hc
  · exact hcs c (List.mem_of_mem_take hc)
  · rcases List.mem_append.1 hc with hc | hc
    · exact hv c hc
    · exact hcs c (List.mem_of_mem_drop hc)

theorem WellCut.consPart {c : Char} (hc : isBreakChar c = false) {parts : List LinePart}
    (h : WellCut parts) : WellCut (consPart c parts) := by
  match parts, h with
  | [(line, stop)], ⟨hline, hstop⟩ => exact ⟨hline.cons hc, hstop⟩
  | (line, stop) :: next :: rest, ⟨hline, hstop, hrest⟩ => exact ⟨hline.cons hc, hstop, hrest⟩

theorem WellCut.cons_nil {stop : List Char} {parts : List LinePart}
    (hstop : stop = ['\n'] ∨ stop = ['\r', '\n'] ∨
      (stop = ['\r'] ∧ (joinParts parts).head? ≠ some '\n')) (h : WellCut parts) :
    WellCut (([], stop) :: parts) := by
  cases parts with
  | nil => exact h.elim
  | cons next rest =>
    refine ⟨unbroken_nil, ?_, h⟩
    rcases hstop with hstop | hstop | ⟨hstop, hhead⟩
    · exact Or.inl hstop
    · exact Or.inr (Or.inl hstop)
    · refine Or.inr (Or.inr ⟨hstop, ?_⟩)
      rintro ⟨hline, hnext⟩
      apply hhead
      rw [joinParts_cons, hline, List.nil_append, List.head?_append, hnext]
      rfl

theorem wellCut_lineParts (cs : List Char) : WellCut (lineParts cs) := by
  fun_induction lineParts cs with
  | case1 => exact ⟨unbroken_nil, rfl⟩
  | case2 cs ih => exact WellCut.cons_nil (Or.inr (Or.inl rfl)) ih
  | case3 cs hcs ih =>
    refine WellCut.cons_nil (Or.inr (Or.inr ⟨rfl, ?_⟩)) ih
    rw [joinParts_lineParts]
    exact head?_ne_feed hcs
  | case4 cs ih => exact WellCut.cons_nil (Or.inl rfl) ih
  | case5 c cs _ hr hn ih => exact WellCut.consPart (isBreakChar_eq_false_iff.2 ⟨hr, hn⟩) ih

theorem WellCut.unbroken_of_mem {parts : List LinePart} (h : WellCut parts) {part : LinePart}
    (hpart : part ∈ parts) : Unbroken part.1 := by
  induction parts with
  | nil => exact h.elim
  | cons first rest ih =>
    cases rest with
    | nil =>
      rw [List.mem_singleton.1 hpart]
      exact h.1
    | cons next rest =>
      rcases List.mem_cons.1 hpart with rfl | hpart
      · exact h.1
      · exact ih h.2.2 hpart

theorem WellCut.head?_ne {next : LinePart} {rest : List LinePart} (h : WellCut (next :: rest))
    (hnext : ¬(next.1 = [] ∧ next.2.head? = some '\n')) :
    (joinParts (next :: rest)).head? ≠ some '\n' := by
  obtain ⟨line, stop⟩ := next
  rw [joinParts_cons]
  cases line with
  | cons c line =>
    intro hc
    cases hc
    have hfeed := h.unbroken_of_mem List.mem_cons_self '\n' List.mem_cons_self
    cases hfeed
  | nil =>
    cases rest with
    | nil =>
      rw [h.2]
      intro hc
      cases hc
    | cons next rest =>
      have hstop : stop ≠ [] := by
        rcases h.2.1 with rfl | rfl | ⟨rfl, _⟩ <;> simp
      obtain ⟨c, stop, rfl⟩ := List.exists_cons_of_ne_nil hstop
      exact fun hc => hnext ⟨rfl, hc⟩

theorem lineParts_append {line cs l stop : List Char} {parts : List LinePart} (h : Unbroken line)
    (hcs : lineParts cs = (l, stop) :: parts) :
    lineParts (line ++ cs) = (line ++ l, stop) :: parts := by
  induction line with
  | nil => exact hcs
  | cons c line ih =>
    rw [List.cons_append, lineParts_cons (h c List.mem_cons_self),
      ih fun d hd => h d (List.mem_cons_of_mem c hd)]
    rfl

/-- There is one way only to cut a document into lines. -/
theorem lineParts_joinParts {parts : List LinePart} (h : WellCut parts) :
    lineParts (joinParts parts) = parts := by
  induction parts with
  | nil => exact h.elim
  | cons part rest ih =>
    obtain ⟨line, stop⟩ := part
    rw [joinParts_cons]
    cases rest with
    | nil =>
      obtain ⟨hline, rfl⟩ := h
      rw [lineParts_append hline rfl, List.append_nil]
    | cons next rest =>
      obtain ⟨hline, hstop, hrest⟩ := h
      have hcut : lineParts (stop ++ joinParts (next :: rest)) = ([], stop) :: next :: rest := by
        rcases hstop with rfl | rfl | ⟨rfl, hnext⟩
        · exact congrArg (([], ['\n']) :: ·) (ih hrest)
        · exact congrArg (([], ['\r', '\n']) :: ·) (ih hrest)
        · rw [List.singleton_append, lineParts_return (hrest.head?_ne hnext), ih hrest]
      rw [lineParts_append hline hcut, List.append_nil]

/-! ## Exchanging a line -/

theorem WellCut.set {parts : List LinePart} (h : WellCut parts) {n : Nat} {line l stop : List Char}
    (hn : parts[n]? = some (line, stop)) (hne : l ≠ []) (hl : Unbroken l) :
    WellCut (parts.set n (l, stop)) := by
  induction parts generalizing n with
  | nil => exact h.elim
  | cons first rest ih =>
    cases rest with
    | nil =>
      cases n with
      | zero =>
        cases hn
        exact ⟨hl, h.2⟩
      | succ n => cases hn
    | cons next rest =>
      obtain ⟨hfirst, hstop, hrest⟩ := h
      cases n with
      | zero =>
        cases hn
        exact ⟨hl, hstop, hrest⟩
      | succ n =>
        have hset := ih hrest hn
        cases n with
        | zero =>
          refine ⟨hfirst, ?_, hset⟩
          rcases hstop with hstop | hstop | ⟨hstop, _⟩
          · exact Or.inl hstop
          · exact Or.inr (Or.inl hstop)
          · exact Or.inr (Or.inr ⟨hstop, fun hnil => hne hnil.1⟩)
        | succ n => exact ⟨hfirst, hstop, hset⟩

def lineOffset (cs : List Char) (n : Nat) : Nat :=
  (joinParts ((lineParts cs).take n)).length

theorem unbroken_of_mem_documentLines {cs line : List Char} (h : line ∈ documentLines cs) :
    Unbroken line := by
  rw [documentLines_eq] at h
  obtain ⟨part, hpart, rfl⟩ := List.mem_map.1 h
  exact (wellCut_lineParts cs).unbroken_of_mem hpart

/-- Replacing inside a line exchanges this line and leaves the other lines as they are. -/
theorem documentLines_splice {cs line v : List Char} {n start stop : Nat}
    (hline : (documentLines cs)[n]? = some line) (hstart : start ≤ stop)
    (hstop : stop ≤ line.length) (hne : splice line start stop v ≠ [])
    (hv : Unbroken (splice line start stop v)) :
    documentLines (splice cs (lineOffset cs n + start) (lineOffset cs n + stop) v) =
      (documentLines cs).set n (splice line start stop v) := by
  rw [documentLines_eq, List.getElem?_map] at hline
  obtain ⟨⟨line', brk⟩, hpart, rfl⟩ := Option.map_eq_some_iff.1 hline
  have hcut := (wellCut_lineParts cs).set hpart hne hv
  obtain ⟨hn, hget⟩ := List.getElem?_eq_some_iff.1 hpart
  have hcs : cs = joinParts ((lineParts cs).take n) ++
      (line' ++ (brk ++ joinParts ((lineParts cs).drop (n + 1)))) := by
    have hparts : lineParts cs = (lineParts cs).take n ++
        (line', brk) :: (lineParts cs).drop (n + 1) := by
      rw [← hget, ← List.drop_eq_getElem_cons hn, List.take_append_drop]
    rw [← joinParts_cons (line', brk), ← joinParts_append, ← hparts, joinParts_lineParts]
  have hset : joinParts ((lineParts cs).set n (splice line' start stop v, brk)) =
      splice cs (lineOffset cs n + start) (lineOffset cs n + stop) v := by
    have hmiddle := splice_middle (joinParts ((lineParts cs).take n)) line'
      (brk ++ joinParts ((lineParts cs).drop (n + 1))) v hstart hstop
    rw [← hcs] at hmiddle
    rw [List.set_eq_take_append_cons_drop, if_pos hn, joinParts_append, joinParts_cons]
    exact hmiddle.symm
  rw [← hset, documentLines_eq, lineParts_joinParts hcut, List.map_set, ← documentLines_eq]

/-! ## Lines of a file -/

def ReturnsPaired (cs : List Char) : Prop :=
  ∀ rest, '\r' :: rest <:+ cs → rest.head? = some '\n'

theorem returnsPaired_nil : ReturnsPaired [] := by
  intro rest h
  cases List.suffix_nil.1 h

theorem returnsPaired_cons_iff {c : Char} {cs : List Char} :
    ReturnsPaired (c :: cs) ↔ (c = '\r' → cs.head? = some '\n') ∧ ReturnsPaired cs := by
  constructor
  · intro h
    refine ⟨?_, fun rest hrest => h rest (List.suffix_cons_iff.2 (Or.inr hrest))⟩
    rintro rfl
    exact h cs List.suffix_rfl
  · rintro ⟨hc, hcs⟩ rest hrest
    rcases List.suffix_cons_iff.1 hrest with heq | hrest
    · obtain ⟨rfl, rfl⟩ := List.cons.inj heq
      exact hc rfl
    · exact hcs rest hrest

theorem linesWithFeed_cons {c : Char} (h : c ≠ '\n') (cs : List Char) :
    linesWithFeed (c :: cs) = consFirst c (linesWithFeed cs) := by
  rw [linesWithFeed]
  exact h

theorem ne_nil_of_mem_linesWithFeed {cs line : List Char} (h : line ∈ linesWithFeed cs) :
    line ≠ [] := by
  fun_induction linesWithFeed cs with
  | case1 => cases h
  | case2 cs ih =>
    rcases List.mem_cons.1 h with rfl | h
    · exact List.cons_ne_nil _ _
    · exact ih h
  | case3 c cs _ ih =>
    cases hlines : linesWithFeed cs with
    | nil =>
      rw [hlines] at h
      rw [List.mem_singleton.1 h]
      exact List.cons_ne_nil _ _
    | cons first lines =>
      rw [hlines] at h ih
      rcases List.mem_cons.1 h with rfl | h
      · exact List.cons_ne_nil _ _
      · exact ih (List.mem_cons_of_mem first h)

theorem dropReturn_cons {c : Char} (h : c ≠ '\r') (cs : List Char) :
    dropReturn (c :: cs) = c :: dropReturn cs := by
  cases cs with
  | nil => simp [dropReturn, h]
  | cons d cs =>
    rw [dropReturn, dropReturn, List.getLast?_cons_cons, List.dropLast_cons_cons]
    split <;> rfl

theorem withoutFeed_cons {c : Char} (h : c ≠ '\r') {line : List Char} (hne : line ≠ []) :
    withoutFeed (c :: line) = c :: withoutFeed line := by
  obtain ⟨d, rest, rfl⟩ := List.exists_cons_of_ne_nil hne
  rw [withoutFeed, withoutFeed, List.getLast?_cons_cons, List.dropLast_cons_cons]
  split
  · exact dropReturn_cons h _
  · rfl

/-- A line feed ends the line in front of it. -/
theorem linesWithFeed_append_feed {line : List Char} (h : '\n' ∉ line) (rest : List Char) :
    linesWithFeed (line ++ '\n' :: rest) = (line ++ ['\n']) :: linesWithFeed rest := by
  induction line with
  | nil => rfl
  | cons c line ih =>
    have hc : c ≠ '\n' := fun heq => h (heq ▸ List.mem_cons_self)
    rw [List.cons_append, linesWithFeed_cons hc, ih fun hmem => h (List.mem_cons_of_mem c hmem)]
    rfl

theorem withoutFeed_append_feed (line : List Char) :
    withoutFeed (line ++ ['\n']) = dropReturn line := by
  rw [withoutFeed, List.getLast?_concat, List.dropLast_concat]
  rfl

/-- Where carriage returns come with line feeds only, a document has the lines of the file, and
after a line feed at the very end, or in an empty text, one more line that is empty. -/
theorem documentLines_eq_append {cs : List Char} (h : ReturnsPaired cs) :
    ∃ rest, (rest = [] ∨ rest = [[]]) ∧
      documentLines cs = (linesWithFeed cs).map withoutFeed ++ rest := by
  fun_induction documentLines cs with
  | case1 => exact ⟨[[]], Or.inr rfl, rfl⟩
  | case2 cs ih =>
    have hcs := (returnsPaired_cons_iff.1 (returnsPaired_cons_iff.1 h).2).2
    obtain ⟨rest, hrest, hlines⟩ := ih hcs
    refine ⟨rest, hrest, ?_⟩
    rw [hlines]
    rfl
  | case3 cs hfeed ih =>
    -- A return on its own ends a line of a document but not of a file; here there is none.
    have hhead := (returnsPaired_cons_iff.1 h).1 rfl
    exact absurd hhead (head?_ne_feed hfeed)
  | case4 cs ih =>
    obtain ⟨rest, hrest, hlines⟩ := ih (returnsPaired_cons_iff.1 h).2
    refine ⟨rest, hrest, ?_⟩
    rw [hlines]
    rfl
  | case5 c cs _ hreturn hfeed ih =>
    obtain ⟨rest, hrest, hlines⟩ := ih (returnsPaired_cons_iff.1 h).2
    rw [hlines, linesWithFeed_cons hfeed]
    cases hfirst : linesWithFeed cs with
    | nil =>
      -- The file ends here, so the empty line that the document had becomes the line of `c`.
      have hone : withoutFeed [c] = [c] := if_neg (by simpa using hfeed)
      refine ⟨[], Or.inl rfl, ?_⟩
      rw [consFirst, List.map_singleton, hone]
      rcases hrest with rfl | rfl <;> rfl
    | cons line lines =>
      have hne : line ≠ [] := ne_nil_of_mem_linesWithFeed (hfirst ▸ List.mem_cons_self)
      refine ⟨rest, hrest, ?_⟩
      rw [consFirst, List.map_cons, List.map_cons, withoutFeed_cons hreturn hne]
      rfl

end InputDeck.Text
