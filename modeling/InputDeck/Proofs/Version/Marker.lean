import InputDeck.Proofs.Text.Folding
import InputDeck.Proofs.Text.Word
import InputDeck.Version.Marker

/-!
# Where versions are written

A version is announced in the output of a program or marked in a comment. `Announces` and `Marks`
say how a text begins where this is so, piece by piece, without a word on how the pieces are found.
The functions that look for them take as many blanks and digits as there are and never go back. No
piece begins with a character that the piece in front of it could have taken, so they miss nothing.
-/

namespace InputDeck.Version

open InputDeck.Text

/-! ## Pieces of a text -/

def Digits (cs : List Char) : Prop :=
  cs ≠ [] ∧ ∀ c ∈ cs, isVersionDigit c = true

def IsNumber (number : List Char) : Prop :=
  ∃ whole fraction, Digits whole ∧ Digits fraction ∧ number = whole ++ '.' :: fraction

def Gap (cs : List Char) : Prop :=
  cs ≠ [] ∧ AllBlank cs

def StartsNoDigit (cs : List Char) : Prop :=
  ∀ c ∈ cs.head?, isVersionDigit c = false

def Announces (cs number rest : List Char) : Prop :=
  ∃ name s, cs = name ++ (s ++ (number ++ rest)) ∧ SameWord name "octopus".toList ∧ Gap s ∧
    IsNumber number

/-- What may stand between the word version and the number: the last letter of that word, blanks, a
colon or a hyphen, and more blanks. -/
structure Filler (n s₃ mark s₄ : List Char) : Prop where
  letter : n = [] ∨ SameWord n ['n']
  before : AllBlank s₃
  sign : mark = [] ∨ mark = [':'] ∨ mark = ['-']
  after : AllBlank s₄

/-- The text starts with a comment that names the program, its version and a number; then comes
`rest`. -/
def Marks (cs number rest : List Char) : Prop :=
  ∃ sign s₁ name s₂ word n s₃ mark s₄,
    cs = sign :: (s₁ ++ (name ++ (s₂ ++ (word ++ (n ++ (s₃ ++ (mark ++ (s₄ ++
      (number ++ rest))))))))) ∧
    (sign = '#' ∨ sign = '%') ∧ AllBlank s₁ ∧ SameWord name "octopus".toList ∧ Gap s₂ ∧
    SameWord word "versio".toList ∧ Filler n s₃ mark s₄ ∧ IsNumber number

/-! ## Digits -/

theorem inRanges_of_isVersionDigit {c : Char} (h : isVersionDigit c = true) :
    inRanges ((48, 57) :: decimalDigitRanges) c.toNat = true := by
  have hdigit : isDecimalDigit c = true := (Bool.and_eq_true_iff.1 h).1
  rw [isDecimalDigit] at hdigit
  split at hdigit
  · have hbounds := Char.isDigit_iff_toNat.1 hdigit
    exact inRanges_iff.2 ⟨(48, 57), List.mem_cons_self, hbounds⟩
  · obtain ⟨r, hr, hbounds⟩ := inRanges_iff.1 hdigit
    exact inRanges_iff.2 ⟨r, List.mem_cons_of_mem _ hr, hbounds⟩

theorem rangesMeet_digit_blank :
    rangesMeet ((48, 57) :: decimalDigitRanges) blankRanges = false := by
  decide +kernel

theorem isBlank_of_isVersionDigit {c : Char} (h : isVersionDigit c = true) : isBlank c = false :=
  inRanges_eq_false_of_not_meet rangesMeet_digit_blank (inRanges_of_isVersionDigit h)

theorem isVersionDigit_point : isVersionDigit '.' = false := by decide

theorem StartsNoDigit.takeWhile_eq_nil {cs : List Char} (h : StartsNoDigit cs) :
    cs.takeWhile isVersionDigit = [] := by
  cases cs with
  | nil => rfl
  | cons c cs => simp [h c rfl]

/-- A number has all digits in front of its point, since the point is none. -/
theorem numberHere?_append {number : List Char} (h : IsNumber number) (rest : List Char) :
    numberHere? (number ++ rest) = some (number ++ rest.takeWhile isVersionDigit) := by
  obtain ⟨whole, fraction, ⟨hwhole, hwholes⟩, ⟨hfraction, hfractions⟩, rfl⟩ := h
  have hpoint : ∀ c ∈ ('.' :: (fraction ++ rest)).head?, isVersionDigit c = false := by
    intro c hc
    cases hc
    exact isVersionDigit_point
  obtain ⟨htake, hdrop⟩ := takeWhile_dropWhile_of_run hwholes hpoint
  have hrun : (fraction ++ rest).takeWhile isVersionDigit =
      fraction ++ rest.takeWhile isVersionDigit :=
    List.takeWhile_append_of_pos hfractions
  have hpieces : whole ++ '.' :: fraction ++ rest = whole ++ '.' :: (fraction ++ rest) := by simp
  rw [hpieces, numberHere?, hdrop, htake]
  simp [hrun, hwhole, hfraction]

theorem numberHere?_eq_some {cs number : List Char} (h : numberHere? cs = some number) :
    ∃ rest, cs = number ++ rest ∧ IsNumber number ∧ StartsNoDigit rest := by
  have hpieces := List.takeWhile_append_dropWhile (p := isVersionDigit) (l := cs)
  rw [numberHere?] at h
  split at h
  · next rest hrest =>
    rw [hrest] at hpieces
    simp only [Option.ite_none_left_eq_some, Bool.or_eq_true, List.isEmpty_iff, not_or,
      Option.some.injEq] at h
    obtain ⟨⟨hwhole, hfraction⟩, rfl⟩ := h
    refine ⟨rest.dropWhile isVersionDigit, ?_, ?_, ?_⟩
    · rw [List.append_assoc, List.cons_append, List.takeWhile_append_dropWhile, hpieces]
    · exact ⟨_, _, ⟨hwhole, List.all_eq_true.1 List.all_takeWhile⟩,
        ⟨hfraction, List.all_eq_true.1 List.all_takeWhile⟩, rfl⟩
    · exact fun c hc => head?_dropWhile_eq_false hc
  · cases h

/-! ## Blanks between the pieces -/

def StartsSolid (cs : List Char) : Prop :=
  ∃ c rest, cs = c :: rest ∧ isBlank c = false

theorem StartsSolid.trimStart_append {cs : List Char} (h : StartsSolid cs) {s : List Char}
    (hs : AllBlank s) : trimStart (s ++ cs) = cs := by
  obtain ⟨c, rest, rfl, hc⟩ := h
  exact (trimStart_eq_cons_iff hc).2 ⟨s, hs, rfl⟩

theorem IsNumber.exists_digit {number : List Char} (h : IsNumber number) (rest : List Char) :
    ∃ d more, number ++ rest = d :: more ∧ isVersionDigit d = true := by
  obtain ⟨whole, fraction, ⟨hne, hdigits⟩, _, rfl⟩ := h
  obtain ⟨d, whole, rfl⟩ := List.exists_cons_of_ne_nil hne
  exact ⟨d, _, rfl, hdigits d List.mem_cons_self⟩

theorem IsNumber.startsSolid {number : List Char} (h : IsNumber number) (rest : List Char) :
    StartsSolid (number ++ rest) := by
  obtain ⟨d, more, hpieces, hd⟩ := h.exists_digit rest
  exact ⟨d, more, hpieces, isBlank_of_isVersionDigit hd⟩

theorem afterBlanks?_eq_some {cs rest : List Char} (h : afterBlanks? cs = some rest) :
    ∃ s, Gap s ∧ cs = s ++ rest := by
  cases cs with
  | nil => cases h
  | cons c cs =>
    rw [afterBlanks?, Option.ite_none_right_eq_some, Option.some.injEq] at h
    obtain ⟨hc, rfl⟩ := h
    refine ⟨c :: cs.takeWhile isBlank, ⟨List.cons_ne_nil _ _, ?_⟩, ?_⟩
    · intro d hd
      rcases List.mem_cons.1 hd with rfl | hd
      · exact hc
      · exact allBlank_takeWhile cs d hd
    · rw [List.cons_append, takeWhile_append_trimStart]

theorem StartsSolid.afterBlanks?_append {cs : List Char} (h : StartsSolid cs) {s : List Char}
    (hs : Gap s) : afterBlanks? (s ++ cs) = some cs := by
  obtain ⟨hne, hblank⟩ := hs
  obtain ⟨b, s, rfl⟩ := List.exists_cons_of_ne_nil hne
  have hrest : AllBlank s := fun c hc => hblank c (List.mem_cons_of_mem b hc)
  rw [List.cons_append, afterBlanks?, if_pos (hblank b List.mem_cons_self),
    h.trimStart_append hrest]

/-! ## Words -/

theorem toNat_lt_of_all {word : List Char} (h : (word.all fun d => d.toNat < 128) = true) :
    ∀ d ∈ word, d.toNat < 128 := by
  intro d hd
  exact of_decide_eq_true (List.all_eq_true.1 h d hd)

theorem toNat_lt_octopus : ∀ d ∈ "octopus".toList, d.toNat < 128 :=
  toNat_lt_of_all (by decide)

theorem toNat_lt_versio : ∀ d ∈ "versio".toList, d.toNat < 128 :=
  toNat_lt_of_all (by decide)

theorem isBlank_of_foldsTo {c d : Char} (h : FoldsTo c d) (hd : isBlank d = false) :
    isBlank c = false := by
  cases h with
  | case h => rw [← isBlank_toLower, h, isBlank_toLower, hd]
  | longS _ => decide
  | kelvin _ => decide

theorem startsSolid_of_sameWord {d : Char} {word w : List Char} (h : SameWord w (d :: word))
    (hd : isBlank d = false) (rest : List Char) : StartsSolid (w ++ rest) := by
  cases h with
  | cons hc _ => exact ⟨_, _, rfl, isBlank_of_foldsTo hc hd⟩

theorem exists_of_announcedHere? {cs number : List Char} (h : announcedHere? cs = some number) :
    ∃ rest, Announces cs number rest ∧ StartsNoDigit rest := by
  obtain ⟨tail, htail, hfound⟩ := Option.bind_eq_some_iff.1 h
  obtain ⟨gap, hgap, hblanks⟩ := Option.bind_eq_some_iff.1 htail
  obtain ⟨name, hname, rfl⟩ := (afterFolded?_eq_some_iff toNat_lt_octopus).1 hgap
  obtain ⟨s, hs, rfl⟩ := afterBlanks?_eq_some hblanks
  obtain ⟨rest, rfl, hnumber, hstop⟩ := numberHere?_eq_some hfound
  exact ⟨rest, ⟨name, s, rfl, hname, hs, hnumber⟩, hstop⟩

theorem Announces.announcedHere? {cs number rest : List Char} (h : Announces cs number rest) :
    announcedHere? cs = numberHere? (number ++ rest) := by
  obtain ⟨name, s, rfl, hname, hs, hnumber⟩ := h
  rw [Version.announcedHere?, (afterFolded?_eq_some_iff toNat_lt_octopus).2 ⟨name, hname, rfl⟩,
    Option.bind_some, (hnumber.startsSolid rest).afterBlanks?_append hs, Option.bind_some]

/-! ## Between the word and the number -/

theorem isVersionDigit_toLower (c : Char) : isVersionDigit c.toLower = isVersionDigit c :=
  toLower_congr (f := isVersionDigit) (by decide) c

theorem foldLetter_eq_n_iff {c : Char} : foldLetter c = 'n' ↔ FoldsTo c 'n' := by
  rw [← foldLetter_eq_iff (by decide), eq_comm]
  rfl

/-- What may follow the optional letter is no such letter. -/
theorem not_foldsTo_n {c : Char}
    (h : isBlank c = true ∨ c = ':' ∨ c = '-' ∨ isVersionDigit c = true) : ¬ FoldsTo c 'n' := by
  intro hn
  cases hn with
  | longS h => exact absurd h (by decide)
  | kelvin h => exact absurd h (by decide)
  | case hc =>
    rcases h with h | rfl | rfl | h
    · rw [← isBlank_toLower, hc] at h
      exact absurd h (by decide)
    · exact absurd hc (by decide)
    · exact absurd hc (by decide)
    · rw [← isVersionDigit_toLower, hc] at h
      exact absurd h (by decide)

theorem exists_append_dropOptionalN (cs : List Char) :
    ∃ n, cs = n ++ dropOptionalN cs ∧ (n = [] ∨ SameWord n ['n']) := by
  cases cs with
  | nil => exact ⟨[], rfl, Or.inl rfl⟩
  | cons c cs =>
    rw [dropOptionalN]
    split
    · next hc =>
      exact ⟨[c], rfl, Or.inr (.cons (foldLetter_eq_n_iff.1 (eq_of_beq hc)) .nil)⟩
    · exact ⟨[], rfl, Or.inl rfl⟩

theorem dropOptionalN_append {n cs : List Char} (hn : n = [] ∨ SameWord n ['n'])
    (hcs : ∀ c ∈ cs.head?, ¬ FoldsTo c 'n') : dropOptionalN (n ++ cs) = cs := by
  rcases hn with rfl | hn
  · cases cs with
    | nil => rfl
    | cons c cs =>
      have hc : ¬ (foldLetter c == 'n') = true := by
        rw [beq_iff_eq, foldLetter_eq_n_iff]
        exact hcs c rfl
      exact if_neg hc
  · cases hn with
    | cons hc hn =>
      cases hn
      exact if_pos (beq_iff_eq.2 (foldLetter_eq_n_iff.2 hc))

theorem exists_append_dropOptionalMark (cs : List Char) :
    ∃ mark, cs = mark ++ dropOptionalMark cs ∧ (mark = [] ∨ mark = [':'] ∨ mark = ['-']) := by
  cases cs with
  | nil => exact ⟨[], rfl, Or.inl rfl⟩
  | cons c cs =>
    rw [dropOptionalMark]
    split
    · next hc =>
      rw [Bool.or_eq_true, beq_iff_eq, beq_iff_eq] at hc
      rcases hc with rfl | rfl
      · exact ⟨[':'], rfl, Or.inr (Or.inl rfl)⟩
      · exact ⟨['-'], rfl, Or.inr (Or.inr rfl)⟩
    · exact ⟨[], rfl, Or.inl rfl⟩

theorem dropOptionalMark_of_isVersionDigit {d : Char} (hd : isVersionDigit d = true)
    (cs : List Char) : dropOptionalMark (d :: cs) = d :: cs := by
  refine if_neg ?_
  rw [Bool.or_eq_true, beq_iff_eq, beq_iff_eq]
  rintro (rfl | rfl)
  · exact absurd hd (by decide)
  · exact absurd hd (by decide)

def numberTail (cs : List Char) : List Char :=
  trimStart (dropOptionalMark (trimStart (dropOptionalN cs)))

theorem exists_filler (cs : List Char) :
    ∃ n s₃ mark s₄, Filler n s₃ mark s₄ ∧
      cs = n ++ (s₃ ++ (mark ++ (s₄ ++ numberTail cs))) := by
  obtain ⟨n, hcs, hn⟩ := exists_append_dropOptionalN cs
  obtain ⟨mark, htrim, hmark⟩ := exists_append_dropOptionalMark (trimStart (dropOptionalN cs))
  refine ⟨n, (dropOptionalN cs).takeWhile isBlank, mark,
    (dropOptionalMark (trimStart (dropOptionalN cs))).takeWhile isBlank,
    ⟨hn, allBlank_takeWhile _, hmark, allBlank_takeWhile _⟩, ?_⟩
  rw [numberTail, takeWhile_append_trimStart, ← htrim, takeWhile_append_trimStart, ← hcs]

theorem Filler.head_not_foldsTo_n {n s₃ mark s₄ : List Char} (h : Filler n s₃ mark s₄) {d : Char}
    (hd : isVersionDigit d = true) (cs : List Char) :
    ∀ c ∈ (s₃ ++ (mark ++ (s₄ ++ d :: cs))).head?, ¬ FoldsTo c 'n' := by
  intro c hc
  apply not_foldsTo_n
  cases s₃ with
  | cons b s₃ =>
    cases hc
    exact Or.inl (h.before _ List.mem_cons_self)
  | nil =>
    rcases h.sign with rfl | rfl | rfl
    · cases s₄ with
      | cons b s₄ =>
        cases hc
        exact Or.inl (h.after _ List.mem_cons_self)
      | nil =>
        cases hc
        exact Or.inr (Or.inr (Or.inr hd))
    · cases hc
      exact Or.inr (Or.inl rfl)
    · cases hc
      exact Or.inr (Or.inr (Or.inl rfl))

/-- Where a number follows, there is one way only to take off what stands in front of it. -/
theorem Filler.numberTail_append {n s₃ mark s₄ : List Char} (h : Filler n s₃ mark s₄) {d : Char}
    (hd : isVersionDigit d = true) (cs : List Char) :
    numberTail (n ++ (s₃ ++ (mark ++ (s₄ ++ d :: cs)))) = d :: cs := by
  have hsolid : StartsSolid (d :: cs) := ⟨d, cs, rfl, isBlank_of_isVersionDigit hd⟩
  have hsign : ∀ c, isBlank c = false → trimStart (s₃ ++ c :: (s₄ ++ d :: cs)) =
      c :: (s₄ ++ d :: cs) := fun c hc => (trimStart_eq_cons_iff hc).2 ⟨s₃, h.before, rfl⟩
  rw [numberTail, dropOptionalN_append h.letter (h.head_not_foldsTo_n hd cs)]
  rcases h.sign with rfl | rfl | rfl
  · rw [List.nil_append, ← List.append_assoc, hsolid.trimStart_append (h.before.append h.after),
      dropOptionalMark_of_isVersionDigit hd, trimStart_cons (isBlank_of_isVersionDigit hd)]
  · rw [List.singleton_append, hsign ':' (by decide)]
    exact hsolid.trimStart_append h.after
  · rw [List.singleton_append, hsign '-' (by decide)]
    exact hsolid.trimStart_append h.after

/-! ## Comments -/

theorem markedHere?_cons (c : Char) (rest : List Char) :
    markedHere? (c :: rest) = if c == '#' || c == '%' then
      ((afterFolded? "octopus".toList (trimStart rest)).bind afterBlanks?).bind fun tail =>
        (afterFolded? "versio".toList tail).bind fun tail => numberHere? (numberTail tail)
    else none := by
  rw [markedHere?]
  split
  · cases (afterFolded? "octopus".toList (trimStart rest)).bind afterBlanks? <;> rfl
  · rfl

theorem exists_of_markedHere? {cs number : List Char} (h : markedHere? cs = some number) :
    ∃ rest, Marks cs number rest ∧ StartsNoDigit rest := by
  cases cs with
  | nil => cases h
  | cons sign cs =>
    rw [markedHere?_cons, Option.ite_none_right_eq_some, Bool.or_eq_true, beq_iff_eq,
      beq_iff_eq] at h
    obtain ⟨hsign, h⟩ := h
    obtain ⟨tail, htail, hrest⟩ := Option.bind_eq_some_iff.1 h
    obtain ⟨gap, hgap, hblanks⟩ := Option.bind_eq_some_iff.1 htail
    obtain ⟨name, hname, hcs⟩ := (afterFolded?_eq_some_iff toNat_lt_octopus).1 hgap
    obtain ⟨s₂, hs₂, rfl⟩ := afterBlanks?_eq_some hblanks
    obtain ⟨after, hafter, hfound⟩ := Option.bind_eq_some_iff.1 hrest
    obtain ⟨word, hword, rfl⟩ := (afterFolded?_eq_some_iff toNat_lt_versio).1 hafter
    obtain ⟨n, s₃, mark, s₄, hfiller, hpieces⟩ := exists_filler after
    obtain ⟨rest, htext, hnumber, hstop⟩ := numberHere?_eq_some hfound
    refine ⟨rest, ⟨sign, cs.takeWhile isBlank, name, s₂, word, n, s₃, mark, s₄, ?_, hsign,
      allBlank_takeWhile cs, hname, hs₂, hword, hfiller, hnumber⟩, hstop⟩
    rw [← htext, ← hpieces, ← hcs, takeWhile_append_trimStart]

theorem Marks.markedHere? {cs number rest : List Char} (h : Marks cs number rest) :
    markedHere? cs = numberHere? (number ++ rest) := by
  obtain ⟨sign, s₁, name, s₂, word, n, s₃, mark, s₄, rfl, hsign, hs₁, hname, hs₂, hword, hfiller,
    hnumber⟩ := h
  obtain ⟨d, more, hdigit, hd⟩ := hnumber.exists_digit rest
  have hname' := startsSolid_of_sameWord (d := 'o') hname (by decide)
  have hword' := startsSolid_of_sameWord (d := 'v') hword (by decide)
  have hsign' : (sign == '#' || sign == '%') = true := by simpa using hsign
  rw [markedHere?_cons, if_pos hsign', (hname' _).trimStart_append hs₁,
    (afterFolded?_eq_some_iff toNat_lt_octopus).2 ⟨name, hname, rfl⟩, Option.bind_some,
    (hword' _).afterBlanks?_append hs₂, Option.bind_some,
    (afterFolded?_eq_some_iff toNat_lt_versio).2 ⟨word, hword, rfl⟩, Option.bind_some, hdigit,
    hfiller.numberTail_append hd]

/-! ## The earliest place -/

/-- The function finds what the relation describes, with all digits that there are. -/
structure Finds (here? : List Char → Option (List Char))
    (Starts : List Char → List Char → List Char → Prop) : Prop where
  sound : ∀ {cs number}, here? cs = some number →
    ∃ rest, Starts cs number rest ∧ StartsNoDigit rest
  complete : ∀ {cs number rest}, Starts cs number rest → here? cs = numberHere? (number ++ rest)
  isNumber : ∀ {cs number rest}, Starts cs number rest → IsNumber number

theorem finds_announced : Finds announcedHere? Announces where
  sound := exists_of_announcedHere?
  complete := Announces.announcedHere?
  isNumber := fun ⟨_, _, _, _, _, hnumber⟩ => hnumber

theorem finds_marked : Finds markedHere? Marks where
  sound := exists_of_markedHere?
  complete := Marks.markedHere?
  isNumber := fun ⟨_, _, _, _, _, _, _, _, _, _, _, _, _, _, _, _, hnumber⟩ => hnumber

section

variable {here? : List Char → Option (List Char)}
  {Starts : List Char → List Char → List Char → Prop}

theorem Finds.eq_some_iff (h : Finds here? Starts) {cs number : List Char} :
    here? cs = some number ↔ ∃ rest, Starts cs number rest ∧ StartsNoDigit rest := by
  constructor
  · exact h.sound
  · rintro ⟨rest, hstarts, hstop⟩
    rw [h.complete hstarts, numberHere?_append (h.isNumber hstarts), hstop.takeWhile_eq_nil,
      List.append_nil]

/-- Nothing is found exactly where nothing starts, however few digits one would take. -/
theorem Finds.eq_none_iff (h : Finds here? Starts) {cs : List Char} :
    here? cs = none ↔ ∀ number rest, ¬ Starts cs number rest := by
  constructor
  · intro hnone number rest hstarts
    rw [h.complete hstarts, numberHere?_append (h.isNumber hstarts)] at hnone
    cases hnone
  · intro hnever
    cases hhere : here? cs with
    | none => rfl
    | some number =>
      obtain ⟨rest, hstarts, _⟩ := h.sound hhere
      exact absurd hstarts (hnever number rest)

theorem earliest?_eq_some_iff {text number : List Char} :
    earliest? here? text = some number ↔ ∃ before cs, text = before ++ cs ∧
      here? cs = some number ∧
      ∀ front back, text = front ++ back → front.length < before.length → here? back = none := by
  induction text with
  | nil =>
    rw [earliest?]
    constructor
    · intro h
      exact ⟨[], [], rfl, h, fun _ _ _ hlt => absurd hlt (Nat.not_lt_zero _)⟩
    · rintro ⟨before, cs, htext, h, _⟩
      obtain ⟨rfl, rfl⟩ := List.append_eq_nil_iff.1 htext.symm
      exact h
  | cons c text ih =>
    rw [earliest?]
    cases hhere : here? (c :: text) with
    | some found =>
      rw [Option.some_or, Option.some.injEq]
      constructor
      · rintro rfl
        exact ⟨[], c :: text, rfl, hhere, fun _ _ _ hlt => absurd hlt (Nat.not_lt_zero _)⟩
      · rintro ⟨before, cs, htext, h, hfirst⟩
        cases before with
        | nil =>
          rw [← List.nil_append cs, ← htext, hhere] at h
          exact Option.some.inj h
        | cons b before =>
          rw [hfirst [] (c :: text) rfl (Nat.succ_pos _)] at hhere
          cases hhere
    | none =>
      rw [Option.none_or, ih]
      constructor
      · rintro ⟨before, cs, rfl, h, hfirst⟩
        refine ⟨c :: before, cs, rfl, h, ?_⟩
        intro front back hsplit hlt
        cases front with
        | nil =>
          rw [← List.nil_append back, ← hsplit]
          exact hhere
        | cons b front =>
          exact hfirst front back (List.cons.inj hsplit).2 (Nat.lt_of_succ_lt_succ hlt)
      · rintro ⟨before, cs, htext, h, hfirst⟩
        cases before with
        | nil =>
          rw [← List.nil_append cs, ← htext, hhere] at h
          cases h
        | cons b before =>
          obtain ⟨rfl, rfl⟩ := List.cons.inj htext
          refine ⟨before, cs, rfl, h, ?_⟩
          intro front back hsplit hlt
          exact hfirst (c :: front) back (congrArg (c :: ·) hsplit) (Nat.succ_lt_succ hlt)

theorem earliest?_eq_none_iff {text : List Char} :
    earliest? here? text = none ↔ ∀ before cs, text = before ++ cs → here? cs = none := by
  induction text with
  | nil =>
    rw [earliest?]
    constructor
    · intro h before cs htext
      rwa [(List.append_eq_nil_iff.1 htext.symm).2]
    · intro h
      exact h [] [] rfl
  | cons c text ih =>
    rw [earliest?, Option.or_eq_none_iff, ih]
    constructor
    · rintro ⟨hhere, hrest⟩ before cs htext
      cases before with
      | nil => rwa [← List.nil_append cs, ← htext]
      | cons b before => exact hrest before cs (List.cons.inj htext).2
    · intro h
      refine ⟨h [] (c :: text) rfl, ?_⟩
      intro before cs htext
      exact h (c :: before) cs (congrArg (c :: ·) htext)

end

/-- The number at the earliest place where the relation holds, with all digits behind its point. -/
def EarliestNumber (Starts : List Char → List Char → List Char → Prop) (text number : List Char) :
    Prop :=
  ∃ before cs rest, text = before ++ cs ∧ Starts cs number rest ∧ StartsNoDigit rest ∧
    ∀ front back, text = front ++ back → front.length < before.length →
      ∀ other more, ¬ Starts back other more

theorem Finds.map_earliest? {here? : List Char → Option (List Char)}
    {Starts : List Char → List Char → List Char → Prop} (h : Finds here? Starts) (text v : String) :
    ((earliest? here? text.toList).map String.ofList = some v ↔
      EarliestNumber Starts text.toList v.toList) ∧
    ((earliest? here? text.toList).map String.ofList = none ↔
      ∀ before cs, text.toList = before ++ cs → ∀ number rest, ¬ Starts cs number rest) := by
  constructor
  · have hsome : (earliest? here? text.toList).map String.ofList = some v ↔
        earliest? here? text.toList = some v.toList := by
      rw [Option.map_eq_some_iff]
      constructor
      · rintro ⟨number, hnumber, rfl⟩
        rw [hnumber, String.toList_ofList]
      · intro hnumber
        exact ⟨v.toList, hnumber, String.ofList_toList⟩
    rw [hsome, earliest?_eq_some_iff]
    simp only [h.eq_some_iff, h.eq_none_iff]
    constructor
    · rintro ⟨before, cs, htext, ⟨rest, hstarts, hstop⟩, hfirst⟩
      exact ⟨before, cs, rest, htext, hstarts, hstop, hfirst⟩
    · rintro ⟨before, cs, rest, htext, hstarts, hstop, hfirst⟩
      exact ⟨before, cs, htext, ⟨rest, hstarts, hstop⟩, hfirst⟩
  · rw [Option.map_eq_none_iff, earliest?_eq_none_iff]
    simp only [h.eq_none_iff]

/-- A version is found in a text exactly if a comment marks one somewhere, and it is then that of
the earliest such place with all digits behind the point. The same holds of a version that a program
announces. -/
theorem versions_found_earliest (text v : String) :
    (marked? text = some v ↔ EarliestNumber Marks text.toList v.toList) ∧
    (marked? text = none ↔
      ∀ before cs, text.toList = before ++ cs → ∀ number rest, ¬ Marks cs number rest) ∧
    (announced? text = some v ↔ EarliestNumber Announces text.toList v.toList) ∧
    (announced? text = none ↔
      ∀ before cs, text.toList = before ++ cs → ∀ number rest, ¬ Announces cs number rest) := by
  obtain ⟨hmarked, hunmarked⟩ := finds_marked.map_earliest? text v
  obtain ⟨hannounced, hsilent⟩ := finds_announced.map_earliest? text v
  exact ⟨hmarked, hunmarked, hannounced, hsilent⟩

-- The first sign starts no marker and hides none; the last point ends the number.
example :
    marked? "## octopus #\nOctopu\u017f version 1\n%OCTOPUS\t versioN\n-\r16.2.1" = some "16.2" ∧
    announced? "octopus octopus 1 Octopus \n 14.1x" = some "14.1" := by
  decide +kernel

end InputDeck.Version
