import InputDeck.Expression
import InputDeck.Proofs.Text.Folding

/-!
# What makes a value look computed

Four kinds of piece, each stated by how it stands in the text: an operator, a constant as a whole
word, a function with its parenthesis and a pair. The functions that look for them try every place
and go from left to right there, taking as much as they can. `looksComputed_iff_holds` says that
they miss none of the ways in which a text can be taken apart.
-/

namespace InputDeck.Expression

open InputDeck.Text

/-! ## Pieces of a text -/

def EndsNoWord (cs : List Char) : Prop :=
  ∀ c ∈ cs.getLast?, isBoundaryWordChar c = false

def StartsNoWord (cs : List Char) : Prop :=
  ∀ c ∈ cs.head?, isBoundaryWordChar c = false

def Half (cs : List Char) : Prop :=
  cs ≠ [] ∧ ∀ c ∈ cs, c ≠ ',' ∧ c ≠ '}' ∧ isBlank c = false

def HoldsOperator (cs : List Char) : Prop :=
  ∃ c ∈ cs, c ∈ ['+', '-', '*', '/', '^']

def HoldsConstant (cs : List Char) : Prop :=
  ∃ a w b, cs = a ++ (w ++ b) ∧ (∃ name ∈ constants, SameWord w name.toList) ∧ EndsNoWord a ∧
    StartsNoWord b

def HoldsCall (cs : List Char) : Prop :=
  ∃ a f s b, cs = a ++ (f ++ (s ++ '(' :: b)) ∧ (∃ name ∈ functions, SameWord f name.toList) ∧
    AllBlank s ∧ EndsNoWord a

def HoldsPair (cs : List Char) : Prop :=
  ∃ a s₁ p s₂ s₃ q s₄ b,
    cs = a ++ '{' :: (s₁ ++ (p ++ (s₂ ++ ',' :: (s₃ ++ (q ++ (s₄ ++ '}' :: b)))))) ∧
    AllBlank s₁ ∧ AllBlank s₂ ∧ AllBlank s₃ ∧ AllBlank s₄ ∧ Half p ∧ Half q

/-! ## Every place -/

/-- Trying every suffix is trying every way to cut the text in two. -/
theorem anySuffix_iff {test : Option Char → List Char → Bool} {before : Option Char}
    {cs : List Char} :
    anySuffix test before cs = true ↔
      ∃ a b, cs = a ++ b ∧ test (a.getLast?.or before) b = true := by
  induction cs generalizing before with
  | nil =>
    rw [anySuffix]
    constructor
    · intro h
      exact ⟨[], [], rfl, h⟩
    · rintro ⟨a, b, hcs, h⟩
      obtain ⟨rfl, rfl⟩ := List.append_eq_nil_iff.1 hcs.symm
      exact h
  | cons c cs ih =>
    rw [anySuffix, Bool.or_eq_true, ih]
    constructor
    · rintro (h | ⟨a, b, rfl, h⟩)
      · exact ⟨[], c :: cs, rfl, h⟩
      · refine ⟨c :: a, b, rfl, ?_⟩
        cases ha : a.getLast? <;> simpa [List.getLast?_cons, ha] using h
    · rintro ⟨a, b, hcs, h⟩
      cases a with
      | nil =>
        rw [List.nil_append] at hcs
        rw [← hcs] at h
        exact Or.inl h
      | cons d a =>
        obtain ⟨rfl, rfl⟩ := List.cons.inj hcs
        refine Or.inr ⟨a, b, rfl, ?_⟩
        cases ha : a.getLast? <;> simpa [List.getLast?_cons, ha] using h

theorem not_any_iff {p : Char → Bool} {o : Option Char} :
    (!o.any p) = true ↔ ∀ c ∈ o, p c = false := by
  cases o <;> simp

/-! ## Constants and calls -/

/-- Names are written in ASCII, so folding says all there is to say about their letters. -/
theorem toNat_lt_of_mem_names {name : String} (h : name ∈ constants ++ functions) :
    ∀ d ∈ name.toList, d.toNat < 128 := by
  have hascii : (constants ++ functions).all (·.toList.all (·.toNat < 128)) = true := by
    decide +kernel
  intro d hd
  exact of_decide_eq_true (List.all_eq_true.1 (List.all_eq_true.1 hascii name h) d hd)

theorem constantHere_iff {before : Option Char} {cs : List Char} :
    constantHere before cs = true ↔ (∀ c ∈ before, isBoundaryWordChar c = false) ∧
      ∃ w b, cs = w ++ b ∧ (∃ name ∈ constants, SameWord w name.toList) ∧ StartsNoWord b := by
  rw [constantHere, Bool.and_eq_true, startsWord, not_any_iff, List.any_eq_true]
  refine and_congr_right fun _ => ?_
  constructor
  · rintro ⟨name, hname, h⟩
    obtain ⟨b, hb, hword⟩ := (Option.any_eq_true _ _).1 h
    have hascii := toNat_lt_of_mem_names (List.mem_append_left functions hname)
    obtain ⟨w, hw, rfl⟩ := (afterFolded?_eq_some_iff hascii).1 hb
    exact ⟨w, b, rfl, ⟨name, hname, hw⟩, not_any_iff.1 hword⟩
  · rintro ⟨w, b, rfl, ⟨name, hname, hw⟩, hb⟩
    have hascii := toNat_lt_of_mem_names (List.mem_append_left functions hname)
    refine ⟨name, hname, (Option.any_eq_true _ _).2 ⟨b, ?_, not_any_iff.2 hb⟩⟩
    exact (afterFolded?_eq_some_iff hascii).2 ⟨w, hw, rfl⟩

theorem anySuffix_constantHere_iff {cs : List Char} :
    anySuffix constantHere none cs = true ↔ HoldsConstant cs := by
  rw [anySuffix_iff]
  constructor
  · rintro ⟨a, rest, rfl, h⟩
    obtain ⟨ha, w, b, rfl, hname, hb⟩ := constantHere_iff.1 h
    rw [Option.or_none] at ha
    exact ⟨a, w, b, rfl, hname, ha, hb⟩
  · rintro ⟨a, w, b, rfl, hname, ha, hb⟩
    refine ⟨a, w ++ b, rfl, constantHere_iff.2 ⟨?_, w, b, rfl, hname, hb⟩⟩
    rwa [Option.or_none]

theorem callHere_iff {before : Option Char} {cs : List Char} :
    callHere before cs = true ↔ (∀ c ∈ before, isBoundaryWordChar c = false) ∧
      ∃ f s b, cs = f ++ (s ++ '(' :: b) ∧ (∃ name ∈ functions, SameWord f name.toList) ∧
        AllBlank s := by
  rw [callHere, Bool.and_eq_true, startsWord, not_any_iff, List.any_eq_true]
  refine and_congr_right fun _ => ?_
  have hparenthesis : isBlank '(' = false := by decide
  constructor
  · rintro ⟨name, hname, h⟩
    obtain ⟨rest, hrest, hhead⟩ := (Option.any_eq_true _ _).1 h
    have hascii := toNat_lt_of_mem_names (List.mem_append_right constants hname)
    obtain ⟨f, hf, rfl⟩ := (afterFolded?_eq_some_iff hascii).1 hrest
    obtain ⟨b, hb⟩ := List.head?_eq_some_iff.1 (eq_of_beq hhead)
    obtain ⟨s, hs, rfl⟩ := (trimStart_eq_cons_iff hparenthesis).1 hb
    exact ⟨f, s, b, rfl, ⟨name, hname, hf⟩, hs⟩
  · rintro ⟨f, s, b, rfl, ⟨name, hname, hf⟩, hs⟩
    have hascii := toNat_lt_of_mem_names (List.mem_append_right constants hname)
    have hb : trimStart (s ++ '(' :: b) = '(' :: b :=
      (trimStart_eq_cons_iff hparenthesis).2 ⟨s, hs, rfl⟩
    refine ⟨name, hname, (Option.any_eq_true _ _).2 ⟨s ++ '(' :: b, ?_, ?_⟩⟩
    · exact (afterFolded?_eq_some_iff hascii).2 ⟨f, hf, rfl⟩
    · rw [hb]
      rfl

theorem anySuffix_callHere_iff {cs : List Char} :
    anySuffix callHere none cs = true ↔ HoldsCall cs := by
  rw [anySuffix_iff]
  constructor
  · rintro ⟨a, rest, rfl, h⟩
    obtain ⟨ha, f, s, b, rfl, hname, hs⟩ := callHere_iff.1 h
    rw [Option.or_none] at ha
    exact ⟨a, f, s, b, rfl, hname, hs, ha⟩
  · rintro ⟨a, f, s, b, rfl, hname, hs, ha⟩
    refine ⟨a, f ++ (s ++ '(' :: b), rfl, callHere_iff.2 ⟨?_, f, s, b, rfl, hname, hs⟩⟩
    rwa [Option.or_none]

/-! ## Pairs -/

theorem isPairChar_iff {c : Char} :
    isPairChar c = true ↔ c ≠ ',' ∧ c ≠ '}' ∧ isBlank c = false := by
  simp [isPairChar, and_assoc]

theorem half_iff {cs : List Char} : Half cs ↔ cs ≠ [] ∧ ∀ c ∈ cs, isPairChar c = true := by
  simp only [Half, isPairChar_iff]

theorem isPairChar_eq_false_of_isBlank {c : Char} (h : isBlank c = true) :
    isPairChar c = false := by
  simp [isPairChar, h]

/-- A half is followed by what ends it exactly if the text can be taken apart so: no character of a
half is a blank, a comma or a brace, so where a half ends leaves no choice. -/
theorem afterHalf?_eq_some_iff {d : Char} (hpair : isPairChar d = false) (hd : isBlank d = false)
    {cs rest : List Char} :
    afterHalf? cs = some (d :: rest) ↔
      ∃ s p t, AllBlank s ∧ Half p ∧ AllBlank t ∧ cs = s ++ (p ++ (t ++ d :: rest)) := by
  rw [afterHalf?, Option.ite_none_left_eq_some, Option.some.injEq, trimStart_eq_cons_iff hd,
    List.isEmpty_iff]
  constructor
  · rintro ⟨hne, t, ht, hrest⟩
    refine ⟨cs.takeWhile isBlank, (trimStart cs).takeWhile isPairChar, t, allBlank_takeWhile cs,
      half_iff.2 ⟨hne, List.all_eq_true.1 List.all_takeWhile⟩, ht, ?_⟩
    rw [← hrest, List.takeWhile_append_dropWhile, takeWhile_append_trimStart]
  · rintro ⟨s, p, t, hs, hp, ht, rfl⟩
    obtain ⟨hne, hchars⟩ := half_iff.1 hp
    have hstart : trimStart (s ++ (p ++ (t ++ d :: rest))) = p ++ (t ++ d :: rest) := by
      obtain ⟨c, p, rfl⟩ := List.exists_cons_of_ne_nil hne
      have hc : isBlank c = false := (isPairChar_iff.1 (hchars c List.mem_cons_self)).2.2
      exact (trimStart_eq_cons_iff hc).2 ⟨s, hs, rfl⟩
    have hstop : ∀ c ∈ (t ++ d :: rest).head?, isPairChar c = false := by
      intro c hc
      cases t with
      | nil =>
        cases hc
        exact hpair
      | cons b t =>
        cases hc
        exact isPairChar_eq_false_of_isBlank (ht _ List.mem_cons_self)
    obtain ⟨htake, hdrop⟩ := takeWhile_dropWhile_of_run hchars hstop
    rw [hstart, htake, hdrop]
    exact ⟨hne, t, ht, rfl⟩

theorem pairHere_eq_true_iff {cs : List Char} :
    pairHere cs = true ↔ ∃ inner second b, cs = '{' :: inner ∧
      afterHalf? inner = some (',' :: second) ∧ afterHalf? second = some ('}' :: b) := by
  rw [pairHere.eq_def]
  constructor
  · intro h
    split at h
    · next inner =>
      split at h
      · next second hfirst =>
        obtain ⟨rest, hrest, hhead⟩ := Option.bind_eq_some_iff.1 (eq_of_beq h)
        obtain ⟨b, rfl⟩ := List.head?_eq_some_iff.1 hhead
        exact ⟨inner, second, b, rfl, hfirst, hrest⟩
      · cases h
    · cases h
  · rintro ⟨inner, second, b, rfl, hfirst, hsecond⟩
    simp [hfirst, hsecond]

theorem anySuffix_pairHere_iff {cs : List Char} :
    anySuffix (fun _ => pairHere) none cs = true ↔ HoldsPair cs := by
  have hcomma := @afterHalf?_eq_some_iff ',' (by decide) (by decide)
  have hbrace := @afterHalf?_eq_some_iff '}' (by decide) (by decide)
  rw [anySuffix_iff]
  constructor
  · rintro ⟨a, rest, rfl, h⟩
    obtain ⟨inner, second, b, rfl, hfirst, hsecond⟩ := pairHere_eq_true_iff.1 h
    obtain ⟨s₁, p, s₂, hs₁, hp, hs₂, rfl⟩ := hcomma.1 hfirst
    obtain ⟨s₃, q, s₄, hs₃, hq, hs₄, rfl⟩ := hbrace.1 hsecond
    exact ⟨a, s₁, p, s₂, s₃, q, s₄, b, rfl, hs₁, hs₂, hs₃, hs₄, hp, hq⟩
  · rintro ⟨a, s₁, p, s₂, s₃, q, s₄, b, rfl, hs₁, hs₂, hs₃, hs₄, hp, hq⟩
    refine ⟨a, _, rfl, pairHere_eq_true_iff.2 ⟨_, s₃ ++ (q ++ (s₄ ++ '}' :: b)), b, rfl, ?_, ?_⟩⟩
    · exact hcomma.2 ⟨s₁, p, s₂, hs₁, hp, hs₂, rfl⟩
    · exact hbrace.2 ⟨s₃, q, s₄, hs₃, hq, hs₄, rfl⟩

theorem any_isOperator_iff {cs : List Char} : cs.any isOperator = true ↔ HoldsOperator cs := by
  simp [HoldsOperator, isOperator, or_assoc]

/-- A value looks computed exactly if it holds an operator, a constant as a whole word, the name of
a function at the start of a word with a parenthesis behind it, or a pair. -/
theorem looksComputed_iff_holds (value : String) :
    looksComputed value = true ↔
      HoldsOperator value.toList ∨ HoldsConstant value.toList ∨ HoldsCall value.toList ∨
        HoldsPair value.toList := by
  rw [looksComputed, Bool.or_eq_true, Bool.or_eq_true, Bool.or_eq_true, any_isOperator_iff,
    anySuffix_constantHere_iff, anySuffix_callHere_iff, anySuffix_pairHere_iff, or_assoc, or_assoc]

-- The first brace opens no pair but the second does; a constant or function inside a word is none.
example : looksComputed "\x7b1, \x7b2, 3\x7d" = true ∧ looksComputed "log10abs (x_)" = false := by
  decide +kernel

end InputDeck.Expression
