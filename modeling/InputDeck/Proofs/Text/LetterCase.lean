import InputDeck.Proofs.Text.Blank
import InputDeck.Text.Lowercase
import InputDeck.Text.WordChar

/-!
# The case of ASCII letters

Two texts that differ in the case of ASCII letters only become the same when these are made small.
So case makes no difference to a function exactly if the function does not change when the letters
of its argument are made small, and this is how it is said here. Most classes of characters are such
functions, which a look at the capitals shows: `toLower_congr`.
-/

namespace InputDeck.Text

/-! ## Characters -/

def capitals : List Char :=
  (List.range 26).map fun i => Char.ofNat (65 + i)

theorem toLower_eq_self_or_mem_capitals (c : Char) : c.toLower = c ∨ c ∈ capitals := by
  by_cases h : c.val ≥ 'A'.val ∧ c.val ≤ 'Z'.val
  · right
    have hlo : 65 ≤ c.toNat := h.1
    have hhi : c.toNat ≤ 90 := h.2
    have hcode : 65 + (c.toNat - 65) = c.toNat := by omega
    refine List.mem_map.2 ⟨c.toNat - 65, List.mem_range.2 (by omega), ?_⟩
    rw [hcode, Char.ofNat_toNat]
  · left
    exact dif_neg h

/-- What does not tell the capitals from the small letters ignores case. -/
theorem toLower_congr {β : Type} [DecidableEq β] {f : Char → β}
    (h : capitals.all (fun c => f c.toLower = f c) = true) (c : Char) : f c.toLower = f c := by
  rcases toLower_eq_self_or_mem_capitals c with hself | hmem
  · rw [hself]
  · exact of_decide_eq_true (List.all_eq_true.1 h c hmem)

theorem isAlpha_toLower (c : Char) : c.toLower.isAlpha = c.isAlpha :=
  toLower_congr (f := Char.isAlpha) (by decide) c

theorem isDigit_toLower (c : Char) : c.toLower.isDigit = c.isDigit :=
  toLower_congr (f := Char.isDigit) (by decide) c

theorem isBlank_toLower (c : Char) : isBlank c.toLower = isBlank c :=
  toLower_congr (f := isBlank) (by decide) c

theorem isCased_toLower (c : Char) : isCased c.toLower = isCased c :=
  toLower_congr (f := isCased) (by decide) c

theorem isCaseIgnorable_toLower (c : Char) : isCaseIgnorable c.toLower = isCaseIgnorable c :=
  toLower_congr (f := isCaseIgnorable) (by decide) c

theorem isBoundaryWordChar_toLower (c : Char) :
    isBoundaryWordChar c.toLower = isBoundaryWordChar c :=
  toLower_congr (f := isBoundaryWordChar) (by decide +kernel) c

theorem lowercaseChar_toLower (c : Char) : lowercaseChar c.toLower = lowercaseChar c :=
  toLower_congr (f := lowercaseChar) (by decide) c

theorem foldLetter_toLower (c : Char) : foldLetter c.toLower = foldLetter c :=
  toLower_congr (f := foldLetter) (by decide) c

theorem toLower_eq_self {c : Char} (h : c.isAlpha = false) : c.toLower = c := by
  rcases toLower_eq_self_or_mem_capitals c with hself | hmem
  · exact hself
  · have hcapitals : capitals.all Char.isAlpha = true := by decide
    rw [List.all_eq_true.1 hcapitals c hmem] at h
    cases h

theorem toLower_eq_iff {d : Char} (hd : d.isAlpha = false) (c : Char) : c.toLower = d ↔ c = d := by
  constructor
  · intro h
    have hc : c.isAlpha = false := by rw [← isAlpha_toLower, h, hd]
    rw [← h, toLower_eq_self hc]
  · rintro rfl
    exact toLower_eq_self hd

theorem toLower_beq {d : Char} (hd : d.isAlpha = false) (c : Char) :
    (c.toLower == d) = (c == d) := by
  rw [Bool.eq_iff_iff, beq_iff_eq, beq_iff_eq, toLower_eq_iff hd]

/-! ## Runs and pieces -/

theorem comp_toLower {β : Type} {f : Char → β} (hf : ∀ c, f c.toLower = f c) :
    f ∘ Char.toLower = f :=
  funext hf

section

variable {p : Char → Bool} (hp : ∀ c, p c.toLower = p c) (cs : List Char)

include hp

theorem takeWhile_map_toLower :
    (cs.map Char.toLower).takeWhile p = (cs.takeWhile p).map Char.toLower := by
  rw [List.takeWhile_map, comp_toLower hp]

theorem dropWhile_map_toLower :
    (cs.map Char.toLower).dropWhile p = (cs.dropWhile p).map Char.toLower := by
  rw [List.dropWhile_map, comp_toLower hp]

theorem any_map_toLower : (cs.map Char.toLower).any p = cs.any p := by
  rw [List.any_map, comp_toLower hp]

theorem all_map_toLower : (cs.map Char.toLower).all p = cs.all p := by
  rw [List.all_map, comp_toLower hp]

theorem filter_map_toLower : (cs.map Char.toLower).filter p = (cs.filter p).map Char.toLower := by
  rw [List.filter_map, comp_toLower hp]

end

theorem mem_map_toLower_iff {d : Char} (hd : d.isAlpha = false) {cs : List Char} :
    d ∈ cs.map Char.toLower ↔ d ∈ cs := by
  rw [List.mem_map]
  constructor
  · rintro ⟨c, hc, heq⟩
    rwa [← (toLower_eq_iff hd c).1 heq]
  · intro h
    exact ⟨d, h, toLower_eq_self hd⟩

theorem contains_map_toLower {d : Char} (hd : d.isAlpha = false) (cs : List Char) :
    (cs.map Char.toLower).contains d = cs.contains d := by
  rw [Bool.eq_iff_iff, List.contains_iff_mem, List.contains_iff_mem, mem_map_toLower_iff hd]

theorem trimStart_map_toLower (cs : List Char) :
    trimStart (cs.map Char.toLower) = (trimStart cs).map Char.toLower :=
  dropWhile_map_toLower isBlank_toLower cs

theorem trim_map_toLower (cs : List Char) :
    trim (cs.map Char.toLower) = (trim cs).map Char.toLower := by
  rw [trim, trim, trimStart_map_toLower, trimEnd, trimEnd, ← List.map_reverse,
    dropWhile_map_toLower isBlank_toLower, List.map_reverse]

theorem splitAtEach_map_toLower {sep : Char} (hsep : sep.isAlpha = false) (cs : List Char) :
    splitAtEach sep (cs.map Char.toLower) = (splitAtEach sep cs).map (·.map Char.toLower) := by
  induction cs with
  | nil => rfl
  | cons c cs ih =>
    rw [List.map_cons, splitAtEach, splitAtEach, toLower_beq hsep, ih]
    split
    · rfl
    · cases splitAtEach sep cs <;> rfl

theorem toList_toLower (s : String) : s.toLower.toList = s.toList.map Char.toLower :=
  String.toList_map

theorem toLower_eq_toLower_iff {s t : String} :
    s.toLower = t.toLower ↔ s.toList.map Char.toLower = t.toList.map Char.toLower := by
  rw [← String.toList_inj, toList_toLower, toList_toLower]

/-! ## Lower case and folding -/

theorem leadsCased_map_toLower (cs : List Char) :
    leadsCased (cs.map Char.toLower) = leadsCased cs := by
  rw [leadsCased, leadsCased, dropWhile_map_toLower isCaseIgnorable_toLower, List.head?_map,
    Option.map_map, comp_toLower isCased_toLower]

theorem lowercaseAfter_map_toLower (afterCased : Bool) (cs : List Char) :
    lowercaseAfter afterCased (cs.map Char.toLower) = lowercaseAfter afterCased cs := by
  induction cs generalizing afterCased with
  | nil => rfl
  | cons c cs ih =>
    rw [List.map_cons, lowercaseAfter, lowercaseAfter, toLower_beq (by decide),
      leadsCased_map_toLower, lowercaseChar_toLower, isCaseIgnorable_toLower, isCased_toLower, ih]

/-- Lower case does not depend on the case of ASCII letters, not even around a sigma. -/
theorem lowercase_map_toLower (cs : List Char) : lowercase (cs.map Char.toLower) = lowercase cs :=
  lowercaseAfter_map_toLower false cs

theorem lowercased_toLower (s : String) : lowercased s.toLower = lowercased s := by
  rw [lowercased, toList_toLower, lowercase_map_toLower, lowercased]

theorem afterFolded?_map_toLower (word cs : List Char) :
    afterFolded? word (cs.map Char.toLower) = (afterFolded? word cs).map (·.map Char.toLower) := by
  fun_induction afterFolded? word cs with
  | case1 cs => cases cs <;> rfl
  | case2 => rfl
  | case3 w ws c cs heq ih => rw [List.map_cons, afterFolded?, foldLetter_toLower, if_pos heq, ih]
  | case4 w ws c cs hne => rw [List.map_cons, afterFolded?, foldLetter_toLower, if_neg hne]; rfl

end InputDeck.Text
