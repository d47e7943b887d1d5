import InputDeck.Proofs.Text.Blank
import InputDeck.Statement.Assignment

/-!
# Names and the equals sign

A line splits into a name and more text exactly if it is made of blanks, the name, blanks, an equals
sign and that text: `splitAssignment?_eq_some_iff`.
-/

namespace InputDeck.Statement

open InputDeck.Text

/-! ## Names -/

theorem isBlank_eq_false_of_toNat {c : Char}
    (h : (48 ≤ c.toNat ∧ c.toNat ≤ 57) ∨ (61 ≤ c.toNat ∧ c.toNat ≤ 122)) :
    isBlank c = false := by
  rw [isBlank, Bool.eq_false_iff]
  intro hb
  obtain ⟨r, hr, hlo, hhi⟩ := inRanges_iff.1 hb
  simp only [blankRanges, List.mem_cons, List.not_mem_nil, or_false] at hr
  rcases hr with rfl | rfl | rfl | rfl | rfl | rfl | rfl | rfl | rfl | rfl <;>
    simp at hlo hhi <;> omega

theorem toNat_of_isNameChar {c : Char} (h : isNameChar c = true) :
    (48 ≤ c.toNat ∧ c.toNat ≤ 57) ∨ (61 ≤ c.toNat ∧ c.toNat ≤ 122) := by
  change (((decide ('A'.val ≤ c.val ∧ c.val ≤ 'Z'.val) || ('a'.val ≤ c.val && c.val ≤ 'z'.val)) ||
    ('0'.val ≤ c.val && c.val ≤ '9'.val)) || c == '_') = true at h
  simp only [Bool.or_eq_true, Bool.and_eq_true, decide_eq_true_eq, beq_iff_eq,
    UInt32.le_iff_toNat_le] at h
  change (((65 ≤ c.toNat ∧ c.toNat ≤ 90) ∨ (97 ≤ c.toNat ∧ c.toNat ≤ 122)) ∨
    (48 ≤ c.toNat ∧ c.toNat ≤ 57)) ∨ c = '_' at h
  rcases h with h | rfl
  · omega
  · decide

theorem isBlank_eq_false_of_isNameChar {c : Char} (h : isNameChar c = true) :
    isBlank c = false :=
  isBlank_eq_false_of_toNat (toNat_of_isNameChar h)

theorem isNameChar_eq_false_of_isBlank {c : Char} (h : isBlank c = true) :
    isNameChar c = false := by
  cases hc : isNameChar c with
  | false => rfl
  | true =>
    rw [isBlank_eq_false_of_isNameChar hc] at h
    cases h

theorem isNameChar_of_isAlpha {c : Char} (h : c.isAlpha = true) : isNameChar c = true := by
  simp [isNameChar, Char.isAlphanum, h]

theorem isName_cons_iff {c : Char} {cs : List Char} :
    isName (c :: cs) = true ↔ c.isAlpha = true ∧ ∀ d ∈ cs, isNameChar d = true := by
  simp [isName]

theorem isNameChar_of_mem {name : List Char} (h : isName name = true) {c : Char} (hc : c ∈ name) :
    isNameChar c = true := by
  cases name with
  | nil => cases h
  | cons d rest =>
    obtain ⟨hd, hrest⟩ := isName_cons_iff.1 h
    rcases List.mem_cons.1 hc with rfl | hc
    · exact isNameChar_of_isAlpha hd
    · exact hrest c hc

theorem exists_cons_of_isName {name : List Char} (h : isName name = true) :
    ∃ c rest, name = c :: rest ∧ isBlank c = false := by
  cases name with
  | nil => cases h
  | cons c rest =>
    exact ⟨c, rest, rfl, isBlank_eq_false_of_isNameChar (isNameChar_of_mem h List.mem_cons_self)⟩

/-- No name goes on where a name ends. -/
def EndsName (rest : List Char) : Prop :=
  ∀ c ∈ rest.head?, isNameChar c = false

theorem takeName?_eq_some_iff {cs name rest : List Char} :
    takeName? cs = some (name, rest) ↔ isName name = true ∧ cs = name ++ rest ∧ EndsName rest := by
  cases cs with
  | nil =>
    constructor
    · intro h
      cases h
    · rintro ⟨hname, hcs, _⟩
      obtain ⟨rfl, _⟩ := List.append_eq_nil_iff.1 hcs.symm
      cases hname
  | cons c cs =>
    rw [takeName?]
    constructor
    · intro h
      split at h
      · next hc =>
        cases h
        refine ⟨isName_cons_iff.2 ⟨hc, ?_⟩, ?_, ?_⟩
        · intro d hd
          exact List.all_eq_true.1 List.all_takeWhile d hd
        · rw [List.cons_append, List.takeWhile_append_dropWhile]
        · intro d hd
          exact head?_dropWhile_eq_false hd
      · cases h
    · rintro ⟨hname, hcs, hrest⟩
      obtain ⟨d, tail, rfl, _⟩ := exists_cons_of_isName hname
      obtain ⟨hd, htail⟩ := isName_cons_iff.1 hname
      rw [List.cons_append] at hcs
      obtain ⟨rfl, rfl⟩ := List.cons.inj hcs
      obtain ⟨htake, hdrop⟩ := takeWhile_dropWhile_of_run htail hrest
      rw [if_pos hd, htake, hdrop]

/-! ## The parts of a line -/

theorem isBlank_equals : isBlank '=' = false := by decide

theorem equals_not_mem_pieces {lead name gap : List Char} (hlead : AllBlank lead)
    (hname : isName name = true) (hgap : AllBlank gap) : '=' ∉ lead ++ (name ++ gap) := by
  intro hmem
  rcases List.mem_append.1 hmem with hmem | hmem
  · exact hlead.not_mem isBlank_equals hmem
  · rcases List.mem_append.1 hmem with hmem | hmem
    · have hchar := isNameChar_of_mem hname hmem
      revert hchar
      decide
    · exact hgap.not_mem isBlank_equals hmem

theorem endsName_gap {gap : List Char} (hgap : AllBlank gap) {c : Char} (hc : isNameChar c = false)
    (tail : List Char) : EndsName (gap ++ c :: tail) := by
  cases gap with
  | nil =>
    intro d hd
    cases hd
    exact hc
  | cons g gap =>
    intro d hd
    cases hd
    exact isNameChar_eq_false_of_isBlank (hgap g List.mem_cons_self)

/-- A line splits at its first equals sign if a name with blanks around it stands to the left. -/
theorem splitAssignment?_eq_some_iff {cs name tail : List Char} :
    splitAssignment? cs = some (name, tail) ↔
      ∃ lead gap, AllBlank lead ∧ isName name = true ∧ AllBlank gap ∧
        cs = lead ++ (name ++ (gap ++ '=' :: tail)) := by
  constructor
  · intro h
    unfold splitAssignment? at h
    split at h
    · cases h
    · next name' rest htake =>
      obtain ⟨hname, hcs, _⟩ := takeName?_eq_some_iff.1 htake
      split at h
      · next tail' hrest =>
        cases h
        refine ⟨cs.takeWhile isBlank, rest.takeWhile isBlank, allBlank_takeWhile cs, hname,
          allBlank_takeWhile rest, ?_⟩
        rw [← hrest, takeWhile_append_trimStart, ← hcs, takeWhile_append_trimStart]
      · cases h
  · rintro ⟨lead, gap, hlead, hname, hgap, rfl⟩
    obtain ⟨c, rest, hcons, hc⟩ := exists_cons_of_isName hname
    have hstart : trimStart (lead ++ (name ++ (gap ++ '=' :: tail))) =
        name ++ (gap ++ '=' :: tail) := by
      rw [trimStart_append hlead, hcons]
      exact trimStart_cons hc _
    have htake : takeName? (name ++ (gap ++ '=' :: tail)) = some (name, gap ++ '=' :: tail) :=
      takeName?_eq_some_iff.2 ⟨hname, rfl, endsName_gap hgap (by decide) tail⟩
    have hgap' : trimStart (gap ++ '=' :: tail) = '=' :: tail := by
      rw [trimStart_append hgap, trimStart_cons isBlank_equals]
    rw [splitAssignment?, hstart, htake]
    dsimp only
    rw [hgap']
    rfl

/-- After the name and blanks there has to come an equals sign. -/
theorem splitAssignment?_ne_of_head {lead name gap more : List Char} {c : Char}
    (hlead : AllBlank lead) (hname : isName name = true) (hgap : AllBlank gap)
    (hc : isBlank c = false) (hne : c ≠ '=') (tail : List Char) :
    splitAssignment? (lead ++ (name ++ (gap ++ c :: more))) ≠ some (name, tail) := by
  intro h
  obtain ⟨lead', gap', hlead', _, hgap', heq⟩ := splitAssignment?_eq_some_iff.1 h
  obtain ⟨d, rest, rfl, hd⟩ := exists_cons_of_isName hname
  have hstart := congrArg trimStart heq
  rw [trimStart_append hlead, trimStart_append hlead', List.cons_append, List.cons_append,
    trimStart_cons hd, trimStart_cons hd] at hstart
  have hgaps := congrArg trimStart (List.append_cancel_left (List.cons.inj hstart).2)
  rw [trimStart_append hgap, trimStart_append hgap', trimStart_cons hc,
    trimStart_cons isBlank_equals] at hgaps
  exact hne (List.cons.inj hgaps).1

end InputDeck.Statement
