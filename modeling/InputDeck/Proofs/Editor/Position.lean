import Mathlib.Order.Monotone.Basic
import InputDeck.Proofs.Editor.FixRange

/-!
# Columns in characters and in units

Characters are one or two units wide, so not every column in units is one in characters. Counting in
characters rounds up: a column in units goes to the first column in characters that is not left of
it, as far as there is one. `charColumn_le_iff` says so, and with it the two ways of counting are
exact inverses wherever they can be.
-/

namespace InputDeck

namespace Text

theorem unitWidth_eq_or (c : Char) :
    (c.toNat < 0x10000 ∧ unitWidth c = 1) ∨ (0x10000 ≤ c.toNat ∧ unitWidth c = 2) := by
  rw [unitWidth]
  split <;> omega

variable (cs : List Char)

theorem unitColumn_cons_succ (c : Char) (column : Nat) :
    unitColumn (c :: cs) (column + 1) = unitWidth c + unitColumn cs column := rfl

theorem unitColumn_of_length_le {column : Nat} (h : cs.length ≤ column) :
    unitColumn cs column = unitLength cs := by
  rw [unitColumn, List.take_of_length_le h]

variable {cs}

theorem unitColumn_succ {column : Nat} {c : Char} (h : cs[column]? = some c) :
    unitColumn cs (column + 1) = unitColumn cs column + unitWidth c := by
  obtain ⟨hlt, rfl⟩ := List.getElem?_eq_some_iff.1 h
  rw [unitColumn, unitColumn, List.take_succ_eq_append_getElem hlt, unitLength_append]
  rfl

variable (cs)

theorem unitColumn_mono : Monotone (unitColumn cs) := by
  apply monotone_nat_of_le_succ
  intro column
  by_cases h : column < cs.length
  · rw [unitColumn_succ (List.getElem?_eq_getElem h)]
    exact Nat.le_add_right _ _
  · rw [unitColumn_of_length_le cs (by omega), unitColumn_of_length_le cs (by omega)]

theorem unitColumn_le_unitLength (column : Nat) : unitColumn cs column ≤ unitLength cs := by
  calc unitColumn cs column ≤ unitColumn cs (max column cs.length) :=
        unitColumn_mono cs (Nat.le_max_left _ _)
    _ = unitLength cs := unitColumn_of_length_le cs (Nat.le_max_right _ _)

theorem charColumn_le_length (units : Nat) : charColumn cs units ≤ cs.length := by
  induction cs generalizing units with
  | nil => exact Nat.le_refl 0
  | cons c cs ih =>
    by_cases hunits : 0 < units
    · have htail := ih (units - unitWidth c)
      rw [charColumn_cons c cs hunits, List.length_cons]
      omega
    · rw [Nat.eq_zero_of_not_pos hunits, charColumn_zero]
      exact Nat.zero_le _

variable {cs}

/-- Counting in characters rounds up. -/
theorem charColumn_le_iff {column : Nat} (h : column < cs.length) (units : Nat) :
    charColumn cs units ≤ column ↔ units ≤ unitColumn cs column := by
  induction cs generalizing column units with
  | nil => cases h
  | cons c cs ih =>
    by_cases hunits : 0 < units
    · rw [charColumn_cons c cs hunits]
      cases column with
      | zero =>
        have hstart : unitColumn (c :: cs) 0 = 0 := rfl
        omega
      | succ column =>
        have htail := ih (Nat.lt_of_succ_lt_succ h) (units - unitWidth c)
        rw [unitColumn_cons_succ]
        omega
    · rw [Nat.eq_zero_of_not_pos hunits, charColumn_zero]
      simp only [Nat.zero_le]

/-- All columns behind one character and up to the next go to the next one. -/
theorem charColumn_eq_succ {column units : Nat} (h : column < cs.length)
    (hbehind : unitColumn cs column < units) (hup : units ≤ unitColumn cs (column + 1)) :
    charColumn cs units = column + 1 := by
  have hnot := charColumn_le_iff h units
  have hle : charColumn cs units ≤ column + 1 := by
    by_cases hnext : column + 1 < cs.length
    · exact (charColumn_le_iff hnext units).2 hup
    · have hlength := charColumn_le_length cs units
      omega
  omega

theorem charColumn_of_unitLength_le {units : Nat} (h : unitLength cs ≤ units) :
    charColumn cs units = cs.length := by
  have hle := charColumn_le_length cs units
  by_contra hne
  have hlt : charColumn cs units < cs.length := by omega
  have hunits := (charColumn_le_iff hlt units).1 (Nat.le_refl _)
  -- the character right of that column would have no width
  have hnext := unitColumn_succ (List.getElem?_eq_getElem hlt)
  have hpos := unitWidth_pos cs[charColumn cs units]
  have hend := unitColumn_le_unitLength cs (charColumn cs units + 1)
  omega

variable (cs)

theorem charColumn_mono : Monotone (charColumn cs) := by
  intro units more hle
  by_cases hlt : charColumn cs more < cs.length
  · have hmore := (charColumn_le_iff hlt more).1 (Nat.le_refl _)
    exact (charColumn_le_iff hlt units).2 (hle.trans hmore)
  · exact (charColumn_le_length cs units).trans (Nat.le_of_not_lt hlt)

/-- The column in units is between the two units of the character at a column. -/
structure SplitsPair (column units : Nat) : Prop where
  wide : ∃ c, cs[column]? = some c ∧ 0x10000 ≤ c.toNat
  between : units = unitColumn cs column + 1

variable {cs}

theorem SplitsPair.charColumn_eq {column units : Nat} (h : SplitsPair cs column units) :
    charColumn cs units = column + 1 := by
  obtain ⟨c, hc, hwide⟩ := h.wide
  obtain ⟨hlt, -⟩ := List.getElem?_eq_some_iff.1 hc
  have hbetween := h.between
  have hnext := unitColumn_succ hc
  have hwidth := unitWidth_eq_or c
  exact charColumn_eq_succ hlt (by omega) (by omega)

/-- Only columns that split a pair or lie past the end change when they are counted in characters
and back. -/
theorem unitColumn_charColumn {units : Nat} (hend : units ≤ unitLength cs)
    (hwhole : ∀ column, ¬ SplitsPair cs column units) :
    unitColumn cs (charColumn cs units) = units := by
  have hlength := charColumn_le_length cs units
  have hup : units ≤ unitColumn cs (charColumn cs units) := by
    by_cases hlt : charColumn cs units < cs.length
    · exact (charColumn_le_iff hlt units).1 (Nat.le_refl _)
    · rwa [unitColumn_of_length_le cs (Nat.le_of_not_lt hlt)]
  cases hcolumn : charColumn cs units with
  | zero =>
    rw [hcolumn] at hup
    exact (Nat.le_zero.1 hup).symm
  | succ column =>
    rw [hcolumn] at hup hlength
    have hc := List.getElem?_eq_getElem (Nat.lt_of_succ_le hlength)
    have hbehind := charColumn_le_iff (Nat.lt_of_succ_le hlength) units
    have hnext := unitColumn_succ hc
    rcases unitWidth_eq_or (cs[column]) with ⟨-, hwidth⟩ | ⟨hwide, hwidth⟩
    · omega
    · have hbetween : units ≠ unitColumn cs column + 1 := fun heq =>
        hwhole column ⟨⟨_, hc, hwide⟩, heq⟩
      omega

end Text

namespace Editor

open InputDeck.Text

theorem Position.fits_on {index : Nat} {line : String} (hindex : index < Json.halfWordLimit)
    (hlength : unitLength line.toList < Json.halfWordLimit) (column : Nat) :
    (Position.on index line column).Fits :=
  ⟨hindex, Nat.lt_of_le_of_lt (unitColumn_le_unitLength _ column) hlength⟩

/-- Counting in units and counting in characters fit together exactly: a column in characters comes
back as far as the line goes, neither way of counting turns the order of columns around, and a
column in units goes to the first one in characters that is not left of it. So one inside a pair
goes to the column behind that character, and one past the end to the end. Numbers of 32 bits
suffice to send every column of the line. -/
theorem columns_round_up {line : String} (hlength : unitLength line.toList < Json.halfWordLimit) :
    (∀ column, charColumn line.toList (unitColumn line.toList column) =
      min column line.toList.length) ∧
    Monotone (unitColumn line.toList) ∧ Monotone (charColumn line.toList) ∧
    (∀ column units, column < line.toList.length →
      (charColumn line.toList units ≤ column ↔ units ≤ unitColumn line.toList column)) ∧
    (∀ units, charColumn line.toList units ≤ line.toList.length) ∧
    (∀ column units, SplitsPair line.toList column units →
      charColumn line.toList units = column + 1) ∧
    (∀ units, unitLength line.toList ≤ units →
      charColumn line.toList units = line.toList.length) ∧
    ∀ index column, index < Json.halfWordLimit →
      Position.ofJson? (Position.on index line column).toJson =
        some ⟨index, unitColumn line.toList column⟩ := by
  refine ⟨charColumn_unitColumn _, unitColumn_mono _, charColumn_mono _, ?_,
    charColumn_le_length _, ?_, ?_, ?_⟩
  · intro column units h
    exact charColumn_le_iff h units
  · intro column units h
    exact h.charColumn_eq
  · intro units h
    exact charColumn_of_unitLength_le h
  · intro index column hindex
    exact Position.ofJson?_toJson (Position.fits_on hindex hlength column)

def labelLine : String := "Label = \"𝜋\" # x"

theorem columns_round_up_labelLine :
    unitLength labelLine.toList < Json.halfWordLimit ∧ labelLine.toList.length = 15 ∧
      unitColumn labelLine.toList 10 = 11 ∧
      charColumn labelLine.toList (unitColumn labelLine.toList 10) = min 10 15 ∧
      (charColumn labelLine.toList 10 ≤ 9 ↔ 10 ≤ unitColumn labelLine.toList 9) ∧
      SplitsPair labelLine.toList 9 10 ∧ charColumn labelLine.toList 10 = 10 ∧
      unitLength labelLine.toList ≤ 40 ∧ charColumn labelLine.toList 40 = 15 ∧
      Position.ofJson? (Position.on 7 labelLine 10).toJson = some ⟨7, 11⟩ := by
  have hlength : unitLength labelLine.toList < Json.halfWordLimit := by decide +kernel
  have hcount : labelLine.toList.length = 15 := by decide +kernel
  have hunits : unitColumn labelLine.toList 10 = 11 := by decide +kernel
  have hend : unitLength labelLine.toList ≤ 40 := by decide +kernel
  have hsplits : SplitsPair labelLine.toList 9 10 :=
    ⟨⟨'𝜋', by decide +kernel, by decide⟩, by decide +kernel⟩
  obtain ⟨hback, _, _, hround, _, hinside, hpast, hsent⟩ := columns_round_up hlength
  rw [hcount] at hback hround hpast
  have hposition := hsent 7 10 (by decide)
  rw [hunits] at hposition
  exact ⟨hlength, hcount, hunits, hback 10, hround 9 10 (by decide), hsplits,
    hinside 9 10 hsplits, hend, hpast 40 hend, hposition⟩

end Editor

end InputDeck
