import InputDeck.Proofs.Text.LetterCase
import Mathlib.Data.List.Forall2

/-!
# Words up to case

The names that are looked for without regard to case are written in ASCII. Simple case folding
brings three characters to such a letter at most, the letter itself in both cases and, for two of
them, one from outside ASCII: `FoldsTo`. A word found by folding is one that is made of these.
-/

namespace InputDeck.Text

/-- The character folds to what the second one, an ASCII character, folds to: the two differ in case
at most, or it is the long s or the Kelvin sign. -/
inductive FoldsTo : Char → Char → Prop where
  | case {c d : Char} (h : c.toLower = d.toLower) : FoldsTo c d
  | longS {d : Char} (h : d.toLower = 's') : FoldsTo '\u017f' d
  | kelvin {d : Char} (h : d.toLower = 'k') : FoldsTo '\u212a' d

def SameWord (w name : List Char) : Prop :=
  List.Forall₂ FoldsTo w name

theorem foldLetter_of_lt {d : Char} (hd : d.toNat < 128) : foldLetter d = d.toLower := by
  have hs : d ≠ '\u017f' := by
    rintro rfl
    exact absurd hd (by decide)
  have hk : d ≠ '\u212a' := by
    rintro rfl
    exact absurd hd (by decide)
  rw [foldLetter, if_neg (by simpa using hs), if_neg (by simpa using hk)]

theorem foldLetter_eq_iff {c d : Char} (hd : d.toNat < 128) :
    foldLetter d = foldLetter c ↔ FoldsTo c d := by
  rw [foldLetter_of_lt hd]
  constructor
  · intro h
    rw [foldLetter] at h
    split at h
    · next hc =>
      rw [eq_of_beq hc]
      exact .longS h
    · split at h
      · next hc =>
        rw [eq_of_beq hc]
        exact .kelvin h
      · exact .case h.symm
  · intro h
    cases h with
    | longS h => exact h
    | kelvin h => exact h
    | case h =>
      rw [← h, ← foldLetter_toLower, h, foldLetter_toLower, foldLetter_of_lt hd]

theorem afterFolded?_eq_some_iff {word cs rest : List Char} (hword : ∀ d ∈ word, d.toNat < 128) :
    afterFolded? word cs = some rest ↔ ∃ w, SameWord w word ∧ cs = w ++ rest := by
  induction word generalizing cs with
  | nil =>
    rw [afterFolded?]
    constructor
    · intro h
      exact ⟨[], .nil, Option.some.inj h⟩
    · rintro ⟨w, hw, rfl⟩
      cases hw
      rfl
  | cons d word ih =>
    obtain ⟨hd, hword⟩ := List.forall_mem_cons.1 hword
    cases cs with
    | nil =>
      rw [afterFolded?]
      constructor
      · intro h
        cases h
      · rintro ⟨w, hw, heq⟩
        cases hw
        cases heq
    | cons c cs =>
      rw [afterFolded?, Option.ite_none_right_eq_some, beq_iff_eq, foldLetter_eq_iff hd, ih hword]
      constructor
      · rintro ⟨hc, w, hw, rfl⟩
        exact ⟨c :: w, .cons hc hw, rfl⟩
      · rintro ⟨w, hw, heq⟩
        cases hw with
        | cons hc hw =>
          obtain ⟨rfl, rfl⟩ := List.cons.inj heq
          exact ⟨hc, _, hw, rfl⟩

end InputDeck.Text
