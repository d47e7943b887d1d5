import InputDeck.Text.Search
import InputDeck.Text.Units

/-!
# Columns

Searching for a text, cutting out what stands between two columns or putting another text there, and
counting columns in UTF-16 units and back.
-/

namespace InputDeck.Text

/-! ## Searching -/

theorem indexOf?_of_prefix {needle cs : List Char} (h : needle <+: cs) :
    indexOf? needle cs = some 0 := by
  cases cs with
  | nil =>
    rw [List.prefix_nil.1 h]
    rfl
  | cons c cs => rw [indexOf?, if_pos (List.isPrefixOf_iff_prefix.2 h)]

theorem indexOf?_cons_of_not_prefix {needle cs : List Char} {c : Char} (h : ¬ needle <+: c :: cs) :
    indexOf? needle (c :: cs) = (indexOf? needle cs).map (· + 1) := by
  rw [indexOf?, if_neg fun hp => h (List.isPrefixOf_iff_prefix.1 hp)]

/-- A search passes over characters that the text does not begin with. -/
theorem indexOf?_append {n : Char} {needle w : List Char} (hn : n ∉ w) (cs : List Char) :
    indexOf? (n :: needle) (w ++ cs) = (indexOf? (n :: needle) cs).map (w.length + ·) := by
  induction w with
  | nil => simp
  | cons c w ih =>
    have hne : ¬ (n :: needle) <+: c :: (w ++ cs) := fun hp =>
      hn (List.mem_cons.2 (Or.inl (List.cons_prefix_cons.1 hp).1))
    rw [List.cons_append, indexOf?_cons_of_not_prefix hne,
      ih fun hmem => hn (List.mem_cons_of_mem c hmem), Option.map_map]
    congr 1
    funext i
    simp only [Function.comp_apply, List.length_cons]
    omega

theorem length_le_of_indexOf? {needle cs : List Char} {k : Nat} (h : indexOf? needle cs = some k) :
    k + needle.length ≤ cs.length := by
  induction cs generalizing k with
  | nil =>
    rw [indexOf?, Option.ite_none_right_eq_some, List.isEmpty_iff] at h
    obtain ⟨rfl, hk⟩ := h
    cases hk
    exact Nat.le_refl 0
  | cons c cs ih =>
    by_cases hhere : needle <+: c :: cs
    · have hfound := indexOf?_of_prefix hhere
      rw [hfound] at h
      cases h
      rw [Nat.zero_add]
      exact hhere.length_le
    · have hpassed := indexOf?_cons_of_not_prefix hhere
      rw [hpassed] at h
      obtain ⟨j, hj, rfl⟩ := Option.map_eq_some_iff.1 h
      have hlength := ih hj
      rw [List.length_cons]
      omega

/-- What is found in a text is found in the same column when more text follows. -/
theorem indexOf?_append_right {needle cs : List Char} {k : Nat} (h : indexOf? needle cs = some k)
    (more : List Char) : indexOf? needle (cs ++ more) = some k := by
  induction cs generalizing k with
  | nil =>
    rw [indexOf?, Option.ite_none_right_eq_some, List.isEmpty_iff] at h
    obtain ⟨rfl, hk⟩ := h
    rw [← hk]
    exact indexOf?_of_prefix List.nil_prefix
  | cons c cs ih =>
    by_cases hhere : needle <+: c :: cs
    · have hfound := indexOf?_of_prefix hhere
      rw [← h, hfound]
      exact indexOf?_of_prefix (hhere.trans (List.prefix_append _ more))
    · have hpassed := indexOf?_cons_of_not_prefix hhere
      rw [hpassed] at h
      obtain ⟨j, hj, rfl⟩ := Option.map_eq_some_iff.1 h
      have hlength := length_le_of_indexOf? hj
      -- a hit right here would end before the text that follows, since there is one further right
      have hnot : ¬ needle <+: c :: (cs ++ more) := by
        intro hlong
        apply hhere
        refine List.prefix_of_prefix_length_le hlong (List.prefix_append (c :: cs) more) ?_
        rw [List.length_cons]
        omega
      have hstill := indexOf?_cons_of_not_prefix hnot
      rw [List.cons_append, hstill, ih hj]
      rfl

theorem indexFrom?_append_right {needle cs : List Char} {start k : Nat}
    (h : indexFrom? needle start cs = some k) (more : List Char) :
    indexFrom? needle start (cs ++ more) = some k := by
  rw [indexFrom?] at h ⊢
  obtain ⟨j, hj, rfl⟩ := Option.map_eq_some_iff.1 h
  rw [List.drop_append, indexOf?_append_right hj]
  rfl

/-! ## Cutting out -/

theorem extract_append {a b c : List Char} {start stop : Nat} (hstart : start = a.length)
    (hstop : stop = a.length + b.length) : (a ++ (b ++ c)).extract start stop = b := by
  subst hstart hstop
  rw [List.extract_eq_take_drop, List.drop_left, Nat.add_sub_cancel_left, List.take_left]

theorem take_append_extract (cs : List Char) {start stop : Nat} (h : start ≤ stop) :
    cs.take start ++ cs.extract start stop = cs.take stop := by
  rw [List.extract_eq_take_drop, ← List.take_add, Nat.add_sub_cancel' h]

/-! ## Replacing -/

def splice (cs : List Char) (start stop : Nat) (v : List Char) : List Char :=
  cs.take start ++ (v ++ cs.drop stop)

theorem splice_append {a b c v : List Char} {start stop : Nat} (hstart : start = a.length)
    (hstop : stop = a.length + b.length) : splice (a ++ (b ++ c)) start stop v = a ++ (v ++ c) := by
  subst hstart hstop
  rw [splice, List.take_left, ← List.drop_drop, List.drop_left, List.drop_left]

/-- Replacing inside the middle piece of a text. -/
theorem splice_middle (a b c v : List Char) {start stop : Nat} (h : start ≤ stop)
    (hstop : stop ≤ b.length) :
    splice (a ++ (b ++ c)) (a.length + start) (a.length + stop) v =
      a ++ (splice b start stop v ++ c) := by
  have htake : (a ++ (b ++ c)).take (a.length + start) = a ++ b.take start := by
    rw [List.take_length_add_append, List.take_append_of_le_length (by omega)]
  have hdrop : (a ++ (b ++ c)).drop (a.length + stop) = b.drop stop ++ c := by
    rw [List.drop_length_add_append, List.drop_append_of_le_length hstop]
  rw [splice, splice, htake, hdrop]
  simp only [List.append_assoc]

/-! ## UTF-16 units -/

theorem unitWidth_pos (c : Char) : 0 < unitWidth c := by
  rw [unitWidth]
  split <;> omega

theorem unitLength_append (cs more : List Char) :
    unitLength (cs ++ more) = unitLength cs + unitLength more := by
  induction cs with
  | nil => simp [unitLength]
  | cons c cs ih =>
    rw [List.cons_append, unitLength, unitLength, ih]
    omega

theorem charColumn_zero (cs : List Char) : charColumn cs 0 = 0 := by
  cases cs <;> rfl

theorem charColumn_cons (c : Char) (cs : List Char) {units : Nat} (h : 0 < units) :
    charColumn (c :: cs) units = charColumn cs (units - unitWidth c) + 1 := by
  cases units with
  | zero => omega
  | succ n => rfl

/-- Counting a column in units and back gives the column again, as far as the text goes. -/
theorem charColumn_unitColumn (cs : List Char) (column : Nat) :
    charColumn cs (unitColumn cs column) = min column cs.length := by
  induction cs generalizing column with
  | nil => simp [charColumn]
  | cons c cs ih =>
    cases column with
    | zero => simp [unitColumn, unitLength, charColumn_zero]
    | succ column =>
      have hunits : unitColumn (c :: cs) (column + 1) = unitWidth c + unitColumn cs column := rfl
      have hpos := unitWidth_pos c
      rw [hunits, charColumn_cons c cs (by omega), Nat.add_sub_cancel_left, ih, List.length_cons]
      omega

end InputDeck.Text
