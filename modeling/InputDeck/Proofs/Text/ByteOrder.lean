import InputDeck.Dictionary

/-!
# The order of texts is that of their bytes

Dictionaries compare texts by code points. UTF-8 was made so that comparing the encoded bytes comes
to the same: of two characters with equally many bytes the larger one is larger in the first byte
that differs, and otherwise the one with more bytes has the larger first byte.
-/

namespace InputDeck.Text

def BytesLess : List UInt8 → List UInt8 → Prop :=
  List.Lex fun x y => x.toNat < y.toNat

/-- A text comes before another one in the order of their UTF-8 bytes. -/
def ByteLess (a b : String) : Prop :=
  BytesLess a.toUTF8.data.toList b.toUTF8.data.toList

theorem BytesLess.asymm {xs ys : List UInt8} (h : BytesLess xs ys) : ¬ BytesLess ys xs := by
  induction h with
  | nil =>
    intro hback
    cases hback
  | rel hlt =>
    intro hback
    cases hback with
    | rel hgt => omega
    | cons _ => omega
  | cons _ ih =>
    intro hback
    cases hback with
    | rel hlt => omega
    | cons hback => exact ih hback

theorem BytesLess.append_left {xs ys : List UInt8} (h : BytesLess xs ys) (front : List UInt8) :
    BytesLess (front ++ xs) (front ++ ys) := by
  induction front with
  | nil => exact h
  | cons x front ih => exact List.Lex.cons ih

theorem bytesLess_cons_of_lt {m n : Nat} (h : m < n) (hn : n < 256) (xs ys : List UInt8) :
    BytesLess (UInt8.ofNat m :: xs) (UInt8.ofNat n :: ys) := by
  have hm : m < 256 := by omega
  apply List.Lex.rel
  rw [UInt8.toNat_ofNat_of_lt' hm, UInt8.toNat_ofNat_of_lt' hn]
  exact h

/-! ## One character -/

def encodeWith (mark : Nat) : Nat → Nat → List UInt8
  | 0, n => [UInt8.ofNat (n + mark)]
  | k + 1, n => encodeWith mark k (n / 64) ++ [UInt8.ofNat (n % 64 + 128)]

def leadingDigit : Nat → Nat → Nat
  | 0, n => n
  | k + 1, n => leadingDigit k (n / 64)

theorem encodeWith_eq_cons (mark k n : Nat) :
    ∃ rest, encodeWith mark k n = UInt8.ofNat (leadingDigit k n + mark) :: rest := by
  induction k generalizing n with
  | zero => exact ⟨[], rfl⟩
  | succ k ih =>
    obtain ⟨rest, hrest⟩ := ih (n / 64)
    exact ⟨rest ++ [UInt8.ofNat (n % 64 + 128)], congrArg (· ++ _) hrest⟩

theorem bytesLess_encodeWith {mark k m n : Nat} (h : m < n) (hn : leadingDigit k n + mark < 256)
    (xs ys : List UInt8) : BytesLess (encodeWith mark k m ++ xs) (encodeWith mark k n ++ ys) := by
  induction k generalizing m n xs ys with
  | zero => exact bytesLess_cons_of_lt (Nat.add_lt_add_right h mark) hn xs ys
  | succ k ih =>
    rw [encodeWith, encodeWith, List.append_assoc, List.append_assoc]
    rcases Nat.lt_or_ge (m / 64) (n / 64) with hlt | hge
    · exact ih hlt hn _ _
    · have hsame : m / 64 = n / 64 := by omega
      have hlast : m % 64 + 128 < n % 64 + 128 := by omega
      rw [hsame]
      exact (bytesLess_cons_of_lt hlast (by omega) xs ys).append_left _

def sizeMark : Nat → Nat
  | 0 => 0
  | 1 => 192
  | 2 => 224
  | _ => 240

def HasSize : Nat → Nat → Prop
  | 0, n => n ≤ 127
  | 1, n => 127 < n ∧ n ≤ 2047
  | 2, n => 2047 < n ∧ n ≤ 65535
  | 3, n => 65535 < n ∧ n < 1114112
  | _, _ => False

theorem HasSize.leadingDigit_lt {k n : Nat} (h : HasSize k n) :
    leadingDigit k n + sizeMark k < 256 := by
  match k, h with
  | 0, h | 1, h | 2, h | 3, h =>
    simp only [HasSize] at h
    simp only [leadingDigit, sizeMark]
    omega

/-- The character with more bytes has the larger first byte. -/
theorem HasSize.leadingDigit_lt_of_ne {j k m n : Nat} (hm : HasSize j m) (hn : HasSize k n)
    (hlt : m < n) (hne : j ≠ k) :
    leadingDigit j m + sizeMark j < leadingDigit k n + sizeMark k := by
  match j, k, hm, hn with
  | 0, 1, hm, hn | 0, 2, hm, hn | 0, 3, hm, hn | 1, 2, hm, hn | 1, 3, hm, hn | 2, 3, hm, hn =>
    simp only [HasSize] at hm hn
    simp only [leadingDigit, sizeMark]
    omega
  | 1, 0, hm, hn | 2, 0, hm, hn | 3, 0, hm, hn | 2, 1, hm, hn | 3, 1, hm, hn | 3, 2, hm, hn =>
    simp only [HasSize] at hm hn
    omega
  | 0, 0, _, _ | 1, 1, _, _ | 2, 2, _, _ | 3, 3, _, _ => exact absurd rfl hne

theorem exists_encodeWith (c : Char) :
    ∃ k, HasSize k c.toNat ∧ String.utf8EncodeChar c = encodeWith (sizeMark k) k c.toNat := by
  have hencode : String.utf8EncodeChar c =
      if c.toNat ≤ 127 then [UInt8.ofNat c.toNat]
      else if c.toNat ≤ 2047 then
        [UInt8.ofNat (c.toNat / 64 % 32 + 192), UInt8.ofNat (c.toNat % 64 + 128)]
      else if c.toNat ≤ 65535 then
        [UInt8.ofNat (c.toNat / 4096 % 16 + 224), UInt8.ofNat (c.toNat / 64 % 64 + 128),
          UInt8.ofNat (c.toNat % 64 + 128)]
      else
        [UInt8.ofNat (c.toNat / 262144 % 8 + 240), UInt8.ofNat (c.toNat / 4096 % 64 + 128),
          UInt8.ofNat (c.toNat / 64 % 64 + 128), UInt8.ofNat (c.toNat % 64 + 128)] := rfl
  have hbound : c.toNat < 1114112 := by
    rcases c.valid with hlow | hhigh
    · exact Nat.lt_trans hlow (by decide)
    · exact hhigh.2
  rw [hencode]
  by_cases h1 : c.toNat ≤ 127
  · exact ⟨0, h1, if_pos h1⟩
  · by_cases h2 : c.toNat ≤ 2047
    · refine ⟨1, ⟨by omega, h2⟩, ?_⟩
      have hlead : c.toNat / 64 % 32 = c.toNat / 64 := by omega
      rw [if_neg h1, if_pos h2, hlead]
      rfl
    · by_cases h3 : c.toNat ≤ 65535
      · refine ⟨2, ⟨by omega, h3⟩, ?_⟩
        have hlead : c.toNat / 4096 % 16 = c.toNat / 64 / 64 := by omega
        rw [if_neg h1, if_neg h2, if_pos h3, hlead]
        rfl
      · refine ⟨3, ⟨by omega, hbound⟩, ?_⟩
        have hlead : c.toNat / 262144 % 8 = c.toNat / 64 / 64 / 64 := by omega
        have hnext : c.toNat / 4096 % 64 = c.toNat / 64 / 64 % 64 := by omega
        rw [if_neg h1, if_neg h2, if_neg h3, hlead, hnext]
        rfl

theorem bytesLess_utf8EncodeChar {c d : Char} (h : c < d) (xs ys : List UInt8) :
    BytesLess (String.utf8EncodeChar c ++ xs) (String.utf8EncodeChar d ++ ys) := by
  have hlt : c.toNat < d.toNat := h
  obtain ⟨j, hc, ec⟩ := exists_encodeWith c
  obtain ⟨k, hd, ed⟩ := exists_encodeWith d
  rw [ec, ed]
  by_cases hsize : j = k
  · subst hsize
    exact bytesLess_encodeWith hlt hd.leadingDigit_lt xs ys
  · obtain ⟨cs, hcs⟩ := encodeWith_eq_cons (sizeMark j) j c.toNat
    obtain ⟨ds, hds⟩ := encodeWith_eq_cons (sizeMark k) k d.toNat
    rw [hcs, hds]
    exact bytesLess_cons_of_lt (hc.leadingDigit_lt_of_ne hd hlt hsize) hd.leadingDigit_lt _ _

/-! ## Texts -/

theorem toUTF8_eq_flatMap (s : String) :
    s.toUTF8.data.toList = s.toList.flatMap String.utf8EncodeChar := by
  have hbytes : (String.ofList s.toList).toByteArray = s.toList.utf8Encode :=
    String.toByteArray_ofList
  rw [String.ofList_toList] at hbytes
  rw [String.toUTF8_eq_toByteArray, hbytes]
  exact List.toList_data_toByteArray

theorem bytesLess_flatMap {cs ds : List Char} (h : List.Lex (· < ·) cs ds) :
    BytesLess (cs.flatMap String.utf8EncodeChar) (ds.flatMap String.utf8EncodeChar) := by
  induction h with
  | nil =>
    next d ds =>
    obtain ⟨k, _, hencode⟩ := exists_encodeWith d
    obtain ⟨rest, hrest⟩ := encodeWith_eq_cons (sizeMark k) k d.toNat
    rw [List.flatMap_cons, hencode, hrest]
    exact List.Lex.nil
  | rel hlt =>
    rw [List.flatMap_cons, List.flatMap_cons]
    exact bytesLess_utf8EncodeChar hlt _ _
  | cons _ ih =>
    rw [List.flatMap_cons, List.flatMap_cons]
    exact ih.append_left _

theorem byteLess_of_lt {a b : String} (h : a < b) : ByteLess a b := by
  rw [ByteLess, toUTF8_eq_flatMap, toUTF8_eq_flatMap]
  exact bytesLess_flatMap (String.lt_iff.1 h)

/-- Comparing texts by code points is comparing their bytes. -/
theorem lt_iff_byteLess {a b : String} : a < b ↔ ByteLess a b := by
  constructor
  · exact byteLess_of_lt
  · intro hless
    by_cases hlt : a < b
    · exact hlt
    · by_cases heq : a = b
      · subst heq
        exact absurd hless hless.asymm
      · exact absurd (byteLess_of_lt (lt_of_not_lt_of_ne hlt heq)) hless.asymm

end InputDeck.Text
