import InputDeck.Text.Blank

/-!
# Trimming

What trimming takes away are blanks, and what it leaves has none at its ends. `AllBlank` says that a
piece of text consists of blanks; most statements take a text apart into such pieces and others.
-/

namespace InputDeck.Text

/-- A run of characters of one class ends in front of the first character that is none of them. -/
theorem takeWhile_dropWhile_of_run {p : Char → Bool} {run rest : List Char}
    (hrun : ∀ c ∈ run, p c = true) (hrest : ∀ c ∈ rest.head?, p c = false) :
    (run ++ rest).takeWhile p = run ∧ (run ++ rest).dropWhile p = rest := by
  induction run with
  | nil =>
    cases rest with
    | nil => exact ⟨rfl, rfl⟩
    | cons c rest =>
      have hc : p c = false := hrest c rfl
      simp [hc]
  | cons c run ih =>
    have hc : p c = true := hrun c List.mem_cons_self
    obtain ⟨htake, hdrop⟩ := ih fun d hd => hrun d (List.mem_cons_of_mem c hd)
    simp [hc, htake, hdrop]

theorem head?_dropWhile_eq_false {p : Char → Bool} {cs : List Char} {c : Char}
    (h : c ∈ (cs.dropWhile p).head?) : p c = false := by
  have hnot := List.head?_dropWhile_not p cs
  rw [h] at hnot
  simpa using hnot

def AllBlank (cs : List Char) : Prop :=
  ∀ c ∈ cs, isBlank c = true

theorem allBlank_nil : AllBlank [] := fun _ h => by cases h

theorem AllBlank.append {v w : List Char} (hv : AllBlank v) (hw : AllBlank w) :
    AllBlank (v ++ w) := by
  intro c hc
  rcases List.mem_append.1 hc with hc | hc
  · exact hv c hc
  · exact hw c hc

theorem AllBlank.not_mem {w : List Char} (h : AllBlank w) {c : Char} (hc : isBlank c = false) :
    c ∉ w := by
  intro hmem
  rw [h c hmem] at hc
  cases hc

theorem allBlank_takeWhile (cs : List Char) : AllBlank (cs.takeWhile isBlank) := by
  induction cs with
  | nil => exact allBlank_nil
  | cons c cs ih =>
    intro d hd
    rw [List.takeWhile_cons] at hd
    split at hd
    · next hc =>
      rcases List.mem_cons.1 hd with rfl | hd
      · exact hc
      · exact ih d hd
    · cases hd

/-! ## At the start -/

theorem takeWhile_append_trimStart (cs : List Char) :
    cs.takeWhile isBlank ++ trimStart cs = cs :=
  List.takeWhile_append_dropWhile

theorem trimStart_append {w : List Char} (hw : AllBlank w) (cs : List Char) :
    trimStart (w ++ cs) = trimStart cs := by
  induction w with
  | nil => rfl
  | cons c w ih =>
    have hc : isBlank c = true := hw c List.mem_cons_self
    rw [List.cons_append, trimStart, List.dropWhile_cons_of_pos hc]
    exact ih fun d hd => hw d (List.mem_cons_of_mem c hd)

theorem trimStart_cons {c : Char} (hc : isBlank c = false) (cs : List Char) :
    trimStart (c :: cs) = c :: cs :=
  List.dropWhile_cons_of_neg (by simp [hc])

theorem trimStart_eq_nil_iff {cs : List Char} : trimStart cs = [] ↔ AllBlank cs := by
  constructor
  · intro h
    rw [← takeWhile_append_trimStart cs, h, List.append_nil]
    exact allBlank_takeWhile cs
  · intro h
    rw [← List.append_nil cs, trimStart_append h]
    rfl

theorem isBlank_of_trimStart_eq_cons {cs rest : List Char} {c : Char}
    (h : trimStart cs = c :: rest) : isBlank c = false := by
  induction cs with
  | nil => cases h
  | cons d cs ih =>
    by_cases hd : isBlank d = true
    · rw [trimStart, List.dropWhile_cons_of_pos hd] at h
      exact ih h
    · have hd' : isBlank d = false := by simpa using hd
      rw [trimStart_cons hd'] at h
      cases h
      exact hd'

/-- What comes first after blanks. -/
theorem trimStart_eq_cons_iff {c : Char} (hc : isBlank c = false) {cs rest : List Char} :
    trimStart cs = c :: rest ↔ ∃ s, AllBlank s ∧ cs = s ++ c :: rest := by
  constructor
  · intro h
    refine ⟨cs.takeWhile isBlank, allBlank_takeWhile cs, ?_⟩
    rw [← h, takeWhile_append_trimStart]
  · rintro ⟨s, hs, rfl⟩
    rw [trimStart_append hs, trimStart_cons hc]

theorem trimStart_trimStart (cs : List Char) : trimStart (trimStart cs) = trimStart cs := by
  cases h : trimStart cs with
  | nil => rfl
  | cons c rest => rw [trimStart_cons (isBlank_of_trimStart_eq_cons h)]

/-! ## At the end -/

theorem trimEnd_append_takeWhile (cs : List Char) :
    trimEnd cs ++ (cs.reverse.takeWhile isBlank).reverse = cs := by
  have h := congrArg List.reverse (takeWhile_append_trimStart cs.reverse)
  rw [List.reverse_append, List.reverse_reverse] at h
  exact h

theorem allBlank_reverse {w : List Char} (hw : AllBlank w) : AllBlank w.reverse :=
  fun c hc => hw c (List.mem_reverse.1 hc)

/-- Trimming the end cuts a run of blanks off. -/
theorem exists_trimEnd_append (cs : List Char) : ∃ w, AllBlank w ∧ trimEnd cs ++ w = cs :=
  ⟨_, allBlank_reverse (allBlank_takeWhile cs.reverse), trimEnd_append_takeWhile cs⟩

theorem trimEnd_append {w : List Char} (hw : AllBlank w) (cs : List Char) :
    trimEnd (cs ++ w) = trimEnd cs := by
  have h := trimStart_append (allBlank_reverse hw) cs.reverse
  rw [trimEnd, List.reverse_append]
  exact congrArg List.reverse h

theorem trimEnd_trimEnd (cs : List Char) : trimEnd (trimEnd cs) = trimEnd cs := by
  rw [trimEnd, trimEnd, List.reverse_reverse]
  exact congrArg List.reverse (trimStart_trimStart cs.reverse)

/-! ## At both ends -/

def Tight (cs : List Char) : Prop :=
  cs ≠ [] ∧ trim cs = cs

theorem Tight.trimStart_eq {cs : List Char} (h : Tight cs) : trimStart cs = cs := by
  have hpieces := takeWhile_append_trimStart cs
  obtain ⟨w, _, hw⟩ := exists_trimEnd_append (trimStart cs)
  have hlen : cs.length = (cs.takeWhile isBlank).length + (trimStart cs).length := by
    rw [← List.length_append, hpieces]
  have hlen' : (trimStart cs).length = cs.length + w.length := by
    rw [← hw, List.length_append]
    exact congrArg (·.length + w.length) h.2
  have hnil : cs.takeWhile isBlank = [] := List.eq_nil_of_length_eq_zero (by omega)
  rw [hnil] at hpieces
  exact hpieces

theorem Tight.trimEnd_eq {cs : List Char} (h : Tight cs) : trimEnd cs = cs := by
  have htrim := h.2
  rwa [trim, h.trimStart_eq] at htrim

theorem Tight.eq_nil_of_append {v w : List Char} (h : Tight (v ++ w)) (hw : AllBlank w) :
    w = [] := by
  have htrim : trimEnd v = v ++ w := by
    rw [← trimEnd_append hw, h.trimEnd_eq]
  obtain ⟨u, _, hu⟩ := exists_trimEnd_append v
  have hlength := congrArg List.length hu
  rw [htrim] at hlength
  simp only [List.length_append] at hlength
  exact List.eq_nil_of_length_eq_zero (by omega)

theorem Tight.exists_cons {cs : List Char} (h : Tight cs) :
    ∃ c rest, cs = c :: rest ∧ isBlank c = false := by
  cases hcs : cs with
  | nil => exact absurd hcs h.1
  | cons c rest => exact ⟨c, rest, rfl, isBlank_of_trimStart_eq_cons (h.trimStart_eq.trans hcs)⟩

theorem trimStart_append_of_tight {v : List Char} (hv : Tight v) (cs : List Char) :
    trimStart (v ++ cs) = v ++ cs := by
  obtain ⟨c, rest, rfl, hc⟩ := hv.exists_cons
  exact trimStart_cons hc (rest ++ cs)

theorem trim_append_of_tight {v w : List Char} (hv : Tight v) (hw : AllBlank w) :
    trim (v ++ w) = v := by
  rw [trim, trimStart_append_of_tight hv, trimEnd_append hw, hv.trimEnd_eq]

theorem trim_append_left {w : List Char} (hw : AllBlank w) (cs : List Char) :
    trim (w ++ cs) = trim cs := by
  rw [trim, trim, trimStart_append hw]

theorem trim_append_right {w : List Char} (hw : AllBlank w) (cs : List Char) :
    trim (cs ++ w) = trim cs := by
  cases h : trimStart cs with
  | nil =>
    have hblank := trimStart_eq_nil_iff.1 h
    rw [trim, trim, h, trimStart_append hblank, trimStart_eq_nil_iff.2 hw]
  | cons c rest =>
    have hstart : trimStart (cs ++ w) = c :: rest ++ w := by
      rw [← takeWhile_append_trimStart cs, h, List.append_assoc,
        trimStart_append (allBlank_takeWhile cs)]
      exact trimStart_cons (isBlank_of_trimStart_eq_cons h) (rest ++ w)
    rw [trim, trim, hstart, h, trimEnd_append hw]

theorem mem_of_mem_trim {cs : List Char} {c : Char} (h : c ∈ trim cs) : c ∈ cs := by
  obtain ⟨w, _, hw⟩ := exists_trimEnd_append (trimStart cs)
  have hstart : c ∈ trimStart cs := by
    rw [← hw]
    exact List.mem_append_left w h
  rw [← takeWhile_append_trimStart cs]
  exact List.mem_append_right _ hstart

theorem trim_trim (cs : List Char) : trim (trim cs) = trim cs := by
  cases h : trim cs with
  | nil => rfl
  | cons c rest =>
    obtain ⟨w, _, hw⟩ := exists_trimEnd_append (trimStart cs)
    have hstart : trimStart cs = c :: (rest ++ w) := by
      rw [← hw]
      exact congrArg (· ++ w) h
    rw [trim, trimStart_cons (isBlank_of_trimStart_eq_cons hstart), ← h, trim, trimEnd_trimEnd]

theorem trim_eq_nil_iff {cs : List Char} : trim cs = [] ↔ AllBlank cs := by
  obtain ⟨w, hw, heq⟩ := exists_trimEnd_append (trimStart cs)
  constructor
  · intro h
    rw [← takeWhile_append_trimStart cs, ← heq]
    change AllBlank (_ ++ (trim cs ++ w))
    rw [h]
    exact (allBlank_takeWhile cs).append hw
  · intro h
    rw [trim, trimStart_eq_nil_iff.2 h]
    rfl

/-- Trimming the end does not reach the first character that is no blank. -/
theorem head?_trim (cs : List Char) : (trim cs).head? = (trimStart cs).head? := by
  cases h : trimStart cs with
  | nil =>
    rw [trim, h]
    rfl
  | cons c rest =>
    obtain ⟨w, hw, hpieces⟩ := exists_trimEnd_append (c :: rest)
    rw [trim, h]
    cases htrim : trimEnd (c :: rest) with
    | nil =>
      rw [htrim, List.nil_append] at hpieces
      have hblank : isBlank c = true := hw c (hpieces ▸ List.mem_cons_self)
      rw [isBlank_of_trimStart_eq_cons h] at hblank
      cases hblank
    | cons d more =>
      rw [htrim, List.cons_append] at hpieces
      rw [(List.cons.inj hpieces).1, List.head?_cons, List.head?_cons]

/-! ## Words -/

theorem nonblank_of_mem_words {cs word : List Char} (h : word ∈ words cs) :
    word ≠ [] ∧ ∀ c ∈ word, isBlank c = false := by
  fun_induction words cs generalizing word with
  | case1 => cases h
  | case2 c hc => cases h
  | case3 c hc =>
    rw [List.mem_singleton.1 h]
    exact ⟨List.cons_ne_nil _ _, by simpa using hc⟩
  | case4 c d cs hc ih => exact ih h
  | case5 c d cs hc hd ih =>
    rcases List.mem_cons.1 h with rfl | h
    · exact ⟨List.cons_ne_nil _ _, by simpa using hc⟩
    · exact ih h
  | case6 c d cs hc hd ih =>
    cases hwords : words (d :: cs) with
    | nil =>
      rw [hwords] at h
      rw [List.mem_singleton.1 h]
      exact ⟨List.cons_ne_nil _ _, by simpa using hc⟩
    | cons first rest =>
      rw [hwords] at h ih
      rcases List.mem_cons.1 h with rfl | h
      · have hfirst := (ih List.mem_cons_self).2
        refine ⟨List.cons_ne_nil _ _, ?_⟩
        intro e he
        rcases List.mem_cons.1 he with rfl | he
        · simpa using hc
        · exact hfirst e he
      · exact ih (List.mem_cons_of_mem first h)

end InputDeck.Text
