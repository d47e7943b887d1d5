import InputDeck.Proofs.Statement.Layout
import InputDeck.Proofs.Text.LetterCase

/-!
# Letter case in assignments

Making the letters of a line small makes those of its name and its value small and leaves them where
they are. That is not plain from the definition, since the value is searched for as it is written.
But a value that is found at the equals sign, and not in its place, consists of what stands between
the two, and there are no letters there.
-/

namespace InputDeck.Statement

open InputDeck.Text

/-! ## Names and values -/

theorem isNameChar_toLower (c : Char) : isNameChar c.toLower = isNameChar c :=
  toLower_congr (f := isNameChar) (by decide) c

theorem isName_map_toLower (cs : List Char) : isName (cs.map Char.toLower) = isName cs := by
  cases cs with
  | nil => rfl
  | cons c cs =>
    rw [List.map_cons, isName, isName, isAlpha_toLower, all_map_toLower isNameChar_toLower]

theorem uncommented_map_toLower (cs : List Char) :
    uncommented (cs.map Char.toLower) = (uncommented cs).map Char.toLower :=
  takeWhile_map_toLower (fun c => congrArg not (toLower_beq (d := '#') (by decide) c)) cs

theorem takeName?_map_toLower (cs : List Char) :
    takeName? (cs.map Char.toLower) =
      (takeName? cs).map (Prod.map (List.map Char.toLower) (List.map Char.toLower)) := by
  cases cs with
  | nil => rfl
  | cons c cs =>
    rw [List.map_cons, takeName?, takeName?, isAlpha_toLower,
      takeWhile_map_toLower isNameChar_toLower,
      dropWhile_map_toLower isNameChar_toLower]
    split <;> rfl

theorem splitAssignment?_map_toLower (cs : List Char) :
    splitAssignment? (cs.map Char.toLower) =
      (splitAssignment? cs).map (Prod.map (List.map Char.toLower) (List.map Char.toLower)) := by
  rw [splitAssignment?, splitAssignment?, trimStart_map_toLower, takeName?_map_toLower]
  cases takeName? (trimStart cs) with
  | none => rfl
  | some pair =>
    obtain ⟨name, rest⟩ := pair
    simp only [Option.map_some, Prod.map, trimStart_map_toLower]
    cases trimStart rest with
    | nil => rfl
    | cons c tail =>
      by_cases hc : c = '='
      · rw [hc]
        rfl
      · have hlower : c.toLower ≠ '=' := mt (toLower_eq_iff (by decide) c).1 hc
        simp [hc, hlower]

theorem assignedText?_map_toLower (tail : List Char) :
    assignedText? (tail.map Char.toLower) = (assignedText? tail).map (List.map Char.toLower) := by
  rw [assignedText?, assignedText?, trimStart_map_toLower]
  cases trimStart tail with
  | nil =>
    have hlast : (tail.map Char.toLower).getLast?.any (· != '\n') =
        tail.getLast?.any (· != '\n') := by
      rw [List.getLast?_map, Option.any_map]
      congr 1
      funext c
      exact congrArg not (toLower_beq (by decide) c)
    simp only [List.map_nil, hlast]
    split <;> rfl
  | cons c rest =>
    simp only [List.map_cons]
    rw [← List.map_cons, contains_map_toLower (by decide)]
    split <;> rfl

theorem assigned?_map_toLower (cs : List Char) :
    assigned? (cs.map Char.toLower) =
      (assigned? cs).map (Prod.map (List.map Char.toLower) (List.map Char.toLower)) := by
  rw [assigned?, assigned?, splitAssignment?_map_toLower]
  cases splitAssignment? cs with
  | none => rfl
  | some pair =>
    obtain ⟨name, tail⟩ := pair
    simp only [Option.map_some, Prod.map, assignedText?_map_toLower, Option.map_map]
    congr 1
    funext text
    simp only [Function.comp_apply, uncommented_map_toLower, trim_map_toLower, Prod.map_apply]

/-! ## Where the value is found -/

theorem isAlpha_eq_false_of_isBlank {c : Char} (h : isBlank c = true) : c.isAlpha = false := by
  rw [Bool.eq_false_iff]
  intro halpha
  rw [isBlank_eq_false_of_isNameChar (isNameChar_of_isAlpha halpha)] at h
  cases h

theorem map_toLower_eq_self {w : List Char} (h : ∀ c ∈ w, c.toLower = c) : w.map Char.toLower = w :=
  (List.map_congr_left h).trans (List.map_id' w)

theorem map_toLower_of_allBlank {w : List Char} (h : AllBlank w) : w.map Char.toLower = w :=
  map_toLower_eq_self fun c hc => toLower_eq_self (isAlpha_eq_false_of_isBlank (h c hc))

theorem prefix_append_self_iff {p v r : List Char} : v <+: p ++ (v ++ r) ↔ v <+: p ++ v := by
  have hshort : p ++ v <+: p ++ (v ++ r) := by
    rw [← List.append_assoc]
    exact List.prefix_append _ r
  constructor
  · intro h
    exact List.prefix_of_prefix_length_le h hshort (by simp)
  · intro h
    exact h.trans hshort

/-- A text that stands again a few characters further left is made of these characters. -/
theorem mem_of_prefix_append {p v : List Char} (hp : p ≠ []) (h : v <+: p ++ v) {c : Char}
    (hc : c ∈ v) : c ∈ p := by
  have hpos := List.length_pos_iff.2 hp
  induction hn : v.length using Nat.strongRecOn generalizing v with
  | ind n ih =>
    by_cases hlength : v.length ≤ p.length
    · exact (List.prefix_of_prefix_length_le h (List.prefix_append p v) hlength).subset hc
    · obtain ⟨u, rfl⟩ := List.prefix_of_prefix_length_le (List.prefix_append p v) h (by omega)
      rw [List.prefix_append_right_inj] at h
      rw [List.length_append] at hn
      rcases List.mem_append.1 hc with hc | hc
      · exact hc
      · exact ih u.length (by omega) h hc rfl

/-- Such a text has no letters if there are none among these characters. -/
theorem map_toLower_of_repeats {p v : List Char} (hne : p ≠ []) (hp : ∀ c ∈ p, c.isAlpha = false)
    (h : v.map Char.toLower <+: p ++ v.map Char.toLower) : v.map Char.toLower = v := by
  apply map_toLower_eq_self
  intro c hc
  apply toLower_eq_self
  rw [← isAlpha_toLower]
  exact hp _ (mem_of_prefix_append hne h (List.mem_map_of_mem hc))

namespace Layout

def toLower (l : Layout) : Layout :=
  { l with
    name := l.name.map Char.toLower
    value := l.value.map Char.toLower
    comment := l.comment.map Char.toLower
    isName_name := by rw [isName_map_toLower, l.isName_name]
    trim_value := by rw [trim_map_toLower, l.trim_value]
    value_uncommented := mt (mem_map_toLower_iff (by decide)).1 l.value_uncommented
    comment_head := by
      intro c hc
      rw [List.head?_map] at hc
      obtain ⟨d, hd, rfl⟩ := Option.map_eq_some_iff.1 hc
      rw [l.comment_head d hd]
      rfl
    tail_ne_nil := by
      intro h
      apply l.tail_ne_nil
      simpa using h }

theorem tail_toLower (l : Layout) : l.toLower.tail = l.tail.map Char.toLower := by
  simp only [tail, toLower, List.map_append, map_toLower_of_allBlank l.pad_blank,
    map_toLower_of_allBlank l.fill_blank]

theorem text_toLower (l : Layout) : l.toLower.text = l.text.map Char.toLower := by
  rw [text, text, tail_toLower]
  simp only [toLower, List.map_append, List.map_cons, map_toLower_of_allBlank l.lead_blank,
    map_toLower_of_allBlank l.gap_blank]
  rfl

theorem clear_iff (l : Layout) : l.Clear ↔ ¬ l.value <+: ('=' :: l.pad) ++ l.value :=
  not_congr (prefix_append_self_iff (p := '=' :: l.pad) (r := l.fill ++ l.comment))

/-- Whether a value stands at the equals sign does not depend on case, since it can stand there only
if it has no letters. -/
theorem clear_toLower_iff (l : Layout) : l.toLower.Clear ↔ l.Clear := by
  have hletters : ∀ c ∈ '=' :: l.pad, c.isAlpha = false := by
    intro c hc
    rcases List.mem_cons.1 hc with rfl | hc
    · rfl
    · exact isAlpha_eq_false_of_isBlank (l.pad_blank c hc)
  rw [clear_iff, clear_iff]
  change ¬ l.value.map Char.toLower <+: ('=' :: l.pad) ++ l.value.map Char.toLower ↔ _
  refine not_congr ⟨?_, ?_⟩
  · intro h
    rwa [map_toLower_of_repeats (List.cons_ne_nil _ _) hletters h] at h
  · intro h
    have hlower := h.map Char.toLower
    rwa [List.map_append, map_toLower_eq_self fun c hc => toLower_eq_self (hletters c hc)] at hlower

theorem indexOf?_value_toLower (l : Layout) :
    indexOf? l.toLower.value (l.toLower.gap ++ '=' :: l.toLower.tail) =
      indexOf? l.value (l.gap ++ '=' :: l.tail) := by
  by_cases hclear : l.Clear
  · have hlower := l.clear_toLower_iff.2 hclear
    rw [l.indexOf?_value_of_clear hclear, l.toLower.indexOf?_value_of_clear hlower]
    rfl
  · have hlower := mt l.clear_toLower_iff.1 hclear
    by_cases hvalue : l.value = []
    · have hnil : l.toLower.value = [] := List.map_eq_nil_iff.2 hvalue
      rw [l.indexOf?_value_of_eq_nil hvalue, l.toLower.indexOf?_value_of_eq_nil hnil]
    · have hne : l.toLower.value ≠ [] := mt List.map_eq_nil_iff.1 hvalue
      rw [l.indexOf?_value_of_ne_nil hclear hvalue, l.toLower.indexOf?_value_of_ne_nil hlower hne]
      rfl

theorem valueStart_located_toLower (l : Layout) :
    l.toLower.located.valueStart = l.located.valueStart := by
  obtain ⟨k, hk⟩ := l.exists_indexOf?_value
  have hlength : l.toLower.name.length = l.name.length := List.length_map _
  rw [located, located, l.valueStart_locate hk,
    l.toLower.valueStart_locate (l.indexOf?_value_toLower.trans hk), hlength]
  rfl

end Layout

def Assignment.toLower (a : Assignment) : Assignment :=
  { a with name := a.name.toLower, value := a.value.toLower }

theorem ofList_map_toLower (cs : List Char) :
    String.ofList (cs.map Char.toLower) = (String.ofList cs).toLower := by
  rw [← String.toList_inj, toList_toLower, String.toList_ofList, String.toList_ofList]

theorem Layout.located_toLower (l : Layout) : l.toLower.located = l.located.toLower := by
  have hname : l.toLower.located.name = l.located.name.toLower := ofList_map_toLower l.name
  have hvalue : l.toLower.located.value = l.located.value.toLower := ofList_map_toLower l.value
  have hstart : l.toLower.located.nameStart = l.located.nameStart :=
    l.toLower.nameStart_locate.trans l.nameStart_locate.symm
  rw [Assignment.toLower, ← hname, ← hvalue, ← hstart, ← l.valueStart_located_toLower]

/-- Making the letters of a line small moves neither the name nor the value. -/
theorem assignment?_toLower (line : String) :
    assignment? line.toLower = (assignment? line).map Assignment.toLower := by
  rw [assignment?, assignment?, toList_toLower, assigned?_map_toLower]
  cases h : assigned? line.toList with
  | none => rfl
  | some pair =>
    obtain ⟨l, htext, hname, hvalue⟩ := exists_layout h
    simp only [Option.map_some, Prod.map, ← hname, ← hvalue, ← htext]
    rw [← l.text_toLower]
    exact congrArg some l.located_toLower

end InputDeck.Statement
