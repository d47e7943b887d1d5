import InputDeck.Proofs.Verdict

/-!
# Sums of options

A value of a variable with options is a sum: parts with plus signs between them. `SumOf` says so
without cutting a text, and a text is the sum of one list of parts only. The verdict looks at each
part on its own. So it is the same whichever way the parts are arranged, and a message about unknown
options goes through them one after the other.
-/

namespace InputDeck

open InputDeck.Text

/-! ## The parts of a sum -/

namespace Text

theorem splitAtEach_ne_nil (sep : Char) (cs : List Char) : splitAtEach sep cs ≠ [] := by
  cases cs with
  | nil => exact List.cons_ne_nil _ _
  | cons c cs =>
    rw [splitAtEach]
    split
    · exact List.cons_ne_nil _ _
    · exact consFirst_ne_nil c _

theorem splitAtEach_eq_splitOn (sep : Char) (cs : List Char) :
    splitAtEach sep cs = cs.splitOn sep := by
  rw [List.splitOn_eq_splitOnP]
  induction cs with
  | nil => rfl
  | cons c cs ih =>
    rw [splitAtEach, List.splitOnP_cons_eq_if_modifyHead, ← ih]
    split
    · rfl
    · cases hpieces : splitAtEach sep cs with
      | nil => exact absurd hpieces (splitAtEach_ne_nil sep cs)
      | cons piece pieces => rfl

theorem not_mem_of_mem_splitAtEach {sep : Char} {cs part : List Char}
    (h : part ∈ splitAtEach sep cs) : sep ∉ part := by
  induction cs generalizing part with
  | nil =>
    rw [List.mem_singleton.1 h]
    exact List.not_mem_nil
  | cons c cs ih =>
    rw [splitAtEach] at h
    split at h
    · rcases List.mem_cons.1 h with rfl | h
      · exact List.not_mem_nil
      · exact ih h
    · next hc =>
      cases hpieces : splitAtEach sep cs with
      | nil => exact absurd hpieces (splitAtEach_ne_nil sep cs)
      | cons piece pieces =>
        rw [hpieces] at h ih
        rcases List.mem_cons.1 h with rfl | h
        · intro hmem
          rcases List.mem_cons.1 hmem with rfl | hmem
          · exact hc (beq_self_eq_true sep)
          · exact ih List.mem_cons_self hmem
        · exact ih (List.mem_cons_of_mem piece h)

end Text

namespace Value

/-- The text is the sum of these parts: plus signs stand between them and nowhere else. -/
structure SumOf (parts : List (List Char)) (text : List Char) : Prop where
  ne_nil : parts ≠ []
  plus_not_mem : ∀ part ∈ parts, '+' ∉ part
  joined : ['+'].intercalate parts = text

theorem sumOf_iff {parts : List (List Char)} {text : List Char} :
    SumOf parts text ↔ splitAtEach '+' text = parts := by
  constructor
  · rintro ⟨hne, hplus, rfl⟩
    rw [splitAtEach_eq_splitOn]
    exact List.splitOn_intercalate '+' hplus hne
  · rintro rfl
    refine ⟨splitAtEach_ne_nil '+' text, fun part hpart => not_mem_of_mem_splitAtEach hpart, ?_⟩
    rw [splitAtEach_eq_splitOn]
    exact List.intercalate_splitOn '+'

/-- The same parts arranged otherwise: in another order, one of them once more, or with other blanks
around one. -/
inductive Rearranged : List (List Char) → List (List Char) → Prop where
  | perm {parts others : List (List Char)} (h : parts.Perm others) : Rearranged parts others
  | again {parts : List (List Char)} {part : List Char} (h : part ∈ parts) :
      Rearranged parts (part :: parts)
  | blanks (before after : List (List Char)) (part : List Char) {v w : List Char}
      (hv : AllBlank v) (hw : AllBlank w) :
      Rearranged (before ++ part :: after) (before ++ (v ++ (part ++ w)) :: after)
  | symm {parts others : List (List Char)} (h : Rearranged parts others) : Rearranged others parts
  | trans {parts others more : List (List Char)} (h : Rearranged parts others)
      (h' : Rearranged others more) : Rearranged parts more

/-- What holds of all parts without the blanks around them holds of them in any arrangement. -/
theorem Rearranged.forall_trim_iff {P : List Char → Prop} {parts others : List (List Char)}
    (h : Rearranged parts others) :
    (∀ part ∈ parts, P (trim part)) ↔ ∀ part ∈ others, P (trim part) := by
  induction h with
  | perm h => exact forall_congr' fun part => imp_congr_left h.mem_iff
  | again h =>
    rw [List.forall_mem_cons]
    exact ⟨fun hall => ⟨hall _ h, hall⟩, fun hall => hall.2⟩
  | @blanks before after part v w hv hw =>
    have htrim : trim (v ++ (part ++ w)) = trim part := by
      rw [trim_append_left hv, trim_append_right hw]
    simp only [List.forall_mem_append, List.forall_mem_cons, htrim]
  | symm _ ih => exact ih.symm
  | trans _ _ ih ih' => exact ih.trans ih'

inductive Requoted : List Char → List Char → Prop where
  | nil : Requoted [] []
  | keep (c : Char) {cs ds : List Char} (h : Requoted cs ds) : Requoted (c :: cs) (c :: ds)
  | quote {q : Char} (hq : q = '\x27' ∨ q = '\x22') {cs ds : List Char} (h : Requoted cs ds) :
      Requoted cs (q :: ds)

theorem Requoted.unquoted_eq {cs ds : List Char} (h : Requoted cs ds) :
    unquoted ds = unquoted cs := by
  induction h with
  | nil => rfl
  | keep c _ ih =>
    rw [unquoted, List.filter_cons, unquoted, List.filter_cons]
    rw [unquoted, unquoted] at ih
    rw [ih]
  | quote hq _ ih =>
    rw [← ih]
    rcases hq with rfl | rfl <;> rfl

end Value

/-! ## Verdicts -/

namespace Variable

variable {v : Variable}

instance (text : List Char) : Decidable (v.Lists text) :=
  inferInstanceAs (Decidable (∃ o ∈ v.options, lowercase text = lowercase o.name.toList ∨
    lowercase text = lowercase o.value.toList))

theorem verdict_eq_optionVerdict (hoptions : v.options ≠ []) (raw : String) :
    v.verdict raw = v.optionVerdict (Value.unquoted raw.toList) := by
  rw [verdict, if_neg fun hempty => hoptions (List.isEmpty_iff.1 hempty)]

theorem isValid_verdict_iff_of_sumOf (hoptions : v.options ≠ []) {raw : String}
    {parts : List (List Char)} (hparts : Value.SumOf parts (Value.unquoted raw.toList)) :
    (v.verdict raw).isValid = true ↔ ∀ part ∈ parts, v.Lists (trim part) := by
  rw [Verdict.isValid_iff, verdict_eq_optionVerdict hoptions, optionVerdict_eq_valid_iff,
    Value.sumOf_iff.1 hparts]

theorem filter_optionParts {parts : List (List Char)} {text : List Char}
    (hparts : Value.SumOf parts text) :
    (Value.optionParts text).filter (!v.knowsOption ·) =
      (parts.filter fun part => ¬ v.Lists (trim part)).map fun part =>
        String.ofList (lowercase (trim part)) := by
  rw [Value.optionParts, Value.sumOf_iff.1 hparts, List.filter_map]
  congr 2
  funext part
  rw [Function.comp_apply, decide_not]
  congr 1
  rw [Bool.eq_iff_iff, decide_eq_true_iff]
  exact knowsOption_iff

theorem message?_verdict_of_sumOf (hoptions : v.options ≠ []) {raw : String}
    {parts : List (List Char)} (hparts : Value.SumOf parts (Value.unquoted raw.toList))
    (hinvalid : (v.verdict raw).isValid = false) (hplus : '+' ∈ Value.unquoted raw.toList) :
    (v.verdict raw).message? = some ("Invalid options: " ++ ", ".intercalate
      ((parts.filter fun part => ¬ v.Lists (trim part)).map fun part =>
        String.ofList (lowercase (trim part)))) := by
  rw [verdict_eq_optionVerdict hoptions, optionVerdict, filter_optionParts hparts,
    if_pos (List.contains_iff_mem.2 hplus), Verdict.orFault] at hinvalid ⊢
  split at hinvalid
  · cases hinvalid
  · next hunknown =>
    rw [if_neg hunknown]
    rfl

/-- The verdict on a value of a variable with options, whatever its kind. Without its quotes, the
value is a sum of parts in one way, and it is valid exactly if each part, without the blanks around
it and letter case aside, is the name or the value of an option. So neither the arrangement of the
parts nor quotes matter. The message about a sum lists the parts that are none of the options, as
often as they occur and in their order. -/
theorem options_verdict_by_parts (hoptions : v.options ≠ []) (raw : String) :
    ∃ parts, Value.SumOf parts (Value.unquoted raw.toList) ∧
      (∀ others, Value.SumOf others (Value.unquoted raw.toList) → others = parts) ∧
      ('+' ∉ Value.unquoted raw.toList → parts = [Value.unquoted raw.toList]) ∧
      ((v.verdict raw).isValid = true ↔ ∀ part ∈ parts, ∃ o ∈ v.options,
        lowercase (trim part) = lowercase o.name.toList ∨
          lowercase (trim part) = lowercase o.value.toList) ∧
      (∀ other others, Value.SumOf others (Value.unquoted other.toList) →
        Value.Rearranged parts others → (v.verdict other).isValid = (v.verdict raw).isValid) ∧
      (∀ other : String, Value.Requoted raw.toList other.toList → v.verdict other = v.verdict raw) ∧
      ((v.verdict raw).isValid = false → '+' ∈ Value.unquoted raw.toList →
        (v.verdict raw).message? = some ("Invalid options: " ++ ", ".intercalate
          ((parts.filter fun part => ¬ v.Lists (trim part)).map fun part =>
            String.ofList (lowercase (trim part))))) := by
  -- the parts are those at which the verdict cuts the text, and there are no others
  have hparts := Value.sumOf_iff.2 (rfl : splitAtEach '+' (Value.unquoted raw.toList) = _)
  refine ⟨_, hparts, ?_, splitAtEach_of_not_mem,
    isValid_verdict_iff_of_sumOf hoptions hparts, ?_, ?_,
    message?_verdict_of_sumOf hoptions hparts⟩
  · intro others hothers
    exact (Value.sumOf_iff.1 hothers).symm
  · intro other others hothers harranged
    rw [Bool.eq_iff_iff, isValid_verdict_iff_of_sumOf hoptions hothers,
      isValid_verdict_iff_of_sumOf hoptions hparts]
    exact harranged.forall_trim_iff.symm
  · intro other hquoted
    rw [verdict, verdict, hquoted.unquoted_eq]

def spinMode : Variable :=
  ⟨"SpinMode", .integer, [], "States", [], [⟨"polarized", "2"⟩, ⟨"abς", "4"⟩], none⟩

def spinSum : String :=
  "'Polar'ized + \x22ABΣ ++ x\x22+x"

def spinParts : List (List Char) :=
  ["Polarized ".toList, " ABΣ ".toList, [], " x".toList, "x".toList]

theorem options_verdict_by_parts_spinSum :
    spinMode.options ≠ [] ∧ Value.SumOf spinParts (Value.unquoted spinSum.toList) ∧
      (spinMode.verdict spinSum).message? = some "Invalid options: , x, x" ∧
      (spinMode.verdict "x+ x+ ABΣ + 'Polarized' ++").isValid = false := by
  have hoptions : spinMode.options ≠ [] := by decide
  have hsum : Value.SumOf spinParts (Value.unquoted spinSum.toList) :=
    ⟨by decide, by decide, by decide⟩
  have hother : Value.SumOf
      ["x".toList, " x".toList, " ABΣ ".toList, " Polarized ".toList, [], []]
      (Value.unquoted "x+ x+ ABΣ + 'Polarized' ++".toList) := ⟨by decide, by decide, by decide⟩
  have harrangement : Value.Rearranged spinParts
      ["x".toList, " x".toList, " ABΣ ".toList, " Polarized ".toList, [], []] :=
    .trans (.blanks [] spinParts.tail "Polarized ".toList (v := [' ']) (w := [])
        (List.all_eq_true.1 (by decide)) allBlank_nil)
      (.trans (.again (List.mem_of_elem_eq_true (by decide) : [] ∈ _)) (.perm (by decide)))
  have hrefused : (spinMode.verdict spinSum).isValid = false := by decide +kernel
  obtain ⟨parts, _, hunique, _, _, harranged, _, hmessage⟩ :=
    options_verdict_by_parts hoptions spinSum
  obtain rfl := hunique _ hsum
  refine ⟨hoptions, hsum, ?_, ?_⟩
  · rw [hmessage hrefused (by decide)]
    decide +kernel
  · rw [harranged _ _ hother harrangement, hrefused]

end Variable

end InputDeck
