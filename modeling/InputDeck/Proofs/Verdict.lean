import InputDeck.Catalog.Basic
import InputDeck.Proofs.Text.Blank

/-!
# Which values a variable takes

`Variable.Takes` says it without going through a verdict: a variable with options takes sums of
options, whatever its kind, and any other variable takes what is of its kind. A verdict is valid
exactly then.
-/

namespace InputDeck

open InputDeck.Text

theorem Text.splitAtEach_of_not_mem {sep : Char} {cs : List Char} (h : sep ∉ cs) :
    splitAtEach sep cs = [cs] := by
  induction cs with
  | nil => rfl
  | cons c cs ih =>
    have hc : ¬ (c == sep) = true := by
      intro heq
      exact h (List.mem_cons.2 (Or.inl (beq_iff_eq.1 heq).symm))
    have hcs : sep ∉ cs := fun hmem => h (List.mem_cons_of_mem c hmem)
    rw [splitAtEach, if_neg hc, ih hcs, consFirst]

theorem Value.unquoted_eq_self {cs : List Char} (h : ∀ c ∈ cs, isQuote c = false) :
    unquoted cs = cs := by
  refine List.filter_eq_self.2 ?_
  intro c hc
  rw [h c hc]
  rfl

theorem Verdict.orFault_eq_valid_iff {test : Bool} {fault : Fault} :
    orFault test fault = valid ↔ test = true := by
  cases test <;> simp [orFault]

theorem Verdict.isValid_iff {verdict : Verdict} : verdict.isValid = true ↔ verdict = valid := by
  cases verdict <;> simp [isValid]

theorem Verdict.isValid_eq_false_iff {verdict : Verdict} :
    verdict.isValid = false ↔ verdict ≠ valid := by
  cases verdict <;> simp [isValid]

def VariableKind.Holds (kind : VariableKind) (text : List Char) : Prop :=
  match kind with
  | .integer => Value.isInteger text = true
  | .float => Expression.looksComputed (String.ofList text) = true ∨ Value.isDecimal text = true
  | .logical => lowercased (String.ofList text) ∈ Value.logicalWords
  | _ => True

namespace Variable

/-- The text is the name or the value of an option, letter case aside. -/
def Lists (v : Variable) (text : List Char) : Prop :=
  ∃ o ∈ v.options, lowercase text = lowercase o.name.toList ∨
    lowercase text = lowercase o.value.toList

/-- The variable takes a value, as it is written. -/
inductive Takes (v : Variable) (raw : String) : Prop where
  | sum (hoptions : v.options ≠ [])
      (hparts : ∀ part ∈ splitAtEach '+' (Value.unquoted raw.toList), v.Lists (trim part)) :
      Takes v raw
  | kind (hoptions : v.options = []) (hkind : v.kind.Holds (Value.unquoted raw.toList)) :
      Takes v raw

variable {v : Variable}

theorem knowsOption_iff {text : List Char} :
    v.knowsOption (String.ofList (lowercase text)) = true ↔ v.Lists text := by
  rw [knowsOption, List.any_eq_true, Lists]
  refine exists_congr fun o => and_congr_right fun _ => ?_
  rw [Bool.or_eq_true, beq_iff_eq, beq_iff_eq, lowercased, lowercased]
  exact or_congr (String.ofList_inj.trans eq_comm) (String.ofList_inj.trans eq_comm)

theorem optionVerdict_eq_valid_iff {text : List Char} :
    v.optionVerdict text = .valid ↔ ∀ part ∈ splitAtEach '+' text, v.Lists (trim part) := by
  rw [optionVerdict, Verdict.orFault_eq_valid_iff, List.isEmpty_iff, List.filter_eq_nil_iff,
    Value.optionParts, List.forall_mem_map]
  refine forall_congr' fun part => imp_congr_right fun _ => ?_
  rw [← knowsOption_iff]
  simp

theorem kindVerdict_eq_valid_iff {text : List Char} :
    v.kindVerdict text = .valid ↔ v.kind.Holds text := by
  unfold kindVerdict VariableKind.Holds
  cases v.kind with
  | integer => exact Verdict.orFault_eq_valid_iff
  | float => exact Verdict.orFault_eq_valid_iff.trans Bool.or_eq_true_iff
  | logical => exact Verdict.orFault_eq_valid_iff.trans List.contains_iff_mem
  | _ => simp

theorem verdict_eq_valid_iff {raw : String} : v.verdict raw = .valid ↔ v.Takes raw := by
  rw [verdict]
  by_cases hoptions : v.options = []
  · rw [hoptions, List.isEmpty_nil, if_pos rfl, kindVerdict_eq_valid_iff]
    constructor
    · exact .kind hoptions
    · intro h
      cases h with
      | sum hne _ => exact absurd hoptions hne
      | kind _ hkind => exact hkind
  · rw [if_neg fun hempty => hoptions (List.isEmpty_iff.1 hempty), optionVerdict_eq_valid_iff]
    constructor
    · exact .sum hoptions
    · intro h
      cases h with
      | sum _ hparts => exact hparts
      | kind hnil _ => exact absurd hnil hoptions

/-! ## One option -/

/-- The text cannot be taken apart: it has no quote and no plus sign in it and no blanks around it.
-/
def Undivided (text : String) : Prop :=
  (∀ c ∈ text.toList, Value.isQuote c = false ∧ c ≠ '+') ∧ trim text.toList = text.toList

instance (text : String) : Decidable (Undivided text) :=
  @instDecidableAnd _ _ (List.decidableBAll _ _) (inferInstanceAs (Decidable (_ = _)))

theorem takes_iff_of_undivided {text : String} (htext : Undivided text)
    (hoptions : v.options ≠ []) :
    v.Takes text ↔ v.Lists text.toList := by
  obtain ⟨hchars, htrim⟩ := htext
  have hunquoted : Value.unquoted text.toList = text.toList :=
    Value.unquoted_eq_self fun c hc => (hchars c hc).1
  have hparts : splitAtEach '+' (Value.unquoted text.toList) = [text.toList] := by
    rw [hunquoted]
    exact splitAtEach_of_not_mem fun hmem => (hchars '+' hmem).2 rfl
  constructor
  · intro h
    cases h with
    | sum _ htakes =>
      have hlists := htakes text.toList (by rw [hparts]; exact List.mem_singleton_self _)
      rwa [htrim] at hlists
    | kind hnil _ => exact absurd hnil hoptions
  · intro h
    refine .sum hoptions ?_
    intro part hpart
    rw [hparts, List.mem_singleton] at hpart
    rwa [hpart, htrim]

/-- A variable takes each of its options by name, unless the name can be taken apart. -/
theorem takes_option {o : VariableOption} (ho : o ∈ v.options) (hname : Undivided o.name) :
    v.Takes o.name :=
  (takes_iff_of_undivided hname (List.ne_nil_of_mem ho)).2 ⟨o, ho, Or.inl rfl⟩

end Variable

theorem Catalog.verdict?_eq_valid_iff {c : Catalog} {name : String} {v : Variable}
    (hv : c.get? name = some v) {raw : String} :
    c.verdict? name raw = some .valid ↔ v.Takes raw := by
  rw [verdict?, hv, Option.map_some, Option.some.injEq, Variable.verdict_eq_valid_iff]

end InputDeck
