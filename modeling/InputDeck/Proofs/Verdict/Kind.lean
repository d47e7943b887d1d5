import InputDeck.Proofs.Verdict

/-!
# Values by kind

The grammar of numbers, stated by its forms and apart from the functions that recognise them: these
read from left to right and take as many digits as there are. Every integer is also a decimal
number. The verdict on a value of a variable without options follows this grammar.
-/

namespace InputDeck

open InputDeck.Text

namespace Value

/-! ## The grammar of numbers -/

def AllDigits (cs : List Char) : Prop :=
  ∀ c ∈ cs, c.isDigit = true

def Digits (cs : List Char) : Prop :=
  cs ≠ [] ∧ AllDigits cs

inductive IntegerText : List Char → Prop where
  | plain {digits : List Char} (h : Digits digits) : IntegerText digits
  | negative {digits : List Char} (h : Digits digits) : IntegerText ('-' :: digits)

/-- Digits with or without a point and further digits, or a point and digits. -/
inductive Mantissa : List Char → Prop where
  | whole {digits : List Char} (h : Digits digits) : Mantissa digits
  | pointed {digits more : List Char} (h : Digits digits) (hmore : AllDigits more) :
      Mantissa (digits ++ '.' :: more)
  | fraction {digits : List Char} (h : Digits digits) : Mantissa ('.' :: digits)

inductive Exponent : List Char → Prop where
  | absent : Exponent []
  | plain {letter : Char} {digits : List Char} (hletter : letter = 'e' ∨ letter = 'E')
      (h : Digits digits) : Exponent (letter :: digits)
  | signed {letter sign : Char} {digits : List Char} (hletter : letter = 'e' ∨ letter = 'E')
      (hsign : sign = '+' ∨ sign = '-') (h : Digits digits) : Exponent (letter :: sign :: digits)

inductive DecimalText : List Char → Prop where
  | plain {mantissa exponent : List Char} (hm : Mantissa mantissa) (he : Exponent exponent) :
      DecimalText (mantissa ++ exponent)
  | negative {mantissa exponent : List Char} (hm : Mantissa mantissa) (he : Exponent exponent) :
      DecimalText ('-' :: (mantissa ++ exponent))

theorem IntegerText.decimalText {cs : List Char} (h : IntegerText cs) : DecimalText cs := by
  cases h with
  | plain h =>
    rw [← List.append_nil cs]
    exact .plain (.whole h) .absent
  | @negative digits h =>
    rw [← List.append_nil digits]
    exact .negative (.whole h) .absent

/-! ## Digits and signs -/

theorem isDigits_iff {cs : List Char} : isDigits cs = true ↔ Digits cs := by
  rw [isDigits, Bool.and_eq_true, Bool.not_eq_true', List.isEmpty_eq_false_iff, List.all_eq_true]
  exact Iff.rfl

theorem Digits.head?_ne {cs : List Char} (h : Digits cs) {c : Char} (hc : c.isDigit = false) :
    cs.head? ≠ some c := by
  intro hhead
  rw [h.2 c (List.mem_of_head? hhead)] at hc
  cases hc

theorem withoutMinus_eq_self {cs : List Char} (h : cs.head? ≠ some '-') : withoutMinus cs = cs := by
  cases cs with
  | nil => rfl
  | cons c cs =>
    have hc : c ≠ '-' := fun he => h (congrArg some he)
    simp [withoutMinus, hc]

theorem eq_withoutMinus_or (cs : List Char) :
    cs = withoutMinus cs ∨ cs = '-' :: withoutMinus cs := by
  by_cases h : cs.head? = some '-'
  · obtain ⟨rest, rfl⟩ := List.head?_eq_some_iff.1 h
    exact Or.inr rfl
  · exact Or.inl (withoutMinus_eq_self h).symm

theorem isInteger_iff {cs : List Char} : isInteger cs = true ↔ IntegerText cs := by
  rw [isInteger, isDigits_iff]
  constructor
  · intro h
    rcases eq_withoutMinus_or cs with hcs | hcs
    · rw [hcs]
      exact .plain h
    · rw [hcs]
      exact .negative h
  · intro h
    cases h with
    | plain h => rwa [withoutMinus_eq_self (h.head?_ne (by decide))]
    | negative h => exact h

theorem withoutSign_eq_self {cs : List Char} (hplus : cs.head? ≠ some '+')
    (hminus : cs.head? ≠ some '-') : withoutSign cs = cs := by
  cases cs with
  | nil => rfl
  | cons c cs =>
    have hp : c ≠ '+' := fun he => hplus (congrArg some he)
    have hm : c ≠ '-' := fun he => hminus (congrArg some he)
    simp [withoutSign, hp, hm]

theorem eq_withoutSign_or (cs : List Char) :
    cs = withoutSign cs ∨ ∃ sign, (sign = '+' ∨ sign = '-') ∧ cs = sign :: withoutSign cs := by
  by_cases hplus : cs.head? = some '+'
  · obtain ⟨rest, rfl⟩ := List.head?_eq_some_iff.1 hplus
    exact Or.inr ⟨'+', Or.inl rfl, rfl⟩
  · by_cases hminus : cs.head? = some '-'
    · obtain ⟨rest, rfl⟩ := List.head?_eq_some_iff.1 hminus
      exact Or.inr ⟨'-', Or.inr rfl, rfl⟩
    · exact Or.inl (withoutSign_eq_self hplus hminus).symm

theorem isExponent_iff {cs : List Char} : isExponent cs = true ↔ Exponent cs := by
  cases cs with
  | nil => exact ⟨fun _ => .absent, fun _ => rfl⟩
  | cons letter cs =>
    rw [isExponent, Bool.and_eq_true, Bool.or_eq_true, beq_iff_eq, beq_iff_eq, isDigits_iff]
    constructor
    · rintro ⟨hletter, h⟩
      rcases eq_withoutSign_or cs with hcs | ⟨sign, hsign, hcs⟩
      · rw [hcs]
        exact .plain hletter h
      · rw [hcs]
        exact .signed hletter hsign h
    · intro h
      cases h with
      | plain hletter h =>
        rw [withoutSign_eq_self (h.head?_ne (by decide)) (h.head?_ne (by decide))]
        exact ⟨hletter, h⟩
      | signed hletter hsign h =>
        refine ⟨hletter, ?_⟩
        rcases hsign with rfl | rfl <;> exact h

/-! ## Decimal numbers -/

theorem afterMantissa?_pointed {digits : List Char} (h : AllDigits digits) (rest : List Char) :
    afterMantissa? (digits ++ '.' :: rest) =
      if digits.isEmpty && (rest.takeWhile Char.isDigit).isEmpty then none
      else some (rest.dropWhile Char.isDigit) := by
  have hpoint : ∀ c ∈ ('.' :: rest).head?, c.isDigit = false := by
    intro c hc
    cases hc
    rfl
  obtain ⟨htake, hdrop⟩ := takeWhile_dropWhile_of_run h hpoint
  rw [afterMantissa?, htake, hdrop]
  rfl

def EndsMantissa (rest : List Char) : Prop :=
  ∀ c ∈ rest.head?, c.isDigit = false ∧ c ≠ '.'

theorem afterMantissa?_whole {digits rest : List Char} (h : AllDigits digits)
    (hrest : EndsMantissa rest) :
    afterMantissa? (digits ++ rest) = if digits.isEmpty then none else some rest := by
  obtain ⟨htake, hdrop⟩ := takeWhile_dropWhile_of_run h fun c hc => (hrest c hc).1
  rw [afterMantissa?, htake, hdrop]
  cases rest with
  | nil => rfl
  | cons c rest =>
    have hc : c ≠ '.' := (hrest c rfl).2
    simp [hc]

theorem endsMantissa_of_exponent {cs : List Char} (h : Exponent cs) : EndsMantissa cs := by
  intro c hc
  cases h with
  | absent => cases hc
  | plain hletter _ | signed hletter _ _ =>
    cases hc
    rcases hletter with rfl | rfl <;> decide

theorem afterMantissa?_append {mantissa rest : List Char} (h : Mantissa mantissa)
    (hrest : EndsMantissa rest) : afterMantissa? (mantissa ++ rest) = some rest := by
  have hend : ∀ c ∈ rest.head?, c.isDigit = false := fun c hc => (hrest c hc).1
  cases h with
  | whole h =>
    rw [afterMantissa?_whole h.2 hrest, List.isEmpty_eq_false_iff.2 h.1]
    rfl
  | pointed h hmore =>
    obtain ⟨_, hdrop⟩ := takeWhile_dropWhile_of_run hmore hend
    rw [List.append_assoc, List.cons_append, afterMantissa?_pointed h.2,
      List.isEmpty_eq_false_iff.2 h.1, hdrop]
    rfl
  | @fraction digits h =>
    obtain ⟨htake, hdrop⟩ := takeWhile_dropWhile_of_run h.2 hend
    have hnone : AllDigits [] := fun c hc => nomatch hc
    have hpoint := afterMantissa?_pointed hnone (digits ++ rest)
    rw [htake, hdrop, List.isEmpty_eq_false_iff.2 h.1] at hpoint
    exact hpoint

theorem allDigits_takeWhile (cs : List Char) : AllDigits (cs.takeWhile Char.isDigit) :=
  List.all_eq_true.1 List.all_takeWhile

theorem exists_mantissa_of_afterMantissa? {cs rest : List Char}
    (h : afterMantissa? cs = some rest) :
    ∃ mantissa, Mantissa mantissa ∧ cs = mantissa ++ rest := by
  have hdigits := allDigits_takeWhile cs
  have hpieces := List.takeWhile_append_dropWhile (p := Char.isDigit) (l := cs)
  by_cases hpoint : (cs.dropWhile Char.isDigit).head? = some '.'
  · obtain ⟨more, hmore⟩ := List.head?_eq_some_iff.1 hpoint
    rw [hmore] at hpieces
    have hmorePieces := List.takeWhile_append_dropWhile (p := Char.isDigit) (l := more)
    rw [← hpieces, afterMantissa?_pointed hdigits, Option.ite_none_left_eq_some,
      Option.some.injEq] at h
    obtain ⟨hsome, rfl⟩ := h
    by_cases hwhole : cs.takeWhile Char.isDigit = []
    · -- there are no digits in front of the point, so there are some behind it
      rw [hwhole] at hsome hpieces
      refine ⟨'.' :: more.takeWhile Char.isDigit, .fraction ⟨?_, allDigits_takeWhile more⟩, ?_⟩
      · simpa using hsome
      · rw [List.cons_append, hmorePieces]
        exact hpieces.symm
    · refine ⟨cs.takeWhile Char.isDigit ++ '.' :: more.takeWhile Char.isDigit,
        .pointed ⟨hwhole, hdigits⟩ (allDigits_takeWhile more), ?_⟩
      rw [List.append_assoc, List.cons_append, hmorePieces, hpieces]
  · have hends : EndsMantissa (cs.dropWhile Char.isDigit) := by
      intro c hc
      refine ⟨head?_dropWhile_eq_false hc, ?_⟩
      rintro rfl
      exact hpoint hc
    rw [← hpieces, afterMantissa?_whole hdigits hends, Option.ite_none_left_eq_some,
      Option.some.injEq] at h
    obtain ⟨hsome, rfl⟩ := h
    exact ⟨cs.takeWhile Char.isDigit, .whole ⟨by simpa using hsome, hdigits⟩, hpieces.symm⟩

theorem Mantissa.head?_append_ne_minus {mantissa : List Char} (h : Mantissa mantissa)
    (rest : List Char) : (mantissa ++ rest).head? ≠ some '-' := by
  have hdigits : ∀ {digits : List Char}, Digits digits → ∀ more : List Char,
      (digits ++ more).head? ≠ some '-' := by
    intro digits hd more
    cases digits with
    | nil => exact absurd rfl hd.1
    | cons d digits => exact hd.head?_ne (c := '-') (by decide)
  cases h with
  | whole h => exact hdigits h rest
  | pointed h _ =>
    rw [List.append_assoc]
    exact hdigits h _
  | fraction _ =>
    intro hhead
    cases hhead

theorem isDecimal_iff {cs : List Char} : isDecimal cs = true ↔ DecimalText cs := by
  rw [isDecimal, Option.any_eq_true]
  constructor
  · rintro ⟨exponent, hafter, hexponent⟩
    obtain ⟨mantissa, hmantissa, heq⟩ := exists_mantissa_of_afterMantissa? hafter
    have he := isExponent_iff.1 hexponent
    rcases eq_withoutMinus_or cs with hcs | hcs
    · rw [hcs, heq]
      exact .plain hmantissa he
    · rw [hcs, heq]
      exact .negative hmantissa he
  · intro h
    cases h with
    | @plain mantissa exponent hm he =>
      refine ⟨exponent, ?_, isExponent_iff.2 he⟩
      rw [withoutMinus_eq_self (hm.head?_append_ne_minus exponent)]
      exact afterMantissa?_append hm (endsMantissa_of_exponent he)
    | @negative mantissa exponent hm he =>
      exact ⟨exponent, afterMantissa?_append hm (endsMantissa_of_exponent he), isExponent_iff.2 he⟩

end Value

/-! ## Verdicts -/

/-- The unquoted text is written as values of a kind are. -/
def VariableKind.Admits (kind : VariableKind) (text : List Char) : Prop :=
  match kind with
  | .integer => Value.IntegerText text
  | .float => Expression.looksComputed (String.ofList text) = true ∨ Value.DecimalText text
  | .logical => lowercased (String.ofList text) ∈
      ["true", "false", "yes", "no", ".true.", ".false.", "1", "0"]
  | _ => True

theorem VariableKind.holds_iff_admits (kind : VariableKind) (text : List Char) :
    kind.Holds text ↔ kind.Admits text := by
  cases kind with
  | integer => exact Value.isInteger_iff
  | float => exact or_congr_right Value.isDecimal_iff
  | _ => exact Iff.rfl

theorem VariableKind.admits_float_of_integer {text : List Char}
    (h : VariableKind.integer.Admits text) : VariableKind.float.Admits text :=
  Or.inr h.decimalText

theorem Verdict.texts_of_isValid {verdict : Verdict} (h : verdict.isValid = true) :
    verdict.message? = none ∧ verdict.suggestion? = none := by
  rw [isValid_iff.1 h]
  exact ⟨rfl, rfl⟩

theorem Verdict.texts_of_not_isValid {verdict : Verdict} (h : verdict.isValid = false) :
    verdict.message?.isSome = true ∧ verdict.suggestion?.isSome = true := by
  cases verdict with
  | valid => cases h
  | invalid fault => exact ⟨rfl, rfl⟩

/-- What is said about a value that is not written as a kind asks, and the advice that is given; the
first default is the example if there is one. -/
def VariableKind.objection? (kind : VariableKind) (value : String) (first : Option String) :
    Option (String × String) :=
  match kind with
  | .integer => some ("'" ++ value ++ "' is not a valid integer",
      "Expected integer value, e.g.: " ++ first.getD "1")
  | .float => some ("'" ++ value ++ "' is not a valid float or mathematical expression",
      "Expected float or mathematical expression, e.g.: " ++ first.getD "1.0" ++
        " or 3.5 * angstrom")
  | .logical => some ("'" ++ value ++ "' is not a valid logical value",
      "Valid values: true, false, yes, no")
  | _ => none

theorem Verdict.texts_orFault {test : Bool} {fault : Fault}
    (h : (orFault test fault).isValid = false) :
    (orFault test fault).message? = some fault.message ∧
      (orFault test fault).suggestion? = some fault.suggestion := by
  cases test with
  | true => cases h
  | false => exact ⟨rfl, rfl⟩

namespace Variable

variable {v : Variable}

theorem texts_kindVerdict {text : List Char} (h : (v.kindVerdict text).isValid = false) :
    ∃ texts ∈ v.kind.objection? (String.ofList text) v.firstDefault?,
      (v.kindVerdict text).message? = some texts.1 ∧
        (v.kindVerdict text).suggestion? = some texts.2 := by
  rw [kindVerdict] at h ⊢
  cases hkind : v.kind with
  | integer => rw [hkind] at h; exact ⟨_, rfl, Verdict.texts_orFault h⟩
  | float => rw [hkind] at h; exact ⟨_, rfl, Verdict.texts_orFault h⟩
  | logical => rw [hkind] at h; exact ⟨_, rfl, Verdict.texts_orFault h⟩
  | _ => rw [hkind] at h; cases h

theorem verdict_eq_kindVerdict (hoptions : v.options = []) (raw : String) :
    v.verdict raw = v.kindVerdict (Value.unquoted raw.toList) := by
  rw [verdict, hoptions, List.isEmpty_nil, if_pos rfl]

theorem isValid_verdict_iff_admits (hoptions : v.options = []) (raw : String) :
    (v.verdict raw).isValid = true ↔ v.kind.Admits (Value.unquoted raw.toList) := by
  rw [Verdict.isValid_iff, verdict_eq_kindVerdict hoptions, kindVerdict_eq_valid_iff,
    VariableKind.holds_iff_admits]

/-- The verdict on a value of a variable without options: it is valid exactly if the value, without
its quotes but with its blanks, is written as the kind of the variable asks. What is valid for an
integer is valid for a number. A refused value gets the texts for its kind. For any variable, only a
refused value has a message, and it has a suggestion too. -/
theorem kind_verdict_by_grammar (hoptions : v.options = []) (raw : String) :
    ((v.verdict raw).isValid = true ↔ v.kind.Admits (Value.unquoted raw.toList)) ∧
    (({ v with kind := .integer }.verdict raw).isValid = true →
      ({ v with kind := .float }.verdict raw).isValid = true) ∧
    ((v.verdict raw).isValid = false →
      ∃ texts ∈ v.kind.objection? (String.ofList (Value.unquoted raw.toList)) v.firstDefault?,
        (v.verdict raw).message? = some texts.1 ∧ (v.verdict raw).suggestion? = some texts.2) ∧
    ∀ w : Variable,
      ((w.verdict raw).isValid = true →
        (w.verdict raw).message? = none ∧ (w.verdict raw).suggestion? = none) ∧
      ((w.verdict raw).isValid = false →
        (w.verdict raw).message?.isSome = true ∧ (w.verdict raw).suggestion?.isSome = true) := by
  refine ⟨isValid_verdict_iff_admits hoptions raw, ?_, ?_,
    fun w => ⟨Verdict.texts_of_isValid, Verdict.texts_of_not_isValid⟩⟩
  · intro hinteger
    have hadmits : VariableKind.integer.Admits (Value.unquoted raw.toList) :=
      (isValid_verdict_iff_admits (v := { v with kind := .integer }) hoptions raw).1 hinteger
    exact (isValid_verdict_iff_admits (v := { v with kind := .float }) hoptions raw).2
      (VariableKind.admits_float_of_integer hadmits)
  · rw [verdict_eq_kindVerdict hoptions]
    exact texts_kindVerdict

def spacing : Variable :=
  ⟨"Spacing", .float, [], "Mesh", [], [], none⟩

/-- A number that begins with a point and has quotes inside, one that lacks the digits of its
exponent and one with a blank in front. -/
theorem kind_verdict_by_grammar_spacing :
    spacing.options = [] ∧
      Value.DecimalText ['.', '5', 'E', '0', '3'] ∧ (spacing.verdict "'.5'E03").isValid = true ∧
      (spacing.verdict "1e").isValid = false ∧ ¬ Value.DecimalText ['1', 'e'] ∧
      (spacing.verdict " 1").message? =
        some "' 1' is not a valid float or mathematical expression" ∧
      (spacing.verdict " 1").suggestion? =
        some "Expected float or mathematical expression, e.g.: 1.0 or 3.5 * angstrom" := by
  have hnumber : Value.DecimalText (['.', '5'] ++ ['E', '0', '3']) :=
    .plain (.fraction ⟨by decide, List.all_eq_true.1 (by decide)⟩)
      (.plain (Or.inr rfl) ⟨by decide, List.all_eq_true.1 (by decide)⟩)
  have hrefused : (spacing.verdict "1e").isValid = false := by decide +kernel
  obtain ⟨hvalid, _, _, _⟩ := kind_verdict_by_grammar (v := spacing) rfl "'.5'E03"
  obtain ⟨hiff, _, _, _⟩ := kind_verdict_by_grammar (v := spacing) rfl "1e"
  obtain ⟨_, _, htexts, _⟩ := kind_verdict_by_grammar (v := spacing) rfl " 1"
  obtain ⟨texts, hkind, hmessage, hsuggestion⟩ := htexts (by decide +kernel)
  cases hkind
  refine ⟨rfl, hnumber, hvalid.2 (Or.inr hnumber), hrefused, ?_, hmessage, hsuggestion⟩
  intro hdecimal
  rw [hiff.2 (Or.inr hdecimal)] at hrefused
  cases hrefused

end Variable

end InputDeck
