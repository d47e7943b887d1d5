import InputDeck.Proofs.Finding
import InputDeck.Proofs.Statement.LetterCase
import InputDeck.Proofs.Verdict
import Mathlib.Data.List.Forall2

/-!
# Letter case in values and findings

Names, options, logical words, exponents, constants and functions are all compared without regard to
case, each in its own way. So whether a variable takes a value does not depend on the case of ASCII
letters, and a scan finds something at the same places whatever the case.
-/

namespace InputDeck

open InputDeck.Text
open InputDeck.Statement

/-! ## Computed values -/

namespace Expression

theorem isOperator_toLower (c : Char) : isOperator c.toLower = isOperator c :=
  toLower_congr (f := isOperator) (by decide) c

theorem isPairChar_toLower (c : Char) : isPairChar c.toLower = isPairChar c :=
  toLower_congr (f := isPairChar) (by decide) c

theorem anySuffix_map_toLower {test : Option Char → List Char → Bool}
    (h : ∀ before cs, test (before.map Char.toLower) (cs.map Char.toLower) = test before cs)
    (before : Option Char) (cs : List Char) :
    anySuffix test (before.map Char.toLower) (cs.map Char.toLower) = anySuffix test before cs := by
  induction cs generalizing before with
  | nil => exact h before []
  | cons c cs ih =>
    have htail := ih (some c)
    rw [List.map_cons, anySuffix, anySuffix, ← List.map_cons, h, ← Option.map_some, htail]

theorem any_map_toLower_option {p : Char → Bool} (hp : ∀ c, p c.toLower = p c)
    (before : Option Char) :
    (before.map Char.toLower).any p = before.any p := by
  simp only [Option.any_map, hp]

theorem head?_map_toLower_beq {d : Char} (hd : d.isAlpha = false) (cs : List Char) :
    ((cs.map Char.toLower).head? == some d) = (cs.head? == some d) := by
  cases cs with
  | nil => rfl
  | cons c cs => exact toLower_beq hd c

theorem startsWord_map_toLower (before : Option Char) :
    startsWord (before.map Char.toLower) = startsWord before := by
  rw [startsWord, startsWord, any_map_toLower_option isBoundaryWordChar_toLower]

theorem constantHere_map_toLower (before : Option Char) (cs : List Char) :
    constantHere (before.map Char.toLower) (cs.map Char.toLower) = constantHere before cs := by
  rw [constantHere, constantHere, startsWord_map_toLower]
  congr 2
  funext name
  rw [afterFolded?_map_toLower, Option.any_map]
  congr 1
  funext rest
  rw [List.head?_map, any_map_toLower_option isBoundaryWordChar_toLower]

theorem callHere_map_toLower (before : Option Char) (cs : List Char) :
    callHere (before.map Char.toLower) (cs.map Char.toLower) = callHere before cs := by
  rw [callHere, callHere, startsWord_map_toLower]
  congr 2
  funext name
  rw [afterFolded?_map_toLower, Option.any_map]
  congr 1
  funext rest
  rw [trimStart_map_toLower, head?_map_toLower_beq (by decide)]

theorem afterHalf?_map_toLower (cs : List Char) :
    afterHalf? (cs.map Char.toLower) = (afterHalf? cs).map (List.map Char.toLower) := by
  rw [afterHalf?, afterHalf?, trimStart_map_toLower, takeWhile_map_toLower isPairChar_toLower,
    dropWhile_map_toLower isPairChar_toLower, trimStart_map_toLower, List.isEmpty_map]
  split <;> rfl

theorem afterHalf?_bind_head?_beq (cs : List Char) :
    ((afterHalf? (cs.map Char.toLower)).bind List.head? == some '}') =
      ((afterHalf? cs).bind List.head? == some '}') := by
  rw [afterHalf?_map_toLower]
  cases afterHalf? cs with
  | none => rfl
  | some rest => exact head?_map_toLower_beq (by decide) rest

theorem pairHere_cons (c : Char) (inner : List Char) :
    pairHere (c :: inner) = (c == '{' && (afterHalf? inner).any fun rest =>
      rest.head? == some ',' && ((afterHalf? rest.tail).bind List.head? == some '}')) := by
  by_cases hc : c = '{'
  · rw [hc, pairHere]
    cases afterHalf? inner with
    | none => rfl
    | some rest =>
      cases rest with
      | nil => rfl
      | cons d second =>
        by_cases hd : d = ',' <;> simp [hd]
  · simp [pairHere, hc]

theorem pairHere_map_toLower (cs : List Char) : pairHere (cs.map Char.toLower) = pairHere cs := by
  cases cs with
  | nil => rfl
  | cons c inner =>
    rw [List.map_cons, pairHere_cons, pairHere_cons, toLower_beq (by decide),
      afterHalf?_map_toLower,
      Option.any_map]
    congr 2
    funext rest
    rw [head?_map_toLower_beq (by decide), ← List.map_tail, afterHalf?_bind_head?_beq]

theorem looksComputed_toLower (value : String) :
    looksComputed value.toLower = looksComputed value := by
  have hconstant := anySuffix_map_toLower constantHere_map_toLower none value.toList
  have hcall := anySuffix_map_toLower callHere_map_toLower none value.toList
  have hpair : anySuffix (fun _ => pairHere) none (value.toList.map Char.toLower) =
      anySuffix (fun _ => pairHere) none value.toList :=
    anySuffix_map_toLower (fun _ => pairHere_map_toLower) none value.toList
  rw [looksComputed, looksComputed, toList_toLower,
    any_map_toLower isOperator_toLower, ← hconstant, ← hcall, ← hpair]
  rfl

end Expression

/-! ## Numbers -/

namespace Value

theorem isQuote_toLower (c : Char) : isQuote c.toLower = isQuote c :=
  toLower_congr (f := isQuote) (by decide) c

theorem unquoted_map_toLower (cs : List Char) :
    unquoted (cs.map Char.toLower) = (unquoted cs).map Char.toLower :=
  filter_map_toLower (fun c => congrArg not (isQuote_toLower c)) cs

theorem isDigits_map_toLower (cs : List Char) : isDigits (cs.map Char.toLower) = isDigits cs := by
  rw [isDigits, isDigits, List.isEmpty_map, all_map_toLower isDigit_toLower]

theorem withoutMinus_map_toLower (cs : List Char) :
    withoutMinus (cs.map Char.toLower) = (withoutMinus cs).map Char.toLower := by
  cases cs with
  | nil => rfl
  | cons c cs =>
    by_cases hc : c = '-'
    · rw [hc]
      rfl
    · have hlower : c.toLower ≠ '-' := mt (toLower_eq_iff (by decide) c).1 hc
      simp [withoutMinus, hc, hlower]

theorem isInteger_map_toLower (cs : List Char) :
    isInteger (cs.map Char.toLower) = isInteger cs := by
  rw [isInteger, isInteger, withoutMinus_map_toLower, isDigits_map_toLower]

theorem afterMantissa?_map_toLower (cs : List Char) :
    afterMantissa? (cs.map Char.toLower) = (afterMantissa? cs).map (List.map Char.toLower) := by
  rw [afterMantissa?, afterMantissa?, takeWhile_map_toLower isDigit_toLower,
    dropWhile_map_toLower isDigit_toLower, List.isEmpty_map]
  generalize (cs.takeWhile Char.isDigit).isEmpty = bare
  cases cs.dropWhile Char.isDigit with
  | nil => cases bare <;> rfl
  | cons c rest =>
    by_cases hc : c = '.'
    · have hdot : Char.toLower '.' = '.' := rfl
      simp only [hc, List.map_cons, hdot, takeWhile_map_toLower isDigit_toLower,
        dropWhile_map_toLower isDigit_toLower, List.isEmpty_map]
      split <;> rfl
    · have hlower : c.toLower ≠ '.' := mt (toLower_eq_iff (by decide) c).1 hc
      cases bare <;> simp [hc, hlower]

theorem withoutSign_map_toLower (cs : List Char) :
    withoutSign (cs.map Char.toLower) = (withoutSign cs).map Char.toLower := by
  cases cs with
  | nil => rfl
  | cons c cs =>
    by_cases hplus : c = '+'
    · rw [hplus]
      rfl
    · by_cases hminus : c = '-'
      · rw [hminus]
        rfl
      · have hplus' : c.toLower ≠ '+' := mt (toLower_eq_iff (by decide) c).1 hplus
        have hminus' : c.toLower ≠ '-' := mt (toLower_eq_iff (by decide) c).1 hminus
        simp [withoutSign, hplus, hminus, hplus', hminus']

theorem isExponent_map_toLower (cs : List Char) :
    isExponent (cs.map Char.toLower) = isExponent cs := by
  cases cs with
  | nil => rfl
  | cons c cs =>
    have hletter : (c.toLower == 'e' || c.toLower == 'E') = (c == 'e' || c == 'E') :=
      toLower_congr (f := fun d => d == 'e' || d == 'E') (by decide) c
    rw [List.map_cons, isExponent, isExponent, hletter, withoutSign_map_toLower,
      isDigits_map_toLower]

theorem isDecimal_map_toLower (cs : List Char) :
    isDecimal (cs.map Char.toLower) = isDecimal cs := by
  rw [isDecimal, isDecimal, withoutMinus_map_toLower, afterMantissa?_map_toLower, Option.any_map]
  simp only [isExponent_map_toLower]

end Value

/-! ## Verdicts -/

theorem VariableKind.holds_map_toLower_iff (kind : VariableKind) (text : List Char) :
    kind.Holds (text.map Char.toLower) ↔ kind.Holds text := by
  cases kind with
  | integer =>
    rw [Holds, Holds, Value.isInteger_map_toLower]
  | float =>
    rw [Holds, Holds, Value.isDecimal_map_toLower, ofList_map_toLower,
      Expression.looksComputed_toLower]
  | logical =>
    rw [Holds, Holds, ofList_map_toLower, lowercased_toLower]
  | _ => exact Iff.rfl

namespace Variable

variable (v : Variable)

theorem lists_map_toLower_iff (text : List Char) :
    v.Lists (text.map Char.toLower) ↔ v.Lists text := by
  rw [Lists, Lists, lowercase_map_toLower]

/-- Whether a variable takes a value does not depend on case. -/
theorem verdict_toLower_eq_valid_iff (raw : String) :
    v.verdict raw.toLower = .valid ↔ v.verdict raw = .valid := by
  rw [verdict, verdict, toList_toLower, Value.unquoted_map_toLower]
  split
  · rw [kindVerdict_eq_valid_iff, kindVerdict_eq_valid_iff, VariableKind.holds_map_toLower_iff]
  · rw [optionVerdict_eq_valid_iff, optionVerdict_eq_valid_iff, splitAtEach_map_toLower (by decide),
      List.forall_mem_map]
    refine forall_congr' fun part => imp_congr_right fun _ => ?_
    rw [trim_map_toLower, lists_map_toLower_iff]

end Variable

/-! ## Findings -/

/-- The line of a finding and the columns between which the value stands. -/
def Finding.place (f : Finding) : Nat × Nat × Nat :=
  (f.line, f.startColumn, f.endColumn)

theorem Statement.Assignment.valueEnd_toLower (a : Assignment) :
    a.toLower.valueEnd = a.valueEnd := by
  have hlength : a.value.toLower.length = a.value.length := String.length_map
  rw [valueEnd, valueEnd, ← hlength]
  rfl

namespace Catalog

variable (c : Catalog)

theorem get?_toLower (name : String) : c.get? name.toLower = c.get? name := by
  rw [get?, get?, lowercased_toLower]

theorem map_place_findingOn? (index : Nat) (line : String) :
    (c.findingOn? index line).map Finding.place =
      (assignment? line).bind fun a => (c.get? a.name).bind fun v =>
        if v.verdict a.value = .valid then none else some (index, a.valueStart, a.valueEnd) := by
  rw [findingOn?]
  cases assignment? line with
  | none => rfl
  | some a =>
    simp only [Option.bind_some, verdict?]
    cases c.get? a.name with
    | none => rfl
    | some v =>
      simp only [Option.map_some, Option.bind_some]
      cases v.verdict a.value with
      | valid => rfl
      | invalid fault => rfl

theorem map_place_findingOn?_toLower (index : Nat) (line : String) :
    (c.findingOn? index line.toLower).map Finding.place =
      (c.findingOn? index line).map Finding.place := by
  rw [map_place_findingOn?, map_place_findingOn?, assignment?_toLower, Option.bind_map]
  congr 1
  funext a
  have hname : a.toLower.name = a.name.toLower := rfl
  have hvalue : a.toLower.value = a.value.toLower := rfl
  have hstart : a.toLower.valueStart = a.valueStart := rfl
  simp only [Function.comp_apply, hname, hvalue, hstart, get?_toLower, a.valueEnd_toLower,
    Variable.verdict_toLower_eq_valid_iff]

theorem map_place_scan_toLower (lines : List String) :
    (c.scan (lines.map String.toLower)).map Finding.place = (c.scan lines).map Finding.place := by
  rw [scan_eq, scan_eq, List.map_filterMap, List.map_filterMap, List.zipIdx_map, List.filterMap_map]
  congr 1
  funext p
  exact c.map_place_findingOn?_toLower p.2 p.1

/-- Letter case never moves a finding: on lines that differ in the case of ASCII letters only, a
scan finds something at the same places. -/
theorem scan_places_ignore_case {lines others : List String}
    (h : List.Forall₂ (fun line other => line.toLower = other.toLower) lines others) :
    (c.scan lines).map Finding.place = (c.scan others).map Finding.place := by
  have hlower : lines.map String.toLower = others.map String.toLower := by
    induction h with
    | nil => rfl
    | cons hline _ ih => rw [List.map_cons, List.map_cons, hline, ih]
  rw [← map_place_scan_toLower, hlower, map_place_scan_toLower]

def modeCatalog : Catalog :=
  .ofVariables "14.1"
    [⟨"Mode", .integer, [], "", [], [⟨"gs", "1"⟩, ⟨"abς", "2"⟩], none⟩,
      ⟨"Spacing", .float, [], "", [], [], none⟩]

def quietDeck : List String :=
  ["mode = gs + abΣ", "mode = abΣc", "spacing = 1e5", "spacing = 1e5x", "mode = ="]

def loudDeck : List String :=
  ["MODE = GS + ABΣ", "Mode = aBΣC", "SPACING = 1E5", "Spacing = 1E5X", "mOdE = ="]

theorem scan_places_ignore_case_loudDeck :
    List.Forall₂ (fun line other => line.toLower = other.toLower) quietDeck loudDeck ∧
      (modeCatalog.scan quietDeck).map Finding.place = [(1, 7, 11), (3, 10, 14), (4, 5, 6)] ∧
      (modeCatalog.scan loudDeck).map Finding.place = [(1, 7, 11), (3, 10, 14), (4, 5, 6)] := by
  have hsame : List.Forall₂ (fun line other => line.toLower = other.toLower)
      quietDeck loudDeck := by
    simp only [quietDeck, loudDeck, List.forall₂_cons, toLower_eq_toLower_iff]
    refine ⟨by decide, by decide, by decide, by decide, by decide, .nil⟩
  have hplaces : (modeCatalog.scan quietDeck).map Finding.place =
      [(1, 7, 11), (3, 10, 14), (4, 5, 6)] := by decide +kernel
  refine ⟨hsame, hplaces, ?_⟩
  rw [← modeCatalog.scan_places_ignore_case hsame, hplaces]

end Catalog

end InputDeck
