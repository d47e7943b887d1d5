import InputDeck.Proofs.Text.Line
import InputDeck.Proofs.Varinfo.Prose

/-!
# The records of a listing

While a listing is read, one record is open or none, and it is finished by the next record, by `END`
or by the end of the text. So every line that starts a record gives one record, and what is read
from the lines after such a line, or after an `END`, does not depend on the lines before: these are
only put in front. Every record is well formed, whatever the lines are.
-/

namespace InputDeck.Varinfo

open InputDeck.Text

/-! ## Lines that start a record -/

def recordName? (line : String) : Option String :=
  if startsWith "Variable " (trimmed line) then
    some (trimmed (String.ofList ((trimmed line).toList.drop "Variable ".length)))
  else none

theorem afterLead?_eq (lead cs : List Char) :
    afterLead? lead cs = if lead.isPrefixOf cs then some (cs.drop lead.length) else none := by
  fun_induction afterLead? lead cs with
  | case1 cs => rfl
  | case2 l ls => rfl
  | case3 l ls c cs heq ih =>
    rw [ih, List.isPrefixOf, heq, Bool.true_and]
    rfl
  | case4 l ls c cs hne =>
    rw [List.isPrefixOf, Bool.eq_false_iff.2 hne, Bool.false_and]
    rfl

theorem afterKeyword?_eq (keyword line : String) :
    afterKeyword? keyword line = if startsWith (keyword ++ " ") line then
      some (String.ofList (line.toList.drop (keyword ++ " ").length)) else none := by
  have hlead : (keyword ++ " ").toList = keyword.toList ++ [' '] := String.toList_append
  rw [afterKeyword?, afterLead?_eq, startsWith, ← hlead, String.length_toList]
  split <;> rfl

theorem recordName?_eq (line : String) :
    recordName? line = (afterKeyword? "Variable" (trimmed line)).map trimmed := by
  have hlead : "Variable" ++ " " = "Variable " := by decide
  rw [recordName?, afterKeyword?_eq, hlead]
  split <;> rfl

theorem recordName?_eq_some_iff {line name : String} :
    recordName? line = some name ↔ lineKind (trimmed line) = .record name := by
  rw [recordName?_eq, lineKind]
  cases afterKeyword? "Variable" (trimmed line) with
  | some rest => simp
  | none =>
    simp only [Option.map_none, reduceCtorEq, false_iff]
    split
    · simp
    · split <;> simp

theorem recordName?_eq_none {line : String} (h : ∀ name, lineKind (trimmed line) ≠ .record name) :
    recordName? line = none := by
  cases hname : recordName? line with
  | none => rfl
  | some name => exact absurd (recordName?_eq_some_iff.1 hname) (h name)

theorem lineKind_end {line : String} (h : trimmed line = "END") :
    lineKind (trimmed line) = .recordEnd := by
  rw [h]
  decide

/-! ## One record for each such line -/

namespace State

theorem map_name_records_map_current (s : State) {f : Draft → Draft}
    (hf : ∀ d : Draft, (f d).record.name = d.record.name) :
    (records { s with current := s.current.map f }).map Variable.name =
      s.records.map Variable.name := by
  obtain ⟨finished, current⟩ := s
  cases current with
  | none => rfl
  | some d => simp [records, hf]

theorem map_name_records_step (s : State) (line : String) :
    (s.step (trimmed line)).records.map Variable.name =
      s.records.map Variable.name ++ (recordName? line).toList := by
  rw [step]
  cases hkind : lineKind (trimmed line) with
  | record name =>
    rw [recordName?_eq_some_iff.2 hkind]
    exact List.map_append
  | recordEnd =>
    have hnone : recordName? line = none := recordName?_eq_none (by simp [hkind])
    rw [hnone, records]
    simp
  | option option? =>
    have hnone : recordName? line = none := recordName?_eq_none (by simp [hkind])
    rw [hnone, Option.toList_none, List.append_nil]
    exact s.map_name_records_map_current fun d => rfl
  | other =>
    have hnone : recordName? line = none := recordName?_eq_none (by simp [hkind])
    rw [hnone, Option.toList_none, List.append_nil]
    exact s.map_name_records_map_current fun d => (sameEntry_addLine d _).name

theorem map_name_records_run (s : State) (lines : List String) :
    (s.run lines).records.map Variable.name =
      s.records.map Variable.name ++ lines.filterMap recordName? := by
  induction lines generalizing s with
  | nil => exact (List.append_nil _).symm
  | cons line lines ih =>
    rw [run_cons, ih, map_name_records_step, List.append_assoc, List.filterMap_cons]
    cases recordName? line <;> rfl

/-! ## What was read before -/

def after (s : State) (older : List Variable) : State :=
  ⟨older ++ s.finished, s.current⟩

theorem records_after (s : State) (older : List Variable) :
    (s.after older).records = older ++ s.records :=
  List.append_assoc ..

theorem step_after (s : State) (older : List Variable) (line : String) :
    (s.after older).step line = (s.step line).after older := by
  rw [step, step, records_after]
  cases lineKind line <;> rfl

theorem run_after (s : State) (older : List Variable) (lines : List String) :
    (s.after older).run lines = (s.run lines).after older := by
  induction lines generalizing s with
  | nil => rfl
  | cons line lines ih => rw [run_cons, run_cons, step_after, ih]

/-- A line that starts a record finishes the one before, whatever was read of it. -/
theorem step_of_record (s : State) {line name : String} (h : lineKind line = .record name) :
    s.step line = (empty.step line).after s.records := by
  rw [step, step, h]
  simp [after, records, empty]

theorem run_concat_end (s : State) (lines : List String) {line : String}
    (h : trimmed line = "END") :
    s.run (lines ++ [line]) = empty.after (s.run lines).records := by
  rw [run_append, run_cons, step, lineKind_end h]
  simp [run, after, empty]

end State

theorem ofLines_eq_run (lines : List String) :
    ofLines lines = (State.empty.run lines).records := rfl

/-- Lines of a listing may be read in two pieces if the second one starts with a record or there is
nothing in it, or if the first one ends with `END`. -/
def Separable (a b : List String) : Prop :=
  b = [] ∨ (∃ line rest, b = line :: rest ∧ (recordName? line).isSome = true) ∨
    ∃ lines line, a = lines ++ [line] ∧ trimmed line = "END"

theorem ofLines_append {a b : List String} (h : Separable a b) :
    ofLines (a ++ b) = ofLines a ++ ofLines b := by
  rw [ofLines_eq_run, ofLines_eq_run, ofLines_eq_run, State.run_append]
  rcases h with rfl | ⟨line, rest, rfl, hline⟩ | ⟨lines, line, rfl, hend⟩
  · exact (List.append_nil _).symm
  · obtain ⟨name, hname⟩ := Option.isSome_iff_exists.1 hline
    have hkind := recordName?_eq_some_iff.1 hname
    rw [State.run_cons, State.run_cons, State.step_of_record _ hkind, State.run_after,
      State.records_after]
  · have hlast := State.run_concat_end State.empty lines hend
    rw [hlast, State.run_after, State.records_after, State.records_after]
    simp [State.records, State.empty]

/-! ## Lines and texts -/

def textOf (lines : List String) : String :=
  String.join (lines.map (· ++ "\n"))

theorem toList_textOf_cons (line : String) (lines : List String) :
    (textOf (line :: lines)).toList = line.toList ++ '\n' :: (textOf lines).toList := by
  simp [textOf]

/-- Blanks at the ends of a line make no difference. -/
theorem ofLines_congr {a b : List String} (h : a.map trimmed = b.map trimmed) :
    ofLines a = ofLines b := by
  have hfold : ∀ lines, ofLines lines = ((lines.map trimmed).foldl State.step .empty).records := by
    intro lines
    rw [List.foldl_map]
    rfl
  rw [hfold, hfold, h]

theorem trimmed_dropReturn (cs : List Char) :
    trimmed (String.ofList (dropReturn cs)) = trimmed (String.ofList cs) := by
  rw [dropReturn]
  split
  · next hlast =>
    have hpieces := List.dropLast_append_getLast? '\r' (eq_of_beq hlast)
    have hblank : AllBlank ['\r'] := by
      intro c hc
      rw [List.mem_singleton.1 hc]
      decide
    have htrim := trim_append_right hblank cs.dropLast
    rw [hpieces] at htrim
    rw [trimmed, trimmed, String.toList_ofList, String.toList_ofList, htrim]
  · rfl

theorem map_trimmed_fileLines_textOf {lines : List String}
    (h : ∀ line ∈ lines, '\n' ∉ line.toList) :
    (fileLines (textOf lines)).map trimmed = lines.map trimmed := by
  induction lines with
  | nil => rfl
  | cons line lines ih =>
    obtain ⟨hline, hlines⟩ := List.forall_mem_cons.1 h
    have hrest := ih hlines
    rw [fileLines] at hrest ⊢
    rw [toList_textOf_cons, linesWithFeed_append_feed hline, List.map_cons, List.map_cons,
      List.map_cons, withoutFeed_append_feed, trimmed_dropReturn, String.ofList_toList, hrest]

theorem read_textOf {lines : List String} (h : ∀ line ∈ lines, '\n' ∉ line.toList) :
    read (textOf lines) = ofLines lines :=
  ofLines_congr (map_trimmed_fileLines_textOf h)

/-! ## Well-formed records -/

def IsWord (s : String) : Prop :=
  s ≠ "" ∧ ∀ c ∈ s.toList, isBlank c = false

structure WellFormed (v : Variable) : Prop where
  name : Tight v.name.toList
  one_default : v.defaults.length ≤ 1
  default : ∀ s ∈ v.defaults, Tight s.toList
  description : ∀ line ∈ v.description, Tight line.toList ∧ line ≠ "END" ∧
    startsWith "Variable " line = false ∧ startsWith "Option " line = false
  options : ∀ o ∈ v.options, IsWord o.name ∧ IsWord o.value

theorem tight_trimmed_afterKeyword? {keyword line rest : String} (hline : Trimmed line)
    (h : afterKeyword? keyword line = some rest) : Tight (trimmed rest).toList := by
  have hblank := isBlankText_trimmed (isBlankText_afterKeyword? hline h)
  refine ⟨?_, trimmed_trimmed rest⟩
  intro hnil
  rw [isBlankText, hnil] at hblank
  cases hblank

theorem startsWith_eq_false {keyword line : String} (h : afterKeyword? keyword line = none) :
    startsWith (keyword ++ " ") line = false := by
  rw [afterKeyword?_eq] at h
  rw [Bool.eq_false_iff]
  intro hstarts
  rw [if_pos hstarts] at h
  cases h

theorem isWord_of_mem_words {cs word : List Char} (h : word ∈ words cs) :
    IsWord (String.ofList word) := by
  obtain ⟨hne, hchars⟩ := nonblank_of_mem_words h
  rw [IsWord, String.toList_ofList]
  refine ⟨?_, hchars⟩
  intro hempty
  exact hne (String.ofList_injective hempty)

theorem isWord_of_optionOf? {line : String} {o : VariableOption} (h : optionOf? line = some o) :
    IsWord o.name ∧ IsWord o.value := by
  rw [optionOf?] at h
  split at h
  · next first name value rest hwords =>
    cases h
    have hname : name ∈ words line.toList := by simp [hwords]
    have hvalue : value ∈ words line.toList := by simp [hwords]
    exact ⟨isWord_of_mem_words hname, isWord_of_mem_words hvalue⟩
  · cases h

theorem wellFormed_emptyVariable {name : String} (h : Tight name.toList) :
    WellFormed (emptyVariable name) where
  name := h
  one_default := Nat.zero_le 1
  default s hs := by cases hs
  description s hs := by cases hs
  options o ho := by cases ho

theorem wellFormed_addLine {d : Draft} (h : WellFormed d.record) {line : String}
    (hline : Trimmed line) (hother : lineKind line = .other) :
    WellFormed (d.addLine line).record := by
  obtain ⟨hrecord, hend, hoption⟩ := lineKind_eq_other_iff.1 hother
  rw [Draft.addLine]
  split
  · split
    · exact h
    · next hne =>
      refine { h with description := ?_ }
      intro s hs
      rcases List.mem_append.1 hs with hs | hs
      · exact h.description s hs
      · rw [List.mem_singleton.1 hs]
        refine ⟨⟨?_, hline⟩, hend, startsWith_eq_false hrecord, startsWith_eq_false hoption⟩
        intro hnil
        exact hne (beq_iff_eq.2 (String.toList_eq_nil_iff.1 hnil))
  · split
    · exact h
    · split
      · exact ⟨h.name, h.one_default, h.default, h.description, h.options⟩
      · split
        · next value hvalue =>
          refine ⟨h.name, Nat.le_refl 1, ?_, h.description, h.options⟩
          intro s hs
          rw [List.mem_singleton.1 hs]
          exact tight_trimmed_afterKeyword? hline hvalue
        · split
          · exact ⟨h.name, h.one_default, h.default, h.description, h.options⟩
          · exact h

theorem wellFormed_addOption {d : Draft} (h : WellFormed d.record) (line : String) :
    WellFormed (d.addOption (optionOf? line)).record := by
  refine { h with options := ?_ }
  intro o ho
  rcases List.mem_append.1 ho with ho | ho
  · exact h.options o ho
  · exact isWord_of_optionOf? (Option.mem_toList.1 ho)

theorem kept_wellFormed : Kept WellFormed where
  begun hline hkind := by
    obtain ⟨rest, hrest, rfl⟩ := exists_of_lineKind_eq_record hkind
    exact wellFormed_emptyVariable (tight_trimmed_afterKeyword? hline hrest)
  line hline hkind h := wellFormed_addLine h hline hkind
  option _ hkind h := by
    rw [eq_optionOf?_of_lineKind hkind]
    exact wellFormed_addOption h _

/-- A listing has one record for each line that starts one, in their order and with the name on that
line. Every record is well formed. Lines that may be read in two pieces give the records of the one
piece and then those of the other, and so do the texts that they make up. -/
theorem read_keeps_records_apart :
    (∀ text, (read text).map Variable.name = (fileLines text).filterMap recordName?) ∧
    (∀ text, ∀ v ∈ read text, WellFormed v) ∧
    (∀ a b, Separable a b → ofLines (a ++ b) = ofLines a ++ ofLines b) ∧
    ∀ a b : List String, (∀ line ∈ a ++ b, '\n' ∉ line.toList) → Separable a b →
      read (textOf (a ++ b)) = read (textOf a) ++ read (textOf b) := by
  refine ⟨?_, ?_, fun a b => ofLines_append, ?_⟩
  · intro text
    exact State.empty.map_name_records_run (fileLines text)
  · intro text v hv
    exact kept_wellFormed.of_mem_read hv
  · intro a b hlines hseparable
    rw [read_textOf hlines, read_textOf fun line h => hlines line (List.mem_append_left b h),
      read_textOf fun line h => hlines line (List.mem_append_right a h)]
    exact ofLines_append hseparable

def openLines : List String :=
  ["Option stray 1", " Variable  Axis", "Option x", "Option y\u30002 z", "Description", "An axis."]

def closedLines : List String :=
  ["Variable Grid\r", "Default  cartesian ", "END", " END", "Type float"]

theorem read_keeps_records_apart_openLines :
    (∀ line ∈ openLines ++ closedLines, '\n' ∉ line.toList) ∧ Separable openLines closedLines ∧
      read (textOf (openLines ++ closedLines)) =
        read (textOf openLines) ++ read (textOf closedLines) ∧
      (read (textOf openLines)).map Variable.name = ["Axis"] ∧
      ∃ v ∈ read (textOf openLines), v.options = [⟨"y", "2"⟩] ∧ WellFormed v := by
  have hlines : ∀ line ∈ openLines ++ closedLines, '\n' ∉ line.toList := by decide
  have hseparable : Separable openLines closedLines :=
    Or.inr (Or.inl ⟨"Variable Grid\r", closedLines.tail, rfl, by decide +kernel⟩)
  have hnames : (fileLines (textOf openLines)).filterMap recordName? = ["Axis"] := by
    decide +kernel
  obtain ⟨v, hv, hoptions⟩ : ∃ v ∈ read (textOf openLines), v.options = [⟨"y", "2"⟩] := by
    decide +kernel
  obtain ⟨hread, hformed, _, happend⟩ := read_keeps_records_apart
  exact ⟨hlines, hseparable, happend _ _ hlines hseparable, (hread _).trans hnames, v, hv, hoptions,
    hformed _ v hv⟩

end InputDeck.Varinfo
