import InputDeck.Proofs.Varinfo

/-!
# Prose under an option

No record has a field for the text under its options. But a line of that text which looks like the
header of a record is taken for one, since after an option a record is read on as it was before its
description. `option_prose_effect` says which lines are passed over, whatever comes after them, and
that the others reach no further than the header and the description of their own record.
-/

namespace InputDeck.Varinfo

open InputDeck.Text

/-! ## Lines of a record -/

def LineKind.isInner : LineKind → Bool
  | record _ => false
  | recordEnd => false
  | option _ => true
  | other => true

def LineKind.isOption : LineKind → Bool
  | option _ => true
  | _ => false

theorem LineKind.eq_other_of_isInner {kind : LineKind} (h : kind.isInner = true)
    (hoption : kind.isOption = false) : kind = .other := by
  cases kind with
  | record name => cases h
  | recordEnd => cases h
  | option option? => cases hoption
  | other => rfl

theorem isInner_of_other {line : String} (h : lineKind line = .other) :
    (lineKind line).isInner = true := by
  rw [h, LineKind.isInner]

/-- The lines of a record so far end with an option and the prose under it. -/
def SinceOption (body prose : List String) : Prop :=
  ∃ head option, body = head ++ option :: prose ∧ (lineKind (trimmed option)).isOption = true ∧
    ∀ line ∈ prose, lineKind (trimmed line) = .other

/-- Below the first option of a record there is a last option above each place. -/
theorem exists_sinceOption {body : List String}
    (hbody : ∀ line ∈ body, (lineKind (trimmed line)).isInner = true)
    (hoption : ∃ line ∈ body, (lineKind (trimmed line)).isOption = true) :
    ∃ prose, SinceOption body prose := by
  induction body with
  | nil =>
    obtain ⟨line, hmem, _⟩ := hoption
    cases hmem
  | cons line body ih =>
    obtain ⟨_, hinner⟩ := List.forall_mem_cons.1 hbody
    by_cases hlater : ∃ later ∈ body, (lineKind (trimmed later)).isOption = true
    · obtain ⟨prose, head, option, rfl, hkind, hprose⟩ := ih hinner hlater
      exact ⟨prose, line :: head, option, rfl, hkind, hprose⟩
    · have hnone : ∀ later ∈ body, (lineKind (trimmed later)).isOption = false := by
        simpa using hlater
      have hkind : (lineKind (trimmed line)).isOption = true := by
        obtain ⟨option, hmem, hkind⟩ := hoption
        rcases List.mem_cons.1 hmem with rfl | hmem
        · exact hkind
        · exact absurd ⟨option, hmem, hkind⟩ hlater
      exact ⟨body, [], line, rfl, hkind, fun later hmem =>
        LineKind.eq_other_of_isInner (hinner later hmem) (hnone later hmem)⟩

theorem head?_of_afterKeyword? {keyword line rest : String}
    (h : afterKeyword? keyword line = some rest) :
    line.toList.head? = (keyword.toList ++ [' ']).head? := by
  obtain ⟨cs, hcs, _⟩ := Option.map_eq_some_iff.1 h
  rw [afterLead?_eq_some hcs]
  cases keyword.toList <;> rfl

/-- A line has no two keywords that begin with different letters. -/
theorem afterKeyword?_eq_none_of_head? {keyword other line rest : String}
    (h : afterKeyword? keyword line = some rest)
    (hne : (keyword.toList ++ [' ']).head? ≠ (other.toList ++ [' ']).head?) :
    afterKeyword? other line = none := by
  cases hother : afterKeyword? other line with
  | none => rfl
  | some rest' =>
    exact absurd ((head?_of_afterKeyword? h).symm.trans (head?_of_afterKeyword? hother)) hne

namespace Draft

/-- The line says nothing to the record: it is empty where a description goes on, and elsewhere it
neither begins one nor gives a type, a default or a section that the record does not have yet. -/
def Ignores (d : Draft) (line : String) : Prop :=
  if d.describing then line = ""
  else
    line ≠ "Description" ∧
      (∀ kind, afterKeyword? "Type" line = some kind → .ofName kind = d.record.kind) ∧
      (∀ value, afterKeyword? "Default" line = some value → [trimmed value] = d.record.defaults) ∧
      ∀ name, afterKeyword? "Section" line = some name → trimmed name = d.record.sectionName

theorem addLine_eq_self_iff {d : Draft} {line : String} : d.addLine line = d ↔ d.Ignores line := by
  obtain ⟨⟨name, kind, defaults, sectionName, description, options, link⟩, describing⟩ := d
  cases describing with
  | true =>
    by_cases hline : line = ""
    · simp [addLine, Ignores, hline]
    · simp [addLine, Ignores, hline]
  | false =>
    by_cases hline : line = "Description"
    · simp [addLine, Ignores, hline]
    cases hkind : afterKeyword? "Type" line with
    | some text =>
      have hdefault : afterKeyword? "Default" line = none :=
        afterKeyword?_eq_none_of_head? hkind (by decide)
      have hsection : afterKeyword? "Section" line = none :=
        afterKeyword?_eq_none_of_head? hkind (by decide)
      simp [addLine, Ignores, hline, hkind, hdefault, hsection]
    | none =>
      cases hdefault : afterKeyword? "Default" line with
      | some text =>
        have hsection : afterKeyword? "Section" line = none :=
          afterKeyword?_eq_none_of_head? hdefault (by decide)
        simp [addLine, Ignores, hline, hkind, hdefault, hsection]
      | none =>
        cases hsection : afterKeyword? "Section" line with
        | some text => simp [addLine, Ignores, hline, hkind, hdefault, hsection]
        | none => simp [addLine, Ignores, hline, hkind, hdefault, hsection]

theorem describing_addLine (d : Draft) (line : String) :
    (d.addLine line).describing = true ↔ d.describing = true ∨ line = "Description" := by
  rw [addLine]
  cases hd : d.describing with
  | true => by_cases hline : line = "" <;> simp [hline, hd]
  | false =>
    by_cases hline : line = "Description"
    · simp [hline]
    · simp only [Bool.false_eq_true, if_false, beq_iff_eq, hline, or_self, iff_false]
      split
      · simp
      · split
        · simp
        · split <;> simp [hd]

def next (d : Draft) (line : String) : Draft :=
  match lineKind line with
  | .option option? => d.addOption option?
  | _ => d.addLine line

theorem next_of_other (d : Draft) {line : String} (h : lineKind line = .other) :
    d.next line = d.addLine line := by
  rw [next, h]

theorem next_of_option (d : Draft) {line : String} {option? : Option VariableOption}
    (h : lineKind line = .option option?) : d.next line = d.addOption option? := by
  rw [next, h]

def run (d : Draft) (lines : List String) : Draft :=
  lines.foldl (fun d line => d.next (trimmed line)) d

theorem run_cons (d : Draft) (line : String) (lines : List String) :
    d.run (line :: lines) = (d.next (trimmed line)).run lines :=
  List.foldl_cons ..

theorem run_append (d : Draft) (lines more : List String) :
    d.run (lines ++ more) = (d.run lines).run more :=
  List.foldl_append

/-- A description goes on after some lines, none of them an option, if it did before or if it begins
on one of them. -/
theorem describing_run {lines : List String} (h : ∀ line ∈ lines, lineKind (trimmed line) = .other)
    (d : Draft) :
    (d.run lines).describing = true ↔ d.describing = true ∨ "Description" ∈ lines.map trimmed := by
  induction lines generalizing d with
  | nil => simp [run]
  | cons line lines ih =>
    obtain ⟨hline, hlines⟩ := List.forall_mem_cons.1 h
    rw [run_cons, d.next_of_other hline, ih hlines, describing_addLine, List.map_cons,
      List.mem_cons, or_assoc, eq_comm (b := trimmed line)]

/-- An option closes the description, so after it only a new one can go on. -/
theorem describing_run_of_sinceOption {body prose : List String} (h : SinceOption body prose)
    (d : Draft) : (d.run body).describing = true ↔ "Description" ∈ prose.map trimmed := by
  obtain ⟨head, option, rfl, hoption, hprose⟩ := h
  have hclosed : ((d.run head).next (trimmed option)).describing = false := by
    cases hkind : lineKind (trimmed option) with
    | option option? => rw [next_of_option _ hkind, addOption]
    | record name => simp [hkind, LineKind.isOption] at hoption
    | recordEnd => simp [hkind, LineKind.isOption] at hoption
    | other => simp [hkind, LineKind.isOption] at hoption
  rw [run_append, run_cons, describing_run hprose, hclosed]
  simp

/-- A word of prose tells whether a description goes on. -/
theorem addLine_text_record_iff (d : Draft) :
    (d.addLine "text").record = d.record ↔ d.describing = false := by
  have hkind : afterKeyword? "Type" "text" = none := by decide +kernel
  have hdefault : afterKeyword? "Default" "text" = none := by decide +kernel
  have hsection : afterKeyword? "Section" "text" = none := by decide +kernel
  obtain ⟨⟨name, kind, defaults, sectionName, description, options, link⟩, describing⟩ := d
  cases describing <;> simp [addLine, hkind, hdefault, hsection]

end Draft

/-! ## Reading on inside a record -/

namespace State

def run (s : State) (lines : List String) : State :=
  lines.foldl (fun s line => s.step (trimmed line)) s

theorem run_append (s : State) (lines more : List String) :
    s.run (lines ++ more) = (s.run lines).run more :=
  List.foldl_append

theorem run_cons (s : State) (line : String) (lines : List String) :
    s.run (line :: lines) = (s.step (trimmed line)).run lines :=
  List.foldl_cons ..

theorem step_of_isInner {line : String} (h : (lineKind line).isInner = true)
    (finished : List Variable) (d : Draft) :
    step ⟨finished, some d⟩ line = ⟨finished, some (d.next line)⟩ := by
  rw [step, Draft.next]
  cases hkind : lineKind line with
  | record name => simp [hkind, LineKind.isInner] at h
  | recordEnd => simp [hkind, LineKind.isInner] at h
  | option option? => rfl
  | other => rfl

theorem run_of_isInner {lines : List String}
    (h : ∀ line ∈ lines, (lineKind (trimmed line)).isInner = true) (finished : List Variable)
    (d : Draft) : run ⟨finished, some d⟩ lines = ⟨finished, some (d.run lines)⟩ := by
  induction lines generalizing d with
  | nil => rfl
  | cons line lines ih =>
    obtain ⟨hline, hlines⟩ := List.forall_mem_cons.1 h
    rw [run_cons, step_of_isInner hline, ih hlines, Draft.run_cons]

theorem records_run_text (finished : List Variable) (d : Draft) :
    (run ⟨finished, some d⟩ ["text"]).records = finished ++ [(d.addLine "text").record] := by
  have htrimmed : trimmed "text" = "text" := by decide +kernel
  have hother : lineKind "text" = .other := by decide +kernel
  rw [run_cons, htrimmed, step, hother]
  rfl

/-- Whatever differs in a record being read can be seen in what is read in the end. -/
theorem records_run_eq_iff {finished : List Variable} {d e : Draft} :
    (∀ rest, (run ⟨finished, some d⟩ rest).records = (run ⟨finished, some e⟩ rest).records) ↔
      d = e := by
  constructor
  · intro h
    have hrecord : d.record = e.record := by
      have hnil : finished ++ [d.record] = finished ++ [e.record] := h []
      exact List.singleton_inj.1 (List.append_cancel_left hnil)
    have htext : (d.addLine "text").record = (e.addLine "text").record := by
      have hrun := h ["text"]
      rw [records_run_text, records_run_text] at hrun
      exact List.singleton_inj.1 (List.append_cancel_left hrun)
    have hdescribing : d.describing = false ↔ e.describing = false := by
      rw [← d.addLine_text_record_iff, ← e.addLine_text_record_iff, htext, hrecord]
    obtain ⟨v, b⟩ := d
    obtain ⟨w, b'⟩ := e
    cases hrecord
    cases b <;> cases b' <;> simp_all
  · rintro rfl rest
    rfl

end State

/-- A record is read on from the records before it and its own lines. -/
theorem ofLines_record (older : List String) {body : List String} {start name : String}
    (hstart : lineKind (trimmed start) = .record name)
    (hbody : ∀ line ∈ body, (lineKind (trimmed line)).isInner = true) (rest : List String) :
    ofLines (older ++ start :: (body ++ rest)) =
      (State.run ⟨ofLines older, some (Draft.run ⟨emptyVariable name, false⟩ body)⟩
        rest).records := by
  have hfirst : (State.empty.run older).step (trimmed start) =
      ⟨ofLines older, some ⟨emptyVariable name, false⟩⟩ := by
    rw [State.step, hstart]
    rfl
  change (State.empty.run (older ++ start :: (body ++ rest))).records = _
  rw [State.run_append, State.run_cons, hfirst, State.run_append, State.run_of_isInner hbody]

/-! ## How far prose reaches -/

structure SameEntry (u w : Variable) : Prop where
  name : u.name = w.name
  options : u.options = w.options
  link : u.link = w.link

theorem SameEntry.symm {u w : Variable} (h : SameEntry u w) : SameEntry w u :=
  ⟨h.name.symm, h.options.symm, h.link.symm⟩

theorem SameEntry.trans {u v w : Variable} (h : SameEntry u v) (h' : SameEntry v w) :
    SameEntry u w :=
  ⟨h.name.trans h'.name, h.options.trans h'.options, h.link.trans h'.link⟩

theorem sameEntry_addLine (d : Draft) (line : String) :
    SameEntry (d.addLine line).record d.record := by
  rw [Draft.addLine]
  split
  · split <;> exact ⟨rfl, rfl, rfl⟩
  · split
    · exact ⟨rfl, rfl, rfl⟩
    · split
      · exact ⟨rfl, rfl, rfl⟩
      · split
        · exact ⟨rfl, rfl, rfl⟩
        · split <;> exact ⟨rfl, rfl, rfl⟩

theorem sameEntry_run {lines : List String}
    (h : ∀ line ∈ lines, lineKind (trimmed line) = .other) (d : Draft) :
    SameEntry (d.run lines).record d.record := by
  induction lines generalizing d with
  | nil => exact ⟨rfl, rfl, rfl⟩
  | cons line lines ih =>
    obtain ⟨hline, hlines⟩ := List.forall_mem_cons.1 h
    rw [Draft.run_cons, d.next_of_other hline]
    exact (ih hlines _).trans (sameEntry_addLine d (trimmed line))

/-- Two readings that differ in one record only, which is being read or finished. -/
inductive Apart (older : List Variable) : State → State → Prop where
  | inside {d e : Draft} (h : SameEntry d.record e.record) :
    Apart older ⟨older, some d⟩ ⟨older, some e⟩
  | past {u w : Variable} (h : SameEntry u w) (newer : List Variable) (current : Option Draft) :
    Apart older ⟨older ++ u :: newer, current⟩ ⟨older ++ w :: newer, current⟩

namespace Apart

variable {older : List Variable} {s t : State}

theorem records (h : Apart older s t) :
    ∃ u w newer, SameEntry u w ∧ s.records = older ++ u :: newer ∧
      t.records = older ++ w :: newer := by
  cases h with
  | inside h => exact ⟨_, _, [], h, rfl, rfl⟩
  | past h newer current =>
    exact ⟨_, _, newer ++ (current.map Draft.record).toList, h, List.append_assoc ..,
      List.append_assoc ..⟩

/-- Where a record is finished, two readings of it stay apart in it alone. -/
theorem finish (h : Apart older s t) (current : Option Draft) :
    Apart older ⟨s.records, current⟩ ⟨t.records, current⟩ := by
  obtain ⟨u, w, newer, hsame, hs, ht⟩ := h.records
  rw [hs, ht]
  exact past hsame newer current

theorem step (h : Apart older s t) (line : String) : Apart older (s.step line) (t.step line) := by
  rw [State.step, State.step]
  cases lineKind line with
  | record name => exact h.finish _
  | recordEnd => exact h.finish none
  | option option? =>
    cases h with
    | inside h =>
      refine inside ⟨h.name, ?_, h.link⟩
      exact congrArg (· ++ option?.toList) h.options
    | past h newer current => exact past h newer _
  | other =>
    cases h with
    | inside h =>
      exact inside ((sameEntry_addLine _ line).trans (h.trans (sameEntry_addLine _ line).symm))
    | past h newer current => exact past h newer _

theorem run (h : Apart older s t) (lines : List String) :
    Apart older (s.run lines) (t.run lines) := by
  induction lines generalizing s t with
  | nil => exact h
  | cons line lines ih =>
    rw [State.run_cons, State.run_cons]
    exact ih (h.step (trimmed line))

end Apart

/-- A line under an option is passed over, whatever comes after it, exactly if it says nothing to
the record: since the last option no description has begun and the line begins none nor gives
another type, default or section, or one has begun and the line is blank. Putting lines under an
option in place of others never changes another record, or the name, the options or the link of
this one. -/
theorem option_prose_effect (older : List String) {body : List String} {start name : String}
    (hstart : lineKind (trimmed start) = .record name)
    (hbody : ∀ line ∈ body, (lineKind (trimmed line)).isInner = true)
    (hoption : ∃ line ∈ body, (lineKind (trimmed line)).isOption = true) :
    ∃ d : Draft,
      (∃ prose, SinceOption body prose) ∧
      (∀ prose, SinceOption body prose →
        (d.describing = true ↔ "Description" ∈ prose.map trimmed)) ∧
      ofLines (older ++ start :: body) = ofLines older ++ [d.record] ∧
      (∀ line, lineKind (trimmed line) = .other →
        ((∀ rest, ofLines (older ++ start :: (body ++ line :: rest)) =
            ofLines (older ++ start :: (body ++ rest))) ↔
          d.Ignores (trimmed line))) ∧
      ∀ lines others rest, (∀ line ∈ lines, lineKind (trimmed line) = .other) →
        (∀ line ∈ others, lineKind (trimmed line) = .other) →
        ∃ u w newer, SameEntry u w ∧
          ofLines (older ++ start :: (body ++ (lines ++ rest))) = ofLines older ++ u :: newer ∧
          ofLines (older ++ start :: (body ++ (others ++ rest))) = ofLines older ++ w :: newer := by
  have hread := ofLines_record older hstart hbody
  generalize hd : Draft.run ⟨emptyVariable name, false⟩ body = d at hread
  refine ⟨d, exists_sinceOption hbody hoption, ?_, ?_, ?_, ?_⟩
  · intro prose hprose
    rw [← hd]
    exact Draft.describing_run_of_sinceOption hprose _
  · rw [← List.append_nil body, hread []]
    rfl
  · intro line hline
    have hstep : ∀ rest, ofLines (older ++ start :: (body ++ line :: rest)) =
        (State.run ⟨ofLines older, some (d.addLine (trimmed line))⟩ rest).records := by
      intro rest
      rw [hread, State.run_cons, State.step_of_isInner (isInner_of_other hline),
        d.next_of_other hline]
    simp only [hstep, hread]
    rw [State.records_run_eq_iff, Draft.addLine_eq_self_iff]
  · intro lines others rest hlines hothers
    have hsame : SameEntry (d.run lines).record (d.run others).record :=
      (sameEntry_run hlines d).trans (sameEntry_run hothers d).symm
    have hapart : Apart (ofLines older) ⟨ofLines older, some (d.run lines)⟩
        ⟨ofLines older, some (d.run others)⟩ := .inside hsame
    rw [hread, hread, State.run_append, State.run_append,
      State.run_of_isInner fun line hmem => isInner_of_other (hlines line hmem),
      State.run_of_isInner fun line hmem => isInner_of_other (hothers line hmem)]
    exact (hapart.run rest).records

def gridBody : List String :=
  ["Type integer", "Default cartesian", "Section Mesh", "Description", "The grid.",
    "Option cartesian 1"]

theorem option_prose_effect_grid :
    (∀ rest, ofLines ("Variable Grid" :: (gridBody ++ "Equal spacing." :: rest)) =
      ofLines ("Variable Grid" :: (gridBody ++ rest))) ∧
    ¬ ∀ rest, ofLines ("Variable Grid" :: (gridBody ++ "Type of grid." :: rest)) =
      ofLines ("Variable Grid" :: (gridBody ++ rest)) := by
  have hstart : lineKind (trimmed "Variable Grid") = .record "Grid" := by decide +kernel
  have hbody : ∀ line ∈ gridBody, (lineKind (trimmed line)).isInner = true := by decide +kernel
  have hoption : ∃ line ∈ gridBody, (lineKind (trimmed line)).isOption = true := by decide +kernel
  have hsince : SinceOption gridBody [] :=
    ⟨gridBody.dropLast, "Option cartesian 1", rfl, by decide +kernel, by simp⟩
  obtain ⟨d, _, hdescribing, hrecord, hignores, _⟩ := option_prose_effect [] hstart hbody hoption
  have hheader : d.describing = false := by simpa using hdescribing [] hsince
  have hkind : d.record.kind = .integer := by
    have hkinds : (ofLines ("Variable Grid" :: gridBody)).map Variable.kind = [.integer] := by
      decide +kernel
    rw [List.nil_append] at hrecord
    rw [hrecord] at hkinds
    exact List.singleton_inj.1 hkinds
  constructor
  · apply (hignores "Equal spacing." (by decide +kernel)).2
    rw [Draft.Ignores, hheader, show trimmed "Equal spacing." = "Equal spacing." by decide +kernel,
      show afterKeyword? "Type" "Equal spacing." = none by decide +kernel,
      show afterKeyword? "Default" "Equal spacing." = none by decide +kernel,
      show afterKeyword? "Section" "Equal spacing." = none by decide +kernel]
    simp
  · intro h
    have hsays := (hignores "Type of grid." (by decide +kernel)).1 h
    rw [Draft.Ignores, hheader, if_neg Bool.false_ne_true, hkind] at hsays
    have hother : VariableKind.ofName "of grid." = .integer :=
      hsays.2.1 "of grid." (by decide +kernel)
    revert hother
    decide +kernel

/-- The sentence under an option becomes the type of the variable. -/
theorem option_prose_taken_for_type :
    (read ("Variable Grid\nType integer\nDefault cartesian\nSection Mesh\nDescription\n" ++
        "The grid.\nOption cartesian 1\nType of grid with equal spacing.\nEND\n")).map
          Variable.kind = [.other "of grid with equal spacing."] ∧
      (read ("Variable Grid\nType integer\nDefault cartesian\nSection Mesh\nDescription\n" ++
        "The grid.\nOption cartesian 1\nEND\n")).map Variable.kind = [.integer] := by
  decide +kernel

end InputDeck.Varinfo
