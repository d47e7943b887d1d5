import InputDeck.Proofs.Catalog.DataFile
import InputDeck.Varinfo

/-!
# Listings and data files

Every record that a listing yields is storable: a line loses its blanks before it is looked at, so
what follows a keyword on it is not blank. Going from a listing to a catalog through a data file is
then the same as going there directly, up to names that differ in letter case only.
-/

namespace InputDeck.Varinfo

open InputDeck.Text

/-! ## Lines -/

theorem afterLead?_eq_some {lead cs rest : List Char} (h : afterLead? lead cs = some rest) :
    cs = lead ++ rest := by
  fun_induction afterLead? lead cs with
  | case1 cs => exact Option.some.inj h
  | case2 => cases h
  | case3 l ls c cs heq ih => rw [eq_of_beq heq, ih h, List.cons_append]
  | case4 => cases h

def Trimmed (line : String) : Prop :=
  trim line.toList = line.toList

theorem trimmed_trimmed (s : String) : Trimmed (trimmed s) := by
  rw [Trimmed, trimmed, String.toList_ofList, trim_trim]

theorem Trimmed.isBlankText {line : String} (h : Trimmed line) (hne : line ≠ "") :
    isBlankText line = false := by
  rw [Bool.eq_false_iff]
  intro hblank
  rw [Trimmed, trim_eq_nil_iff.2 (isBlankText_iff.1 hblank)] at h
  exact hne (String.toList_eq_nil_iff.1 h.symm)

theorem isBlankText_trimmed {s : String} (h : isBlankText s = false) :
    isBlankText (trimmed s) = false := by
  apply (trimmed_trimmed s).isBlankText
  intro hempty
  have hnil : trim s.toList = [] := by
    rw [← String.toList_ofList (l := trim s.toList)]
    exact congrArg String.toList hempty
  rw [isBlankText_iff.2 (trim_eq_nil_iff.1 hnil)] at h
  cases h

/-- What follows a keyword on a line is not blank. -/
theorem isBlankText_afterKeyword? {keyword line rest : String} (hline : Trimmed line)
    (h : afterKeyword? keyword line = some rest) : isBlankText rest = false := by
  obtain ⟨cs, hcs, rfl⟩ := Option.map_eq_some_iff.1 h
  have hpieces := afterLead?_eq_some hcs
  rw [List.append_assoc, List.singleton_append] at hpieces
  rw [Bool.eq_false_iff]
  intro hblank
  rw [isBlankText_iff, String.toList_ofList] at hblank
  have htight : Tight (keyword.toList ++ ' ' :: cs) := by
    rw [← hpieces]
    refine ⟨?_, hline⟩
    rw [hpieces]
    simp
  have hspace : AllBlank (' ' :: cs) := by
    intro c hc
    rcases List.mem_cons.1 hc with rfl | hc
    · decide
    · exact hblank c hc
  cases htight.eq_nil_of_append hspace

/-! ## Records -/

theorem ofName_trimmed (s : String) : VariableKind.ofName (trimmed s) = VariableKind.ofName s := by
  have htrimmed : trimmed (trimmed s) = trimmed s := by
    rw [trimmed, trimmed_trimmed s, String.ofList_toList]
  simp only [VariableKind.ofName, htrimmed]

/-- A kind is read back from its name. -/
theorem ofName_name_ofName (s : String) :
    VariableKind.ofName (VariableKind.ofName s).name = VariableKind.ofName s := by
  cases h : VariableKind.ofName s with
  | other name =>
    have hname : name = trimmed s := by
      rw [VariableKind.ofName] at h
      split at h <;> cases h
      rfl
    rw [VariableKind.name, hname, ofName_trimmed, h, hname]
  | integer => decide +kernel
  | float => decide +kernel
  | logical => decide +kernel
  | string => decide +kernel
  | block => decide +kernel
  | flag => decide +kernel

theorem ofName_empty : VariableKind.ofName "" = .other "" := by decide +kernel

theorem storable_emptyVariable {name : String} (h : isBlankText name = false) :
    (emptyVariable name).Storable where
  name := h
  kind := ofName_empty
  defaults s hs := by cases hs
  description s hs := by cases hs
  link := rfl

theorem Draft.storable_addLine {d : Draft} (h : d.record.Storable) {line : String}
    (hline : Trimmed line) : (d.addLine line).record.Storable := by
  rw [addLine]
  split
  · split
    · exact h
    · next hne =>
      refine { h with description := ?_ }
      intro s hs
      rcases List.mem_append.1 hs with hs | hs
      · exact h.description s hs
      · rw [List.mem_singleton.1 hs]
        exact hline.isBlankText (by simpa using hne)
  · split
    · exact h
    · split
      · next kind _ =>
        have hkind := ofName_name_ofName kind
        generalize VariableKind.ofName kind = k at hkind ⊢
        exact { h with kind := hkind }
      · split
        · next value hvalue =>
          refine { h with defaults := ?_ }
          intro s hs
          rw [List.mem_singleton.1 hs]
          exact isBlankText_trimmed (isBlankText_afterKeyword? hline hvalue)
        · split
          · exact { h with }
          · exact h

theorem Draft.storable_addOption {d : Draft} (h : d.record.Storable)
    (option? : Option VariableOption) : (d.addOption option?).record.Storable :=
  { h with }

/-! ## Kinds of lines -/

theorem exists_of_lineKind_eq_record {line name : String} (h : lineKind line = .record name) :
    ∃ rest, afterKeyword? "Variable" line = some rest ∧ name = trimmed rest := by
  rw [lineKind] at h
  split at h
  · next rest hrest => exact ⟨rest, hrest, (LineKind.record.inj h).symm⟩
  · split at h
    · cases h
    · split at h <;> cases h

theorem eq_optionOf?_of_lineKind {line : String} {option? : Option VariableOption}
    (h : lineKind line = .option option?) : option? = optionOf? line := by
  rw [lineKind] at h
  split at h
  · cases h
  · split at h
    · cases h
    · split at h
      · exact (LineKind.option.inj h).symm
      · cases h

theorem lineKind_eq_other_iff {line : String} :
    lineKind line = .other ↔ afterKeyword? "Variable" line = none ∧ line ≠ "END" ∧
      afterKeyword? "Option" line = none := by
  rw [lineKind]
  cases afterKeyword? "Variable" line with
  | some rest => simp
  | none => by_cases hend : line = "END" <;> cases afterKeyword? "Option" line <;> simp [hend]

/-! ## Whole listings -/

/-- The property holds of a record that has just begun and is kept by all lines of a record. -/
structure Kept (P : Variable → Prop) : Prop where
  begun : ∀ {line name : String}, Trimmed line → lineKind line = .record name →
    P (emptyVariable name)
  line : ∀ {d : Draft} {line : String}, Trimmed line → lineKind line = .other → P d.record →
    P (d.addLine line).record
  option : ∀ {d : Draft} {line : String} {option? : Option VariableOption}, Trimmed line →
    lineKind line = .option option? → P d.record → P (d.addOption option?).record

namespace State

variable {P : Variable → Prop}

theorem forall_records_map_current {s : State} (h : ∀ v ∈ s.records, P v) {f : Draft → Draft}
    (hf : ∀ d : Draft, P d.record → P (f d).record) :
    ∀ v ∈ records { s with current := s.current.map f }, P v := by
  obtain ⟨finished, current⟩ := s
  cases current with
  | none => exact h
  | some d =>
    intro v hv
    rcases List.mem_append.1 hv with hv | hv
    · exact h v (List.mem_append_left _ hv)
    · rw [List.mem_singleton.1 hv]
      exact hf d (h d.record (List.mem_append_right _ List.mem_cons_self))

theorem forall_records_step (hP : Kept P) {s : State} (h : ∀ v ∈ s.records, P v) {line : String}
    (hline : Trimmed line) : ∀ v ∈ (s.step line).records, P v := by
  rw [step]
  cases hkind : lineKind line with
  | record name =>
    intro v hv
    rcases List.mem_append.1 hv with hv | hv
    · exact h v hv
    · rw [List.mem_singleton.1 hv]
      exact hP.begun hline hkind
  | recordEnd =>
    intro v hv
    rcases List.mem_append.1 hv with hv | hv
    · exact h v hv
    · cases hv
  | option option? => exact forall_records_map_current h fun d hd => hP.option hline hkind hd
  | other => exact forall_records_map_current h fun d hd => hP.line hline hkind hd

theorem forall_records_foldl_step (hP : Kept P) {s : State} (h : ∀ v ∈ s.records, P v)
    (lines : List String) :
    ∀ v ∈ (lines.foldl (fun s line => s.step (trimmed line)) s).records, P v := by
  induction lines generalizing s with
  | nil => exact h
  | cons line lines ih =>
    rw [List.foldl_cons]
    exact ih (forall_records_step hP h (trimmed_trimmed line))

end State

/-- What every line of a record keeps holds of all records of a listing. -/
theorem Kept.of_mem_read {P : Variable → Prop} (hP : Kept P) {text : String} {v : Variable}
    (h : v ∈ read text) : P v := by
  rw [read, ofLines] at h
  refine State.forall_records_foldl_step hP ?_ (fileLines text) v h
  intro w hw
  cases hw

theorem kept_storable : Kept Variable.Storable where
  begun hline hkind := by
    obtain ⟨rest, hrest, rfl⟩ := exists_of_lineKind_eq_record hkind
    exact storable_emptyVariable (isBlankText_trimmed (isBlankText_afterKeyword? hline hrest))
  line hline _ h := Draft.storable_addLine h hline
  option _ _ h := Draft.storable_addOption h _

/-- The data file of a listing is always read back. The catalog has one variable for each name in
lower case, and if these keep all names apart it is the catalog of the listing itself. -/
theorem read?_dataFile_read (version text : String) :
    ∃ c, Catalog.read? version (Catalog.dataFile (read text)) = some c ∧
      c.size = ((read text).map Variable.key).dedup.length ∧
      ((∀ u ∈ read text, ∀ w ∈ read text, u.key = w.key → u.name = w.name) →
        c = Catalog.ofVariables version (read text)) := by
  refine ⟨_, Catalog.read?_dataFile version fun _ => kept_storable.of_mem_read, ?_, ?_⟩
  · rw [Catalog.size_ofVariables, Catalog.length_dedup_congr (Catalog.mem_keys_byName_iff _)]
  · intro h
    exact Catalog.ofVariables_byName h version

def sampleListing : String :=
  "Variable Spin\nDefault \"\x01\\\nOption up 1\nEND\nVariable Spin\nType flag\nDescription\nA\tb."

theorem read?_dataFile_read_sample :
    (read sampleListing).map Variable.name = ["Spin", "Spin"] ∧
      (∀ u ∈ read sampleListing, ∀ w ∈ read sampleListing, u.key = w.key → u.name = w.name) ∧
      ∃ c, Catalog.read? "14.1" (Catalog.dataFile (read sampleListing)) = some c ∧
        c.size = ((read sampleListing).map Variable.key).dedup.length ∧
        c = Catalog.ofVariables "14.1" (read sampleListing) := by
  have hnames : (read sampleListing).map Variable.name = ["Spin", "Spin"] := by decide +kernel
  have hname : ∀ v ∈ read sampleListing, v.name = "Spin" := by
    intro v hv
    have hmem := List.mem_map_of_mem (f := Variable.name) hv
    rw [hnames] at hmem
    simpa using hmem
  have happart : ∀ u ∈ read sampleListing, ∀ w ∈ read sampleListing,
      u.key = w.key → u.name = w.name := by
    intro u hu w hw _
    rw [hname u hu, hname w hw]
  obtain ⟨c, hread, hsize, heq⟩ := read?_dataFile_read "14.1" sampleListing
  exact ⟨hnames, happart, c, hread, hsize, heq happart⟩

end InputDeck.Varinfo
