import InputDeck.Catalog.Load
import InputDeck.Editor.Completion
import InputDeck.Proofs.Catalog.DataFile
import InputDeck.Proofs.Editor.Fix
import InputDeck.Proofs.Finding
import InputDeck.Proofs.Verdict

/-!
# What completion offers and what a variable takes

Behind `Name = ` the options of the variable are offered, its default, and words if it is logical.
An option can be taken if its name is of one piece, and so can the words if the variable has no
options. The default comes from the data as it is: where the data gives a default that is none of
the options, choosing it makes a finding. The bundled catalogs have three such defaults.
-/

namespace InputDeck.Editor

open InputDeck.Text
open InputDeck.Statement

/-! ## What is offered -/

theorem unfinished?_equals {name : String} (hname : isName name.toList = true) :
    unfinished? (name ++ " = ") = some (name, "") := by
  have hsplit : splitAssignment? (name ++ " = ").toList = some (name.toList, [' ']) := by
    refine splitAssignment?_eq_some_iff.2 ⟨[], [' '], allBlank_nil, hname, ?_, ?_⟩
    · intro c hc
      rw [List.mem_singleton.1 hc]
      rfl
    · rw [String.toList_append]
      rfl
  rw [unfinished?, hsplit]
  exact congrArg (fun s => some (s, "")) String.ofList_toList

theorem completions_equals {c : Catalog} {name : String} {v : Variable}
    (hname : isName name.toList = true) (hv : c.get? name = some v) :
    completions c (name ++ " = ") = valueCompletions v := by
  rw [completions, unfinished?_equals hname]
  dsimp only
  rw [hv]

theorem insertion_valueCompletions (v : Variable) :
    (valueCompletions v).map Completion.insertion =
      v.optionNames ++ v.firstDefault?.toList ++
        (if v.kind = .logical then logicalWords else []) := by
  have hvalue : ∀ detail about, Completion.insertion ∘ (Completion.value v · detail about) = id :=
    fun _ _ => rfl
  rw [valueCompletions, List.map_append, List.map_append, List.map_map, List.map_map, hvalue,
    List.map_id]
  congr 1
  split
  · rw [List.map_map, hvalue, List.map_id]
  · rfl

theorem exists_offer_of_default {c : Catalog} {name text : String} {v : Variable}
    (hname : isName name.toList = true) (hv : c.get? name = some v)
    (htext : v.firstDefault? = some text) :
    ∃ item ∈ completions c (name ++ " = "), item.insertion = text := by
  rw [← List.mem_map, completions_equals hname hv, insertion_valueCompletions, htext]
  simp

theorem undivided_of_mem_logicalWords {word : String} (h : word ∈ logicalWords) :
    Variable.Undivided word := by
  revert word
  decide

theorem holds_of_mem_logicalWords {word : String} (h : word ∈ logicalWords) :
    VariableKind.logical.Holds (Value.unquoted word.toList) := by
  have hwords : ∀ w ∈ logicalWords,
      lowercased (String.ofList (Value.unquoted w.toList)) ∈ Value.logicalWords := by decide +kernel
  exact hwords word h

/-- A word for a logical value is taken where the variable has no options, or has it as one. -/
theorem takes_logicalWord_iff {v : Variable} (hkind : v.kind = .logical) {word : String}
    (hword : word ∈ logicalWords) : v.Takes word ↔ v.options = [] ∨ v.Lists word.toList := by
  by_cases hoptions : v.options = []
  · have htakes : v.Takes word := by
      refine .kind hoptions ?_
      rw [hkind]
      exact holds_of_mem_logicalWords hword
    exact ⟨fun _ => Or.inl hoptions, fun _ => htakes⟩
  · rw [Variable.takes_iff_of_undivided (undivided_of_mem_logicalWords hword) hoptions]
    exact ⟨Or.inr, fun h => h.resolve_left hoptions⟩

/-! ## Choosing an offer -/

theorem assignment?_chosen {name text : String} (hname : isName name.toList = true)
    (htext : Plain text) :
    ∃ a, assignment? (name ++ " = " ++ text) = some a ∧ a.name = name ∧ a.value = text := by
  have hblank : AllBlank [' '] := by
    intro c hc
    rw [List.mem_singleton.1 hc]
    rfl
  let l : Layout :=
    { lead := [], name := name.toList, gap := [' '], pad := [' '], value := text.toList, fill := [],
      comment := [], lead_blank := allBlank_nil, isName_name := hname, gap_blank := hblank,
      pad_blank := hblank, trim_value := htext.1.2, value_uncommented := htext.hash_not_mem,
      fill_blank := allBlank_nil, comment_head := by simp, tail_ne_nil := by simp }
  have hline : l.text = (name ++ " = " ++ text).toList := by
    simp [l, Layout.text, Layout.tail, String.toList_append]
  have hfeed : '\n' ∉ (name ++ " = " ++ text).toList := by
    simp only [String.toList_append, List.mem_append, not_or]
    refine ⟨⟨?_, by decide⟩, htext.unbroken.feed_not_mem⟩
    intro hmem
    have hchar := isNameChar_of_mem hname hmem
    cases hchar
  refine ⟨l.located, (assignment?_eq_some_iff hfeed).2 ⟨l, hline, rfl⟩, ?_, ?_⟩
  · exact String.ofList_toList
  · exact String.ofList_toList

/-- The line that comes about has a finding exactly if the variable does not take the text. -/
theorem scan_chosen_eq_nil_iff {c : Catalog} {name text : String} {v : Variable}
    (hname : isName name.toList = true) (hv : c.get? name = some v) (htext : Plain text) :
    c.scan [name ++ " = " ++ text] = [] ↔ v.Takes text := by
  obtain ⟨a, ha, rfl, rfl⟩ := assignment?_chosen hname htext
  rw [← Variable.verdict_eq_valid_iff, List.eq_nil_iff_forall_not_mem]
  constructor
  · intro hnone
    by_contra hinvalid
    have hrefuses : c.Refuses (a.name ++ " = " ++ a.value) a v :=
      ⟨ha, hv, Verdict.isValid_eq_false_iff.2 hinvalid⟩
    exact hnone ⟨0, a.valueStart, a.valueEnd, (v.verdict a.value).fullMessage⟩
      (c.mem_scan_iff.2 ⟨_, a, v, rfl, hrefuses, rfl⟩)
  · intro hvalid f hf
    obtain ⟨line, b, w, hline, hrefuses, _⟩ := c.mem_scan_iff.1 hf
    obtain rfl := List.mem_singleton.1 (List.mem_of_getElem? hline)
    obtain rfl : a = b := Option.some.inj (ha.symm.trans hrefuses.reads)
    obtain rfl : v = w := Option.some.inj (hv.symm.trans hrefuses.known)
    exact Verdict.isValid_eq_false_iff.1 hrefuses.refused hvalid

/-! ## Data that agree -/

/-- The options and the default of a variable go together, but for the default if it is one of the
strays, given with the names of their variables. -/
def Agrees (strays : List (String × String)) (v : Variable) : Prop :=
  isName v.name.toList = true ∧
    (∀ o ∈ v.options, Variable.Undivided o.name) ∧
    (v.kind = .logical → v.options = []) ∧
    (∀ text ∈ v.firstDefault?.toList, v.verdict text = .valid ∨ (v.name, text) ∈ strays) ∧
    ∀ p ∈ strays, p.1 = v.name → v.verdict p.2 ≠ .valid

instance (strays : List (String × String)) (v : Variable) : Decidable (Agrees strays v) :=
  inferInstanceAs (Decidable (_ ∧ _ ∧ _ ∧ _ ∧ _))

/-- Of all that is offered for the variables of such data, the strays alone are not taken. -/
theorem verdict?_offer_iff {version : String} {vs : List Variable}
    {strays : List (String × String)} (h : ∀ v ∈ vs, Agrees strays v) {v : Variable}
    (hv : v ∈ (Catalog.ofVariables version vs).toList) {item : Completion}
    (hitem : item ∈ completions (.ofVariables version vs) (v.name ++ " = ")) :
    (Catalog.ofVariables version vs).verdict? v.name item.insertion = some .valid ↔
      (v.name, item.insertion) ∉ strays := by
  have hget := Catalog.mem_toList_ofVariables_iff.1 hv
  obtain ⟨hname, hoptions, hlogical, hdefault, hstrays⟩ :=
    h v (Catalog.mem_of_get?_ofVariables hget)
  rw [Catalog.verdict?_eq_valid_iff hget]
  constructor
  · intro htakes hstray
    exact hstrays _ hstray rfl (Variable.verdict_eq_valid_iff.2 htakes)
  · intro hstray
    -- An offer is an option, the default or a word, and the data agree on each of them.
    have hoffer := List.mem_map_of_mem (f := Completion.insertion) hitem
    rw [completions_equals hname hget, insertion_valueCompletions, List.mem_append,
      List.mem_append, or_assoc] at hoffer
    rcases hoffer with hoption | hfirst | hword
    · obtain ⟨o, ho, hname'⟩ := List.mem_map.1 hoption
      rw [← hname']
      exact Variable.takes_option ho (hoptions o ho)
    · exact Variable.verdict_eq_valid_iff.1 ((hdefault _ hfirst).resolve_right hstray)
    · split at hword
      · next hkind => exact (takes_logicalWord_iff hkind hword).2 (Or.inl (hlogical hkind))
      · cases hword

def strays141 : List (String × String) :=
  [("Debug", "no"), ("Output", "none"), ("OutputFormat", "0")]

def strays162 : List (String × String) :=
  [("Debug", "no"), ("OutputFormat", "0")]

theorem agrees_release141 : ∀ v ∈ Catalog.release141, Agrees strays141 v := by
  decide +kernel

theorem agrees_release162 : ∀ v ∈ Catalog.release162, Agrees strays162 v := by
  decide +kernel

/-! ## All offers -/

/-- What is offered behind the equals sign, and what of it the variable takes. An option whose name
cannot be taken apart is taken, and a word for a logical value unless the variable has options and
the word is none of them. Whether the default is taken is a matter of the data. Choosing an offer
that can stand as a value makes no finding exactly if it is taken. In the bundled catalogs all
offers are taken but the strays. -/
theorem offers_taken_but_strays :
    (∀ (c : Catalog) (name : String) (v : Variable),
      isName name.toList = true → c.get? name = some v →
      (completions c (name ++ " = ")).map Completion.insertion =
        v.optionNames ++ v.firstDefault?.toList ++
          (if v.kind = .logical then logicalWords else []) ∧
      (∀ text, c.verdict? name text = some .valid ↔ v.Takes text) ∧
      (∀ o ∈ v.options, Variable.Undivided o.name → v.Takes o.name) ∧
      (v.kind = .logical → ∀ word ∈ logicalWords,
        (v.Takes word ↔ v.options = [] ∨ v.Lists word.toList)) ∧
      ∀ item ∈ completions c (name ++ " = "), Plain item.insertion →
        (c.scan [name ++ " = " ++ item.insertion] = [] ↔ v.Takes item.insertion)) ∧
    (∀ v ∈ Catalog.bundled141.toList,
      ∀ item ∈ completions Catalog.bundled141 (v.name ++ " = "),
        (Catalog.bundled141.verdict? v.name item.insertion = some .valid ↔
          (v.name, item.insertion) ∉ strays141)) ∧
    ∀ v ∈ Catalog.bundled162.toList,
      ∀ item ∈ completions Catalog.bundled162 (v.name ++ " = "),
        (Catalog.bundled162.verdict? v.name item.insertion = some .valid ↔
          (v.name, item.insertion) ∉ strays162) := by
  refine ⟨?_, ?_, ?_⟩
  · intro c name v hname hv
    refine ⟨?_, ?_, ?_, ?_, ?_⟩
    · rw [completions_equals hname hv, insertion_valueCompletions]
    · exact fun text => Catalog.verdict?_eq_valid_iff hv
    · exact fun o ho hundivided => Variable.takes_option ho hundivided
    · exact fun hkind word hword => takes_logicalWord_iff hkind hword
    · exact fun item _ hplain => scan_chosen_eq_nil_iff hname hv hplain
  · exact fun v hv item hitem => verdict?_offer_iff agrees_release141 hv hitem
  · exact fun v hv item hitem => verdict?_offer_iff agrees_release162 hv hitem

def mixing : Variable :=
  ⟨"Mixing", .logical, ["density + yes"], "SCF", [],
    [⟨"density", "1"⟩, ⟨"density+potential", "2"⟩, ⟨"Yes", "3"⟩], none⟩

def mixingCatalog : Catalog :=
  .ofVariables "14.1" [mixing]

theorem exists_debug162 : ∃ v ∈ Catalog.bundled162.toList, v.name = "Debug" ∧
    v.firstDefault? = some "no" := by
  obtain ⟨v, hv, hname, hdefault⟩ :
      ∃ v ∈ Catalog.release162.reverse.find? (·.key == lowercased "Debug"),
        v.name = "Debug" ∧ v.firstDefault? = some "no" := by decide +kernel
  refine ⟨v, Catalog.mem_toList_ofVariables_iff.2 ?_, hname, hdefault⟩
  rw [hname, Catalog.get?_ofVariables]
  exact hv

theorem offers_taken_but_strays_mixing :
    isName "Mixing".toList = true ∧ mixingCatalog.get? "Mixing" = some mixing ∧
      (completions mixingCatalog ("Mixing" ++ " = ")).map Completion.insertion =
        ["density", "density+potential", "Yes", "density + yes", "true", "false", "yes", "no"] ∧
      mixing.Takes "density" ∧ mixing.Takes "density + yes" ∧ mixing.Takes "yes" ∧
      ¬ mixing.Takes "no" ∧ mixingCatalog.scan ["Mixing" ++ " = " ++ "no"] ≠ [] ∧
      ∃ v ∈ Catalog.bundled162.toList,
        ∃ item ∈ completions Catalog.bundled162 (v.name ++ " = "),
          (v.name, item.insertion) ∈ strays162 ∧
          Catalog.bundled162.verdict? v.name item.insertion ≠ some .valid := by
  obtain ⟨hall, _, hbundled⟩ := offers_taken_but_strays
  have hname : isName "Mixing".toList = true := by decide +kernel
  have hget : mixingCatalog.get? "Mixing" = some mixing := by decide +kernel
  obtain ⟨hoffers, htakes, hoption, hword, hscan⟩ := hall mixingCatalog "Mixing" mixing hname hget
  have hno : ¬ mixing.Takes "no" := by
    rw [← htakes]
    decide +kernel
  refine ⟨hname, hget, hoffers, ?_, ?_, ?_, hno, ?_, ?_⟩
  · exact hoption ⟨"density", "1"⟩ (by decide) (by decide)
  · rw [← htakes]
    decide +kernel
  · refine (hword rfl "yes" (by decide)).2 (Or.inr ⟨⟨"Yes", "3"⟩, by decide, Or.inl ?_⟩)
    decide +kernel
  · obtain ⟨item, hitem, hinsertion⟩ :
        ∃ item ∈ completions mixingCatalog ("Mixing" ++ " = "), item.insertion = "no" := by
      rw [← List.mem_map, hoffers]
      decide
    rw [← hinsertion] at hno ⊢
    exact mt (hscan item hitem (by rw [hinsertion]; decide +kernel)).1 hno
  · -- A stray shows that the bundled part speaks of offers that are refused as well.
    obtain ⟨v, hv, hdebug, hdefault⟩ := exists_debug162
    have hnamev : isName v.name.toList = true := by
      rw [hdebug]
      decide +kernel
    obtain ⟨item, hitem, hinsertion⟩ := exists_offer_of_default hnamev
      (Catalog.mem_toList_ofVariables_iff.1 hv) hdefault
    have hstray : (v.name, item.insertion) ∈ strays162 := by
      rw [hdebug, hinsertion]
      decide
    exact ⟨v, hv, item, hitem, hstray, fun h => (hbundled v hv item hitem).1 h hstray⟩

/-- The default of a bundled variable is offered and not taken, and choosing it makes a finding. -/
theorem debug_offer_makes_finding :
    (∃ item ∈ completions Catalog.bundled141 ("Debug" ++ " = "), item.insertion = "no") ∧
      Catalog.bundled141.verdict? "Debug" "no" ≠ some .valid ∧
      Catalog.bundled141.scan ["Debug" ++ " = " ++ "no"] ≠ [] := by
  obtain ⟨v, hv, hdefault, hrefused⟩ :
      ∃ v ∈ Catalog.release141.reverse.find? (·.key == lowercased "Debug"),
        v.firstDefault? = some "no" ∧ v.verdict "no" ≠ .valid := by decide +kernel
  have hget : Catalog.bundled141.get? "Debug" = some v :=
    (Catalog.get?_ofVariables "14.1" Catalog.release141 "Debug").trans hv
  have hname : isName "Debug".toList = true := by decide +kernel
  have htakes : ¬ v.Takes "no" := mt Variable.verdict_eq_valid_iff.2 hrefused
  refine ⟨exists_offer_of_default hname hget hdefault, ?_, ?_⟩
  · exact mt (Catalog.verdict?_eq_valid_iff hget).1 htakes
  · exact mt (scan_chosen_eq_nil_iff hname hget (by decide +kernel)).1 htakes

end InputDeck.Editor
