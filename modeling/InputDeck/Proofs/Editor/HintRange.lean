import InputDeck.Proofs.Editor.Name
import InputDeck.Proofs.Finding

/-!
# Hints of a range of lines

An editor asks for the hints of the lines that it shows, and the settings leave out a class of them.
All answers are cut from one list, that of the whole document with everything switched on. Since the
hints of two runs of lines, one after the other, are those of the first run and those of the second,
an answer is what the list has on the requested lines.
-/

namespace InputDeck.Editor

open InputDeck.Text
open InputDeck.Statement

variable {c : Catalog} {settings : HintSettings}

/-! ## Cutting a run of lines -/

theorem hintsFrom_cut (start k : Nat) (lines : List String) :
    hintsFrom c settings start lines =
      hintsFrom c settings start (lines.take k) ++
        hintsFrom c settings (start + k) (lines.drop k) := by
  by_cases hk : k ≤ lines.length
  · have hlength : (lines.take k).length = k := List.length_take_of_le hk
    have hsplit : hintsFrom c settings start (lines.take k ++ lines.drop k) = _ :=
      hintsFrom_append start (lines.take k) (lines.drop k)
    rwa [List.take_append_drop, hlength] at hsplit
  · have hle : lines.length ≤ k := by omega
    rw [List.take_of_length_le hle, List.drop_of_length_le hle, hintsFrom, List.append_nil]

theorem hintsFrom_pairwise (start : Nat) (lines : List String) :
    (hintsFrom c settings start lines).Pairwise (·.position.line < ·.position.line) := by
  induction lines generalizing start with
  | nil => exact List.Pairwise.nil
  | cons line lines ih =>
    rw [hintsFrom_cons, List.pairwise_append]
    refine ⟨?_, ih (start + 1), ?_⟩
    · cases (hintOn? c start line).filter (shows settings) with
      | none => exact List.Pairwise.nil
      | some h => exact List.pairwise_singleton _ h
    · intro g hg h hh
      have hgline := line_of_hintOn? (Option.eq_some_of_filter_eq_some (Option.mem_toList.1 hg))
      have hhline := (line_of_mem_hintsFrom hh).1
      omega

/-- The switches only leave hints out. -/
theorem hintsFrom_eq_filter (start : Nat) (lines : List String) :
    hintsFrom c settings start lines =
      (hintsFrom c ⟨true, true, true⟩ start lines).filter (shows settings) := by
  induction lines generalizing start with
  | nil => rfl
  | cons line lines ih =>
    rw [hintsFrom_cons, hintsFrom_cons, List.filter_append, ih]
    congr 1
    cases hintOn? c start line with
    | none => rfl
    | some h =>
      rw [Option.filter_some, Option.filter_some, if_pos (shows_all h)]
      cases hshows : shows settings h <;> simp [hshows]

/-! ## The list of all hints -/

def allHints (c : Catalog) (doc : Document) : List Hint :=
  hints c ⟨true, true, true⟩ doc 0 (doc.lineCount - 1)

theorem allHints_eq (c : Catalog) (doc : Document) :
    allHints c doc = hintsFrom c ⟨true, true, true⟩ 0 doc.lines := by
  have hlength : doc.lines.length ≤ doc.lineCount - 1 + 1 := by
    rw [Document.lineCount]
    omega
  rw [allHints, hints, if_pos rfl, List.drop_zero, List.take_of_length_le hlength]

theorem mem_allHints_iff {doc : Document} {h : Hint} :
    h ∈ allHints c doc ↔ ∃ line, doc.line? h.position.line = some line ∧
      hintOn? c h.position.line line = some h := by
  have hhere : ∀ {line}, doc.line? h.position.line = some line →
      (allHints c doc).filter (·.position.line = h.position.line) =
        (hintOn? c h.position.line line).toList := by
    intro line hline
    have hfilter : (hintsFrom c ⟨true, true, true⟩ 0 doc.lines).filter
        (·.position.line = 0 + h.position.line) = _ := filter_hintsFrom hline
    rw [Nat.zero_add] at hfilter
    rw [allHints_eq, hfilter]
    cases hintOn? c h.position.line line with
    | none => rfl
    | some g => rw [Option.filter_some, if_pos (shows_all g)]
  constructor
  · intro hh
    have hmem := hh
    rw [allHints_eq] at hmem
    have hbound := (line_of_mem_hintsFrom hmem).2
    rw [Nat.zero_add] at hbound
    have hline : doc.line? h.position.line = some (doc.lines[h.position.line]) :=
      List.getElem?_eq_getElem hbound
    refine ⟨_, hline, ?_⟩
    rw [← Option.mem_toList, ← hhere hline, List.mem_filter]
    exact ⟨hh, by simp⟩
  · rintro ⟨line, hline, hh⟩
    have hmem : h ∈ (hintOn? c h.position.line line).toList := Option.mem_toList.2 hh
    rw [← hhere hline] at hmem
    exact (List.mem_filter.1 hmem).1

/-! ## Answers -/

/-- Every answer is what the list of all hints has on the requested lines of the classes that are
switched on. -/
theorem hints_eq_filter (henabled : settings.enabled = true) (doc : Document) (first last : Nat) :
    hints c settings doc first last = ((allHints c doc).filter fun h =>
      first ≤ h.position.line ∧ h.position.line ≤ last).filter (shows settings) := by
  rw [hints, if_pos henabled, hintsFrom_eq_filter, allHints_eq, hintsFrom_cut 0 (last + 1),
    hintsFrom_cut 0 first (doc.lines.take (last + 1)), Nat.zero_add, Nat.zero_add]
  congr 1
  -- of the three runs of lines, only the one in the middle is requested
  have hbefore : ((hintsFrom c ⟨true, true, true⟩ 0 ((doc.lines.take (last + 1)).take first)).filter
      fun h => first ≤ h.position.line ∧ h.position.line ≤ last) = [] := by
    rw [List.filter_eq_nil_iff]
    intro h hh
    have hline := (line_of_mem_hintsFrom hh).2
    have hlength := List.length_take_le first (doc.lines.take (last + 1))
    simp only [decide_eq_true_eq]
    omega
  have hafter : ((hintsFrom c ⟨true, true, true⟩ (last + 1) (doc.lines.drop (last + 1))).filter
      fun h => first ≤ h.position.line ∧ h.position.line ≤ last) = [] := by
    rw [List.filter_eq_nil_iff]
    intro h hh
    have hline := (line_of_mem_hintsFrom hh).1
    simp only [decide_eq_true_eq]
    omega
  rw [List.filter_append, List.filter_append, hbefore, hafter, List.nil_append, List.append_nil,
    eq_comm, List.filter_eq_self]
  intro h hh
  have hline := line_of_mem_hintsFrom hh
  have hlength := List.length_take_le (last + 1) doc.lines
  rw [List.length_drop] at hline
  simp only [decide_eq_true_eq]
  omega

theorem hints_append (doc : Document) {first middle last : Nat} (hfirst : first ≤ middle)
    (hlast : middle < last) :
    hints c settings doc first last =
      hints c settings doc first middle ++ hints c settings doc (middle + 1) last := by
  rw [hints, hints, hints]
  split
  · have hfront : ((doc.lines.take (last + 1)).drop first).take (middle + 1 - first) =
        (doc.lines.take (middle + 1)).drop first := by
      rw [List.take_drop, List.take_take]
      congr 2
      omega
    have hback : ((doc.lines.take (last + 1)).drop first).drop (middle + 1 - first) =
        (doc.lines.take (last + 1)).drop (middle + 1) := by
      rw [List.drop_drop]
      congr 1
      omega
    have hstart : first + (middle + 1 - first) = middle + 1 := by omega
    rw [hintsFrom_cut first (middle + 1 - first), hfront, hback, hstart]
  · rfl

/-! ## What has a hint -/

theorem assignment?_eq_none_or (line : String) :
    assignment? line = none ∨ blockOpening? line = none := by
  cases hblock : blockOpening? line with
  | none => exact Or.inr rfl
  | some b => exact Or.inl (assignment?_of_blockOpening? hblock)

theorem isSome_hintOn?_iff (c : Catalog) (index : Nat) (line : String) :
    (hintOn? c index line).isSome = true ↔
      (assignment? line).isSome = true ∨ (blockOpening? line).isSome = true := by
  rw [hintOn?]
  cases assignment? line with
  | none => simp
  | some a => simp

/-- The hint stands right behind the name that a line gives a value, or behind the name and the
percent sign that open a block, in UTF-16 units, and tells whether the catalog has that name. -/
inductive Marks (c : Catalog) (line : String) (h : Hint) : Prop where
  | assignment {a : Assignment} {lead rest : List Char} (reads : assignment? line = some a)
      (lead_blank : AllBlank lead) (line_eq : line.toList = lead ++ (a.name.toList ++ rest))
      (column_eq : h.position.column = unitLength (lead ++ a.name.toList))
      (name_eq : h.name = a.name)
      (label_eq : h.label = if (c.get? a.name).isSome then " [builtin]" else " [user]")
  | block {b : BlockOpening} {lead rest : List Char} (opens : blockOpening? line = some b)
      (lead_blank : AllBlank lead) (line_eq : line.toList = lead ++ '%' :: (b.name.toList ++ rest))
      (column_eq : h.position.column = unitLength (lead ++ '%' :: b.name.toList))
      (name_eq : h.name = b.name)
      (label_eq : h.label = if (c.get? b.name).isSome then " [builtin block]" else " [user block]")

theorem Hint.label_eq (h : Hint) :
    h.label = if h.release.isSome then builtinLabel h.kind else userLabel h.kind := by
  rw [Hint.label]
  cases h.release <;> cases h.kind <;> rfl

theorem unitColumn_append {line before after : List Char} (h : line = before ++ after)
    {column : Nat} (hcolumn : column = before.length) :
    unitColumn line column = unitLength before := by
  rw [unitColumn, h, hcolumn, List.take_left]

theorem marks_of_hintOn? {index : Nat} {line : String} {h : Hint}
    (hh : hintOn? c index line = some h) : Marks c line h := by
  have hknown : ∀ name, (knownSince c name).isSome = (c.get? name).isSome :=
    fun name => Option.isSome_map
  cases ha : assignment? line with
  | some a =>
    obtain ⟨l, hl, rfl⟩ := exists_layout_of_assignment? ha
    have hname : l.located.name.toList = l.name := String.toList_ofList
    have hstop : l.located.nameEnd = (l.lead ++ l.name).length := by
      rw [Assignment.nameEnd, Layout.located, l.nameStart_locate, locate, String.length_ofList,
        List.length_append]
    have hline : line.toList = (l.lead ++ l.name) ++ (l.gap ++ '=' :: l.tail) := by
      rw [← hl, Layout.text, List.append_assoc]
    rw [hintOn?, ha] at hh
    obtain rfl := Option.some.inj hh
    refine .assignment ha l.lead_blank (?_ : _ = _ ++ (_ ++ (l.gap ++ '=' :: l.tail))) ?_ rfl ?_
    · rw [hname, hline, List.append_assoc]
    · rw [hname]
      exact unitColumn_append hline hstop
    · rw [Hint.label_eq, hknown]
      rfl
  | none =>
    rw [hintOn?, ha] at hh
    obtain ⟨b, hb, rfl⟩ := Option.map_eq_some_iff.1 hh
    obtain ⟨lead, name, fill, hlead, _, _, hline, rfl⟩ := blockOpening?_eq_some_iff.1 hb
    refine .block hb hlead (?_ : _ = _ ++ '%' :: (_ ++ fill)) ?_ rfl ?_
    · rw [String.toList_ofList, hline]
    · have hpieces : line.toList = (lead ++ '%' :: name) ++ fill := by
        rw [hline, List.append_assoc]
        rfl
      rw [String.toList_ofList]
      refine unitColumn_append hpieces ?_
      simp only [BlockOpening.stop, String.length_ofList, List.length_append, List.length_cons]
      omega
    · rw [Hint.label_eq, hknown]
      rfl

theorem marks_of_mem_allHints {doc : Document} {h : Hint} (hh : h ∈ allHints c doc) :
    ∃ line, doc.line? h.position.line = some line ∧ Marks c line h := by
  obtain ⟨line, hline, hhint⟩ := mem_allHints_iff.1 hh
  exact ⟨line, hline, marks_of_hintOn? hhint⟩

theorem isBuiltin_of_hintOn? {index : Nat} {line : String} {h : Hint}
    (hh : hintOn? c index line = some h) : h.isBuiltin = (c.get? h.name).isSome := by
  rw [hintOn?] at hh
  split at hh
  · cases hh
    exact Option.isSome_map
  · obtain ⟨b, _, rfl⟩ := Option.map_eq_some_iff.1 hh
    exact Option.isSome_map

theorem exists_mem_allHints_iff {doc : Document} {index : Nat} :
    (∃ h ∈ allHints c doc, h.position.line = index) ↔
      ∃ line, doc.line? index = some line ∧
        ((assignment? line).isSome = true ∨ (blockOpening? line).isSome = true) := by
  constructor
  · rintro ⟨h, hh, rfl⟩
    obtain ⟨line, hline, hhint⟩ := mem_allHints_iff.1 hh
    exact ⟨line, hline, (isSome_hintOn?_iff c _ line).1 (Option.isSome_of_eq_some hhint)⟩
  · rintro ⟨line, hline, hdefines⟩
    obtain ⟨h, hh⟩ := Option.isSome_iff_exists.1 ((isSome_hintOn?_iff c index line).2 hdefines)
    obtain rfl := line_of_hintOn? hh
    exact ⟨h, mem_allHints_iff.2 ⟨line, hline, hh⟩, rfl⟩

/-- Hints are cut from one list. It has one hint on each line that assigns a value or opens a block,
in the order of lines and right behind the name, and none on other lines. An answer has those of its
hints that are on the requested lines and of a class that is switched on. So asking for some lines
and then for the lines after them is asking for all of them at once. -/
theorem hints_cut_from_all (c : Catalog) (doc : Document) :
    (∀ settings first last, hints c settings doc first last =
      if settings.enabled then
        (allHints c doc).filter fun h => first ≤ h.position.line ∧ h.position.line ≤ last ∧
          (if (c.get? h.name).isSome then settings.showBuiltin else settings.showUser) = true
      else []) ∧
    (allHints c doc).Pairwise (fun g h => g.position.line < h.position.line) ∧
    (∀ index, (∃ h ∈ allHints c doc, h.position.line = index) ↔
      ∃ line, doc.line? index = some line ∧
        ((assignment? line).isSome = true ∨ (blockOpening? line).isSome = true)) ∧
    (∀ h ∈ allHints c doc, ∃ line, doc.line? h.position.line = some line ∧ Marks c line h) ∧
    (∀ line, assignment? line = none ∨ blockOpening? line = none) ∧
    (∀ index line, (∀ ch ∈ (trim line.toList).head?, ch = '#') → hintOn? c index line = none) ∧
    ∀ settings first middle last, first ≤ middle → middle < last →
      hints c settings doc first last =
        hints c settings doc first middle ++ hints c settings doc (middle + 1) last := by
  refine ⟨?_, ?_, ?_, ?_, assignment?_eq_none_or, ?_, ?_⟩
  · intro settings first last
    split
    · next henabled =>
      rw [hints_eq_filter henabled, List.filter_filter]
      refine List.filter_congr fun h hh => ?_
      obtain ⟨line, _, hhint⟩ := mem_allHints_iff.1 hh
      rw [shows, isBuiltin_of_hintOn? hhint]
      simp only [Bool.decide_and, Bool.decide_eq_true, Bool.and_assoc, Bool.and_comm]
    · next hdisabled => rw [hints, if_neg hdisabled]
  · rw [allHints_eq]
    exact hintsFrom_pairwise 0 doc.lines
  · exact fun index => exists_mem_allHints_iff
  · exact fun h hh => marks_of_mem_allHints hh
  · exact fun index line hcomment => hintOn?_of_comment hcomment c index
  · exact fun settings first middle last hfirst hlast => hints_append doc hfirst hlast

def shapeDeck : Document :=
  ⟨"# BoxShape = 1\n\u00a0boxshape=𝛼\r\t%MyTable \r\n%Species\n𝛼 = 1\nx= 2", 1⟩

theorem hints_cut_from_all_shapeDeck :
    (hints shapeCatalog ⟨true, true, false⟩ shapeDeck 1 900).map (fun h => (h.position, h.label)) =
        [(⟨1, 9⟩, " [builtin]"), (⟨3, 8⟩, " [builtin block]")] ∧
      hints shapeCatalog ⟨true, true, false⟩ shapeDeck 1 900 =
        hints shapeCatalog ⟨true, true, false⟩ shapeDeck 1 2 ++
          hints shapeCatalog ⟨true, true, false⟩ shapeDeck 3 900 ∧
      (∃ h ∈ allHints shapeCatalog shapeDeck, h.position = ⟨2, 9⟩ ∧
        Marks shapeCatalog "\t%MyTable " h) ∧
      hintOn? shapeCatalog 0 "# BoxShape = 1" = none := by
  obtain ⟨_, _, _, hmarks, _, hcomment, happend⟩ := hints_cut_from_all shapeCatalog shapeDeck
  refine ⟨by decide +kernel, happend _ 1 2 900 (by decide) (by decide), ?_, ?_⟩
  · obtain ⟨h, hh, hposition⟩ :
        ∃ h ∈ allHints shapeCatalog shapeDeck, h.position = ⟨2, 9⟩ := by decide +kernel
    obtain ⟨line, hline, hmarked⟩ := hmarks h hh
    have hsecond : shapeDeck.line? 2 = some "\t%MyTable " := by decide +kernel
    rw [hposition, hsecond] at hline
    obtain rfl := Option.some.inj hline
    exact ⟨h, hh, hposition, hmarked⟩
  · have hhead : (trim "# BoxShape = 1".toList).head? = some '#' := by decide +kernel
    refine hcomment 0 _ fun ch hch => ?_
    rw [hhead] at hch
    exact (Option.some.inj hch).symm

end InputDeck.Editor
