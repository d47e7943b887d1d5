import InputDeck.Proofs.Editor.Position
import InputDeck.Proofs.Server.Transcript
import InputDeck.Proofs.Text.Word
import InputDeck.Server.Encoding

/-!
# What is hovered over

A client asks about a position in UTF-16 units, and gets a range in UTF-16 units back, while the
word is looked for in characters. The range encloses the position wherever the way there and back
loses nothing, that is, on the line and not inside a pair of units.
-/

namespace InputDeck

open InputDeck.Text

namespace Editor

/-! ## Positions of a request -/

theorem lt_of_unsigned? {v : Json} {n : Nat} (h : v.unsigned? = some n) :
    n < Json.halfWordLimit := by
  rw [Json.unsigned?, Option.filter_eq_some_iff] at h
  exact of_decide_eq_true h.2

theorem Position.fits_of_ofJson? {v : Json} {p : Position} (h : ofJson? v = some p) : p.Fits := by
  simp only [ofJson?, Option.bind_eq_bind, Option.bind_eq_some_iff] at h
  obtain ⟨members, -, line, hline, column, hcolumn, hp⟩ := h
  cases hp
  obtain ⟨_, -, hline⟩ := Option.bind_eq_some_iff.1 hline
  obtain ⟨_, -, hcolumn⟩ := Option.bind_eq_some_iff.1 hcolumn
  exact ⟨lt_of_unsigned? hline, lt_of_unsigned? hcolumn⟩

end Editor

namespace Server

open InputDeck.Editor

theorem fits_of_place? {params : Json} {uri : Uri} {p : Position}
    (h : place? params = some (uri, p)) : p.Fits := by
  simp only [place?, Option.bind_eq_bind, Option.bind_eq_some_iff] at h
  obtain ⟨_, -, position, hposition, hpair⟩ := h
  cases hpair
  obtain ⟨_, -, hread⟩ := Option.bind_eq_some_iff.1 hposition
  exact Position.fits_of_ofJson? hread

/-- Only requests of one method ask for what is hovered over. -/
theorem place?_of_ofJson? {method : String} {params : Json} {uri : Uri} {p : Position}
    (h : Request.ofJson? method params = some (.hover uri p)) : place? params = some (uri, p) := by
  unfold Request.ofJson? at h
  split at h
  · obtain ⟨⟨uri', p'⟩, hplace, heq⟩ := Option.map_eq_some_iff.1 h
    cases heq
    exact hplace
  · obtain ⟨⟨uri', p'⟩, hplace, heq⟩ := Option.map_eq_some_iff.1 h
    cases heq
  · simp [Option.bind_eq_some_iff] at h
  · simp [Option.bind_eq_some_iff] at h
  · simp at h
  · cases h

theorem fits_of_asked? {s : Service} {m : Incoming} {uri : Uri} {p : Position}
    (h : s.asked? m = some (.hover uri p)) : p.Fits := by
  obtain ⟨-, -, -, hparams⟩ := Service.asked?_eq_some_iff.1 h
  obtain ⟨params, -, hread⟩ := Option.bind_eq_some_iff.1 hparams
  exact fits_of_place? (place?_of_ofJson? hread)

end Server

/-! ## Ranges around a position -/

namespace Editor

open InputDeck.Server

/-- The range lies on the line of a position, and the position is inside it or at one of its ends.
-/
structure Range.Encloses (r : Range) (p : Position) : Prop where
  start_line : r.start.line = p.line
  stop_line : r.stop.line = p.line
  start_le : r.start.column ≤ p.column
  le_stop : p.column ≤ r.stop.column

theorem encloses_of_wordAt? {line : String} {p : Position} {w : Word}
    (hw : wordAt? line (charColumn line.toList p.column) = some w)
    (hend : p.column ≤ unitLength line.toList)
    (hwhole : ∀ column, ¬ SplitsPair line.toList column p.column) :
    (Range.on p.line line w.start w.stop).Encloses p := by
  obtain ⟨-, hstart, hstop, -⟩ := wordAt?_eq_some_iff.1 hw
  have hback := unitColumn_charColumn hend hwhole
  refine ⟨rfl, rfl, ?_, ?_⟩
  · calc unitColumn line.toList w.start
        ≤ unitColumn line.toList (charColumn line.toList p.column) := unitColumn_mono _ hstart
      _ = p.column := hback
  · calc p.column = unitColumn line.toList (charColumn line.toList p.column) := hback.symm
      _ ≤ unitColumn line.toList w.stop := unitColumn_mono _ hstop

theorem exists_word_of_hoverAt? {s : Session} {uri : Uri} {p : Position} {shown : Hover}
    (h : s.hoverAt? uri p = some shown) :
    ∃ doc line w, s.document? uri = some doc ∧ doc.line? p.line = some line ∧
      wordAt? line (charColumn line.toList p.column) = some w ∧
      shown.range = .on p.line line w.start w.stop := by
  obtain ⟨⟨line, column⟩, hplace, hhover⟩ := Option.bind_eq_some_iff.1 h
  obtain ⟨found, hfound, heq⟩ := Option.map_eq_some_iff.1 hplace
  obtain ⟨doc, hdoc, hline⟩ := Option.bind_eq_some_iff.1 hfound
  cases heq
  simp only [hover?] at hhover
  split at hhover
  · cases hhover
  · next w hw =>
    obtain ⟨v, -, rfl⟩ := Option.map_eq_some_iff.1 hhover
    exact ⟨doc, line, w, hdoc, hline, hw, rfl⟩

theorem needed?_range_toJson {shown : Hover} (hstart : shown.range.start.Fits)
    (hstop : shown.range.stop.Fits) :
    (Answer.toJson (.hover (some shown))).needed? "range" Range.ofJson? = some shown.range :=
  Range.ofJson?_toJson hstart hstop

/-- The word under a cursor is the longest that touches it, and there is none exactly if no word
character does; from every column on it the same word is found, and a search by indices never leaves
the line. When a server is asked what is under a position, the range that it answers with encloses
the position, provided that this is on the line and does not split a pair; the client reads the
range as it was meant if numbers of 32 bits can address the line. -/
theorem word_under_cursor_exact (line : String) (column : Nat) :
    (∀ text start stop,
      (wordAt? line column).map (fun w => (w.text, w.start, w.stop)) = some (text, start, stop) ↔
        IsWord line.toList start stop ∧ start ≤ column ∧ column ≤ stop ∧
          text.toList = line.toList.extract start stop) ∧
    (wordAt? line column = none ↔ line.toList.length < column ∨
      (∀ c ∈ line.toList[column]?, isCursorWordChar c = false) ∧
      ∀ i, i + 1 = column → ∀ c ∈ line.toList[i]?, isCursorWordChar c = false) ∧
    (∀ w, wordAt? line column = some w → ∀ other, w.start ≤ other → other ≤ w.stop →
      wordAt? line other = some w) ∧
    wordByIndex? line column = some (wordAt? line column) ∧
    ∀ (s : Service) (around : Surroundings) (m : Incoming) (uri : Uri) (p : Position),
      s.asked? m = some (.hover uri p) →
      (s.receive around m).response = .answer (.hover (s.session.hoverAt? uri p)) ∧
        ∀ shown ∈ s.session.hoverAt? uri p, ∃ doc there, s.session.document? uri = some doc ∧
          doc.line? p.line = some there ∧
          (p.column ≤ unitLength there.toList →
            (∀ k, ¬ SplitsPair there.toList k p.column) → shown.range.Encloses p) ∧
          (unitLength there.toList < Json.halfWordLimit →
            (Answer.toJson (.hover (some shown))).needed? "range" Range.ofJson? =
              some shown.range) := by
  refine ⟨?_, wordAt?_eq_none_iff, ?_, wordByIndex?_eq line column, ?_⟩
  · intro text start stop
    rw [Option.map_eq_some_iff]
    constructor
    · rintro ⟨w, hw, heq⟩
      cases heq
      exact wordAt?_eq_some_iff.1 hw
    · rintro ⟨hword, hstart, hstop, htext⟩
      refine ⟨_, wordAt?_of_isWord hword hstart hstop, ?_⟩
      have hordered := hword.ordered
      have hlength := hword.length_extract
      simp only [Word.stop, ← htext, String.ofList_toList]
      rw [← String.length_toList, htext, hlength, Nat.add_sub_cancel' (Nat.le_of_lt hordered)]
  · intro w hw other hstart hstop
    obtain ⟨hword, -, -, htext⟩ := wordAt?_eq_some_iff.1 hw
    exact wordAt?_eq_some_iff.2 ⟨hword, hstart, hstop, htext⟩
  · intro s around m uri p hasked
    have hresponse : (s.receive around m).response =
        .answer (.hover (s.session.hoverAt? uri p)) := by
      rw [Service.receive_of_asked? around hasked]
      rfl
    refine ⟨hresponse, ?_⟩
    intro shown hshown
    obtain ⟨doc, there, w, hdoc, hline, hw, hrange⟩ := exists_word_of_hoverAt? hshown
    refine ⟨doc, there, hdoc, hline, ?_, ?_⟩
    · intro hend hwhole
      rw [hrange]
      exact encloses_of_wordAt? hw hend hwhole
    · intro hlength
      have hfits := fun column => Position.fits_on (fits_of_asked? hasked).1 hlength column
      apply needed?_range_toJson
      · rw [hrange]
        exact hfits w.start
      · rw [hrange]
        exact hfits w.stop

def noteLine : String := "𝜋: spacing = 1"

def noteUri : Uri := ⟨"file", some ⟨"", "", none⟩, .segments ["inp"], none, none⟩

def noteService : Service where
  phase := .running
  session := { Session.fresh with
    catalog := .ofVariables "14.1" [⟨"Spacing", .float, [], "Mesh", [], [], none⟩]
    documents := Dictionary.empty.insert noteUri.text ⟨noteLine, 1⟩ }

def hoverParams : Json :=
  .object [("textDocument", .object [("uri", .string "file:///inp")]),
    ("position", .object [("line", .ofNat 0), ("character", .ofNat 6)])]

def hoverMessage : Incoming := ⟨"textDocument/hover", some hoverParams, true⟩

theorem not_splitsPair_noteLine (k : Nat) : ¬ SplitsPair noteLine.toList k 6 := by
  intro h
  have hcolumn : charColumn noteLine.toList 6 = 5 := by decide +kernel
  have hfour : noteLine.toList[4]? = some 'p' := by decide +kernel
  obtain rfl : k = 4 := by
    have hnext := h.charColumn_eq
    omega
  obtain ⟨c, hc, hwide⟩ := h.wide
  rw [hfour] at hc
  cases hc
  exact absurd hwide (by decide)

theorem word_under_cursor_exact_noteLine :
    wordAt? noteLine 5 = some ⟨"spacing", 3⟩ ∧ IsWord noteLine.toList 3 10 ∧
      wordAt? noteLine 10 = some ⟨"spacing", 3⟩ ∧
      wordByIndex? noteLine 5 = some (some ⟨"spacing", 3⟩) ∧
      noteService.asked? hoverMessage = some (.hover noteUri ⟨0, 6⟩) ∧
      6 ≤ unitLength noteLine.toList ∧ (∀ k, ¬ SplitsPair noteLine.toList k 6) ∧
      unitLength noteLine.toList < Json.halfWordLimit ∧
      ∀ around, ∃ shown, (noteService.receive around hoverMessage).response =
          .answer (.hover (some shown)) ∧ shown.range = ⟨⟨0, 4⟩, ⟨0, 11⟩⟩ ∧
        shown.range.Encloses ⟨0, 6⟩ ∧
        (Answer.toJson (.hover (some shown))).needed? "range" Range.ofJson? =
          some shown.range := by
  have hword : wordAt? noteLine 5 = some ⟨"spacing", 3⟩ := by decide +kernel
  have hplace : place? hoverParams = some (noteUri, ⟨0, 6⟩) := by decide +kernel
  have hread : Request.ofJson? "textDocument/hover" hoverParams =
      some (.hover noteUri ⟨0, 6⟩) := by
    change (place? hoverParams).map _ = _
    rw [hplace]
    rfl
  have hasked : noteService.asked? hoverMessage = some (.hover noteUri ⟨0, 6⟩) :=
    Service.asked?_eq_some_iff.2 ⟨rfl, rfl, by decide, hread⟩
  have hend : 6 ≤ unitLength noteLine.toList := by decide +kernel
  have hlength : unitLength noteLine.toList < Json.halfWordLimit := by decide +kernel
  have hline : (noteService.session.document? noteUri).bind (·.line? 0) = some noteLine := by
    decide +kernel
  have hrange : (noteService.session.hoverAt? noteUri ⟨0, 6⟩).map (·.range) =
      some ⟨⟨0, 4⟩, ⟨0, 11⟩⟩ := by decide +kernel
  obtain ⟨hfound, -, hsame, hindex, hserver⟩ := word_under_cursor_exact noteLine 5
  have hten : wordAt? noteLine 10 = some ⟨"spacing", 3⟩ :=
    hsame _ hword 10 (by decide) (by decide +kernel)
  have htriple : (wordAt? noteLine 5).map (fun w => (w.text, w.start, w.stop)) =
      some ("spacing", 3, 10) := by decide +kernel
  refine ⟨hword, ((hfound _ _ _).1 htriple).1, hten, by rw [hindex, hword], hasked, hend,
    not_splitsPair_noteLine, hlength, ?_⟩
  intro around
  obtain ⟨hresponse, hshown⟩ := hserver noteService around hoverMessage _ _ hasked
  obtain ⟨shown, hanswer, hplaced⟩ := Option.map_eq_some_iff.1 hrange
  obtain ⟨doc, there, hdoc, hthere, hencloses, hsent⟩ := hshown shown hanswer
  rw [hdoc, Option.bind_some, hthere] at hline
  cases hline
  rw [hanswer] at hresponse
  exact ⟨shown, hresponse, hplaced, hencloses hend not_splitsPair_noteLine, hsent hlength⟩

end Editor

end InputDeck
