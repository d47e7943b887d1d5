import InputDeck.Highlighting
import InputDeck.Text.Search

/-!
# The names in a highlighting grammar

An alternation is read back by cutting it at the bars that no backslash protects and then dropping
the backslashes. Every character that a pattern would not take literally is protected, bars and
backslashes among them, so whatever words an alternation is made from are the words that are read
back. In a grammar these are the names of the catalog, and none of them stands in front of a longer
one that begins with it.
-/

namespace InputDeck.Highlighting

open InputDeck.Text

/-! ## Reading an alternation back -/

/-- The pieces between bars that no backslash protects. -/
def splitAtBars : List Char → List (List Char)
  | [] => [[]]
  | '\\' :: c :: cs => consFirst '\\' (consFirst c (splitAtBars cs))
  | '|' :: cs => [] :: splitAtBars cs
  | c :: cs => consFirst c (splitAtBars cs)

def unescape : List Char → List Char
  | [] => []
  | '\\' :: c :: cs => c :: unescape cs
  | c :: cs => c :: unescape cs

def alternatives (pattern : String) : List String :=
  (splitAtBars pattern.toList).map fun piece => String.ofList (unescape piece)

theorem ne_of_isPatternMark_eq_false {c : Char} (h : isPatternMark c = false) :
    c ≠ '\\' ∧ c ≠ '|' := by
  constructor
  · rintro rfl
    cases h
  · rintro rfl
    cases h

theorem unescape_escapeChar_append (c : Char) (cs : List Char) :
    unescape (escapeChar c ++ cs) = c :: unescape cs := by
  rw [escapeChar]
  split
  · rfl
  · next hmark =>
    obtain ⟨hback, _⟩ := ne_of_isPatternMark_eq_false (Bool.eq_false_iff.2 hmark)
    rw [List.singleton_append, unescape]
    exact fun _ _ h => absurd h hback

theorem unescape_escape (cs : List Char) : unescape (escape cs) = cs := by
  induction cs with
  | nil => rfl
  | cons c cs ih => rw [escape, List.flatMap_cons, unescape_escapeChar_append, ← escape, ih]

theorem splitAtBars_escapeChar_append {cs piece : List Char} {pieces : List (List Char)}
    (h : splitAtBars cs = piece :: pieces) (c : Char) :
    splitAtBars (escapeChar c ++ cs) = (escapeChar c ++ piece) :: pieces := by
  rw [escapeChar]
  split
  · exact congrArg (fun pieces => consFirst '\\' (consFirst c pieces)) h
  · next hmark =>
    obtain ⟨hback, hbar⟩ := ne_of_isPatternMark_eq_false (Bool.eq_false_iff.2 hmark)
    rw [List.singleton_append, splitAtBars, h]
    · rfl
    · exact fun _ _ h => absurd h hback
    · exact hbar

theorem splitAtBars_escape_append {cs piece : List Char} {pieces : List (List Char)}
    (h : splitAtBars cs = piece :: pieces) (word : List Char) :
    splitAtBars (escape word ++ cs) = (escape word ++ piece) :: pieces := by
  induction word with
  | nil => exact h
  | cons c word ih =>
    rw [escape, List.flatMap_cons, ← escape, List.append_assoc,
      splitAtBars_escapeChar_append ih, List.append_assoc]

/-- Escaped words with bars between them are cut at these bars and nowhere else. -/
theorem splitAtBars_intercalate {words : List (List Char)} (h : words ≠ []) :
    splitAtBars (['|'].intercalate (words.map escape)) = words.map escape := by
  induction words with
  | nil => exact absurd rfl h
  | cons word words ih =>
    cases words with
    | nil =>
      have hlast : splitAtBars (escape word ++ []) = [escape word ++ []] :=
        splitAtBars_escape_append rfl word
      simpa using hlast
    | cons next words =>
      have hbar : splitAtBars ('|' :: ['|'].intercalate ((next :: words).map escape)) =
          [] :: (next :: words).map escape := congrArg ([] :: ·) (ih (List.cons_ne_nil _ _))
      have hfirst := splitAtBars_escape_append hbar word
      rw [List.append_nil] at hfirst
      exact hfirst

theorem alternatives_alternation {words : List String} (h : words ≠ []) :
    alternatives (alternation words) = words := by
  have hmap : (words.map fun w => escape w.toList) = (words.map String.toList).map escape := by
    rw [List.map_map]
    rfl
  have hne : words.map String.toList ≠ [] := by simpa using h
  have hword : ∀ w : String, String.ofList (unescape (escape w.toList)) = w := by
    intro w
    rw [unescape_escape, String.ofList_toList]
  rw [alternatives, alternation, String.toList_ofList, hmap, splitAtBars_intercalate hne,
    List.map_map, List.map_map]
  exact List.map_id'' hword words

/-! ## The order of names -/

theorem precedes_iff {a b : String} :
    precedes a b = true ↔ b.utf8ByteSize < a.utf8ByteSize ∨
      (a.utf8ByteSize = b.utf8ByteSize ∧ a ≤ b) := by
  simp [precedes]

theorem precedes_trans (a b c : String) (hab : precedes a b = true) (hbc : precedes b c = true) :
    precedes a c = true := by
  rw [precedes_iff] at hab hbc ⊢
  rcases hab with hab | ⟨hab, hle⟩ <;> rcases hbc with hbc | ⟨hbc, hle'⟩
  · exact Or.inl (by omega)
  · exact Or.inl (by omega)
  · exact Or.inl (by omega)
  · exact Or.inr ⟨hab.trans hbc, String.le_trans hle hle'⟩

theorem precedes_total (a b : String) : (precedes a b || precedes b a) = true := by
  rw [Bool.or_eq_true, precedes_iff, precedes_iff]
  rcases Nat.lt_trichotomy a.utf8ByteSize b.utf8ByteSize with hlt | heq | hgt
  · exact Or.inr (Or.inl hlt)
  · rcases String.le_total a b with hle | hle
    · exact Or.inl (Or.inr ⟨heq, hle⟩)
    · exact Or.inr (Or.inr ⟨heq.symm, hle⟩)
  · exact Or.inl (Or.inl hgt)

theorem pairwise_orderedNames (c : Catalog) :
    (orderedNames c).Pairwise fun a b => precedes a b = true :=
  List.pairwise_mergeSort precedes_trans precedes_total _

theorem perm_orderedNames (c : Catalog) :
    (orderedNames c).Perm (c.toList.map Variable.name) :=
  List.mergeSort_perm _ _

/-- A text is shorter than another one that goes on after it. -/
theorem utf8ByteSize_lt_of_prefix {a b : String} (h : a.toList <+: b.toList) (hne : a ≠ b) :
    a.utf8ByteSize < b.utf8ByteSize := by
  obtain ⟨rest, hrest⟩ := h
  have hb : b = a ++ String.ofList rest := by
    apply String.toList_inj.1
    rw [String.toList_append, String.toList_ofList, hrest]
  have hpos : (String.ofList rest).utf8ByteSize ≠ 0 := by
    rw [Ne, String.utf8ByteSize_eq_zero_iff]
    intro hempty
    rw [hempty, String.append_empty] at hb
    exact hne hb.symm
  rw [hb, String.utf8ByteSize_append]
  omega

theorem not_prefix_of_precedes {a b : String} (h : precedes a b = true) :
    ¬ (a.toList <+: b.toList ∧ a ≠ b) := by
  rintro ⟨hfront, hne⟩
  have hlt := utf8ByteSize_lt_of_prefix hfront hne
  rcases precedes_iff.1 h with hgt | ⟨heq, _⟩ <;> omega

/-! ## The pattern for variables -/

def variablesPattern? (g : Json) : Option String := do
  let repository ← g.get? "repository"
  let rules ← repository.get? "variables"
  let patterns ← (rules.get? "patterns").bind Json.array?
  (← (← patterns.head?).get? "match").string?

theorem variablesPattern?_grammar (c : Catalog) :
    variablesPattern? (grammar c) =
      some ("(?i)\\b(" ++ alternation (orderedNames c) ++ ")\\b") := by
  have hpattern : variablesPattern? (grammar c) = some (wordPattern (orderedNames c) "\\b") := rfl
  have hclose : ")" ++ "\\b" = ")\\b" := rfl
  rw [hpattern, wordPattern, ← hclose, ← String.append_assoc]

/-- The words of an alternation, if there are any, are read back from it. The pattern for variables
in the grammar of a catalog is made around an alternation, from which the names that the catalog has
are read back. The longest come first, and no name comes before another one that begins with it. -/
theorem alternations_decode :
    (∀ words : List String, words ≠ [] → alternatives (alternation words) = words) ∧
    ∀ c : Catalog, c.toList ≠ [] →
      ∃ inner, variablesPattern? (grammar c) = some ("(?i)\\b(" ++ inner ++ ")\\b") ∧
        (alternatives inner).Perm (c.toList.map Variable.name) ∧
        ((alternatives inner).Pairwise fun a b => ¬ (a.toList <+: b.toList ∧ a ≠ b)) ∧
        (alternatives inner).Pairwise fun a b => b.utf8ByteSize ≤ a.utf8ByteSize := by
  refine ⟨fun words h => alternatives_alternation h, ?_⟩
  intro c hc
  have hne : orderedNames c ≠ [] := by
    intro hnil
    have hperm := perm_orderedNames c
    rw [hnil, List.nil_perm] at hperm
    exact hc (List.map_eq_nil_iff.1 hperm)
  refine ⟨alternation (orderedNames c), variablesPattern?_grammar c, ?_⟩
  rw [alternatives_alternation hne]
  refine ⟨perm_orderedNames c, ?_, ?_⟩
  · exact (pairwise_orderedNames c).imp not_prefix_of_precedes
  · refine (pairwise_orderedNames c).imp ?_
    intro a b h
    rcases precedes_iff.1 h with hlt | ⟨heq, _⟩ <;> omega

def barredCatalog : Catalog :=
  .ofVariables "16.2" <| ["Mix", "Mix|Field", "\\Mix\\", "Mix|", "Ωx"].map fun name =>
    ⟨name, .other "", [], "", [], [], none⟩

theorem alternations_decode_barred :
    alternatives (alternation ["|", "", "a\\|"]) = ["|", "", "a\\|"] ∧
    barredCatalog.toList ≠ [] ∧
      ∃ inner, variablesPattern? (grammar barredCatalog) = some ("(?i)\\b(" ++ inner ++ ")\\b") ∧
        (alternatives inner).Perm ["\\Mix\\", "Mix", "Mix|", "Mix|Field", "Ωx"] ∧
        (alternatives inner).Pairwise fun a b => ¬ (a.toList <+: b.toList ∧ a ≠ b) := by
  have hnames : barredCatalog.toList.map Variable.name =
      ["\\Mix\\", "Mix", "Mix|", "Mix|Field", "Ωx"] := by decide +kernel
  have hne : barredCatalog.toList ≠ [] := by
    intro hnil
    rw [hnil] at hnames
    cases hnames
  obtain ⟨inner, hpattern, hperm, hfront, _⟩ := alternations_decode.2 barredCatalog hne
  rw [hnames] at hperm
  exact ⟨alternations_decode.1 _ (by decide), hne, inner, hpattern, hperm, hfront⟩

end InputDeck.Highlighting
