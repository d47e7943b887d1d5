import InputDeck.Server.Session
import InputDeck.Proofs.Catalog.Representation
import InputDeck.Proofs.Editor.Completion
import InputDeck.Proofs.Statement.Unfinished

/-!
# The side of the equals sign

Whether values or names are offered depends on where the cursor stands. Right of the first equals
sign, with a name left of it, `OffersValues` holds: there are only values of the variable of that
name. Everywhere else `OffersNames` holds: every variable of the catalog is there once, in the order
of the catalog.
-/

namespace InputDeck.Editor

open InputDeck.Text
open InputDeck.Statement
open InputDeck.Server

/-! ## Values -/

inductive IsValue (v : Variable) (text : String) : Prop where
  | option (h : text ∈ v.optionNames)
  | default (h : v.firstDefault? = some text)
  | logical (hkind : v.kind = .logical) (h : text ∈ logicalWords)

/-- What is offered are the values of the variable of that name, and nothing if there is none. -/
structure OffersValues (c : Catalog) (name : String) (items : List Completion) : Prop where
  kind_eq : ∀ item ∈ items, item.kind = .value
  label_eq : ∀ item ∈ items, item.label = item.insertion
  offered_iff : ∀ text,
    (∃ item ∈ items, item.insertion = text) ↔ ∃ v, c.get? name = some v ∧ IsValue v text

theorem mem_valueCompletions {v : Variable} {item : Completion} (h : item ∈ valueCompletions v) :
    ∃ text detail about, item = .value v text detail about := by
  rw [valueCompletions, List.mem_append, List.mem_append] at h
  rcases h with (h | h) | h
  · obtain ⟨o, _, rfl⟩ := List.mem_map.1 h
    exact ⟨_, _, _, rfl⟩
  · obtain ⟨text, _, rfl⟩ := List.mem_map.1 h
    exact ⟨_, _, _, rfl⟩
  · split at h
    · obtain ⟨word, _, rfl⟩ := List.mem_map.1 h
      exact ⟨_, _, _, rfl⟩
    · cases h

theorem exists_valueCompletion_iff {v : Variable} {text : String} :
    (∃ item ∈ valueCompletions v, item.insertion = text) ↔ IsValue v text := by
  rw [← List.mem_map, insertion_valueCompletions, List.mem_append, List.mem_append,
    Option.mem_toList]
  constructor
  · rintro ((h | h) | h)
    · exact .option h
    · exact .default h
    · split at h
      · next hkind => exact .logical hkind h
      · cases h
  · rintro (h | h | ⟨hkind, h⟩)
    · exact .inl (.inl h)
    · exact .inl (.inr h)
    · exact .inr (by rwa [if_pos hkind])

theorem offersValues_of_unfinished? (c : Catalog) {before name rest : String}
    (h : unfinished? before = some (name, rest)) : OffersValues c name (completions c before) := by
  rw [completions, h]
  dsimp only
  cases hget : c.get? name with
  | none =>
    refine ⟨by simp, by simp, ?_⟩
    simp [hget]
  | some v =>
    dsimp only
    refine ⟨?_, ?_, ?_⟩
    · intro item hitem
      obtain ⟨text, detail, about, rfl⟩ := mem_valueCompletions hitem
      rfl
    · intro item hitem
      obtain ⟨text, detail, about, rfl⟩ := mem_valueCompletions hitem
      rfl
    · intro text
      rw [exists_valueCompletion_iff]
      simp [hget]

/-! ## Names -/

/-- What is offered are the variables of the catalog, each once, in the order of the catalog. -/
structure OffersNames (c : Catalog) (items : List Completion) : Prop where
  eq_map : items = c.toList.map .name
  mem_iff : ∀ item, item ∈ items ↔ ∃ v, c.get? v.name = some v ∧ item = .name v
  increasing : items.Pairwise fun i j => ByteLess (lowercased i.label) (lowercased j.label)

theorem offersNames_of_unfinished? (version : String) (vs : List Variable) {before : String}
    (h : unfinished? before = none) :
    OffersNames (.ofVariables version vs) (completions (.ofVariables version vs) before) := by
  have hnames : completions (.ofVariables version vs) before =
      (Catalog.ofVariables version vs).toList.map .name := by rw [completions, h]
  refine ⟨hnames, ?_, ?_⟩
  · intro item
    rw [hnames, List.mem_map]
    simp only [Catalog.mem_toList_ofVariables_iff, eq_comm]
  · rw [hnames, List.pairwise_map]
    exact Catalog.pairwise_toList_ofVariables version vs

/-! ## The cursor in a document -/

theorem completionsAt?_of_line? {s : Session} {uri : Uri} {p : Position} {doc : Document}
    {line : String} (hdoc : s.document? uri = some doc) (hline : doc.line? p.line = some line) :
    s.completionsAt? uri p =
      some (completions s.catalog (leftOf line (charColumn line.toList p.column))) := by
  rw [Session.completionsAt?, Session.place?, hdoc, Option.bind_some, hline]
  rfl

/-- On every line the side of the first equals sign that the cursor is on decides what is offered.
Right of it, if a name stands left of it, what was typed is read as the beginning of an assignment
to that name, and this stays so further right. On a line that assigns a value, these are all columns
right of the sign, and what was typed there up to the end of the line comes to the value. -/
theorem side_decides_completions (line : String) (hfeed : '\n' ∉ line.toList) :
    (∀ column name rest, unfinished? (leftOf line column) = some (name, rest) ↔
      '=' ∈ line.toList.take column ∧
        HoldsName (beforeEquals (line.toList.take column)) name.toList ∧
        rest.toList = trimStart (afterEquals (line.toList.take column))) ∧
    (∀ column further name rest, column ≤ further →
      unfinished? (leftOf line column) = some (name, rest) →
        ∃ more, unfinished? (leftOf line further) = some (name, more)) ∧
    (∀ a, assignment? line = some a →
      (∀ column, (unfinished? (leftOf line column)).map Prod.fst =
        if (beforeEquals line.toList).length < column then some a.name else none) ∧
      ∃ rest, unfinished? (leftOf line line.toList.length) = some (a.name, rest) ∧
        a.value = trimmed (String.ofList (uncommented rest.toList))) ∧
    (∀ c column name rest, unfinished? (leftOf line column) = some (name, rest) →
      OffersValues c name (completions c (leftOf line column))) ∧
    (∀ version vs column, unfinished? (leftOf line column) = none →
      OffersNames (.ofVariables version vs)
        (completions (.ofVariables version vs) (leftOf line column))) ∧
    ∀ (s : Session) (uri : Uri) (p : Position) (doc : Document), s.document? uri = some doc →
      doc.line? p.line = some line → s.completionsAt? uri p =
        some (completions s.catalog (leftOf line (charColumn line.toList p.column))) := by
  refine ⟨?_, ?_, ?_, ?_, ?_, ?_⟩
  · intro column name rest
    rw [unfinished?_eq_some_iff (feed_not_mem_leftOf hfeed column), toList_leftOf]
  · intro column further name rest hle h
    exact unfinished?_leftOf_mono hfeed hle h
  · intro a ha
    refine ⟨?_, ?_⟩
    · intro column
      rw [unfinished?_leftOf_of_assignment? hfeed ha]
      split <;> rfl
    · have hwhole : leftOf line line.toList.length = line := by
        rw [leftOf, List.take_length, String.ofList_toList]
      rw [hwhole]
      exact unfinished?_of_assignment? hfeed ha
  · intro c column name rest h
    exact offersValues_of_unfinished? c h
  · intro version vs column h
    exact offersNames_of_unfinished? version vs h
  · intro s uri p doc hdoc hline
    exact completionsAt?_of_line? hdoc hline

def mixingLine : String := "\tmixing =  density # old"

theorem side_decides_completions_mixingLine :
    '\n' ∉ mixingLine.toList ∧
      (∃ a, assignment? mixingLine = some a ∧ a.name = "mixing" ∧ a.value = "density" ∧
        ∀ column, (unfinished? (leftOf mixingLine column)).map Prod.fst =
          if 8 < column then some "mixing" else none) ∧
      OffersValues mixingCatalog "mixing" (completions mixingCatalog (leftOf mixingLine 9)) ∧
      OffersNames mixingCatalog (completions mixingCatalog (leftOf mixingLine 8)) := by
  have hfeed : '\n' ∉ mixingLine.toList := by decide +kernel
  have hpieces : (beforeEquals mixingLine.toList).length = 8 := by decide +kernel
  have hassigned : (assignment? mixingLine).map (fun a => (a.name, a.value)) =
      some ("mixing", "density") := by decide +kernel
  have hright : unfinished? (leftOf mixingLine 9) = some ("mixing", "") := by decide +kernel
  have hleft : unfinished? (leftOf mixingLine 8) = none := by decide +kernel
  obtain ⟨_, _, hassignment, hvalues, hnames, _⟩ := side_decides_completions mixingLine hfeed
  obtain ⟨a, ha, hpair⟩ := Option.map_eq_some_iff.1 hassigned
  obtain ⟨hname, hvalue⟩ := Prod.mk.inj hpair
  have hcolumns := (hassignment a ha).1
  rw [hpieces, hname] at hcolumns
  exact ⟨hfeed, ⟨a, ha, hname, hvalue, hcolumns⟩, hvalues mixingCatalog 9 "mixing" "" hright,
    hnames "14.1" [mixing] 8 hleft⟩

end InputDeck.Editor
