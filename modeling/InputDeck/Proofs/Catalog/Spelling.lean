import Mathlib.Logic.Relation
import InputDeck.Proofs.Catalog.Representation

/-!
# Spellings of a data file

A data file may write the same variable in many ways. `Rewritten` lists them one by one: members by
any of their names and in any order, members that nobody knows, one text for a list of one, and
nothing said in several ways. Whatever the other members are, each of them leaves what the fields
read as, and so any number of them leaves the catalog. A field that is given twice has no content,
and the file is refused.
-/

namespace InputDeck

open InputDeck.Text

inductive Json.IsScalar : Json → Prop where
  | string (s : String) : IsScalar (.string s)
  | number (n : Json.Number) : IsScalar (.number n)
  | bool (b : Bool) : IsScalar (.bool b)

namespace Variable

/-! ## Fields that read alike -/

namespace Field

theorem eq_of_mem_names {f g : Field} {k : String} (hf : k ∈ f.names) (hg : k ∈ g.names) :
    f = g := by
  have hall : ∀ f ∈ all, ∀ g ∈ all, ∀ k ∈ f.names, k ∈ g.names → f = g := by decide +kernel
  exact hall f f.mem_all g g.mem_all k hf hg

/-- Two contents of a field say the same of a variable. -/
def Alike (f : Field) (x y : Option Json) : Prop :=
  ∀ key v, f.Reads key x v ↔ f.Reads key y v

def IsList (f : Field) : Prop :=
  f = defaults ∨ f = description

def IsOptional (f : Field) : Prop :=
  f = name ∨ f = link

theorem IsOptional.not_isList {f : Field} (h : f.IsOptional) : ¬ f.IsList := by
  rcases h with rfl | rfl <;> simp [IsList]

theorem IsList.alike {f : Field} (hf : f.IsList) {x y : Option Json}
    (h : Json.texts? x = Json.texts? y) : f.Alike x y := by
  intro key v
  rcases hf with rfl | rfl <;> rw [Reads, Reads, h]

theorem IsOptional.alike {f : Field} (hf : f.IsOptional) {x y : Option Json}
    (h : Json.optionalText? x = Json.optionalText? y) : f.Alike x y := by
  intro key v
  rcases hf with rfl | rfl <;> rw [Reads, Reads, h]

/-- The ways in which a field says nothing: it is absent, null or blank, or, if it holds a list, a
list of blank texts. -/
inductive SaysNothing (f : Field) : Option Json → Prop where
  | absent : SaysNothing f none
  | null : SaysNothing f (some .null)
  | blank {s : String} (hs : AllBlank s.toList) : SaysNothing f (some (.string s))
  | blanks {texts : List String} (hf : f.IsList) (htexts : ∀ s ∈ texts, AllBlank s.toList) :
      SaysNothing f (some (.array (texts.map .string)))

theorem SaysNothing.texts?_eq {f : Field} {x : Option Json} (h : f.SaysNothing x) :
    Json.texts? x = some [] := by
  cases h with
  | absent => rfl
  | null => rfl
  | @blank s hs =>
    have hblank : isBlankText s = true := isBlankText_iff.2 hs
    simp [Json.texts?, Json.scalarText?, hblank]
  | @blanks texts _ htexts =>
    have hread : (texts.map Json.string).mapM Json.scalarText? = some texts :=
      Json.mapM_map_eq_some fun _ _ => rfl
    have hnone : texts.filter (!isBlankText ·) = [] := by
      rw [List.filter_eq_nil_iff]
      intro s hs
      simpa using isBlankText_iff.2 (htexts s hs)
    rw [Json.texts?, hread, Option.map_some, hnone]

theorem SaysNothing.optionalText?_eq {f : Field} (hf : f.IsOptional) {x : Option Json}
    (h : f.SaysNothing x) : Json.optionalText? x = some none := by
  cases h with
  | absent => rfl
  | null => rfl
  | @blank s hs =>
    have hblank : isBlankText s = true := isBlankText_iff.2 hs
    rw [Json.optionalText?, if_pos hblank]
  | blanks hlist _ => exact absurd hlist hf.not_isList

theorem SaysNothing.alike {f : Field} (hf : f.IsList ∨ f.IsOptional) {x y : Option Json}
    (hx : f.SaysNothing x) (hy : f.SaysNothing y) : f.Alike x y := by
  rcases hf with hlist | hoptional
  · exact hlist.alike (hx.texts?_eq.trans hy.texts?_eq.symm)
  · exact hoptional.alike
      ((hx.optionalText?_eq hoptional).trans (hy.optionalText?_eq hoptional).symm)

theorem alike_single {f : Field} (hf : f.IsList) {s : Json} (hs : s.IsScalar) :
    f.Alike (some s) (some (.array [s])) := by
  apply hf.alike
  cases hs with
  | string s => rfl
  | number n =>
    change (n.value?.map _).map _ = (List.mapM Json.scalarText? [.number n]).map _
    rw [List.mapM_cons, Json.scalarText?]
    cases n.value? <;> rfl
  | bool b => rfl

theorem alike_options {os os' : List (String × Json)} {items more : List Json}
    (h : Json.Respelled VariableOption.fieldNames os os') :
    options.Alike (some (.array (items ++ .object os :: more)))
      (some (.array (items ++ .object os' :: more))) := by
  have hapart : Json.FieldsApart VariableOption.fieldNames := by decide +kernel
  have hread : VariableOption.ofJson? (.object os) = VariableOption.ofJson? (.object os') := by
    rw [VariableOption.ofJson?, VariableOption.ofJson?, h.fields?_eq hapart]
  intro key v
  rw [Reads, Reads, options?, options?, List.mapM_append, List.mapM_append, List.mapM_cons,
    List.mapM_cons, hread]

end Field

/-! ## One rewrite -/

/-- One way to write the members of a variable differently. -/
inductive Rewritten : List (String × Json) → List (String × Json) → Prop where
  | members {ms ms' : List (String × Json)} (h : Json.Respelled fieldNames ms ms') :
      Rewritten ms ms'
  | option {k : String} {before after os os' : List (String × Json)} {items more : List Json}
      (hk : k ∈ Field.options.names) (h : Json.Respelled VariableOption.fieldNames os os') :
      Rewritten (before ++ (k, .array (items ++ .object os :: more)) :: after)
        (before ++ (k, .array (items ++ .object os' :: more)) :: after)
  | single {f : Field} {k : String} {s : Json} {before after : List (String × Json)}
      (hf : f.IsList) (hk : k ∈ f.names) (hs : s.IsScalar) :
      Rewritten (before ++ (k, s) :: after) (before ++ (k, .array [s]) :: after)
  | nothing {f : Field} {k : String} {v w : Json} {before after : List (String × Json)}
      (hf : f.IsList ∨ f.IsOptional) (hk : k ∈ f.names) (hv : f.SaysNothing (some v))
      (hw : f.SaysNothing (some w)) :
      Rewritten (before ++ (k, v) :: after) (before ++ (k, w) :: after)
  | absent {f : Field} {k : String} {v : Json} {before after : List (String × Json)}
      (hf : f.IsList ∨ f.IsOptional) (hk : k ∈ f.names) (hv : f.SaysNothing (some v))
      (habsent : ∀ m ∈ before ++ after, m.1 ∉ f.names) :
      Rewritten (before ++ (k, v) :: after) (before ++ after)

def Says (ms : List (String × Json)) (key : String) (v : Variable) (f : Field) : Prop :=
  ∃ content, Json.field? f.names ms = some content ∧ f.Reads key content v

theorem ofJson?_congr {ms ms' : List (String × Json)} {key : String}
    (h : ∀ v f, Says ms key v f ↔ Says ms' key v f) :
    ofJson? key (.object ms) = ofJson? key (.object ms') := by
  refine Option.ext fun v => ?_
  rw [ofJson?_object_eq_some_iff, ofJson?_object_eq_some_iff]
  exact forall_congr' (h v)

theorem says_exchange {f : Field} {k : String} (hk : k ∈ f.names) {v w : Json}
    (h : f.Alike (some v) (some w)) (before after : List (String × Json)) (key : String)
    (u : Variable) (g : Field) :
    Says (before ++ (k, v) :: after) key u g ↔ Says (before ++ (k, w) :: after) key u g := by
  rw [Says, Says]
  by_cases hg : k ∈ g.names
  · obtain rfl := Field.eq_of_mem_names hk hg
    rw [Json.field?_of_mem hk, Json.field?_of_mem hk]
    split
    · simp only [Option.some.injEq, exists_eq_left']
      exact h key u
    · simp
  · rw [Json.field?_of_not_mem hg, Json.field?_of_not_mem hg]

theorem says_absent {f : Field} {k : String} (hk : k ∈ f.names) {v : Json}
    (h : f.Alike (some v) none) {before after : List (String × Json)}
    (habsent : ∀ m ∈ before ++ after, m.1 ∉ f.names) (key : String) (u : Variable) (g : Field) :
    Says (before ++ (k, v) :: after) key u g ↔ Says (before ++ after) key u g := by
  rw [Says, Says]
  by_cases hg : k ∈ g.names
  · obtain rfl := Field.eq_of_mem_names hk hg
    have hnil := Json.given_eq_nil habsent
    rw [Json.field?_of_mem hk, if_pos hnil, Json.field?, hnil]
    simp only [Option.some.injEq, exists_eq_left']
    exact h key u
  · rw [Json.field?_of_not_mem hg]

theorem fieldsApart_fieldNames : Json.FieldsApart fieldNames := by
  intro a ha b hb k hka hkb
  rw [Field.fieldNames_eq] at ha hb
  obtain ⟨f, _, rfl⟩ := List.mem_map.1 ha
  obtain ⟨g, _, rfl⟩ := List.mem_map.1 hb
  rw [Field.eq_of_mem_names hka hkb]

/-- No rewrite makes a difference to the variable that is read. -/
theorem Rewritten.ofJson?_eq {ms ms' : List (String × Json)} (h : Rewritten ms ms') (key : String) :
    ofJson? key (.object ms) = ofJson? key (.object ms') := by
  apply ofJson?_congr
  intro v g
  cases h with
  | members h =>
    have hnames : g.names ∈ fieldNames := List.mem_map_of_mem g.mem_all
    rw [Says, Says, h.field?_eq fieldsApart_fieldNames hnames]
  | option hk h => exact says_exchange hk (Field.alike_options h) _ _ key v g
  | single hf hk hs => exact says_exchange hk (Field.alike_single hf hs) _ _ key v g
  | nothing hf hk hv hw => exact says_exchange hk (hv.alike hf hw) _ _ key v g
  | absent hf hk hv habsent => exact says_absent hk (hv.alike hf .absent) habsent key v g

theorem ofJson?_eq_of_eqvGen {ms ms' : List (String × Json)}
    (h : Relation.EqvGen Rewritten ms ms') (key : String) :
    ofJson? key (.object ms) = ofJson? key (.object ms') := by
  induction h with
  | rel _ _ h => exact h.ofJson?_eq key
  | refl _ => rfl
  | symm _ _ _ ih => exact ih.symm
  | trans _ _ _ _ _ ih ih' => exact ih.trans ih'

/-! ## Fields that are given twice -/

/-- The variable gives one of its fields twice, or one of its options does. -/
inductive GivesTwice (ms : List (String × Json)) : Prop where
  | field (h : Json.Repeats fieldNames ms)
  | option {k : String} {items : List Json} {os : List (String × Json)}
      (hk : k ∈ Field.options.names) (hitems : (k, .array items) ∈ ms) (hos : .object os ∈ items)
      (h : Json.Repeats VariableOption.fieldNames os)

theorem GivesTwice.ofJson?_eq_none {ms : List (String × Json)} (h : GivesTwice ms) (key : String) :
    ofJson? key (.object ms) = none := by
  rw [Option.eq_none_iff_forall_ne_some]
  intro v hv
  cases h with
  | field h =>
    obtain ⟨contents, hcontents, _⟩ := ofJson?_eq_some_iff.1 hv
    rw [h.fields?_eq_none] at hcontents
    cases hcontents
  | @option k items os hk hitems hos h =>
    obtain ⟨content, hcontent, hreads⟩ := ofJson?_object_eq_some_iff.1 hv .options
    obtain rfl := Json.field?_eq_of_mem hitems hk hcontent
    have hread : items.mapM VariableOption.ofJson? = some v.options := hreads
    have hnone : VariableOption.ofJson? (.object os) = none := by
      rw [VariableOption.ofJson?, h.fields?_eq_none]
    rw [Json.mapM_eq_none_of_mem hos hnone] at hread
    cases hread

end Variable

namespace Catalog

def MemberRewritten (m m' : String × Json) : Prop :=
  m.1 = m'.1 ∧ ∃ ms ms', m.2 = .object ms ∧ m'.2 = .object ms' ∧
    Relation.EqvGen Variable.Rewritten ms ms'

theorem MemberRewritten.readMember?_eq {m m' : String × Json} (h : MemberRewritten m m') :
    readMember? m = readMember? m' := by
  obtain ⟨hkey, ms, ms', hms, hms', heqv⟩ := h
  rw [readMember?, readMember?, hms, hms', hkey, Variable.ofJson?_eq_of_eqvGen heqv]

theorem mapM_readMember?_eq_of_forall₂ {members members' : List (String × Json)}
    (h : List.Forall₂ MemberRewritten members members') :
    members.mapM readMember? = members'.mapM readMember? := by
  induction h with
  | nil => rfl
  | cons hm _ ih => rw [List.mapM_cons, List.mapM_cons, hm.readMember?_eq, ih]

/-- Two data files that write the same variables differently give the same catalog or are both
refused, and a data file that gives a field twice is refused. -/
theorem spelling_leaves_catalog :
    (∀ version text text' members members',
      Json.read? text = some (.object members) → Json.read? text' = some (.object members') →
        List.Forall₂ MemberRewritten members members' →
          read? version text = read? version text') ∧
    ∀ version text members key ms, Json.read? text = some (.object members) →
      (key, .object ms) ∈ members → Variable.GivesTwice ms → read? version text = none := by
  constructor
  · intro version text text' members members' htext htext' hrewritten
    rw [read?, read?, htext, htext', Option.bind_some, Option.bind_some, ofJson?_object,
      ofJson?_object, mapM_readMember?_eq_of_forall₂ hrewritten]
  · intro version text members key ms htext hmember htwice
    have hnone : readMember? (key, .object ms) = none := by
      rw [readMember?, htwice.ofJson?_eq_none key, Option.map_none]
    rw [read?, htext, Option.bind_some, ofJson?_object, Json.mapM_eq_none_of_mem hmember hnone,
      Option.map_none]

def plainFile : String :=
  "\x7b\"A\":\x7b\"Default\":\"2\",\"Options\":[\x7b\"Name\":\"o\",\"Value\":\"1\"\x7d]\x7d\x7d"

def respelledFile : String :=
  "\x7b\"A\":\x7b\"options\":[\x7b\"value\":\"1\",\"Name\":\"o\"\x7d],\"docUrl\":null," ++
    "\"Default\":[\"2\"]\x7d\x7d"

def doubledFile : String :=
  "\x7b\"A\":\x7b\"Name\":\"x\",\"name\":\"y\"\x7d\x7d"

theorem spelling_leaves_catalog_plainFile :
    read? "1" plainFile = read? "1" respelledFile ∧
      (read? "1" respelledFile).map (·.toList) =
        some [⟨"A", .other "", ["2"], "", [], [⟨"o", "1"⟩], none⟩] ∧
      read? "1" doubledFile = none := by
  have hplain : Json.read? plainFile = some (.object [("A", .object [("Default", .string "2"),
      ("Options", .array [.object [("Name", .string "o"), ("Value", .string "1")]])])]) := rfl
  have hrespelled : Json.read? respelledFile = some (.object [("A", .object [
      ("options", .array [.object [("value", .string "1"), ("Name", .string "o")]]),
      ("docUrl", .null), ("Default", .array [.string "2"])])]) := rfl
  have hdoubled : Json.read? doubledFile = some (.object [("A", .object [("Name", .string "x"),
      ("name", .string "y")])]) := rfl
  refine ⟨?_, ?_, ?_⟩
  · apply spelling_leaves_catalog.1 _ _ _ _ _ hplain hrespelled
    refine .cons ⟨rfl, _, _, rfl, rfl, ?_⟩ .nil
    have hlist : "Default" ∈ Variable.Field.defaults.names := by decide +kernel
    have hoptions : "Options" ∈ Variable.Field.options.names := by decide +kernel
    have hlink : "docUrl" ∈ Variable.Field.link.names := by decide +kernel
    -- The default as a list, the members of the option renamed and exchanged, then the same with
    -- those of the variable, and last the link that says nothing.
    refine .trans _ _ _ (.rel _ _ (@Variable.Rewritten.single .defaults _ _ [] _ (.inl rfl) hlist
      (.string "2"))) ?_
    refine .trans _ _ _ (.rel _ _ (@Variable.Rewritten.option _ [_] [] _ _ [] [] hoptions
      (@Json.Respelled.rename _ ["Value", "value"] _ "value" _ [_] [] (by decide +kernel)
        (by decide) (by decide)))) ?_
    refine .trans _ _ _ (.rel _ _ (@Variable.Rewritten.option _ [_] [] _ _ [] [] hoptions
      (.reorder (.swap _ _ _)))) ?_
    refine .trans _ _ _ (.rel _ _ (.members (.reorder (.swap _ _ _)))) ?_
    refine .trans _ _ _ (.rel _ _ (.members (@Json.Respelled.rename _ ["Options", "options"] _
      "options" _ [] _ (by decide +kernel) (by decide) (by decide)))) ?_
    exact .symm _ _ (.rel _ _ (@Variable.Rewritten.absent .link _ _ [_] _ (.inr (.inr rfl)) hlink
      .null (by decide +kernel)))
  · rw [read?, hrespelled]
    decide +kernel
  · exact spelling_leaves_catalog.2 _ _ _ _ _ hdoubled List.mem_cons_self (.field
      ⟨["Name", "name"], by decide +kernel, ("Name", .string "x"), ("name", .string "y"),
        by decide, by decide, .refl _⟩)

end Catalog

end InputDeck
