import Mathlib.Data.List.Dedup
import Mathlib.Data.List.Find
import InputDeck.Catalog.Data
import InputDeck.Proofs.Dictionary
import InputDeck.Proofs.Json.RoundTrip
import InputDeck.Proofs.Text.Blank

/-!
# Data files and the catalogs they are read as

A data file leaves out what is empty and its reader leaves out what is blank, so it holds a variable
in full if nothing in the variable is blank: `Variable.Storable`. Data files have one member per
name and catalogs one entry per name in lower case. So nothing is lost between them as long as
different names stay different in lower case.
-/

namespace InputDeck

open InputDeck.Text

/-! ## One variable -/

theorem isBlankText_iff {s : String} : isBlankText s = true ↔ AllBlank s.toList :=
  List.all_eq_true

/-- What a data file can hold of a variable is all there is to it. -/
structure Variable.Storable (v : Variable) : Prop where
  name : isBlankText v.name = false
  kind : VariableKind.ofName v.kind.name = v.kind
  defaults : ∀ s ∈ v.defaults, isBlankText s = false
  description : ∀ s ∈ v.description, isBlankText s = false
  link : v.link = none

namespace Json

def listField (items : List Json) : Option Json :=
  if items.isEmpty then none else some (array items)

theorem texts?_listField {texts : List String} (h : ∀ s ∈ texts, isBlankText s = false) :
    texts? (listField (texts.map string)) = some texts := by
  cases texts with
  | nil => rfl
  | cons s texts =>
    have hfilter : (s :: texts).filter (!isBlankText ·) = s :: texts := by
      rw [List.filter_eq_self]
      intro t ht
      rw [h t ht]
      rfl
    have hread : ((s :: texts).map string).mapM scalarText? = some (s :: texts) :=
      mapM_map_eq_some fun _ _ => rfl
    change (((s :: texts).map string).mapM scalarText?).map _ = _
    rw [hread, Option.map_some, hfilter]

end Json

namespace VariableOption

theorem ofJson?_toJson (o : VariableOption) : ofJson? o.toJson = some o := by
  have hfields : o.toJson.fields? fieldNames =
      some [some (.string o.name), some (.string o.value)] := by
    simp [toJson, Json.fields?, fieldNames]
  rw [ofJson?, hfields]
  rfl

end VariableOption

namespace Variable

theorem options?_listField (os : List VariableOption) :
    options? (Json.listField (os.map VariableOption.toJson)) = some os := by
  cases os with
  | nil => rfl
  | cons o os => exact Json.mapM_map_eq_some fun o _ => VariableOption.ofJson?_toJson o

theorem fields?_toJson (v : Variable) :
    v.toJson.fields? fieldNames =
      some [some (.string v.name), some (.string v.kind.name),
        Json.listField (v.defaults.map .string), some (.string v.sectionName),
        Json.listField (v.description.map .string),
        Json.listField (v.options.map VariableOption.toJson), none] := by
  rw [toJson, Json.fields?]
  generalize v.defaults.map Json.string = defaults
  generalize v.description.map Json.string = description
  generalize v.options.map VariableOption.toJson = options
  cases defaults <;> cases description <;> cases options <;>
    simp [fieldNames, listMember, Json.listField]

/-- A storable variable is read back as it is, whatever its member is called. -/
theorem ofJson?_toJson {v : Variable} (h : v.Storable) (key : String) :
    ofJson? key v.toJson = some v := by
  have hname : Json.optionalText? (some (.string v.name)) = some (some v.name) := by
    rw [Json.optionalText?, h.name]
    rfl
  have hlink : Json.optionalText? none = some v.link := by
    rw [h.link]
    rfl
  have hplain : ∀ s, Json.plainText? (some (.string s)) = some s := fun _ => rfl
  simp only [ofJson?, fields?_toJson, Option.bind_eq_bind, Option.bind_some, hname, hlink, hplain,
    Json.texts?_listField h.defaults, Json.texts?_listField h.description, options?_listField,
    h.kind, Option.getD_some, Option.pure_def]

theorem textual_toJson (v : Variable) : Json.Textual v.toJson := by
  have hlist : ∀ key items, (∀ i ∈ items, Json.Textual i) →
      ∀ m ∈ listMember key items, Json.Textual m.2 := by
    intro key items hitems m hm
    rw [listMember] at hm
    split at hm
    · cases hm
    · rw [List.mem_singleton.1 hm]
      exact .array hitems
  have htexts : ∀ texts : List String, ∀ i ∈ texts.map Json.string, Json.Textual i := by
    intro texts i hi
    obtain ⟨s, _, rfl⟩ := List.mem_map.1 hi
    exact .string s
  have hoptions : ∀ i ∈ v.options.map VariableOption.toJson, Json.Textual i := by
    intro i hi
    obtain ⟨o, _, rfl⟩ := List.mem_map.1 hi
    refine .object fun m hm => ?_
    rcases List.mem_cons.1 hm with rfl | hm
    · exact .string _
    · rw [List.mem_singleton.1 hm]
      exact .string _
  refine .object fun m hm => ?_
  simp only [List.mem_append, List.mem_cons, List.not_mem_nil, or_false] at hm
  rcases hm with (((((rfl | rfl) | hm) | rfl) | hm) | hm)
  · exact .string _
  · exact .string _
  · exact hlist _ _ (htexts _) m hm
  · exact .string _
  · exact hlist _ _ (htexts _) m hm
  · exact hlist _ _ hoptions m hm

end Variable

/-! ## Many variables -/

namespace Catalog

/-- The variables under their names, the last one under each name. -/
def byName (vs : List Variable) : Dictionary Variable :=
  .ofList (vs.map fun v => (v.name, v))

theorem get?_byName (vs : List Variable) (name : String) :
    (byName vs).get? name = vs.reverse.find? (·.name == name) :=
  Dictionary.get?_ofList_map Variable.name vs name

theorem of_get?_byName {vs : List Variable} {name : String} {v : Variable}
    (h : (byName vs).get? name = some v) : v ∈ vs ∧ v.name = name := by
  rw [get?_byName] at h
  exact ⟨List.mem_reverse.1 (List.mem_of_find?_eq_some h), eq_of_beq (List.find?_some h :)⟩

theorem get?_table_ofVariables (version : String) (vs : List Variable) (k : String) :
    (ofVariables version vs).table.get? k = vs.reverse.find? (·.key == k) :=
  Dictionary.get?_ofList_map Variable.key vs k

theorem get?_ofVariables (version : String) (vs : List Variable) (name : String) :
    (ofVariables version vs).get? name = vs.reverse.find? (·.key == lowercased name) :=
  get?_table_ofVariables version vs (lowercased name)

theorem mem_of_get?_ofVariables {version : String} {vs : List Variable} {name : String}
    {v : Variable} (h : (ofVariables version vs).get? name = some v) : v ∈ vs := by
  rw [get?_ofVariables] at h
  exact List.mem_reverse.1 (List.mem_of_find?_eq_some h)

/-- What a catalog has is found by its name. -/
theorem mem_toList_ofVariables_iff {version : String} {vs : List Variable} {v : Variable} :
    v ∈ (ofVariables version vs).toList ↔ (ofVariables version vs).get? v.name = some v := by
  rw [toList, Dictionary.mem_values_iff]
  constructor
  · rintro ⟨k, hk⟩
    have hkey : v.key = k := by
      rw [get?_table_ofVariables] at hk
      exact eq_of_beq (List.find?_some hk :)
    rwa [← hkey] at hk
  · intro h
    exact ⟨lowercased v.name, h⟩

def member (e : String × Variable) : String × Json :=
  (e.1, e.2.toJson)

theorem dataFile_eq (vs : List Variable) :
    dataFile vs = (Json.object ((byName vs).entries.map member)).pretty :=
  rfl

theorem textual_members (entries : List (String × Variable)) :
    Json.Textual (.object (entries.map member)) := by
  refine .object fun m hm => ?_
  obtain ⟨e, _, rfl⟩ := List.mem_map.1 hm
  exact e.2.textual_toJson

/-- A data file of storable variables is always read, as one variable for each name. -/
theorem read?_dataFile (version : String) {vs : List Variable} (h : ∀ v ∈ vs, v.Storable) :
    read? version (dataFile vs) = some (ofVariables version (byName vs).values) := by
  rw [read?, dataFile_eq, Json.read?_pretty (textual_members _), Option.bind_some, ofJson?,
    Json.mapM_map_eq_some, Option.map_some, Dictionary.ofList_entries]
  intro e he
  have hmem := (of_get?_byName (((byName vs).get?_eq_some_iff e.1 e.2).2 he)).1
  change (Variable.ofJson? e.1 e.2.toJson).map (e.1, ·) = some e
  rw [Variable.ofJson?_toJson (h e.2 hmem)]
  rfl

/-! ## Names in lower case -/

theorem length_dedup_congr {ks ls : List String} (h : ∀ k, k ∈ ks ↔ k ∈ ls) :
    ks.dedup.length = ls.dedup.length := by
  have hmem : ∀ k, k ∈ ks.dedup ↔ k ∈ ls.dedup := by
    intro k
    rw [List.mem_dedup, List.mem_dedup, h]
  exact ((List.perm_ext_iff_of_nodup ks.nodup_dedup ls.nodup_dedup).2 hmem).length_eq

theorem mem_keys_ofVariables_iff (version : String) (vs : List Variable) (k : String) :
    k ∈ (ofVariables version vs).table.keys ↔ k ∈ vs.map Variable.key := by
  rw [← Dictionary.get?_isSome_iff, get?_table_ofVariables, List.find?_isSome, List.mem_map]
  simp only [List.mem_reverse, beq_iff_eq]

/-- A catalog has one entry for each name in lower case. -/
theorem size_ofVariables (version : String) (vs : List Variable) :
    (ofVariables version vs).size = (vs.map Variable.key).dedup.length := by
  have hkeys := (ofVariables version vs).table.keys_nodup
  rw [← length_dedup_congr (mem_keys_ofVariables_iff version vs), hkeys.dedup, Dictionary.keys,
    List.length_map]
  rfl

/-- Keeping the last variable of each name keeps all names. -/
theorem mem_keys_byName_iff (vs : List Variable) (k : String) :
    k ∈ (byName vs).values.map Variable.key ↔ k ∈ vs.map Variable.key := by
  rw [List.mem_map, List.mem_map]
  constructor
  · rintro ⟨v, hv, rfl⟩
    obtain ⟨name, hname⟩ := ((byName vs).mem_values_iff v).1 hv
    exact ⟨v, (of_get?_byName hname).1, rfl⟩
  · rintro ⟨v, hv, rfl⟩
    have hsome : ((byName vs).get? v.name).isSome = true := by
      rw [get?_byName, List.find?_isSome]
      exact ⟨v, List.mem_reverse.2 hv, beq_self_eq_true _⟩
    obtain ⟨w, hw⟩ := Option.isSome_iff_exists.1 hsome
    refine ⟨w, ((byName vs).mem_values_iff w).2 ⟨_, hw⟩, ?_⟩
    rw [Variable.key, (of_get?_byName hw).2]
    rfl

/-- Different names stay different in lower case. -/
def NamesApart (vs : List Variable) : Prop :=
  ∀ u ∈ vs, ∀ w ∈ vs, u.key = w.key → u.name = w.name

/-- The last variable with a key is then the last one with its name. -/
theorem get?_byName_of_last {vs : List Variable} (h : NamesApart vs) {k : String} {w : Variable}
    (hlast : vs.reverse.find? (·.key == k) = some w) : (byName vs).get? w.name = some w := by
  have hw : w ∈ vs := List.mem_reverse.1 (List.mem_of_find?_eq_some hlast)
  have hkey : w.key = k := eq_of_beq (List.find?_some hlast :)
  rw [get?_byName, ← hlast]
  refine List.find?_congr fun v hv => ?_
  rw [Bool.eq_iff_iff, beq_iff_eq, beq_iff_eq, ← hkey]
  constructor
  · intro hname
    rw [Variable.key, hname]
    rfl
  · exact h v (List.mem_reverse.1 hv) w hw

theorem find?_values_byName {vs : List Variable} (h : NamesApart vs) (k : String) :
    (byName vs).values.reverse.find? (·.key == k) = vs.reverse.find? (·.key == k) := by
  cases hlast : vs.reverse.find? (·.key == k) with
  | none =>
    rw [List.find?_eq_none] at hlast ⊢
    intro v hv
    obtain ⟨name, hname⟩ := ((byName vs).mem_values_iff v).1 (List.mem_reverse.1 hv)
    exact hlast v (List.mem_reverse.2 (of_get?_byName hname).1)
  | some w =>
    have hw : w ∈ vs := List.mem_reverse.1 (List.mem_of_find?_eq_some hlast)
    have hkey : w.key = k := eq_of_beq (List.find?_some hlast :)
    have hname := get?_byName_of_last h hlast
    have hsome : ((byName vs).values.reverse.find? (·.key == k)).isSome = true := by
      rw [List.find?_isSome]
      exact ⟨w, List.mem_reverse.2 (((byName vs).mem_values_iff w).2 ⟨_, hname⟩),
        beq_iff_eq.2 hkey⟩
    obtain ⟨u, hu⟩ := Option.isSome_iff_exists.1 hsome
    obtain ⟨name, huget⟩ := ((byName vs).mem_values_iff u).1
      (List.mem_reverse.1 (List.mem_of_find?_eq_some hu))
    obtain ⟨humem, huname⟩ := of_get?_byName huget
    have hukey : u.key = k := eq_of_beq (List.find?_some hu :)
    have hsame : u.name = w.name := h u humem w hw (hukey.trans hkey.symm)
    rw [← huname, hsame, hname] at huget
    rw [hu, huget]

/-- Keeping the last variable of each name first then makes no difference to the catalog. -/
theorem ofVariables_byName {vs : List Variable} (h : NamesApart vs) (version : String) :
    ofVariables version (byName vs).values = ofVariables version vs := by
  have htable : (ofVariables version (byName vs).values).table =
      (ofVariables version vs).table := by
    refine Dictionary.ext_get? fun k => ?_
    rw [get?_table_ofVariables, get?_table_ofVariables, find?_values_byName h]
  exact congrArg (Catalog.mk version) htable

end Catalog

end InputDeck
