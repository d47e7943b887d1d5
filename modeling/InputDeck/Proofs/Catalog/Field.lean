import InputDeck.Proofs.Json.Field

/-!
# The fields of a variable

A variable is read field by field. Each field is read from its own content and sets its own part of
the variable, so a variable is read exactly if every field reads as the part that it sets.
-/

namespace InputDeck.Variable

inductive Field where
  | name
  | kind
  | defaults
  | sectionName
  | description
  | options
  | link
  deriving DecidableEq

namespace Field

def all : List Field :=
  [name, kind, defaults, sectionName, description, options, link]

theorem mem_all (f : Field) : f ∈ all := by
  cases f <;> decide

def names : Field → List String
  | name => ["Name", "name"]
  | kind => ["Type", "type"]
  | defaults => ["Default", "default"]
  | sectionName => ["Section", "section"]
  | description => ["Description", "description"]
  | options => ["Options", "options"]
  | link => ["docUrl", "DocUrl", "doc_url"]

theorem fieldNames_eq : fieldNames = all.map names := rfl

/-- The content of the field is read as what the variable has there. The key of its member stands in
for a name that is not given. -/
def Reads (key : String) : Field → Option Json → Variable → Prop
  | name, content, v => (Json.optionalText? content).map (·.getD key) = some v.name
  | kind, content, v => (Json.plainText? content).map VariableKind.ofName = some v.kind
  | defaults, content, v => Json.texts? content = some v.defaults
  | sectionName, content, v => Json.plainText? content = some v.sectionName
  | description, content, v => Json.texts? content = some v.description
  | options, content, v => options? content = some v.options
  | link, content, v => Json.optionalText? content = some v.link

end Field

theorem ofJson?_eq_some_iff {key : String} {value : Json} {v : Variable} :
    ofJson? key value = some v ↔ ∃ contents : Field → Option Json,
      value.fields? fieldNames = some (Field.all.map contents) ∧
        ∀ f : Field, f.Reads key (contents f) v := by
  constructor
  · intro h
    simp only [ofJson?, Option.bind_eq_bind] at h
    obtain ⟨fields, hfields, h⟩ := Option.bind_eq_some_iff.1 h
    split at h
    · next name kind defaults section_ description options link =>
      obtain ⟨_, hname, h⟩ := Option.bind_eq_some_iff.1 h
      obtain ⟨_, hkind, h⟩ := Option.bind_eq_some_iff.1 h
      obtain ⟨_, hdefaults, h⟩ := Option.bind_eq_some_iff.1 h
      obtain ⟨_, hsection, h⟩ := Option.bind_eq_some_iff.1 h
      obtain ⟨_, hdescription, h⟩ := Option.bind_eq_some_iff.1 h
      obtain ⟨_, hoptions, h⟩ := Option.bind_eq_some_iff.1 h
      obtain ⟨_, hlink, h⟩ := Option.bind_eq_some_iff.1 h
      obtain rfl := Option.some.inj h
      refine ⟨fun
        | .name => name
        | .kind => kind
        | .defaults => defaults
        | .sectionName => section_
        | .description => description
        | .options => options
        | .link => link, hfields, ?_⟩
      intro f
      cases f with
      | name => simp only [Field.Reads, hname, Option.map_some]
      | kind => simp only [Field.Reads, hkind, Option.map_some]
      | defaults => exact hdefaults
      | sectionName => exact hsection
      | description => exact hdescription
      | options => exact hoptions
      | link => exact hlink
    · cases h
  · rintro ⟨contents, hfields, hreads⟩
    obtain ⟨name, hname, hkey⟩ := Option.map_eq_some_iff.1 (hreads .name)
    obtain ⟨kind, hkind, hofName⟩ := Option.map_eq_some_iff.1 (hreads .kind)
    have hdefaults : Json.texts? (contents .defaults) = _ := hreads .defaults
    have hsection : Json.plainText? (contents .sectionName) = _ := hreads .sectionName
    have hdescription : Json.texts? (contents .description) = _ := hreads .description
    have hoptions : options? (contents .options) = _ := hreads .options
    have hlink : Json.optionalText? (contents .link) = _ := hreads .link
    simp only [ofJson?, hfields, Field.all, List.map_cons, List.map_nil, Option.bind_eq_bind,
      Option.bind_some, hname, hkind, hdefaults, hsection, hdescription, hoptions, hlink, hkey,
      hofName, Option.pure_def]

/-- An object is read as a variable exactly if each of its fields is given at most once and reads as
the part of the variable that it sets. -/
theorem ofJson?_object_eq_some_iff {key : String} {ms : List (String × Json)} {v : Variable} :
    ofJson? key (.object ms) = some v ↔
      ∀ f : Field, ∃ content, Json.field? f.names ms = some content ∧ f.Reads key content v := by
  have hfields : ∀ contents : Field → Option Json,
      Json.fields? fieldNames (.object ms) = some (Field.all.map contents) ↔
        ∀ f : Field, Json.field? f.names ms = some (contents f) := by
    intro contents
    rw [Json.fields?_object, Field.fieldNames_eq, Json.mapM_eq_some_iff_forall₂,
      List.forall₂_map_left_iff, List.forall₂_map_right_iff, List.forall₂_same]
    exact ⟨fun h f => h f f.mem_all, fun h f _ => h f⟩
  rw [ofJson?_eq_some_iff]
  constructor
  · rintro ⟨contents, hcontents, hreads⟩ f
    exact ⟨contents f, (hfields contents).1 hcontents f, hreads f⟩
  · intro h
    obtain ⟨contents, hcontents⟩ := Classical.skolem.1 h
    exact ⟨contents, (hfields contents).2 fun f => (hcontents f).1, fun f => (hcontents f).2⟩

end InputDeck.Variable
