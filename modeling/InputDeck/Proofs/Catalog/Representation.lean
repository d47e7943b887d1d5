import InputDeck.Proofs.Catalog.DataFile
import InputDeck.Proofs.Catalog.Field
import InputDeck.Proofs.Text.ByteOrder

/-!
# What a catalog holds

A catalog is made from a list of variables and holds them under their names in lower case, in the
byte order of these; of variables with one name in lower case it holds the last. A data file is read
in two steps: its members go into a dictionary under their keys, and the catalog is made from the
values of that dictionary. So of members that come to one name, the one with the greatest key is
held, whatever their order in the file.
-/

namespace InputDeck

open InputDeck.Text

/-! ## The last of its kind -/

def LastWith {α : Type} (p : α → Prop) (items : List α) (a : α) : Prop :=
  p a ∧ ∃ before after, items = before ++ a :: after ∧ ∀ b ∈ after, ¬ p b

theorem exists_reverse_eq_iff {α : Type} {q : α → Prop} {items : List α} {a : α} :
    (∃ after before, items.reverse = after ++ a :: before ∧ ∀ b ∈ after, q b) ↔
      ∃ before after, items = before ++ a :: after ∧ ∀ b ∈ after, q b := by
  constructor
  · rintro ⟨after, before, hitems, hafter⟩
    refine ⟨before.reverse, after.reverse, ?_, ?_⟩
    · rw [← List.reverse_reverse items, hitems]
      simp
    · exact fun b hb => hafter b (List.mem_reverse.1 hb)
  · rintro ⟨before, after, rfl, hafter⟩
    refine ⟨after.reverse, before.reverse, by simp, ?_⟩
    exact fun b hb => hafter b (List.mem_reverse.1 hb)

theorem find?_reverse_eq_some_iff {α : Type} {p : α → Bool} {items : List α} {a : α} :
    items.reverse.find? p = some a ↔ LastWith (p · = true) items a := by
  rw [List.find?_eq_some_iff_append, exists_reverse_eq_iff]
  simp only [Bool.not_eq_true', LastWith, Bool.not_eq_true]

theorem lookup_reverse_eq_some_iff {α : Type} {entries : List (String × α)} {k : String} {v : α} :
    entries.reverse.lookup k = some v ↔ LastWith (·.1 = k) entries (k, v) := by
  rw [List.lookup_eq_some_iff, exists_reverse_eq_iff]
  simp only [bne_iff_ne, ne_eq, LastWith, true_and, @eq_comm _ k]

/-- In a dictionary the last value with a property is the one with the greatest key. -/
theorem Dictionary.lastWith_values_iff {α : Type} (d : Dictionary α) {p : α → Prop} {v : α} :
    LastWith p d.values v ↔
      ∃ k, d.get? k = some v ∧ p v ∧ ∀ j w, d.get? j = some w → p w → j = k ∨ j < k := by
  constructor
  · rintro ⟨hv, before, after, hvalues, hafter⟩
    obtain ⟨front, rest, hentries, _, hrest⟩ := List.map_eq_append_iff.1 hvalues
    obtain ⟨⟨k, w⟩, back, rfl, rfl, rfl⟩ := List.map_eq_cons_iff.1 hrest
    have hsorted := d.sorted
    rw [hentries, SortedEntries, List.pairwise_append] at hsorted
    have hk : (k, w) ∈ d.entries := by
      rw [hentries]
      exact List.mem_append_right front List.mem_cons_self
    refine ⟨k, (d.get?_eq_some_iff k w).2 hk, hv, fun j u hj hu => ?_⟩
    have hmem := (d.get?_eq_some_iff j u).1 hj
    rw [hentries] at hmem
    rcases List.mem_append.1 hmem with hfront | hmem
    · exact Or.inr (hsorted.2.2 (j, u) hfront (k, w) List.mem_cons_self)
    · rcases List.mem_cons.1 hmem with heq | hback
      · exact Or.inl (congrArg Prod.fst heq)
      · exact absurd hu (hafter u (List.mem_map_of_mem hback))
  · rintro ⟨k, hk, hv, hgreatest⟩
    obtain ⟨front, back, hentries⟩ := List.append_of_mem ((d.get?_eq_some_iff k v).1 hk)
    have hsorted := d.sorted
    rw [hentries, SortedEntries, List.pairwise_append, List.pairwise_cons] at hsorted
    refine ⟨hv, front.map Prod.snd, back.map Prod.snd, ?_, ?_⟩
    · rw [values, hentries, List.map_append, List.map_cons]
    · intro w hw hpw
      obtain ⟨⟨j, u⟩, hback, rfl⟩ := List.mem_map.1 hw
      have hlt : k < j := hsorted.2.1.1 (j, u) hback
      have hj : d.get? j = some u := by
        rw [get?_eq_some_iff, hentries]
        exact List.mem_append_right front (List.mem_cons_of_mem _ hback)
      rcases hgreatest j u hj hpw with rfl | hgt
      · exact String.lt_irrefl _ hlt
      · exact String.lt_irrefl _ (String.lt_trans hlt hgt)

/-- Nothing blank stands among the defaults and the lines of the description or as the link. -/
structure Variable.Nonblank (v : Variable) : Prop where
  defaults : ∀ s ∈ v.defaults, ¬ AllBlank s.toList
  description : ∀ s ∈ v.description, ¬ AllBlank s.toList
  link : ∀ url ∈ v.link, ¬ AllBlank url.toList

namespace Catalog

/-! ## Catalogs of a list -/

/-- The catalog holds the variables of a list as catalogs do. -/
structure Represents (c : Catalog) (vs : List Variable) : Prop where
  key_eq : ∀ e ∈ c.table.entries, e.1 = lowercased e.2.name
  increasing : c.table.entries.Pairwise fun e f => ByteLess e.1 f.1
  size_eq : c.size = (vs.map fun v => lowercased v.name).dedup.length
  get?_eq_some_iff : ∀ q v, c.get? q = some v ↔
    LastWith (fun w => lowercased w.name = lowercased q) vs v
  get?_eq_none_iff : ∀ q, c.get? q = none ↔ ∀ v ∈ vs, lowercased v.name ≠ lowercased q
  found : ∀ v ∈ c.toList, c.get? v.name = some v

theorem key_of_mem_entries {version : String} {vs : List Variable} {e : String × Variable}
    (he : e ∈ (ofVariables version vs).table.entries) : e.1 = e.2.key := by
  have hget := ((ofVariables version vs).table.get?_eq_some_iff e.1 e.2).2 he
  rw [get?_table_ofVariables] at hget
  exact (eq_of_beq (List.find?_some hget :)).symm

theorem represents_ofVariables (version : String) (vs : List Variable) :
    Represents (ofVariables version vs) vs where
  key_eq e he := key_of_mem_entries he
  increasing := (ofVariables version vs).table.sorted.imp lt_iff_byteLess.1
  size_eq := size_ofVariables version vs
  get?_eq_some_iff q v := by
    rw [get?_ofVariables, find?_reverse_eq_some_iff]
    simp only [beq_iff_eq]
    rfl
  get?_eq_none_iff q := by
    rw [get?_ofVariables, List.find?_eq_none]
    simp only [List.mem_reverse, beq_iff_eq]
    rfl
  found v hv := mem_toList_ofVariables_iff.1 hv

theorem pairwise_toList_ofVariables (version : String) (vs : List Variable) :
    (ofVariables version vs).toList.Pairwise fun v w =>
      ByteLess (lowercased v.name) (lowercased w.name) := by
  rw [toList, Dictionary.values, List.pairwise_map]
  refine (ofVariables version vs).table.sorted.imp_of_mem ?_
  intro e f he hf hlt
  rw [key_of_mem_entries he, key_of_mem_entries hf] at hlt
  exact lt_iff_byteLess.1 hlt

/-! ## Catalogs of a data file -/

/-- What the members of a data file give for a key: the last member with that key is read. -/
def Gives (members : List (String × Json)) (k : String) (v : Variable) : Prop :=
  ∃ value, LastWith (·.1 = k) members (k, value) ∧ Variable.ofJson? k value = some v

def ReadsAs (m : String × Json) (e : String × Variable) : Prop :=
  m.1 = e.1 ∧ Variable.ofJson? m.1 m.2 = some e.2

def readMember? (m : String × Json) : Option (String × Variable) :=
  (Variable.ofJson? m.1 m.2).map (m.1, ·)

theorem readMember?_eq_some_iff {m : String × Json} {e : String × Variable} :
    readMember? m = some e ↔ ReadsAs m e := by
  rw [readMember?, Option.map_eq_some_iff]
  constructor
  · rintro ⟨v, hv, rfl⟩
    exact ⟨rfl, hv⟩
  · rintro ⟨hkey, hv⟩
    exact ⟨e.2, hv, by rw [hkey]⟩

theorem ofJson?_object (version : String) (members : List (String × Json)) :
    ofJson? version (.object members) = (members.mapM readMember?).map fun read =>
      ofVariables version (Dictionary.ofList read).values :=
  rfl

theorem mapM_readMember?_eq_some_iff {members : List (String × Json)}
    {read : List (String × Variable)} :
    members.mapM readMember? = some read ↔ List.Forall₂ ReadsAs members read := by
  rw [Json.mapM_eq_some_iff_forall₂]
  exact ⟨.imp fun _ _ => readMember?_eq_some_iff.1, .imp fun _ _ => readMember?_eq_some_iff.2⟩

theorem lookup_of_forall₂ {members : List (String × Json)} {read : List (String × Variable)}
    (h : List.Forall₂ ReadsAs members read) (k : String) :
    read.lookup k = (members.lookup k).bind (Variable.ofJson? k) := by
  induction h with
  | nil => rfl
  | cons hm _ ih =>
    obtain ⟨hkey, hvalue⟩ := hm
    rw [lookup_cons_eq_ite, lookup_cons_eq_ite, ih, ← hkey]
    split
    · next hk =>
      subst hk
      exact hvalue.symm
    · rfl

theorem get?_ofList_eq_some_iff_gives {members : List (String × Json)}
    {read : List (String × Variable)} (h : List.Forall₂ ReadsAs members read) {k : String}
    {v : Variable} : (Dictionary.ofList read).get? k = some v ↔ Gives members k v := by
  rw [Dictionary.get?_ofList, lookup_of_forall₂ (List.forall₂_reverse_iff.2 h),
    Option.bind_eq_some_iff]
  exact exists_congr fun value => and_congr_left' lookup_reverse_eq_some_iff

theorem isSome_mapM_readMember?_iff {members : List (String × Json)} :
    (members.mapM readMember?).isSome = true ↔
      ∀ m ∈ members, (Variable.ofJson? m.1 m.2).isSome = true := by
  simp only [Json.isSome_mapM_iff, readMember?, Option.isSome_map]

theorem read?_eq_some_iff {version text : String} {c : Catalog} :
    read? version text = some c ↔ ∃ members read, Json.read? text = some (.object members) ∧
      List.Forall₂ ReadsAs members read ∧
        ofVariables version (Dictionary.ofList read).values = c := by
  rw [read?, Option.bind_eq_some_iff]
  constructor
  · rintro ⟨value, hvalue, h⟩
    cases value with
    | object members =>
      rw [ofJson?_object, Option.map_eq_some_iff] at h
      obtain ⟨read, hread, hc⟩ := h
      exact ⟨members, read, hvalue, mapM_readMember?_eq_some_iff.1 hread, hc⟩
    | _ => cases h
  · rintro ⟨members, read, hvalue, hread, hc⟩
    refine ⟨_, hvalue, ?_⟩
    rw [ofJson?_object, mapM_readMember?_eq_some_iff.2 hread, Option.map_some, hc]

theorem isSome_read?_iff (version text : String) :
    (read? version text).isSome = true ↔ ∃ members, Json.read? text = some (.object members) ∧
      ∀ m ∈ members, (Variable.ofJson? m.1 m.2).isSome = true := by
  simp only [← isSome_mapM_readMember?_iff]
  simp only [Option.isSome_iff_exists, read?_eq_some_iff, mapM_readMember?_eq_some_iff]
  constructor
  · rintro ⟨_, members, read, hmembers, hread, _⟩
    exact ⟨members, hmembers, read, hread⟩
  · rintro ⟨members, hmembers, read, hread⟩
    exact ⟨_, members, read, hmembers, hread, rfl⟩

/-! ## Nothing blank -/

theorem not_allBlank_of_texts? {content : Option Json} {texts : List String}
    (h : Json.texts? content = some texts) : ∀ s ∈ texts, ¬ AllBlank s.toList := by
  have hkept : ∀ items : List String, ∀ s ∈ items.filter (!isBlankText ·), ¬ AllBlank s.toList := by
    intro items s hs
    have hblank := (List.mem_filter.1 hs).2
    rw [← isBlankText_iff]
    simpa using hblank
  unfold Json.texts? at h
  split at h
  · cases h
    simp
  · cases h
    simp
  · obtain ⟨items, _, rfl⟩ := Option.map_eq_some_iff.1 h
    exact hkept items
  · obtain ⟨s, _, rfl⟩ := Option.map_eq_some_iff.1 h
    exact hkept [s]

theorem not_allBlank_of_optionalText? {content : Option Json} {text : Option String}
    (h : Json.optionalText? content = some text) : ∀ s ∈ text, ¬ AllBlank s.toList := by
  unfold Json.optionalText? at h
  split at h
  · cases h
    simp
  · cases h
    simp
  · next s =>
    obtain rfl := Option.some.inj h
    intro t ht
    rw [← isBlankText_iff]
    split at ht
    · cases ht
    · next hblank =>
      cases ht
      exact hblank
  · cases h

theorem nonblank_of_ofJson? {key : String} {value : Json} {v : Variable}
    (h : Variable.ofJson? key value = some v) : v.Nonblank := by
  obtain ⟨contents, _, hreads⟩ := Variable.ofJson?_eq_some_iff.1 h
  exact ⟨not_allBlank_of_texts? (hreads .defaults), not_allBlank_of_texts? (hreads .description),
    not_allBlank_of_optionalText? (hreads .link)⟩

/-! ## Both ways to a catalog -/

/-- The catalog holds what the members of a data file give, and of what comes to one name in lower
case, what is given under the greatest key. -/
structure HoldsMembers (c : Catalog) (members : List (String × Json)) : Prop where
  represents : ∃ entries : List (String × Variable),
    (entries.Pairwise fun e f => ByteLess e.1 f.1) ∧
    (∀ k v, (k, v) ∈ entries ↔ Gives members k v) ∧ Represents c (entries.map Prod.snd)
  get?_eq_some_iff : ∀ q v, c.get? q = some v ↔
    ∃ k, Gives members k v ∧ lowercased v.name = lowercased q ∧
      ∀ j w, Gives members j w → lowercased w.name = lowercased q → j = k ∨ ByteLess j k
  nonblank : ∀ v ∈ c.toList, v.Nonblank

theorem holdsMembers_of_forall₂ {members : List (String × Json)} {read : List (String × Variable)}
    (h : List.Forall₂ ReadsAs members read) (version : String) :
    HoldsMembers (ofVariables version (Dictionary.ofList read).values) members := by
  have hgives : ∀ k v, (Dictionary.ofList read).get? k = some v ↔ Gives members k v :=
    fun _ _ => get?_ofList_eq_some_iff_gives h
  have hrepresents := represents_ofVariables version (Dictionary.ofList read).values
  refine ⟨⟨(Dictionary.ofList read).entries, ?_, ?_, hrepresents⟩, ?_, ?_⟩
  · exact (Dictionary.ofList read).sorted.imp lt_iff_byteLess.1
  · intro k v
    rw [← hgives, Dictionary.get?_eq_some_iff]
  · intro q v
    rw [hrepresents.get?_eq_some_iff, Dictionary.lastWith_values_iff]
    simp only [hgives, lt_iff_byteLess]
  · intro v hv
    have hheld := mem_of_get?_ofVariables (mem_toList_ofVariables_iff.1 hv)
    obtain ⟨k, hk⟩ := ((Dictionary.ofList read).mem_values_iff v).1 hheld
    obtain ⟨value, _, hvalue⟩ := (hgives k v).1 hk
    exact nonblank_of_ofJson? hvalue

/-- A catalog of a list of variables holds them under their names in lower case, in the byte order
of these, and the last one of each such name. A text is read as a catalog exactly if it is an object
of which every member is read as a variable. The catalog then holds variables in the same way, that
with the greatest key of each name in lower case, and nothing in it is blank. -/
theorem catalogs_hold_last :
    (∀ version vs, (ofVariables version vs).version = version ∧
      Represents (ofVariables version vs) vs) ∧
    ∀ version text,
      ((read? version text).isSome = true ↔
        ∃ members, Json.read? text = some (.object members) ∧
          ∀ m ∈ members, (Variable.ofJson? m.1 m.2).isSome = true) ∧
      ∀ c, read? version text = some c → c.version = version ∧
        ∃ members, Json.read? text = some (.object members) ∧ HoldsMembers c members := by
  refine ⟨fun version vs => ⟨rfl, represents_ofVariables version vs⟩, ?_⟩
  intro version text
  refine ⟨isSome_read?_iff version text, ?_⟩
  intro c hc
  obtain ⟨members, read, hmembers, hread, rfl⟩ := read?_eq_some_iff.1 hc
  exact ⟨rfl, members, hmembers, holdsMembers_of_forall₂ hread version⟩

def collidingFile : String :=
  "\x7b\"b\":\x7b\"Name\":\"Foo\"\x7d,\"\u00e9\":\x7b\"name\":\"FOO\",\"Default\":[\" \",2]\x7d," ++
    "\"foo\":\x7b\x7d,\"b\":\x7b\"Name\":\"Bar\",\"docUrl\":\"\"\x7d\x7d"

theorem catalogs_hold_last_collidingFile :
    ∃ c, read? "14.1" collidingFile = some c ∧
      (∃ members, Json.read? collidingFile = some (.object members) ∧ HoldsMembers c members) ∧
      c.toList.map (·.name) = ["Bar", "FOO"] ∧
      c.get? "fOo" = some ⟨"FOO", .other "", ["2"], "", [], [], none⟩ := by
  have hread : (read? "14.1" collidingFile).map (fun c => (c.toList.map (·.name), c.get? "fOo")) =
      some (["Bar", "FOO"], some ⟨"FOO", .other "", ["2"], "", [], [], none⟩) := by decide +kernel
  obtain ⟨c, hc, hpair⟩ := Option.map_eq_some_iff.1 hread
  obtain ⟨hlist, hget⟩ := Prod.mk.inj hpair
  exact ⟨c, hc, ((catalogs_hold_last.2 "14.1" collidingFile).2 c hc).2, hlist, hget⟩

end Catalog

end InputDeck
