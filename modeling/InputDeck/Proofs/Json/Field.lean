import Mathlib.Data.List.Forall2
import InputDeck.Catalog.Data
import InputDeck.Json.Shape
import InputDeck.Proofs.Dictionary

/-!
# Fields of an object

A field goes by several names, and an object may use any of them, but only once. So what an object
says of a field is the list of values that it gives under the names of the field, and the order of
members, the choice of names and members under other names make no difference.
-/

namespace InputDeck.Json

theorem mapM_eq_some_iff_forall₂ {α β : Type} {f : α → Option β} {items : List α}
    {read : List β} : items.mapM f = some read ↔ List.Forall₂ (f · = some ·) items read := by
  induction items generalizing read with
  | nil => simp [eq_comm]
  | cons a items ih =>
    rw [List.mapM_cons, List.forall₂_cons_left_iff]
    constructor
    · intro h
      obtain ⟨b, hb, h⟩ := Option.bind_eq_some_iff.1 h
      obtain ⟨rest, hrest, h⟩ := Option.bind_eq_some_iff.1 h
      cases h
      exact ⟨b, rest, hb, ih.1 hrest, rfl⟩
    · rintro ⟨b, rest, hb, hrest, rfl⟩
      rw [hb, ih.2 hrest]
      rfl

theorem isSome_mapM_iff {α β : Type} {f : α → Option β} {items : List α} :
    (items.mapM f).isSome = true ↔ ∀ a ∈ items, (f a).isSome = true := by
  induction items with
  | nil => simp
  | cons a items ih =>
    rw [List.mapM_cons, List.forall_mem_cons, ← ih]
    cases f a <;> cases items.mapM f <;> simp

theorem mapM_eq_none_of_mem {α β : Type} {f : α → Option β} {items : List α} {a : α}
    (ha : a ∈ items) (h : f a = none) : items.mapM f = none := by
  rw [← Option.not_isSome_iff_eq_none, isSome_mapM_iff]
  intro hall
  have hsome := hall a ha
  rw [h] at hsome
  cases hsome

def given (names : List String) (members : List (String × Json)) : List Json :=
  (members.filter fun m => names.contains m.1).map Prod.snd

/-- The content of a field, unless the field is given more than once. -/
def field? (names : List String) (members : List (String × Json)) : Option (Option Json) :=
  match given names members with
  | [] => some none
  | [v] => some (some v)
  | _ => none

theorem fields?_object (shape : List (List String)) (members : List (String × Json)) :
    fields? shape (.object members) = shape.mapM (field? · members) := by
  rw [fields?]
  congr 1
  funext names
  rw [field?, given]
  generalize (members.filter fun m => names.contains m.1) = found
  rcases found with _ | ⟨m, _ | ⟨n, rest⟩⟩ <;> rfl

variable {names : List String} {k : String} {v : Json} {before after ms ms' : List (String × Json)}

theorem given_append (names : List String) (ms ms' : List (String × Json)) :
    given names (ms ++ ms') = given names ms ++ given names ms' := by
  rw [given, List.filter_append, List.map_append, given, given]

theorem given_cons_of_mem (hk : k ∈ names) : given names ((k, v) :: ms) = v :: given names ms := by
  rw [given, List.filter_cons_of_pos (by simpa using hk), List.map_cons, given]

theorem given_cons_of_not_mem (hk : k ∉ names) : given names ((k, v) :: ms) = given names ms := by
  rw [given, List.filter_cons_of_neg (by simpa using hk), given]

theorem given_eq_nil (h : ∀ m ∈ ms, m.1 ∉ names) : given names ms = [] := by
  rw [given, List.map_eq_nil_iff, List.filter_eq_nil_iff]
  intro m hm
  simpa using h m hm

/-- A field that is given twice has no content. -/
theorem field?_eq_none (h : 2 ≤ (given names ms).length) : field? names ms = none := by
  rw [field?]
  cases hgiven : given names ms with
  | nil => simp [hgiven] at h
  | cons v rest =>
    cases rest with
    | nil => simp [hgiven] at h
    | cons w rest => rfl

theorem field?_congr (h : (given names ms).Perm (given names ms')) :
    field? names ms = field? names ms' := by
  by_cases htwice : 2 ≤ (given names ms).length
  · rw [field?_eq_none htwice, field?_eq_none (h.length_eq ▸ htwice)]
  · rw [field?, field?]
    rcases hgiven : given names ms with _ | ⟨v, _ | ⟨w, rest⟩⟩
    · rw [hgiven] at h
      rw [List.nil_perm.1 h]
    · rw [hgiven] at h
      rw [List.singleton_perm.1 h]
    · simp [hgiven] at htwice

/-- A member under another name is not looked at. -/
theorem field?_of_not_mem (hk : k ∉ names) :
    field? names (before ++ (k, v) :: after) = field? names (before ++ after) := by
  apply field?_congr
  rw [given_append, given_append, given_cons_of_not_mem hk]

/-- A member for a field is its content, if no other member is for this field. -/
theorem field?_of_mem (hk : k ∈ names) :
    field? names (before ++ (k, v) :: after) =
      if given names (before ++ after) = [] then some (some v) else none := by
  rw [given_append]
  split
  · next hnil =>
    obtain ⟨hbefore, hafter⟩ := List.append_eq_nil_iff.1 hnil
    rw [field?, given_append, given_cons_of_mem hk, hbefore, hafter]
    rfl
  · next hne =>
    have hpos := List.length_pos_of_ne_nil hne
    apply field?_eq_none
    rw [given_append, given_cons_of_mem hk]
    simp only [List.length_append, List.length_cons] at hpos ⊢
    omega

theorem field?_eq_of_mem {m : String × Json} (hm : m ∈ ms) (hnames : m.1 ∈ names)
    {content : Option Json} (h : field? names ms = some content) : content = some m.2 := by
  obtain ⟨before, after, rfl⟩ := List.append_of_mem hm
  rw [field?_of_mem hnames, Option.ite_none_right_eq_some, Option.some.injEq] at h
  exact h.2.symm

/-! ## Spellings -/

/-- One way to write the members of a structure differently: under another name of the field, in
another order, or with a member that no field goes by. -/
inductive Respelled (shape : List (List String)) :
    List (String × Json) → List (String × Json) → Prop where
  | rename {names : List String} {k k' : String} {v : Json} {before after : List (String × Json)}
      (hnames : names ∈ shape) (hk : k ∈ names) (hk' : k' ∈ names) :
      Respelled shape (before ++ (k, v) :: after) (before ++ (k', v) :: after)
  | reorder {ms ms' : List (String × Json)} (h : ms.Perm ms') : Respelled shape ms ms'
  | add {k : String} {v : Json} {before after : List (String × Json)}
      (hk : ∀ names ∈ shape, k ∉ names) :
      Respelled shape (before ++ after) (before ++ (k, v) :: after)

def FieldsApart (shape : List (List String)) : Prop :=
  ∀ a ∈ shape, ∀ b ∈ shape, ∀ k ∈ a, k ∈ b → a = b

instance (shape : List (List String)) : Decidable (FieldsApart shape) :=
  inferInstanceAs (Decidable (∀ a ∈ shape, ∀ b ∈ shape, ∀ k ∈ a, k ∈ b → a = b))

variable {shape : List (List String)}

theorem Respelled.field?_eq (hapart : FieldsApart shape) (h : Respelled shape ms ms')
    (hnames : names ∈ shape) : field? names ms = field? names ms' := by
  cases h with
  | @rename other k k' v before after hother hk hk' =>
    by_cases hhere : k ∈ names
    · obtain rfl : other = names := hapart other hother names hnames k hk hhere
      apply field?_congr
      rw [given_append, given_append, given_cons_of_mem hk, given_cons_of_mem hk']
    · have hhere' : k' ∉ names := by
        intro hmem
        obtain rfl : other = names := hapart other hother names hnames k' hk' hmem
        exact hhere hk
      rw [field?_of_not_mem hhere, field?_of_not_mem hhere']
  | reorder hperm => exact field?_congr ((hperm.filter _).map _)
  | add hk => exact (field?_of_not_mem (hk _ hnames)).symm

theorem fields?_congr (h : ∀ names ∈ shape, field? names ms = field? names ms') :
    fields? shape (.object ms) = fields? shape (.object ms') := by
  rw [fields?_object, fields?_object]
  induction shape with
  | nil => rfl
  | cons names shape ih =>
    rw [List.mapM_cons, List.mapM_cons, h names List.mem_cons_self,
      ih fun other hother => h other (List.mem_cons_of_mem names hother)]

theorem Respelled.fields?_eq (hapart : FieldsApart shape) (h : Respelled shape ms ms') :
    fields? shape (.object ms) = fields? shape (.object ms') :=
  fields?_congr fun _ hnames => h.field?_eq hapart hnames

def Repeats (shape : List (List String)) (ms : List (String × Json)) : Prop :=
  ∃ names ∈ shape, ∃ m m', m.1 ∈ names ∧ m'.1 ∈ names ∧ [m, m'].Sublist ms

theorem Repeats.fields?_eq_none (h : Repeats shape ms) : fields? shape (.object ms) = none := by
  obtain ⟨names, hnames, m, m', hm, hm', hsublist⟩ := h
  have htwice : 2 ≤ (given names ms).length := by
    have hgiven : (given names [m, m']).Sublist (given names ms) :=
      (hsublist.filter _).map Prod.snd
    have hboth : given names [m, m'] = [m.2, m'.2] := by
      rw [given_cons_of_mem hm, given_cons_of_mem hm']
      rfl
    rw [hboth] at hgiven
    exact hgiven.length_le
  rw [fields?_object]
  exact mapM_eq_none_of_mem hnames (field?_eq_none htwice)

/-! ## Members by their names -/

/-- Of an object whose members are given in two parts the second part is looked at first. -/
theorem get?_append (members more : List (String × Json)) (key : String) :
    get? key (.object (members ++ more)) =
      (get? key (.object more)).or (get? key (.object members)) := by
  rw [get?, get?, get?, List.reverse_append, List.lookup_append]

theorem get?_single (name key : String) (v : Json) :
    get? key (.object [(name, v)]) = if key = name then some v else none := by
  rw [get?, List.reverse_singleton, lookup_cons_eq_ite]
  rfl

theorem get?_member {α : Type} (name key : String) (write : α → Json) (value : Option α) :
    get? key (.object (member name write value)) =
      if key = name then value.map write else none := by
  cases value with
  | none => simp [member, get?]
  | some a => exact get?_single name key (write a)

end InputDeck.Json
