import InputDeck.Dictionary

/-!
# The content of dictionaries

`get?` is the view of a dictionary: each operation is described by what it does to the looked-up
values, and two dictionaries that agree on every key are equal. Going through the entries meets
every key exactly once, and a dictionary made from a list keeps the last value of each key.
-/

namespace InputDeck

variable {α : Type}

theorem lookup_cons_eq_ite {κ : Type} [BEq κ] [LawfulBEq κ] [DecidableEq κ] (key k : κ) (value : α)
    (entries : List (κ × α)) :
    ((key, value) :: entries).lookup k = if k = key then some value else entries.lookup k := by
  by_cases hk : k = key
  · subst hk
    simp
  · have hb : (k == key) = false := beq_eq_false_iff_ne.2 hk
    simp [List.lookup_cons, hb, hk]

theorem lookup_insertEntry (key k : String) (value : α) (entries : List (String × α)) :
    (insertEntry key value entries).lookup k =
      if k = key then some value else entries.lookup k := by
  induction entries with
  | nil => rw [insertEntry, lookup_cons_eq_ite]
  | cons e rest ih =>
    obtain ⟨k', v⟩ := e
    by_cases hlt : key < k'
    · rw [insertEntry, if_pos hlt, lookup_cons_eq_ite]
    · by_cases heq : key = k'
      · subst heq
        rw [insertEntry, if_neg hlt, if_pos rfl, lookup_cons_eq_ite, lookup_cons_eq_ite]
        by_cases hk : k = key <;> simp [hk]
      · rw [insertEntry, if_neg hlt, if_neg heq, lookup_cons_eq_ite, lookup_cons_eq_ite, ih]
        by_cases hk : k = k'
        · subst hk
          simp [Ne.symm heq]
        · simp [hk]

theorem lookup_filter_ne {κ : Type} [BEq κ] [LawfulBEq κ] [DecidableEq κ] (key k : κ)
    (entries : List (κ × α)) :
    (entries.filter (·.1 != key)).lookup k = if k = key then none else entries.lookup k := by
  induction entries with
  | nil => simp
  | cons e rest ih =>
    obtain ⟨k', v⟩ := e
    rw [lookup_cons_eq_ite]
    by_cases hkey : k' = key
    · subst hkey
      rw [List.filter_cons_of_neg (by simp), ih]
      by_cases hk : k = k' <;> simp [hk]
    · rw [List.filter_cons_of_pos (by simpa using hkey), lookup_cons_eq_ite, ih]
      by_cases hk : k = k'
      · subst hk
        simp [hkey]
      · simp [hk]

/-- Where no key stands twice, looking a key up finds every entry. -/
theorem lookup_eq_some_iff {entries : List (String × α)} (h : (entries.map Prod.fst).Nodup)
    (k : String) (v : α) : entries.lookup k = some v ↔ (k, v) ∈ entries := by
  induction entries with
  | nil => simp
  | cons e rest ih =>
    obtain ⟨key, value⟩ := e
    obtain ⟨hkey, hrest⟩ := List.nodup_cons.1 h
    rw [lookup_cons_eq_ite]
    by_cases hk : k = key
    · subst hk
      have hnot : (k, v) ∉ rest := fun hmem => hkey (List.mem_map.2 ⟨_, hmem, rfl⟩)
      simp [hnot, eq_comm]
    · rw [if_neg hk, ih hrest]
      simp [hk]

namespace Dictionary

@[simp] theorem get?_empty (k : String) : (empty : Dictionary α).get? k = none := rfl

theorem get?_insert (d : Dictionary α) (key : String) (value : α) (k : String) :
    (d.insert key value).get? k = if k = key then some value else d.get? k :=
  lookup_insertEntry key k value d.entries

theorem get?_erase (d : Dictionary α) (key k : String) :
    (d.erase key).get? k = if k = key then none else d.get? k :=
  lookup_filter_ne key k d.entries

theorem keys_nodup (d : Dictionary α) : d.keys.Nodup := by
  rw [keys, List.Nodup, List.pairwise_map]
  refine d.sorted.imp ?_
  intro a b hab heq
  rw [heq] at hab
  exact String.lt_irrefl _ hab

theorem entries_nodup (d : Dictionary α) : d.entries.Nodup :=
  (List.pairwise_map.1 d.keys_nodup).imp fun hne heq => hne (congrArg Prod.fst heq)

theorem get?_eq_some_iff (d : Dictionary α) (k : String) (v : α) :
    d.get? k = some v ↔ (k, v) ∈ d.entries :=
  lookup_eq_some_iff d.keys_nodup k v

theorem get?_isSome_iff (d : Dictionary α) (k : String) :
    (d.get? k).isSome = true ↔ k ∈ d.keys := by
  rw [Option.isSome_iff_exists, keys, List.mem_map]
  constructor
  · rintro ⟨v, hv⟩
    exact ⟨(k, v), (d.get?_eq_some_iff k v).1 hv, rfl⟩
  · rintro ⟨⟨k', v⟩, he, rfl⟩
    exact ⟨v, (d.get?_eq_some_iff k' v).2 he⟩

/-- Dictionaries with the same content are equal. -/
theorem ext_get? {d e : Dictionary α} (h : ∀ k, d.get? k = e.get? k) : d = e := by
  have hmem : ∀ x : String × α, x ∈ d.entries ↔ x ∈ e.entries := by
    intro x
    rw [← d.get?_eq_some_iff x.1 x.2, ← e.get?_eq_some_iff x.1 x.2, h]
  have hperm : d.entries.Perm e.entries :=
    (List.perm_ext_iff_of_nodup d.entries_nodup e.entries_nodup).2 hmem
  have hentries : d.entries = e.entries := by
    refine hperm.eq_of_pairwise ?_ d.sorted e.sorted
    intro a b _ _ hab hba
    exact absurd (String.lt_trans hab hba) (String.lt_irrefl _)
  cases d
  cases e
  cases hentries
  rfl

theorem get?_foldl_insert (entries : List (String × α)) (d : Dictionary α) (k : String) :
    (entries.foldl (fun d e => d.insert e.1 e.2) d).get? k =
      (entries.reverse.lookup k).or (d.get? k) := by
  induction entries generalizing d with
  | nil => simp
  | cons e rest ih =>
    have hone : (List.lookup k [e]).or (d.get? k) = if k = e.1 then some e.2 else d.get? k := by
      rw [lookup_cons_eq_ite]
      by_cases hk : k = e.1 <;> simp [hk]
    rw [List.foldl_cons, ih, get?_insert, List.reverse_cons, List.lookup_append, Option.or_assoc,
      hone]

/-- The last entry of a key decides its value. -/
theorem get?_ofList (entries : List (String × α)) (k : String) :
    (ofList entries).get? k = entries.reverse.lookup k := by
  rw [ofList, get?_foldl_insert, get?_empty, Option.or_none]

theorem ofList_entries (d : Dictionary α) : ofList d.entries = d := by
  have hnodup : (d.entries.reverse.map Prod.fst).Nodup := by
    rw [List.map_reverse, List.Nodup, List.pairwise_reverse]
    exact d.keys_nodup.imp Ne.symm
  refine ext_get? fun k => Option.ext fun v => ?_
  rw [get?_ofList, lookup_eq_some_iff hnodup, List.mem_reverse, get?_eq_some_iff]

/-- A dictionary of values under keys of their own holds the last value with each key. -/
theorem get?_ofList_map (key : α → String) (vs : List α) (k : String) :
    (ofList (vs.map fun v => (key v, v))).get? k = vs.reverse.find? (key · == k) := by
  rw [get?_ofList, ← List.map_reverse]
  induction vs.reverse with
  | nil => rfl
  | cons v vs ih =>
    rw [List.map_cons, lookup_cons_eq_ite, ih, List.find?_cons]
    by_cases hk : k = key v
    · simp [hk]
    · have hne : (key v == k) = false := by simpa using Ne.symm hk
      rw [if_neg hk, hne]

theorem mem_values_iff (d : Dictionary α) (v : α) : v ∈ d.values ↔ ∃ k, d.get? k = some v := by
  rw [values, List.mem_map]
  constructor
  · rintro ⟨⟨k, w⟩, hmem, rfl⟩
    exact ⟨k, (d.get?_eq_some_iff k w).2 hmem⟩
  · rintro ⟨k, hk⟩
    exact ⟨(k, v), (d.get?_eq_some_iff k v).1 hk, rfl⟩

end Dictionary

end InputDeck
