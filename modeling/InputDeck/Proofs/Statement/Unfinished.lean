import InputDeck.Proofs.Statement.Reading

/-!
# Assignments that are still being typed

What stands left of a cursor is the beginning of its line. It reads as an unfinished assignment
exactly if the cursor is right of the first equals sign and a name with blanks around it stands left
of that sign: `unfinished?_eq_some_iff`. As the cursor moves right, the sign and the name stay where
they are, so this does not change any more, and in the end the whole line is read.
-/

namespace InputDeck.Statement

open InputDeck.Text

/-! ## The first equals sign -/

def beforeEquals (cs : List Char) : List Char :=
  cs.takeWhile (· != '=')

def afterEquals (cs : List Char) : List Char :=
  (cs.dropWhile (· != '=')).tail

theorem equals_not_mem_beforeEquals (cs : List Char) : '=' ∉ beforeEquals cs := by
  intro hmem
  have hne := List.all_eq_true.1 (List.all_takeWhile (p := (· != '='))) '=' hmem
  cases hne

theorem pieces_at_equals {before after : List Char} (h : '=' ∉ before) :
    beforeEquals (before ++ '=' :: after) = before ∧
      afterEquals (before ++ '=' :: after) = after := by
  have hrun : ∀ c ∈ before, (c != '=') = true := by
    intro c hc
    simpa using fun he : c = '=' => h (he ▸ hc)
  have hstop : ∀ c ∈ ('=' :: after).head?, (c != '=') = false := by
    intro c hc
    cases hc
    rfl
  obtain ⟨htake, hdrop⟩ := takeWhile_dropWhile_of_run hrun hstop
  refine ⟨htake, ?_⟩
  rw [afterEquals, hdrop]
  rfl

theorem append_equals_append {cs : List Char} (h : '=' ∈ cs) :
    beforeEquals cs ++ '=' :: afterEquals cs = cs := by
  obtain ⟨before, after, rfl, hbefore⟩ := List.eq_append_cons_of_mem h
  obtain ⟨htake, hdrop⟩ : _ ∧ afterEquals (before ++ '=' :: after) = after :=
    pieces_at_equals hbefore
  rw [htake, hdrop]

/-- Right of the first equals sign, what stands left of a cursor goes on behind the sign. -/
theorem take_of_equals {cs : List Char} (h : '=' ∈ cs) {column : Nat}
    (hcolumn : (beforeEquals cs).length < column) :
    cs.take column = beforeEquals cs ++
      '=' :: (afterEquals cs).take (column - (beforeEquals cs).length - 1) := by
  obtain ⟨k, hk⟩ := Nat.exists_eq_add_of_lt hcolumn
  have htail : column - (beforeEquals cs).length = k + 1 := by omega
  have hfront : (beforeEquals cs).take column = beforeEquals cs :=
    List.take_of_length_le (by omega)
  have hpieces := congrArg (List.take column) (append_equals_append h)
  rw [List.take_append, hfront, htail, List.take_succ_cons] at hpieces
  rw [htail, Nat.add_sub_cancel]
  exact hpieces.symm

theorem take_prefix_beforeEquals {cs : List Char} {column : Nat}
    (hcolumn : column ≤ (beforeEquals cs).length) : cs.take column <+: beforeEquals cs := by
  have hprefix : beforeEquals cs <+: cs := List.takeWhile_prefix _
  refine List.prefix_of_prefix_length_le (List.take_prefix column cs) hprefix ?_
  rw [List.length_take]
  omega

theorem equals_mem_take_iff {cs : List Char} {column : Nat} :
    '=' ∈ cs.take column ↔ '=' ∈ cs ∧ (beforeEquals cs).length < column := by
  constructor
  · intro hmem
    refine ⟨List.mem_of_mem_take hmem, ?_⟩
    rcases Nat.lt_or_ge (beforeEquals cs).length column with hlt | hge
    · exact hlt
    · exact absurd ((take_prefix_beforeEquals hge).subset hmem) (equals_not_mem_beforeEquals cs)
  · rintro ⟨hmem, hcolumn⟩
    rw [take_of_equals hmem hcolumn]
    simp

/-! ## Left of the equals sign -/

def HoldsName (cs name : List Char) : Prop :=
  ∃ lead gap, AllBlank lead ∧ isName name = true ∧ AllBlank gap ∧ cs = lead ++ (name ++ gap)

theorem splitAssignment?_iff_holdsName {cs name tail : List Char} :
    splitAssignment? cs = some (name, tail) ↔
      '=' ∈ cs ∧ HoldsName (beforeEquals cs) name ∧ tail = afterEquals cs := by
  rw [splitAssignment?_eq_some_iff]
  constructor
  · rintro ⟨lead, gap, hlead, hname, hgap, rfl⟩
    have hpieces : lead ++ (name ++ (gap ++ '=' :: tail)) =
        (lead ++ (name ++ gap)) ++ '=' :: tail := by
      simp only [List.append_assoc]
    obtain ⟨hbefore, hafter⟩ : _ ∧ afterEquals ((lead ++ (name ++ gap)) ++ '=' :: tail) = tail :=
      pieces_at_equals (equals_not_mem_pieces hlead hname hgap)
    rw [hpieces, hbefore, hafter]
    refine ⟨?_, ⟨lead, gap, hlead, hname, hgap, rfl⟩, rfl⟩
    exact List.mem_append_right _ List.mem_cons_self
  · rintro ⟨hmem, ⟨lead, gap, hlead, hname, hgap, hbefore⟩, rfl⟩
    have hpieces := append_equals_append hmem
    rw [hbefore] at hpieces
    refine ⟨lead, gap, hlead, hname, hgap, ?_⟩
    simpa only [List.append_assoc] using hpieces.symm

/-! ## Left of a cursor -/

def leftOf (line : String) (column : Nat) : String :=
  String.ofList (line.toList.take column)

theorem toList_leftOf (line : String) (column : Nat) :
    (leftOf line column).toList = line.toList.take column :=
  String.toList_ofList

theorem feed_not_mem_leftOf {line : String} (hfeed : '\n' ∉ line.toList) (column : Nat) :
    '\n' ∉ (leftOf line column).toList := by
  rw [toList_leftOf]
  exact fun hmem => hfeed (List.mem_of_mem_take hmem)

theorem unfinished?_of_split {text : String} (hfeed : '\n' ∉ text.toList) {name tail : List Char}
    (h : splitAssignment? text.toList = some (name, tail)) :
    unfinished? text = some (String.ofList name, String.ofList (trimStart tail)) := by
  obtain ⟨lead, gap, _, _, _, hpieces⟩ := splitAssignment?_eq_some_iff.1 h
  have htyped : (trimStart tail).contains '\n' = false := by
    rw [List.contains_eq_mem, decide_eq_false_iff_not]
    intro hmem
    apply hfeed
    have htail : '\n' ∈ tail := List.dropWhile_subset _ hmem
    rw [hpieces]
    simp [htail]
  rw [unfinished?, h]
  dsimp only
  rw [htyped]
  rfl

theorem unfinished?_eq_some_iff_split {text : String} (hfeed : '\n' ∉ text.toList)
    {name rest : String} :
    unfinished? text = some (name, rest) ↔
      ∃ tail, splitAssignment? text.toList = some (name.toList, tail) ∧
        rest.toList = trimStart tail := by
  cases h : splitAssignment? text.toList with
  | none => simp [unfinished?, h]
  | some pair =>
    obtain ⟨name', tail'⟩ := pair
    rw [unfinished?_of_split hfeed h]
    simp only [Option.some.injEq, Prod.mk.injEq, ← String.toList_inj, String.toList_ofList]
    constructor
    · rintro ⟨hname, hrest⟩
      exact ⟨tail', ⟨hname, rfl⟩, hrest.symm⟩
    · rintro ⟨tail, ⟨hname, rfl⟩, hrest⟩
      exact ⟨hname, hrest.symm⟩

/-- A text on one line is an unfinished assignment exactly if it has an equals sign and a name with
blanks around it stands left of the first one. What has been typed is what stands right of it. -/
theorem unfinished?_eq_some_iff {text : String} (hfeed : '\n' ∉ text.toList) {name rest : String} :
    unfinished? text = some (name, rest) ↔
      '=' ∈ text.toList ∧ HoldsName (beforeEquals text.toList) name.toList ∧
        rest.toList = trimStart (afterEquals text.toList) := by
  rw [unfinished?_eq_some_iff_split hfeed]
  constructor
  · rintro ⟨tail, hsplit, hrest⟩
    obtain ⟨hmem, hname, rfl⟩ := splitAssignment?_iff_holdsName.1 hsplit
    exact ⟨hmem, hname, hrest⟩
  · rintro ⟨hmem, hname, hrest⟩
    exact ⟨_, splitAssignment?_iff_holdsName.2 ⟨hmem, hname, rfl⟩, hrest⟩

theorem unfinished?_leftOf_eq_none {line : String} {column : Nat}
    (hcolumn : column ≤ (beforeEquals line.toList).length) :
    unfinished? (leftOf line column) = none := by
  have hsplit : splitAssignment? (leftOf line column).toList = none := by
    rw [Option.eq_none_iff_forall_ne_some]
    rintro ⟨name, tail⟩ hsome
    have hmem := (splitAssignment?_iff_holdsName.1 hsome).1
    rw [toList_leftOf, equals_mem_take_iff] at hmem
    omega
  rw [unfinished?, hsplit]

/-! ## Moving the cursor to the right -/

theorem splitAssignment?_append {cs name tail : List Char}
    (h : splitAssignment? cs = some (name, tail)) (more : List Char) :
    splitAssignment? (cs ++ more) = some (name, tail ++ more) := by
  obtain ⟨lead, gap, hlead, hname, hgap, rfl⟩ := splitAssignment?_eq_some_iff.1 h
  refine splitAssignment?_eq_some_iff.2 ⟨lead, gap, hlead, hname, hgap, ?_⟩
  simp only [List.append_assoc, List.cons_append]

theorem unfinished?_leftOf_mono {line : String} (hfeed : '\n' ∉ line.toList) {column further : Nat}
    (hle : column ≤ further) {name rest : String}
    (h : unfinished? (leftOf line column) = some (name, rest)) :
    ∃ more, unfinished? (leftOf line further) = some (name, more) := by
  obtain ⟨tail, hsplit, _⟩ :=
    (unfinished?_eq_some_iff_split (feed_not_mem_leftOf hfeed column)).1 h
  obtain ⟨more, hmore⟩ : line.toList.take column <+: line.toList.take further :=
    List.take_prefix_take_left hle
  have hfurther := splitAssignment?_append hsplit more
  rw [toList_leftOf, hmore, ← toList_leftOf] at hfurther
  refine ⟨String.ofList (trimStart (tail ++ more)), ?_⟩
  rw [unfinished?_of_split (feed_not_mem_leftOf hfeed further) hfurther, String.ofList_toList]

/-! ## The whole line -/

theorem split_of_assignment? {line : String} {a : Assignment} (h : assignment? line = some a) :
    splitAssignment? line.toList = some (a.name.toList, afterEquals line.toList) ∧
      a.value.toList = trim (uncommented (afterEquals line.toList)) := by
  have hassigned := exists_assignment?_iff.1 ⟨a, h, rfl, rfl⟩
  obtain ⟨r, hline, hname, hvalue⟩ := Reading.exists_of_assigned? hassigned
  have hsplit := r.splitAssignment?_line
  rw [hline, hname] at hsplit
  obtain ⟨_, _, htail⟩ := splitAssignment?_iff_holdsName.1 hsplit
  rw [← htail]
  refine ⟨hsplit, ?_⟩
  rw [← hvalue, Reading.value, trim_uncommented_append r.pad_blank]

/-- On a line that assigns a value, the cursor is behind an unfinished assignment to the same name
exactly right of the first equals sign. -/
theorem unfinished?_leftOf_of_assignment? {line : String} (hfeed : '\n' ∉ line.toList)
    {a : Assignment} (h : assignment? line = some a) (column : Nat) :
    unfinished? (leftOf line column) =
      if (beforeEquals line.toList).length < column then
        some (a.name, String.ofList (trimStart
          ((afterEquals line.toList).take (column - (beforeEquals line.toList).length - 1))))
      else none := by
  obtain ⟨hmem, hname, _⟩ := splitAssignment?_iff_holdsName.1 (split_of_assignment? h).1
  split
  · next hcolumn =>
    have htake := take_of_equals hmem hcolumn
    obtain ⟨hbefore, hafter⟩ : _ ∧ afterEquals (beforeEquals line.toList ++ '=' :: _) = _ :=
      pieces_at_equals (equals_not_mem_beforeEquals line.toList)
    rw [unfinished?_eq_some_iff (feed_not_mem_leftOf hfeed column), toList_leftOf,
      String.toList_ofList, htake, hbefore, hafter]
    refine ⟨?_, hname, rfl⟩
    exact List.mem_append_right _ List.mem_cons_self
  · next hcolumn => exact unfinished?_leftOf_eq_none (Nat.le_of_not_lt hcolumn)

/-- What stands before the first `#` of all that has been typed is the value. -/
theorem unfinished?_of_assignment? {line : String} (hfeed : '\n' ∉ line.toList) {a : Assignment}
    (h : assignment? line = some a) :
    ∃ rest, unfinished? line = some (a.name, rest) ∧
      a.value = trimmed (String.ofList (uncommented rest.toList)) := by
  obtain ⟨hsplit, hvalue⟩ := split_of_assignment? h
  refine ⟨String.ofList (trimStart (afterEquals line.toList)), ?_, ?_⟩
  · rw [unfinished?_of_split hfeed hsplit, String.ofList_toList]
  · rw [trimmed, String.toList_ofList, String.toList_ofList, trim_uncommented_trimStart, ← hvalue,
      String.ofList_toList]

end InputDeck.Statement
