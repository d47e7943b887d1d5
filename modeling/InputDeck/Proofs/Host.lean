import InputDeck.Host.Basic
import InputDeck.Proofs.Dictionary
import InputDeck.Proofs.Verdict.Sum

/-!
# What lies in a folder

A plain name joined to the path of a folder leads to the entry of that name in the folder, however
the path is written. So listing a folder and asking for paths in it tell the same. Writing a file
changes one entry, which was no folder, and therefore no way to any other.
-/

namespace InputDeck

open InputDeck.Text

/-! ## Paths -/

namespace Text

theorem consFirst_append {pieces : List (List Char)} (h : pieces ≠ []) (c : Char)
    (more : List (List Char)) : consFirst c (pieces ++ more) = consFirst c pieces ++ more := by
  cases pieces with
  | nil => exact absurd rfl h
  | cons piece pieces => rfl

theorem splitAtEach_append_cons (sep : Char) (cs ds : List Char) :
    splitAtEach sep (cs ++ sep :: ds) = splitAtEach sep cs ++ splitAtEach sep ds := by
  induction cs with
  | nil => simp [splitAtEach]
  | cons c cs ih =>
    rw [List.cons_append, splitAtEach, splitAtEach, ih]
    split
    · rfl
    · rw [consFirst_append (splitAtEach_ne_nil sep cs)]

end Text

namespace Path

/-- The name of something in a folder: no way through several folders, to the folder itself or to
the one above. -/
structure Plain (name : String) : Prop where
  slash_not_mem : '/' ∉ name.toList
  ne_empty : name ≠ ""
  ne_here : name ≠ "."
  ne_above : name ≠ ".."

theorem Plain.isAbsolute_eq_false {name : String} (h : Plain name) :
    (Path.mk name).isAbsolute = false := by
  rw [isAbsolute, beq_eq_false_iff_ne]
  intro hhead
  exact h.slash_not_mem (List.mem_of_head? hhead)

/-- A slash comes between a path and a name, unless the path ends with one. -/
theorem chars_join {p : Path} (hp : p.isEmpty = false) {name : String} (hname : Plain name) :
    ∃ front, (p.chars = front ∨ p.chars = front ++ ['/']) ∧
      (p.join name).chars = front ++ '/' :: name.toList := by
  rw [join, if_neg (by simp [hname.isAbsolute_eq_false])]
  split
  · next hlast =>
    rw [isEmpty, List.getLast?_eq_none_iff.1 hlast] at hp
    cases hp
  · next hlast =>
    obtain ⟨front, hfront⟩ := List.getLast?_eq_some_iff.1 hlast
    refine ⟨front, Or.inr hfront, ?_⟩
    change (p.text ++ name).toList = _
    rw [String.toList_append]
    change p.chars ++ _ = _
    rw [hfront, List.append_assoc, List.singleton_append]
  · refine ⟨p.chars, Or.inl rfl, ?_⟩
    change (p.text ++ "/" ++ name).toList = _
    rw [String.toList_append, String.toList_append, List.append_assoc]
    rfl

/-- The name comes after the parts of the path, in place of the empty part behind a slash. -/
theorem parts_join {p : Path} (hp : p.isEmpty = false) {name : String} (hname : Plain name) :
    ∃ front, (p.parts = front ∨ p.parts = front ++ [""]) ∧
      (p.join name).parts = front ++ [name] := by
  obtain ⟨front, hchars, hjoin⟩ := chars_join hp hname
  refine ⟨(splitAtEach '/' front).map String.ofList, ?_, ?_⟩
  · rcases hchars with hchars | hchars
    · exact Or.inl (by rw [parts, hchars])
    · refine Or.inr ?_
      rw [parts, hchars, splitAtEach_append_cons, List.map_append]
      rfl
  · rw [parts, hjoin, splitAtEach_append_cons, splitAtEach_of_not_mem hname.slash_not_mem,
      List.map_append, List.map_singleton, String.ofList_toList]

theorem isAbsolute_join {p : Path} (hp : p.isEmpty = false) {name : String} (hname : Plain name) :
    (p.join name).isAbsolute = p.isAbsolute := by
  obtain ⟨front, hchars, hjoin⟩ := chars_join hp hname
  rw [isAbsolute, isAbsolute, hjoin]
  cases front with
  | nil =>
    rcases hchars with hchars | hchars
    · rw [isEmpty, hchars] at hp
      cases hp
    · rw [hchars]
      rfl
  | cons c front => rcases hchars with hchars | hchars <;> rw [hchars] <;> rfl

theorem isEmpty_join {p : Path} (hp : p.isEmpty = false) {name : String} (hname : Plain name) :
    (p.join name).isEmpty = false := by
  obtain ⟨front, -, hjoin⟩ := chars_join hp hname
  simp [isEmpty, hjoin]

/-- A name joined to a path is the path of something that may be a file. -/
theorem getLast?_join_ne {p : Path} (hp : p.isEmpty = false) {name : String} (hname : Plain name) :
    (p.join name).chars.getLast? ≠ some '/' := by
  intro hlast
  obtain ⟨front, -, hjoin⟩ := chars_join hp hname
  rcases List.eq_nil_or_concat name.toList with hnil | ⟨most, c, hconcat⟩
  · exact hname.ne_empty (by simpa using hnil)
  · have hc : c = '/' := by simpa [hjoin, hconcat, List.getLast?_cons] using hlast
    have hmem : c ∈ name.toList := by simp [hconcat]
    rw [hc] at hmem
    exact hname.slash_not_mem hmem

end Path

namespace Host

open InputDeck.Path

/-! ## Ways through folders -/

theorem walk_append (h : Host) (l : Location) (xs ys : List String) :
    h.walk l (xs ++ ys) = (h.walk l xs).bind fun m => h.walk m ys := by
  induction xs generalizing l with
  | nil => rfl
  | cons x xs ih =>
    rw [List.cons_append, walk, walk]
    cases h.find? l with
    | none => rfl
    | some e =>
      cases e with
      | file content executable => rfl
      | folder =>
        dsimp only
        split
        · exact ih l
        · split
          · exact ih l.dropLast
          · exact ih (l ++ [x])

theorem walk_plain {h : Host} {l : Location} (hl : h.find? l = some .folder) {name : String}
    (hname : Plain name) : h.walk l [name] = .ok (l ++ [name]) := by
  rw [walk, hl]
  simp [walk, hname.ne_empty, hname.ne_here, hname.ne_above]

/-- The empty part behind a slash at the end leads nowhere. -/
theorem walk_of_walk_empty {h : Host} {l m : Location} {parts : List String}
    (hwalk : h.walk l (parts ++ [""]) = .ok m) : h.walk l parts = .ok m := by
  rw [walk_append] at hwalk
  cases hfront : h.walk l parts with
  | error fault =>
    rw [hfront] at hwalk
    cases hwalk
  | ok k =>
    rw [hfront] at hwalk
    change h.walk k [""] = .ok m at hwalk
    rw [walk] at hwalk
    split at hwalk
    · cases hwalk
    · cases hwalk
    · exact hwalk

theorem isEmpty_eq_false_of_locate {h : Host} {p : Path} {l : Location} (hp : h.locate p = .ok l) :
    p.isEmpty = false := by
  rw [locate] at hp
  split at hp
  · cases hp
  · next hempty => simpa using hempty

theorem walk_of_locate {h : Host} {p : Path} {l : Location} (hp : h.locate p = .ok l) :
    h.walk (h.start p) p.parts = .ok l := by
  rwa [locate, isEmpty_eq_false_of_locate hp] at hp

/-- A plain name joined to the path of a folder leads into the folder. -/
theorem locate_join {h : Host} {p : Path} {l : Location} (hp : h.locate p = .ok l)
    (hl : h.find? l = some .folder) {name : String} (hname : Plain name) :
    h.locate (p.join name) = .ok (l ++ [name]) := by
  have hempty := isEmpty_eq_false_of_locate hp
  obtain ⟨front, hparts, hjoined⟩ := parts_join hempty hname
  have hfront : h.walk (h.start p) front = .ok l := by
    have hwalk := walk_of_locate hp
    rcases hparts with hparts | hparts
    · rwa [hparts] at hwalk
    · rw [hparts] at hwalk
      exact walk_of_walk_empty hwalk
  rw [locate, isEmpty_join hempty hname, hjoined, start, isAbsolute_join hempty hname]
  change h.walk (h.start p) (front ++ [name]) = _
  rw [walk_append, hfront]
  exact walk_plain hl hname

/-! ## Entries -/

section

variable {h : Host} {p : Path} {l : Location}

theorem entry_of_locate (hp : h.locate p = .ok l) :
    h.entry p = (h.find? l).elim (.error .notFound) .ok := by
  rw [entry, hp]
  dsimp only
  cases h.find? l <;> rfl

theorem holds_iff (hp : h.locate p = .ok l) : h.holds p = true ↔ (h.find? l).isSome = true := by
  rw [holds, entry_of_locate hp]
  cases h.find? l <;> simp

theorem isFile_iff (hp : h.locate p = .ok l) :
    h.isFile p = true ↔ ∃ content executable, h.find? l = some (.file content executable) := by
  rw [isFile, entry_of_locate hp]
  cases h.find? l with
  | none => simp
  | some e => cases e <;> simp

theorem isFolder_iff (hp : h.locate p = .ok l) :
    h.isFolder p = true ↔ h.find? l = some .folder := by
  rw [isFolder, entry_of_locate hp]
  cases h.find? l with
  | none => simp
  | some e => cases e <;> simp

theorem holds_of_isFile (hfile : h.isFile p = true) : h.holds p = true := by
  rw [isFile] at hfile
  rw [holds]
  split at hfile
  · next hentry => rw [hentry]
  · cases hfile

theorem readText_of_find? (hp : h.locate p = .ok l) {text : String} {executable : Bool}
    (hl : h.find? l = some (.file (.text text) executable)) : h.readText p = .ok text := by
  rw [readText, entry_of_locate hp, hl]
  rfl

/-- What makes a name in a listing: the location ends with it, and is in the folder. -/
theorem dropLast_getLast?_iff {l other : Location} {name : String} :
    (if other.dropLast == l then other.getLast? else none) = some name ↔ other = l ++ [name] := by
  rw [Option.ite_none_right_eq_some, beq_iff_eq]
  constructor
  · rintro ⟨habove, hlast⟩
    obtain ⟨above, rfl⟩ := List.getLast?_eq_some_iff.1 hlast
    rw [List.dropLast_concat] at habove
    rw [habove]
  · rintro rfl
    simp

/-- A folder that can be listed lists the names of its entries. -/
theorem of_names {names : List String} (hnames : h.names p = .ok names) :
    ∃ l, h.locate p = .ok l ∧ h.find? l = some .folder ∧
      ∀ name, name ∈ names ↔ (h.find? (l ++ [name])).isSome = true := by
  rw [Host.names] at hnames
  split at hnames
  · cases hnames
  · next l hl =>
    split at hnames
    · cases hnames
    · cases hnames
    · next hfolder =>
      cases hnames
      refine ⟨l, hl, hfolder, fun name => ?_⟩
      have hfind : h.find? (l ++ [name]) = h.entries.lookup (l ++ [name]) := if_neg (by simp)
      rw [hfind, List.lookup_isSome_iff, List.mem_filterMap]
      refine exists_congr fun e => and_congr_right fun _ => ?_
      rw [beq_iff_eq]
      exact dropLast_getLast?_iff.trans eq_comm

theorem mem_names_iff {names : List String} (hnames : h.names p = .ok names) {name : String}
    (hname : Plain name) : name ∈ names ↔ h.holds (p.join name) = true := by
  obtain ⟨l, hl, hfolder, hmem⟩ := of_names hnames
  rw [hmem, holds_iff (locate_join hl hfolder hname)]

theorem exists_names (hp : h.locate p = .ok l) (hl : h.find? l = some .folder) :
    ∃ names, h.names p = .ok names := by
  rw [Host.names, hp]
  dsimp only
  rw [hl]
  exact ⟨_, rfl⟩

end

/-! ## Writing -/

section

variable {h : Host} {place : Location}

theorem find?_put (h : Host) {place : Location} (hplace : place ≠ []) (e : Entry) (l : Location) :
    (h.put place e).find? l = if l = place then some e else h.find? l := by
  rw [find?, find?, put]
  dsimp only
  rw [lookup_cons_eq_ite, lookup_filter_ne]
  by_cases hl : l = place
  · subst hl
    simp [hplace]
  · simp [hl]

/-- The entry that is put is on no way, because it is put where there was no folder. -/
theorem walk_put (hplace : h.find? place ≠ some .folder) (e : Entry) {l m : Location}
    {parts : List String} (hwalk : h.walk l parts = .ok m) :
    (h.put place e).walk l parts = .ok m := by
  have hne : place ≠ [] := by
    rintro rfl
    exact hplace rfl
  induction parts generalizing l with
  | nil => exact hwalk
  | cons part parts ih =>
    rw [walk] at hwalk ⊢
    split at hwalk
    · cases hwalk
    · cases hwalk
    · next hl =>
      have hother : l ≠ place := by
        rintro rfl
        exact hplace hl
      rw [find?_put h hne, if_neg hother, hl]
      dsimp only
      split
      · next hstay =>
        rw [if_pos hstay] at hwalk
        exact ih hwalk
      · next hstay =>
        rw [if_neg hstay] at hwalk
        split
        · next hup =>
          rw [if_pos hup] at hwalk
          exact ih hwalk
        · next hup =>
          rw [if_neg hup] at hwalk
          exact ih hwalk

theorem locate_put (hplace : h.find? place ≠ some .folder) (e : Entry) {p : Path} {l : Location}
    (hp : h.locate p = .ok l) : (h.put place e).locate p = .ok l := by
  rw [locate, isEmpty_eq_false_of_locate hp]
  exact walk_put hplace e (walk_of_locate hp)

variable {p : Path}

theorem writeText_eq (hslash : p.chars.getLast? ≠ some '/') (hp : h.locate p = .ok place)
    (text : String) :
    h.find? place = some .folder ∧ h.writeText p text = .error .isFolder ∨
      h.find? place ≠ some .folder ∧
        ∃ executable, h.writeText p text = .ok (h.put place (.file (.text text) executable)) := by
  have hnot : (p.chars.getLast? == some '/') = false := beq_eq_false_iff_ne.2 hslash
  delta writeText
  simp only [hnot, Bool.false_and, Bool.false_eq_true, if_false, hp]
  cases h.find? place with
  | none => exact Or.inr ⟨by simp, false, rfl⟩
  | some e =>
    cases e with
    | folder => exact Or.inl ⟨rfl, rfl⟩
    | file content executable => exact Or.inr ⟨by simp, executable, rfl⟩

end

section

variable {h : Host} {p : Path} {names : List String} {name : String}

/-- A file can be written into a folder unless a folder has its name. -/
theorem exists_writeText_iff (hnames : h.names p = .ok names) (hname : Plain name) (text : String) :
    (∃ next, h.writeText (p.join name) text = .ok next) ↔ h.isFolder (p.join name) = false := by
  obtain ⟨l, hl, hfolder, -⟩ := of_names hnames
  have hplace := locate_join hl hfolder hname
  have hslash := getLast?_join_ne (isEmpty_eq_false_of_locate hl) hname
  rw [Bool.eq_false_iff, Ne, isFolder_iff hplace]
  rcases writeText_eq hslash hplace text with ⟨hthere, hwrite⟩ | ⟨hnone, executable, hwrite⟩
  · simp [hwrite, hthere]
  · simp [hwrite, hnone]

/-- After a file was put into a folder, its name is there too. -/
theorem exists_names_put {l : Location} (hl : h.locate p = .ok l)
    (hfolder : h.find? l = some .folder) (hnames : h.names p = .ok names)
    (hplace : h.find? (l ++ [name]) ≠ some .folder) (e : Entry) :
    ∃ more, (h.put (l ++ [name]) e).names p = .ok more ∧
      ∀ other, other ∈ more ↔ other = name ∨ other ∈ names := by
  have hfind := find?_put h (List.append_ne_nil_of_right_ne_nil l (List.cons_ne_nil name [])) e
  have hother : l ≠ l ++ [name] := by simp
  obtain ⟨more, hmore⟩ :=
    exists_names (locate_put hplace e hl) (((hfind l).trans (if_neg hother)).trans hfolder)
  refine ⟨more, hmore, fun other => ?_⟩
  obtain ⟨k, hk, -, hbefore⟩ := of_names hnames
  obtain ⟨m, hm, -, hafter⟩ := of_names hmore
  obtain rfl : l = k := Except.ok.inj (hl.symm.trans hk)
  obtain rfl : l = m := Except.ok.inj ((locate_put hplace e hl).symm.trans hm)
  rw [hafter, hbefore, hfind]
  by_cases heq : other = name
  · simp [heq]
  · simp [heq]

/-- A file that was written into a folder is listed with the others and holds what was written. -/
theorem of_writeText (hnames : h.names p = .ok names) (hname : Plain name) {text : String}
    {next : Host} (hwrite : h.writeText (p.join name) text = .ok next) :
    (∃ more, next.names p = .ok more ∧ ∀ other, other ∈ more ↔ other = name ∨ other ∈ names) ∧
      next.isFile (p.join name) = true ∧ next.readText (p.join name) = .ok text := by
  obtain ⟨l, hl, hfolder, -⟩ := of_names hnames
  have hplace := locate_join hl hfolder hname
  have hslash := getLast?_join_ne (isEmpty_eq_false_of_locate hl) hname
  rcases writeText_eq hslash hplace text with ⟨-, herror⟩ | ⟨hnone, executable, hput⟩
  · rw [herror] at hwrite
    cases hwrite
  · obtain rfl : h.put (l ++ [name]) (.file (.text text) executable) = next :=
      Except.ok.inj (hput.symm.trans hwrite)
    have hthere := locate_put hnone (.file (.text text) executable) hplace
    have hfile : (h.put (l ++ [name]) (.file (.text text) executable)).find? (l ++ [name]) =
        some (.file (.text text) executable) := by
      rw [find?_put h (by simp), if_pos rfl]
    exact ⟨exists_names_put hl hfolder hnames hnone _, (isFile_iff hthere).2 ⟨_, _, hfile⟩,
      readText_of_find? hthere hfile⟩

end

end Host

end InputDeck
