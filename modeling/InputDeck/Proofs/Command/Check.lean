import InputDeck.Command.Check
import InputDeck.Proofs.Catalog.DataFile
import InputDeck.Proofs.Finding

/-!
# Checking several files

A run checks all its files with one catalog, the one that is in force for the first of them. So a
run succeeds exactly if each file has nothing to refuse with that catalog, and of the order of the
files only the first place counts. Where the same catalog is in force for all files, checking them
together is checking each of them; where it is not, a file can fail or pass because of its company.
-/

namespace InputDeck.Command

open InputDeck.Text
open InputDeck.Statement

/-! ## Reports that end well -/

namespace Report

variable {α β : Type}

def succeeds (r : Report α) : Bool :=
  r.result.isOk

@[simp] theorem succeeds_ok (lines : List Line) (a : α) :
    (⟨lines, .ok a⟩ : Report α).succeeds = true := rfl

@[simp] theorem succeeds_error (lines : List Line) (e : Error) :
    (⟨lines, .error e⟩ : Report α).succeeds = false := rfl

@[simp] theorem succeeds_after (r : Report α) (lines : List Line) :
    (r.after lines).succeeds = r.succeeds := rfl

theorem succeeds_andThen_iff {r : Report α} {next : α → Report β} :
    (r.andThen next).succeeds = true ↔ ∃ a, r.result = .ok a ∧ (next a).succeeds = true := by
  rw [andThen]
  cases r.result with
  | error e => simp
  | ok a => simp

end Report

/-! ## One file -/

/-- The file can be read, and no line of it assigns a value that its variable does not take. -/
def Clears (h : Host) (c : Catalog) (file : Path) : Prop :=
  ∃ text, h.readText file = .ok text ∧ ∀ line ∈ fileLines text, ∀ a v, ¬ c.Refuses line a v

variable {h : Host} {c : Catalog} {file : Path}

theorem scanText_eq_nil_iff {text : String} :
    c.scanText text = [] ↔ ∀ line ∈ fileLines text, ∀ a v, ¬ c.Refuses line a v := by
  rw [Catalog.scanText, List.eq_nil_iff_forall_not_mem]
  constructor
  · intro hnone line hline a v hrefuses
    obtain ⟨index, hindex⟩ := List.mem_iff_getElem?.1 hline
    exact hnone ⟨index, a.valueStart, a.valueEnd, (v.verdict a.value).fullMessage⟩
      (c.mem_scan_iff.2 ⟨line, a, v, hindex, hrefuses, rfl⟩)
  · intro hclean f hf
    obtain ⟨line, a, v, hline, hrefuses, -⟩ := c.mem_scan_iff.1 hf
    exact hclean line (List.mem_of_getElem? hline) a v hrefuses

theorem checkFile_eq_nil_iff : checkFile h c file = .ok [] ↔ Clears h c file := by
  rw [checkFile, Clears]
  simp only [← scanText_eq_nil_iff]
  cases h.readText file with
  | error fault => simp [ofHost, Except.map]
  | ok text => simp [ofHost, Except.map]

/-! ## All files -/

theorem Tally.values_add (t : Tally) (findings : List Finding) :
    (t.add findings).values = t.values + findings.length := by
  rw [Tally.add]
  split
  · next hempty => rw [List.isEmpty_iff.1 hempty]; rfl
  · rfl

/-- Nothing is counted exactly if there is nothing to count in any file. -/
theorem checkEach_eq_zero_iff {files : List Path} :
    (∃ t, (checkEach h c files).result = .ok t ∧ t.values = 0) ↔
      ∀ file ∈ files, Clears h c file := by
  induction files with
  | nil => simp [checkEach]
  | cons file files ih =>
    rw [List.forall_mem_cons, ← ih, ← checkFile_eq_nil_iff, checkEach]
    cases hfile : checkFile h c file with
    | error e => simp
    | ok findings =>
      dsimp only
      cases (checkEach h c files).result with
      | error e => simp [Except.map]
      | ok t => simp [Except.map, Tally.values_add, and_comm]

theorem succeeds_concludeCheck_iff {t : Tally} :
    (concludeCheck t).succeeds = true ↔ t.values = 0 := by
  rw [concludeCheck]
  split
  · next hzero => simp [hzero]
  · next hsome => simp [hsome]

variable {choice : Catalog.Choice} {first : Path} {rest : List Path}

/-- A run succeeds exactly if no file has anything to refuse with the catalog of the first one. -/
theorem succeeds_check_iff :
    (check h choice (first :: rest)).succeeds = true ↔
      ∃ c, choice.load h (settingsRoot h first) = .ok c ∧
        ∀ file ∈ first :: rest, Clears h c file := by
  rw [check, Report.succeeds_andThen_iff]
  apply exists_congr
  intro c
  rw [Report.succeeds_after, Report.succeeds_andThen_iff, ← checkEach_eq_zero_iff]
  simp only [succeeds_concludeCheck_iff, Report.ofResult]

theorem succeeds_check_singleton_iff :
    (check h choice [file]).succeeds = true ↔
      ∃ c, choice.load h (settingsRoot h file) = .ok c ∧ Clears h c file := by
  simp only [succeeds_check_iff, List.mem_singleton, forall_eq]

theorem succeeds_check_iff_of_load (hload : choice.load h (settingsRoot h first) = .ok c) :
    (check h choice (first :: rest)).succeeds = true ↔ ∀ file ∈ first :: rest, Clears h c file := by
  rw [succeeds_check_iff, hload]
  constructor
  · rintro ⟨own, hown, hclears⟩
    cases hown
    exact hclears
  · intro hclears
    exact ⟨c, rfl, hclears⟩

/-- Each file is tested as if it came alone after the first one. -/
theorem succeeds_check_cons_iff :
    (check h choice (first :: rest)).succeeds = true ↔
      (check h choice [first]).succeeds = true ∧
        ∀ file ∈ rest, (check h choice [first, file]).succeeds = true := by
  simp only [succeeds_check_iff, List.forall_mem_cons, List.not_mem_nil, false_imp_iff,
    implies_true, and_true]
  constructor
  · rintro ⟨c, hload, hfirst, hrest⟩
    exact ⟨⟨c, hload, hfirst⟩, fun file hfile => ⟨c, hload, hfirst, hrest file hfile⟩⟩
  · rintro ⟨⟨c, hload, hfirst⟩, hpairs⟩
    refine ⟨c, hload, hfirst, ?_⟩
    intro file hfile
    obtain ⟨own, hown, -, hclears⟩ := hpairs file hfile
    rw [hload] at hown
    cases hown
    exact hclears

/-- Where one catalog is in force for all files, each is tested as if it were alone. -/
theorem succeeds_check_iff_forall
    (hsame : ∀ file ∈ rest,
      choice.load h (settingsRoot h file) = choice.load h (settingsRoot h first)) :
    (check h choice (first :: rest)).succeeds = true ↔
      ∀ file ∈ first :: rest, (check h choice [file]).succeeds = true := by
  have hload : ∀ file ∈ first :: rest,
      choice.load h (settingsRoot h file) = choice.load h (settingsRoot h first) :=
    List.forall_mem_cons.2 ⟨rfl, hsame⟩
  rw [succeeds_check_iff]
  constructor
  · rintro ⟨c, hc, hclears⟩ file hfile
    rw [succeeds_check_singleton_iff, hload file hfile]
    exact ⟨c, hc, hclears file hfile⟩
  · intro halone
    obtain ⟨c, hc, -⟩ := succeeds_check_singleton_iff.1 (halone first List.mem_cons_self)
    refine ⟨c, hc, ?_⟩
    intro file hfile
    obtain ⟨own, hown, hclears⟩ := succeeds_check_singleton_iff.1 (halone file hfile)
    rw [hload file hfile, hc] at hown
    cases hown
    exact hclears

theorem load_of_resolve {start : Path} {version : String} {folder : Option Path}
    (hresolve : (choice.resolve h start).toOption = some (version, folder)) :
    choice.load h start = Catalog.load h version folder := by
  -- `rw` would first derive the equation of `load`, which takes long
  delta Catalog.Choice.load
  cases hfound : choice.resolve h start with
  | error e =>
    rw [hfound] at hresolve
    cases hresolve
  | ok found =>
    rw [hfound] at hresolve
    cases hresolve
    rfl

/-- With both a release and a data folder given, of the settings it only counts that there are none
or that they can be read. -/
theorem resolve_of_discover {version : String} {folder : Path} {start : Path}
    (hread : (Settings.discover h start).isOk = true) :
    (Catalog.Choice.resolve ⟨some version, some folder⟩ h start).toOption =
      some (version, some folder) := by
  rw [Catalog.Choice.resolve]
  cases hfound : Settings.discover h start with
  | error e =>
    rw [hfound] at hread
    cases hread
  | ok found => rfl

/-- A run succeeds exactly if every file can be read and assigns no refused value, by the catalog
that is in force for the first file. So a file is judged by its own content and by which file comes
first, and by nothing else about its company. If the same catalog is in force for every file,
checking the files is checking each of them; this is so in particular if a release and a data folder
are given and the settings of every file can be read. -/
theorem check_judges_by_first (h : Host) (choice : Catalog.Choice) (first : Path)
    (rest : List Path) :
    ((check h choice (first :: rest)).succeeds = true ↔
      ∃ c, choice.load h (settingsRoot h first) = .ok c ∧
        ∀ file ∈ first :: rest, Clears h c file) ∧
    ((check h choice (first :: rest)).succeeds = true ↔
      (check h choice [first]).succeeds = true ∧
        ∀ file ∈ rest, (check h choice [first, file]).succeeds = true) ∧
    ((∀ file ∈ rest,
        choice.load h (settingsRoot h file) = choice.load h (settingsRoot h first)) →
      ((check h choice (first :: rest)).succeeds = true ↔
        ∀ file ∈ first :: rest, (check h choice [file]).succeeds = true)) ∧
    (∀ version folder, choice = ⟨some version, some folder⟩ →
      (∀ file ∈ first :: rest, (Settings.discover h (settingsRoot h file)).isOk = true) →
      ((check h choice (first :: rest)).succeeds = true ↔
        ∀ file ∈ first :: rest, (check h choice [file]).succeeds = true)) := by
  refine ⟨succeeds_check_iff, succeeds_check_cons_iff, succeeds_check_iff_forall, ?_⟩
  rintro version folder rfl hread
  apply succeeds_check_iff_forall
  intro file hfile
  rw [load_of_resolve (resolve_of_discover (hread first List.mem_cons_self)),
    load_of_resolve (resolve_of_discover (hread file (List.mem_cons_of_mem first hfile)))]

def mixedHost : Host where
  entries := [(["old"], .folder), (["old", "inp"], .file (.text "EigenSolver = cg_new\n") false),
    (["new"], .folder), (["new", ".octopus-tools.yaml"], .file (.text "version: \"16.2\"\n") false),
    (["new", "inp"], .file (.text "EigenSolver = lobpcg\n") false)]
  workingFolder := []
  searchFolders := []

/-- Once the later release is asked for, it is in force for both files. With a data folder given as
well, the settings do not count at all. -/
theorem check_judges_by_first_mixedHost :
    Catalog.Choice.load ⟨some "16.2", none⟩ mixedHost (settingsRoot mixedHost ⟨"old/inp"⟩) =
        Catalog.Choice.load ⟨some "16.2", none⟩ mixedHost (settingsRoot mixedHost ⟨"new/inp"⟩) ∧
      ((check mixedHost ⟨some "16.2", none⟩ [⟨"new/inp"⟩, ⟨"old/inp"⟩]).succeeds = true ↔
        ∀ file ∈ [Path.mk "new/inp", ⟨"old/inp"⟩],
          (check mixedHost ⟨some "16.2", none⟩ [file]).succeeds = true) ∧
      (∀ file ∈ [Path.mk "old/inp", ⟨"new/inp"⟩],
        (Settings.discover mixedHost (settingsRoot mixedHost file)).isOk = true) ∧
      ((check mixedHost ⟨some "16.2", some ⟨"data"⟩⟩ [⟨"old/inp"⟩, ⟨"new/inp"⟩]).succeeds = true ↔
        ∀ file ∈ [Path.mk "old/inp", ⟨"new/inp"⟩],
          (check mixedHost ⟨some "16.2", some ⟨"data"⟩⟩ [file]).succeeds = true) := by
  have hnew : Catalog.Choice.load ⟨some "16.2", none⟩ mixedHost
      (settingsRoot mixedHost ⟨"new/inp"⟩) = Catalog.load mixedHost "16.2" none :=
    load_of_resolve (by decide +kernel)
  have hold : Catalog.Choice.load ⟨some "16.2", none⟩ mixedHost
      (settingsRoot mixedHost ⟨"old/inp"⟩) = Catalog.load mixedHost "16.2" none :=
    load_of_resolve (by decide +kernel)
  have hread : ∀ file ∈ [Path.mk "old/inp", ⟨"new/inp"⟩],
      (Settings.discover mixedHost (settingsRoot mixedHost file)).isOk = true := by decide +kernel
  obtain ⟨-, -, hsame, -⟩ :=
    check_judges_by_first mixedHost ⟨some "16.2", none⟩ ⟨"new/inp"⟩ [⟨"old/inp"⟩]
  obtain ⟨-, -, -, hgiven⟩ :=
    check_judges_by_first mixedHost ⟨some "16.2", some ⟨"data"⟩⟩ ⟨"old/inp"⟩ [⟨"new/inp"⟩]
  have hload := hold.trans hnew.symm
  exact ⟨hload, hsame (List.forall_mem_singleton.2 hload), hread, hgiven "16.2" ⟨"data"⟩ rfl hread⟩

theorem clears_iff_of_line {text line : String} {a : Assignment} {v : Variable}
    (htext : h.readText file = .ok text) (hlines : fileLines text = [line])
    (ha : assignment? line = some a) (hv : c.get? a.name = some v) :
    Clears h c file ↔ (v.verdict a.value).isValid = true := by
  rw [Clears]
  constructor
  · rintro ⟨other, hother, hclean⟩
    rw [htext] at hother
    cases hother
    rw [← Bool.not_eq_false]
    intro hrefused
    exact hclean line (by simp [hlines]) a v ⟨ha, hv, hrefused⟩
  · intro hvalid
    refine ⟨text, htext, ?_⟩
    rw [hlines, List.forall_mem_singleton]
    rintro b w ⟨hb, hw, hrefused⟩
    rw [ha] at hb
    cases hb
    rw [hv] at hw
    cases hw
    rw [hvalid] at hrefused
    cases hrefused

theorem clears_mixedHost {v : Variable} (hv : c.get? "EigenSolver" = some v) :
    (Clears mixedHost c ⟨"old/inp"⟩ ↔ (v.verdict "cg_new").isValid = true) ∧
      (Clears mixedHost c ⟨"new/inp"⟩ ↔ (v.verdict "lobpcg").isValid = true) := by
  obtain ⟨a, ha, haname, havalue⟩ : ∃ a ∈ assignment? "EigenSolver = cg_new",
      a.name = "EigenSolver" ∧ a.value = "cg_new" := by decide +kernel
  obtain ⟨b, hb, hbname, hbvalue⟩ : ∃ b ∈ assignment? "EigenSolver = lobpcg",
      b.name = "EigenSolver" ∧ b.value = "lobpcg" := by decide +kernel
  have hold : mixedHost.readText ⟨"old/inp"⟩ = .ok "EigenSolver = cg_new\n" := by decide +kernel
  have hnew : mixedHost.readText ⟨"new/inp"⟩ = .ok "EigenSolver = lobpcg\n" := by decide +kernel
  rw [← havalue, ← hbvalue]
  constructor
  · exact clears_iff_of_line hold (by decide +kernel) ha (haname ▸ hv)
  · exact clears_iff_of_line hnew (by decide +kernel) hb (hbname ▸ hv)

/-- What is in order alone fails in company, whichever comes first. -/
theorem check_depends_on_company :
    (check mixedHost ⟨none, none⟩ [⟨"old/inp"⟩]).succeeds = true ∧
      (check mixedHost ⟨none, none⟩ [⟨"new/inp"⟩]).succeeds = true ∧
      ¬ (check mixedHost ⟨none, none⟩ [⟨"old/inp"⟩, ⟨"new/inp"⟩]).succeeds = true ∧
      ¬ (check mixedHost ⟨none, none⟩ [⟨"new/inp"⟩, ⟨"old/inp"⟩]).succeeds = true ∧
      ¬ ∀ (h : Host) (choice : Catalog.Choice) (files : List Path), files ≠ [] →
        ((check h choice files).succeeds = true ↔
          ∀ file ∈ files, (check h choice [file]).succeeds = true) := by
  -- Each release has a solver that the other one lacks.
  obtain ⟨v, hv, holdv, hnewv⟩ :
      ∃ v ∈ Catalog.release141.reverse.find? (·.key == lowercased "EigenSolver"),
        (v.verdict "cg_new").isValid = true ∧ ¬ (v.verdict "lobpcg").isValid = true := by
    decide +kernel
  obtain ⟨w, hw, holdw, hneww⟩ :
      ∃ w ∈ Catalog.release162.reverse.find? (·.key == lowercased "EigenSolver"),
        ¬ (w.verdict "cg_new").isValid = true ∧ (w.verdict "lobpcg").isValid = true := by
    decide +kernel
  obtain ⟨hold141, hnew141⟩ := clears_mixedHost (c := Catalog.bundled141)
    ((Catalog.get?_ofVariables "14.1" Catalog.release141 "EigenSolver").trans hv)
  obtain ⟨hold162, hnew162⟩ := clears_mixedHost (c := Catalog.bundled162)
    ((Catalog.get?_ofVariables "16.2" Catalog.release162 "EigenSolver").trans hw)
  have hloadOld : Catalog.Choice.load ⟨none, none⟩ mixedHost
      (settingsRoot mixedHost ⟨"old/inp"⟩) = .ok Catalog.bundled141 :=
    calc
      _ = Catalog.load mixedHost "14.1" none := load_of_resolve (by decide +kernel)
      _ = .ok Catalog.bundled141 := rfl
  have hloadNew : Catalog.Choice.load ⟨none, none⟩ mixedHost
      (settingsRoot mixedHost ⟨"new/inp"⟩) = .ok Catalog.bundled162 :=
    calc
      _ = Catalog.load mixedHost "16.2" none := load_of_resolve (by decide +kernel)
      _ = .ok Catalog.bundled162 := rfl
  have hold : (check mixedHost ⟨none, none⟩ [⟨"old/inp"⟩]).succeeds = true :=
    (succeeds_check_iff_of_load hloadOld).2 (List.forall_mem_singleton.2 (hold141.2 holdv))
  have hnew : (check mixedHost ⟨none, none⟩ [⟨"new/inp"⟩]).succeeds = true :=
    (succeeds_check_iff_of_load hloadNew).2 (List.forall_mem_singleton.2 (hnew162.2 hneww))
  have hboth : ¬ (check mixedHost ⟨none, none⟩ [⟨"old/inp"⟩, ⟨"new/inp"⟩]).succeeds = true := by
    rw [succeeds_check_iff_of_load hloadOld]
    intro hclears
    exact hnewv (hnew141.1 (hclears ⟨"new/inp"⟩ (by simp)))
  have hswapped : ¬ (check mixedHost ⟨none, none⟩ [⟨"new/inp"⟩, ⟨"old/inp"⟩]).succeeds = true := by
    rw [succeeds_check_iff_of_load hloadNew]
    intro hclears
    exact holdw (hold162.1 (hclears ⟨"old/inp"⟩ (by simp)))
  refine ⟨hold, hnew, hboth, hswapped, ?_⟩
  intro hall
  exact hboth ((hall mixedHost ⟨none, none⟩ [⟨"old/inp"⟩, ⟨"new/inp"⟩] (by decide)).2
    (List.forall_mem_cons.2 ⟨hold, List.forall_mem_singleton.2 hnew⟩))

end InputDeck.Command
