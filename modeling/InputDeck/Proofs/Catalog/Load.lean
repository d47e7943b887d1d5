import InputDeck.Proofs.Host
import InputDeck.Proofs.Text.ByteOrder
import InputDeck.Proofs.Varinfo
import InputDeck.Varinfo.Import

/-!
# The versions that can be loaded

The list of versions is made from the names in the data folder, and loading makes a name from a
version. The two agree because the name of a data file determines its version. Hence a version that
loads is listed, and an imported one that is written into the data folder is listed and loads as it
was imported.
-/

namespace InputDeck

open InputDeck.Text

namespace Text

theorem afterLead?_append (lead rest : List Char) : afterLead? lead (lead ++ rest) = some rest := by
  induction lead with
  | nil => rfl
  | cons c lead ih => rw [List.cons_append, afterLead?, if_pos (beq_self_eq_true c), ih]

theorem afterLead?_eq_some_iff {lead cs rest : List Char} :
    afterLead? lead cs = some rest ↔ cs = lead ++ rest := by
  constructor
  · exact Varinfo.afterLead?_eq_some
  · rintro rfl
    exact afterLead?_append lead rest

theorem beforeTail?_eq_some_iff {tail cs front : List Char} :
    beforeTail? tail cs = some front ↔ cs = front ++ tail := by
  rw [beforeTail?, Option.map_eq_some_iff]
  simp only [afterLead?_eq_some_iff]
  constructor
  · rintro ⟨back, hback, rfl⟩
    rw [← List.reverse_reverse cs, hback, List.reverse_append, List.reverse_reverse]
  · rintro rfl
    exact ⟨front.reverse, List.reverse_append, List.reverse_reverse front⟩

end Text

namespace Catalog

/-! ## Names of data files -/

theorem toList_dataFileName (v : String) :
    (dataFileName v).toList = "varinfo-".toList ++ (v.toList ++ ".json".toList) := by
  rw [dataFileName, String.toList_append, String.toList_append, List.append_assoc]

/-- A version may hold the lead and the tail of the name itself: only the outer ones are taken. -/
theorem versionOfName?_eq_some_iff {name v : String} :
    versionOfName? name = some v ↔ name = dataFileName v := by
  rw [versionOfName?, Option.map_eq_some_iff, ← String.toList_inj, toList_dataFileName]
  simp only [Option.bind_eq_some_iff, afterLead?_eq_some_iff, beforeTail?_eq_some_iff]
  constructor
  · rintro ⟨cs, ⟨rest, hname, rfl⟩, rfl⟩
    rw [hname, @String.toList_ofList cs]
  · intro hname
    exact ⟨v.toList, ⟨_, hname, rfl⟩, String.ofList_toList⟩

theorem dataFileName_inj {u v : String} : dataFileName u = dataFileName v ↔ u = v := by
  constructor
  · intro heq
    have hu : versionOfName? (dataFileName u) = some u := versionOfName?_eq_some_iff.2 rfl
    rw [versionOfName?_eq_some_iff.2 heq] at hu
    exact (Option.some.inj hu).symm
  · rintro rfl
    rfl

theorem plain_dataFileName {v : String} (hv : '/' ∉ v.toList) : Path.Plain (dataFileName v) := by
  have hlength : 13 ≤ (dataFileName v).toList.length := by
    rw [toList_dataFileName, List.length_append, List.length_append]
    have hlead : "varinfo-".toList.length = 8 := rfl
    have htail : ".json".toList.length = 5 := rfl
    omega
  have hne : ∀ short : String, short.toList.length < 13 → dataFileName v ≠ short := by
    rintro short hshort rfl
    omega
  refine ⟨?_, hne _ (by decide), hne _ (by decide), hne _ (by decide)⟩
  rw [toList_dataFileName]
  simp only [List.mem_append, not_or]
  exact ⟨by decide, hv, by decide⟩

/-! ## The listed versions -/

theorem mem_availableVersions_iff (h : Host) (folder : Option Path) (v : String) :
    v ∈ availableVersions h folder ↔ v ∈ bundledVersions ∨ v ∈ versionsIn h folder := by
  rw [availableVersions, ← Dictionary.get?_isSome_iff, Dictionary.get?_ofList,
    List.lookup_isSome_iff, ← List.mem_append]
  simp [or_comm]

theorem pairwise_availableVersions (h : Host) (folder : Option Path) :
    (availableVersions h folder).Pairwise ByteLess := by
  rw [availableVersions, Dictionary.keys, List.pairwise_map]
  exact (Dictionary.sorted _).imp lt_iff_byteLess.1

theorem mem_bundledVersions_of_bundled {v : String} {c : Catalog} (hc : bundled v = .ok c) :
    v ∈ bundledVersions := by
  unfold bundled at hc
  split at hc
  · decide
  · decide
  · cases hc

section

variable {h : Host} {folder : Path} {names : List String}

theorem mem_listed_iff (hnames : h.names folder = .ok names) (v : String) :
    v ∈ availableVersions h (some folder) ↔ v ∈ bundledVersions ∨ dataFileName v ∈ names := by
  rw [mem_availableVersions_iff, versionsIn, hnames]
  simp only [List.mem_filterMap, versionOfName?_eq_some_iff, exists_eq_right]

theorem mem_listed_of_load (hnames : h.names folder = .ok names) {v : String}
    (hv : '/' ∉ v.toList) {c : Catalog} (hc : load h v (some folder) = .ok c) :
    v ∈ availableVersions h (some folder) := by
  rw [mem_listed_iff hnames]
  simp only [load] at hc
  split at hc
  · next hfile =>
    have hholds := Host.holds_of_isFile hfile
    exact Or.inr ((Host.mem_names_iff hnames (plain_dataFileName hv)).2 hholds)
  · exact Or.inl (mem_bundledVersions_of_bundled hc)

/-- Writing a data file lists its version, and loading it reads what was written. -/
theorem listed_and_loaded_of_writeText (hnames : h.names folder = .ok names) {v : String}
    (hv : '/' ∉ v.toList) {text : String} {next : Host}
    (hwrite : h.writeText (folder.join (dataFileName v)) text = .ok next) :
    (∀ u, u ∈ availableVersions next (some folder) ↔
        u = v ∨ u ∈ availableVersions h (some folder)) ∧
      ∀ c, read? v text = some c → load next v (some folder) = .ok c := by
  obtain ⟨⟨more, hmore, hmem⟩, hfile, htext⟩ :=
    Host.of_writeText hnames (plain_dataFileName hv) hwrite
  constructor
  · intro u
    rw [mem_listed_iff hmore, mem_listed_iff hnames, hmem, dataFileName_inj]
    exact or_left_comm
  · intro c hc
    simp only [load, if_pos hfile, ofFile, htext, hc]

end

end Catalog

/-! ## Imported versions -/

namespace Varinfo

def Acceptable (v : String) : Prop :=
  v ≠ "" ∧ ∀ c ∈ v.toList, ('A' ≤ c ∧ c ≤ 'Z') ∨ ('a' ≤ c ∧ c ≤ 'z') ∨ ('0' ≤ c ∧ c ≤ '9') ∨
    c ∈ ['.', '_', '-']

theorem isAlphanum_iff (c : Char) :
    c.isAlphanum = true ↔ ('A' ≤ c ∧ c ≤ 'Z') ∨ ('a' ≤ c ∧ c ≤ 'z') ∨ ('0' ≤ c ∧ c ≤ '9') := by
  have hsplit : c.isAlphanum = (c.isUpper || c.isLower || c.isDigit) := rfl
  have hupper : c.isUpper = true ↔ 'A' ≤ c ∧ c ≤ 'Z' := decide_eq_true_iff
  have hlower : c.isLower = true ↔ 'a' ≤ c ∧ c ≤ 'z' :=
    Bool.and_eq_true_iff.trans (and_congr decide_eq_true_iff decide_eq_true_iff)
  have hdigit : c.isDigit = true ↔ '0' ≤ c ∧ c ≤ '9' :=
    Bool.and_eq_true_iff.trans (and_congr decide_eq_true_iff decide_eq_true_iff)
  rw [hsplit, Bool.or_eq_true, Bool.or_eq_true, hupper, hlower, hdigit, or_assoc]

theorem isAcceptableVersion_iff {v : String} : isAcceptableVersion v = true ↔ Acceptable v := by
  rw [isAcceptableVersion, Acceptable, Bool.and_eq_true, List.all_eq_true]
  refine and_congr (by simp) (forall₂_congr fun c _ => ?_)
  rw [Bool.or_eq_true, Bool.or_eq_true, Bool.or_eq_true, isAlphanum_iff]
  simp only [beq_iff_eq, List.mem_cons, List.not_mem_nil, or_false]
  grind

theorem Acceptable.slash_not_mem {v : String} (hv : Acceptable v) : '/' ∉ v.toList := by
  intro hmem
  exact absurd (hv.2 '/' hmem) (by decide)

theorem importFile_eq_ok {source : Host} {listing : Path} {text v : String} (hv : Acceptable v)
    (htext : source.readText listing = .ok text) (hread : read text ≠ []) :
    importFile source listing v =
      .ok ⟨.ofVariables v (Catalog.byName (read text)).values, Catalog.dataFile (read text)⟩ := by
  rw [importFile, if_pos (isAcceptableVersion_iff.2 hv), htext]
  dsimp only
  split
  · next hnil => exact absurd hnil hread
  · rw [convert, Catalog.read?_dataFile v fun _ => kept_storable.of_mem_read]

end Varinfo

namespace Catalog

/-- The list of versions tells what loading finds, before and after an import. -/
theorem listing_agrees_with_load {h : Host} {folder : Path} {names : List String}
    (hnames : h.names folder = .ok names) :
    (availableVersions h (some folder)).Pairwise ByteLess ∧
      (∀ v ∈ bundledVersions, v ∈ availableVersions h (some folder)) ∧
      (∀ v, v ∈ availableVersions h (some folder) ↔
        v ∈ bundledVersions ∨ dataFileName v ∈ names) ∧
      (∀ v, '/' ∉ v.toList →
        (dataFileName v ∈ names ↔ h.holds (folder.join (dataFileName v)) = true) ∧
        ∀ c, load h v (some folder) = .ok c → v ∈ availableVersions h (some folder)) ∧
      ∀ (source : Host) (listing : Path) (text v : String), Varinfo.Acceptable v →
        source.readText listing = .ok text → Varinfo.read text ≠ [] →
        ∃ imported, Varinfo.importFile source listing v = .ok imported ∧
          imported.file = dataFile (Varinfo.read text) ∧
          ((∃ next,
              h.writeText (Varinfo.targetPath v none (some folder)) imported.file = .ok next) ↔
            h.isFolder (Varinfo.targetPath v none (some folder)) = false) ∧
          ∀ next, h.writeText (Varinfo.targetPath v none (some folder)) imported.file = .ok next →
            (∀ u, u ∈ availableVersions next (some folder) ↔
              u = v ∨ u ∈ availableVersions h (some folder)) ∧
            load next v (some folder) = .ok imported.catalog := by
  have hlisted := mem_listed_iff hnames
  refine ⟨pairwise_availableVersions h _, fun v hv => (hlisted v).2 (Or.inl hv), hlisted, ?_, ?_⟩
  · intro v hv
    exact ⟨Host.mem_names_iff hnames (plain_dataFileName hv), fun c => mem_listed_of_load hnames hv⟩
  · intro source listing text v hv htext hread
    refine ⟨_, Varinfo.importFile_eq_ok hv htext hread, rfl, ?_, ?_⟩
    · exact Host.exists_writeText_iff hnames (plain_dataFileName hv.slash_not_mem) _
    · intro next hwrite
      obtain ⟨hmem, hload⟩ := listed_and_loaded_of_writeText hnames hv.slash_not_mem hwrite
      exact ⟨hmem, hload _ (read?_dataFile v fun _ => Varinfo.kept_storable.of_mem_read)⟩

/-- A data folder with a broken file for a bundled version, a file for a version that ends like a
data file, a folder named like one, and a listing to import. -/
def crowdedHost : Host where
  entries := [(["data"], .folder), (["data", "varinfo-16.2.json"], .file (.text "[") true),
    (["data", "varinfo-9.json.json"], .file (.bytes [255]) false),
    (["data", "varinfo-x.json"], .folder), (["data", "notes.json"], .file (.text "") false),
    (["listing"], .file (.text "Variable Spin\nDefault up") false)]
  workingFolder := []
  searchFolders := []

theorem listing_agrees_with_load_crowdedHost :
    crowdedHost.names ⟨"/data/"⟩ =
        .ok ["varinfo-16.2.json", "varinfo-9.json.json", "varinfo-x.json", "notes.json"] ∧
      "9.json" ∈ availableVersions crowdedHost (some ⟨"/data/"⟩) ∧
      "9" ∉ availableVersions crowdedHost (some ⟨"/data/"⟩) ∧
      load crowdedHost "14.1" (some ⟨"/data/"⟩) = .ok bundled141 ∧
      "14.1" ∈ availableVersions crowdedHost (some ⟨"/data/"⟩) ∧
      Varinfo.Acceptable "16.2" ∧
      crowdedHost.readText ⟨"listing"⟩ = .ok "Variable Spin\nDefault up" ∧
      Varinfo.read "Variable Spin\nDefault up" ≠ [] ∧
      ∃ imported, Varinfo.importFile crowdedHost ⟨"listing"⟩ "16.2" = .ok imported ∧
        ∃ next, crowdedHost.writeText ⟨"/data/varinfo-16.2.json"⟩ imported.file = .ok next ∧
          "16.2" ∈ availableVersions next (some ⟨"/data/"⟩) ∧
          load next "16.2" (some ⟨"/data/"⟩) = .ok imported.catalog := by
  have hnames : crowdedHost.names ⟨"/data/"⟩ =
      .ok ["varinfo-16.2.json", "varinfo-9.json.json", "varinfo-x.json", "notes.json"] := by
    decide +kernel
  have hbundled : load crowdedHost "14.1" (some ⟨"/data/"⟩) = .ok bundled141 := by
    have hfile : crowdedHost.isFile ((Path.mk "/data/").join (dataFileName "14.1")) = false := by
      decide +kernel
    simp only [load, hfile]
    rfl
  have haccept : Varinfo.Acceptable "16.2" := Varinfo.isAcceptableVersion_iff.1 (by decide +kernel)
  have htext : crowdedHost.readText ⟨"listing"⟩ = .ok "Variable Spin\nDefault up" := by
    decide +kernel
  have hread : Varinfo.read "Variable Spin\nDefault up" ≠ [] := by decide +kernel
  have htarget : Varinfo.targetPath "16.2" none (some ⟨"/data/"⟩) =
      ⟨"/data/varinfo-16.2.json"⟩ := by
    decide +kernel
  obtain ⟨-, -, hlisted, hloaded, himport⟩ := listing_agrees_with_load hnames
  obtain ⟨imported, hok, -, hwritable, hwritten⟩ :=
    himport crowdedHost ⟨"listing"⟩ _ "16.2" haccept htext hread
  rw [htarget] at hwritable hwritten
  obtain ⟨next, hnext⟩ := hwritable.2 (by decide +kernel)
  obtain ⟨hmem, hload⟩ := hwritten next hnext
  have hinner : "9" ∉ availableVersions crowdedHost (some ⟨"/data/"⟩) := by
    rw [hlisted]
    decide +kernel
  exact ⟨hnames, (hlisted _).2 (by decide +kernel), hinner, hbundled,
    (hloaded "14.1" (by decide)).2 _ hbundled, haccept, htext, hread, imported, hok, next, hnext,
    (hmem _).2 (Or.inl rfl), hload⟩

end Catalog

end InputDeck
