/-
# Files are made in one folder only

Whatever form a client sends and whatever comes of it, the files that are made, written and removed
meanwhile are children of one folder: the one that the application names, or else the usual one.
Each has a name that was drawn for it, which is one name and no way to another folder: the name of a
stored file starts with a file name that was checked, and a label without slashes follows.

A file name is turned down if it could lead out of the folder, and then nothing was done for its
part.
-/
import Intercept.Proofs.Upload.Injection

namespace Intercept

namespace Deposit

variable {surroundings : Surroundings} {settings : Settings} {part : Part} {draft next : Draft}
variable {parts : List Part} {n saves scratches : Nat} {site after start : Site}

/-! ### Names of files -/

/-- The names of the files that are made for the parts of a form, where so many stored and so many
temporary files were begun before. -/
inductive MadeFor (chance : Chance) (parts : List Part) (saves scratches : Nat) : String → Prop where
  /-- A stored file starts with the name that the client gave it. -/
  | stored {part : Part} {fileName : String} {n : Nat} (hpart : part ∈ parts)
      (hfile : part.fileName? = some fileName) (hlegal : FileName.isIllegal fileName = false)
      (hn : saves < n) :
    MadeFor chance parts saves scratches (labelled fileName (chance.label n))
  | archive {n : Nat} (hn : scratches < n) :
    MadeFor chance parts saves scratches (archiveName chance n)
  | artifact {n : Nat} (hn : scratches < n) :
    MadeFor chance parts saves scratches (artifactName chance n)

/-- The name of a file that is made is the name of a child. -/
lemma MadeFor.not_mem_slash {name : String} (hspelled : surroundings.chance.Spelled)
    (h : MadeFor surroundings.chance parts saves scratches name) : '/' ∉ name.toList := by
  cases h with
  | stored hpart hfile hlegal hn =>
    exact not_mem_slash_labelled (not_mem_of_isIllegal hlegal) (hspelled.label _).not_mem_slash
  | archive hn =>
    exact not_mem_slash_labelled (by decide)
      (not_mem_archive (hspelled.scratchLabel _).not_mem_slash (by decide))
  | artifact hn =>
    exact not_mem_slash_labelled (by decide) (hspelled.scratchLabel _).not_mem_slash

/-- The children of the folder that may be made for the parts of a form. -/
def Inside (surroundings : Surroundings) (settings : Settings) (parts : List Part) (start : Site)
    (place : Disk.Place) : Prop :=
  ∃ name, MadeFor surroundings.chance parts start.saves start.scratches name ∧
    '/' ∉ name.toList ∧ place = Disk.placeOf start.disk.here (folder settings) ++ [name]

/-- A name that is made leads to a child of the folder. -/
lemma inside_of_madeFor {name : String} (hspelled : surroundings.chance.Spelled)
    (h : MadeFor surroundings.chance parts start.saves start.scratches name) :
    Inside surroundings settings parts start
      (Disk.placeOf start.disk.here (folder settings) ++ [name]) :=
  ⟨name, h, h.not_mem_slash hspelled, rfl⟩

/-- Among the children of the folder there is room for all files. -/
lemma room_inside (hspelled : surroundings.chance.Spelled) (settings : Settings)
    (parts : List Part) (start : Site) :
    Room surroundings settings parts (Inside surroundings settings parts start) start where
  stored := by
    rintro path ⟨part, hpart, fileName, m, hfile, hlegal, hm, rfl⟩
    exact leads_labelled (not_mem_of_isIllegal hlegal) (hspelled.label m).not_mem_slash
      (inside_of_madeFor hspelled (.stored hpart hfile hlegal hm))
  archive m hm :=
    leads_labelled (by decide) (not_mem_archive (hspelled.scratchLabel m).not_mem_slash (by decide))
      (inside_of_madeFor hspelled (.archive hm))
  artifact m hm :=
    leads_labelled (by decide) (hspelled.scratchLabel m).not_mem_slash
      (inside_of_madeFor hspelled (.artifact hm))

/-! ### The index -/

/-- A part that is not taken in is not recorded. -/
lemma index_of_takePart_error {error : DepositError}
    (hrun : (takePart surroundings settings part draft).run site = ((next, some error), after)) :
    next.index = draft.index := by
  have hsame : ∀ {failure : Option DepositError}, (next, some error) = (draft, failure) →
      next.index = draft.index := fun h => by rw [(Prod.mk.inj h).1]
  cases takePart_tried hrun with
  | dropped hname houtcome hafter => exact hsame houtcome
  | reserved hname hne hreserved houtcome hafter => exact hsame houtcome
  | copied hname hne hreserved hfile houtcome hafter =>
    obtain rfl : next = (copy part draft).1 := congrArg Prod.fst houtcome
    rfl
  | filed hname hne hfile hfileName hstore =>
    cases storePart_handled hstore with
    | illegal houtcome hafter hillegal => exact hsame houtcome
    | untransformed htransform houtcome => exact hsame houtcome
    | rejected hlegal htransform hsave houtcome hafter => exact hsame houtcome
    | stored hlegal htransform hsave houtcome hafter => cases congrArg Prod.snd houtcome

variable {contents : List (Headers × Bytes)} {entries : List Entry}
variable {files : List (Disk.Place × Bytes)} {disk : Disk}

/-- A path that is reported is that of a file which was stored under a new number. -/
lemma Deposited.stored_of_mem (h : Deposited surroundings settings disk n contents entries files)
    {report : String × String} (hreport : report ∈ reports entries) :
    ∃ fileName m, n < m ∧ report.2 = storedPath surroundings settings fileName m := by
  induction h with
  | nil => cases hreport
  | dropped _ _ ih => exact ih hreport
  | copied _ _ _ ih => exact ih hreport
  | @stored n m _ _ _ _ fileName _ _ _ _ _ _ _ _ _ hnew _ _ _ ih =>
    rw [reports_descriptions] at hreport
    rcases List.mem_cons.1 hreport with rfl | hreport
    · exact ⟨fileName, m, hnew, rfl⟩
    · obtain ⟨found, k, hk, hpath⟩ := ih hreport
      exact ⟨found, k, Nat.lt_trans hnew hk, hpath⟩

/-- No path is reported twice. -/
lemma Deposited.nodup_paths (hfresh : surroundings.chance.Fresh)
    (h : Deposited surroundings settings disk n contents entries files) :
    ((reports entries).map Prod.snd).Nodup := by
  induction h with
  | nil => exact List.nodup_nil
  | dropped _ _ ih => exact ih
  | copied _ _ _ ih => exact ih
  | stored _ _ _ _ _ _ _ _ hrest ih =>
    rw [reports_descriptions, List.map_cons, List.nodup_cons]
    refine ⟨fun hmem => ?_, ih⟩
    -- the files behind have higher numbers
    obtain ⟨report, hreport, hsame⟩ := List.mem_map.1 hmem
    obtain ⟨fileName, k, hk, hpath⟩ := hrest.stored_of_mem hreport
    have hnumber := hfresh.distinct _ _
      (hfresh.spelled.label_eq_of_path_eq (hpath.symm.trans hsame))
    omega

/-- The index lists paths that were reported, and none of these was reported twice. -/
lemma index_of_make (hfresh : surroundings.chance.Fresh) {form : Form} {deposit : Deposit}
    (hrun : (make surroundings settings form).run site = (deposit, after)) :
    ∃ entries, ((reports entries).map Prod.snd).Nodup ∧
      ∀ entry ∈ deposit.index.entries, entry ∈ reports entries := by
  rcases htake : (takeParts surroundings settings form.parts
    { writer := .start surroundings.chance.boundary }).run site with ⟨⟨next, failure⟩, last⟩
  have hindex : deposit.index = next.index := by
    rw [make, Run.run_bind, htake] at hrun
    simp only at hrun
    split at hrun
    · obtain ⟨rfl, -⟩ := Prod.mk.inj hrun
      rfl
    · obtain ⟨rfl, -⟩ := Prod.mk.inj hrun
      rfl
  have htaken : ∀ {parts : List Part} {middle : Draft} {later : Site},
      (takeParts surroundings settings parts
        { writer := .start surroundings.chance.boundary }).run site = ((middle, none), later) →
      deposit.index = middle.index → ∃ entries, ((reports entries).map Prod.snd).Nodup ∧
        ∀ entry ∈ deposit.index.entries, entry ∈ reports entries := by
    intro parts middle later hparts hmiddle
    obtain ⟨entries, files, h⟩ := takeParts_takenIn hfresh hparts
    refine ⟨entries, h.deposited.nodup_paths hfresh, fun entry hentry => ?_⟩
    rw [hmiddle, h.index] at hentry
    exact (FileIndex.mem_recordAll hentry).resolve_left List.not_mem_nil
  cases failure with
  | none => exact htaken htake hindex
  | some error =>
    -- the part that is not taken in is not recorded
    obtain ⟨taken, part, rest, middle, later, -, hbefore, hpart⟩ := takeParts_failed htake
    exact htaken hbefore (hindex.trans (index_of_takePart_error hpart))

/-! ### Names that could lead out of the folder -/

/-- Whether a name could lead out of the folder. -/
def LeadsOut (fileName : String) : Prop :=
  '/' ∈ fileName.toList ∨ '\\' ∈ fileName.toList ∨ fileName = "." ∨ fileName = ".."

lemma isIllegal_iff (fileName : String) :
    FileName.isIllegal fileName = true ↔ LeadsOut fileName := by
  simp [FileName.isIllegal, LeadsOut, or_assoc]

/-- A part that holds a file, and has a name that is not reserved, is stored. -/
lemma takePart_of_file {name fileName : String} (hname : part.name? = some name) (hne : name ≠ "")
    (hreserved : name ∉ draft.reserved.names) (hfile : part.fileName? = some fileName)
    (hfileName : fileName ≠ "") :
    takePart surroundings settings part draft
      = storePart surroundings settings name fileName part draft := by
  have hfree : ¬ draft.reserved.contains name = true :=
    fun hcontains => hreserved (List.contains_iff_mem.1 hcontains)
  rw [takePart, hname, hfile, Option.filter_some, Option.filter_some, if_pos (by simpa using hne),
    if_pos (by simpa using hfileName)]
  exact if_neg hfree

/-- For a part with a name that could lead out of the folder nothing is done. -/
lemma takePart_of_leadsOut {name fileName : String} (hname : part.name? = some name)
    (hne : name ≠ "") (hreserved : name ∉ draft.reserved.names)
    (hfile : part.fileName? = some fileName) (hfileName : fileName ≠ "")
    (hleads : LeadsOut fileName) :
    (takePart surroundings settings part draft).run site
      = ((draft, some (.illegalName fileName)), site) := by
  rw [takePart_of_file hname hne hreserved hfile hfileName, storePart,
    if_pos ((isIllegal_iff fileName).2 hleads)]
  rfl

/-- A part is turned down for its file name exactly if it holds a file, its own name is not
reserved, and the file name could lead out of the folder. -/
lemma takePart_illegal_iff {fileName : String} :
    ((takePart surroundings settings part draft).run site).1.2 = some (.illegalName fileName) ↔
      ∃ name, part.name? = some name ∧ name ≠ "" ∧ name ∉ draft.reserved.names ∧
        part.fileName? = some fileName ∧ fileName ≠ "" ∧ LeadsOut fileName := by
  constructor
  · intro hfailure
    rcases hrun : (takePart surroundings settings part draft).run site with ⟨⟨next, failure⟩, after⟩
    rw [hrun] at hfailure
    obtain rfl : failure = some (.illegalName fileName) := hfailure
    cases takePart_tried hrun with
    | dropped hname houtcome hafter => cases congrArg Prod.snd houtcome
    | reserved hname hne hreserved houtcome hafter => cases congrArg Prod.snd houtcome
    | copied hname hne hreserved hfile houtcome hafter =>
      have hfault : some (DepositError.illegalName fileName) = part.fault.map .form :=
        congrArg Prod.snd houtcome
      obtain ⟨fault, -, hform⟩ := Option.map_eq_some_iff.1 hfault.symm
      cases hform
    | @filed name found hname hne hfile hfileName hstore =>
      obtain ⟨hsame, hillegal⟩ | hother := storePart_error hstore
      · obtain rfl := DepositError.illegalName.inj hsame
        refine ⟨name, hname, hne, fun hreserved => ?_, hfile, hfileName,
          (isIllegal_iff fileName).1 hillegal⟩
        -- for a reserved name the part would be turned down before
        have hinjected : ((takePart surroundings settings part draft).run site).1.2
            = some (.injected name) := takePart_injected_iff.2 ⟨hname, hne, hreserved⟩
        rw [hrun] at hinjected
        cases hinjected
      · exact absurd rfl (hother fileName).2
  · rintro ⟨name, hname, hne, hreserved, hfile, hfileName, hleads⟩
    rw [takePart_of_leadsOut hname hne hreserved hfile hfileName hleads]

/-- A form is turned down for a file name exactly if one of its parts is, and all parts before it
are taken in. -/
lemma make_illegal_iff {form : Form} {fileName : String} :
    ((make surroundings settings form).run site).1.form = .error (.illegalName fileName) ↔
      ∃ before part rest draft later, form.parts = before ++ part :: rest ∧
        (takeParts surroundings settings before
          { writer := .start surroundings.chance.boundary }).run site = ((draft, none), later) ∧
        ∃ name, part.name? = some name ∧ name ≠ "" ∧ name ∉ draft.reserved.names ∧
          part.fileName? = some fileName ∧ fileName ≠ "" ∧ LeadsOut fileName := by
  have hform : ∀ fault, DepositError.illegalName fileName ≠ .form fault := nofun
  rw [make_error_iff hform, takeParts_error_iff]
  simp only [takePart_illegal_iff]

/-! ### The whole form -/

/-- **Files are made in one folder only.**  Whatever form arrives, whatever the application allows
and whatever comes of it:

* Every file that is made, written or removed meanwhile is a child of the folder that the
  application names, or else of the usual one, and has a name that was drawn for it.  The files at
  all other places are as before.
* The path of a stored file is that of its name in the folder, which starts with the name that the
  client gave the file.  As long as labels are different, so are the paths of files that are stored
  under different numbers, and no two entries of the index have the same one.
* A part with a file name, and with a name that is not reserved, is turned down for its file name
  exactly if this holds a slash or a backslash or is one of the two names that stand for folders.
  Then nothing is done for the part.  The form is turned down for a file name exactly if all parts
  before such a part are taken in. -/
theorem confined_of_make (hspelled : surroundings.chance.Spelled) {form : Form} {deposit : Deposit}
    (hrun : (make surroundings settings form).run site = (deposit, after)) :
    (∃ touched, after.disk.touched = touched ++ site.disk.touched ∧
      ∀ place ∈ touched, Inside surroundings settings form.parts site place) ∧
    (∀ place, ¬ Inside surroundings settings form.parts site place →
      after.disk.contents? place = site.disk.contents? place) ∧
    (∀ found, after.disk.find (folder settings) = .ok (.folder found) →
      found = Disk.placeOf site.disk.here (folder settings)) ∧
    (∀ entry ∈ deposit.index.entries, ∃ part ∈ form.parts, ∃ fileName m,
      part.fileName? = some fileName ∧ FileName.isIllegal fileName = false ∧ site.saves < m ∧
      entry.2 = Path.join (folder settings) (fileName ++ "-" ++ surroundings.chance.label m)) ∧
    ((∀ m n, surroundings.chance.label m = surroundings.chance.label n → m = n) →
      ∀ directory directory' fileName fileName' m n, m ≠ n →
        Path.join directory (fileName ++ "-" ++ surroundings.chance.label m)
          ≠ Path.join directory' (fileName' ++ "-" ++ surroundings.chance.label n)) ∧
    (surroundings.chance.Fresh → ∀ entry ∈ deposit.index.entries,
      ∀ other ∈ deposit.index.entries, entry.2 = other.2 → entry = other) ∧
    (∀ fileName, deposit.form = .error (.illegalName fileName) ↔
      ∃ before part rest draft later, form.parts = before ++ part :: rest ∧
        (takeParts surroundings settings before
          { writer := .start surroundings.chance.boundary }).run site = ((draft, none), later) ∧
        ∃ name, part.name? = some name ∧ name ≠ "" ∧ name ∉ draft.reserved.names ∧
          part.fileName? = some fileName ∧ fileName ≠ "" ∧ LeadsOut fileName) ∧
    (∀ part draft later name fileName, part.name? = some name → name ≠ "" →
      name ∉ draft.reserved.names → part.fileName? = some fileName → fileName ≠ "" →
      (((takePart surroundings settings part draft).run later).1.2 = some (.illegalName fileName) ↔
        LeadsOut fileName) ∧
      (LeadsOut fileName → (takePart surroundings settings part draft).run later
        = ((draft, some (.illegalName fileName)), later))) := by
  have hroom := room_inside hspelled settings form.parts site
  obtain ⟨hconfined, hindex⟩ := confined_make hroom site (Site.Since.refl _ site)
  rw [hrun] at hconfined hindex
  refine ⟨hconfined.works.touched, fun place hplace => hconfined.works.contents? hplace,
    fun found hfound => ?_, hindex, fun hdistinct _ _ _ _ m n hne hpath => ?_,
    fun hfresh entry hentry other hother hpath => ?_, fun fileName => ?_,
    fun part draft later name fileName hname hne hreserved hfile hfileName => ?_⟩
  · have htarget := Disk.place_of_find hfound
    rwa [hconfined.works.here] at htarget
  · exact hne (hdistinct m n (hspelled.label_eq_of_path_eq hpath))
  · obtain ⟨entries, hnodup, hreported⟩ := index_of_make hfresh hrun
    exact List.inj_on_of_nodup_map hnodup (hreported entry hentry) (hreported other hother) hpath
  · rw [← make_illegal_iff, hrun]
  · refine ⟨?_, takePart_of_leadsOut hname hne hreserved hfile hfileName⟩
    rw [takePart_illegal_iff]
    constructor
    · rintro ⟨_, _, _, _, _, _, hout⟩
      exact hout
    · exact fun hout => ⟨name, hname, hne, hreserved, hfile, hfileName, hout⟩

/-- A form with two files, of which the second has a name that leads out of the folder. -/
def climbingForm : Form :=
  Form.readNamed ⟨[88], 1000⟩ (Stream.once (Utf8.encode (
    "--X\r\nContent-Disposition: form-data; name=\"f\"; filename=\"t\"\r\n\r\ndata"
    ++ "\r\n--X\r\nContent-Disposition: form-data; name=\"g\"; filename=\"../x\"\r\n\r\nmore"
    ++ "\r\n--X--\r\n")))

/-- The first file is stored in the folder and removed again, and a note elsewhere stays.  A second
file of that name would have another path. -/
theorem confined_of_make_climbing :
    ((make drawnSurroundings plainSettings climbingForm).run troubledSite).1.form
      = .error (.illegalName "../x") ∧
    ((make drawnSurroundings plainSettings climbingForm).run troubledSite).2.disk.touched ≠ [] ∧
    (∀ place ∈ ((make drawnSurroundings plainSettings climbingForm).run
      troubledSite).2.disk.touched, place.dropLast = ["tmp"]) ∧
    ((make drawnSurroundings plainSettings climbingForm).run troubledSite).2.disk.contents? ["note"]
      = some [1] ∧
    Path.join "/tmp" ("t" ++ "-" ++ drawnSurroundings.chance.label 1)
      ≠ Path.join "/tmp" ("t" ++ "-" ++ drawnSurroundings.chance.label 2) := by
  have hfolder : Disk.placeOf troubledSite.disk.here (folder plainSettings) = ["tmp"] := by
    decide +kernel
  have hrejected : ((make drawnSurroundings plainSettings climbingForm).run troubledSite).1.form
      = .error (.illegalName "../x") := by
    decide +kernel
  have htouched : ((make drawnSurroundings plainSettings climbingForm).run
      troubledSite).2.disk.touched ≠ [] := by
    decide +kernel
  refine ⟨hrejected, htouched, ?_⟩
  rcases hrun : (make drawnSurroundings plainSettings climbingForm).run troubledSite
    with ⟨deposit, after⟩
  obtain ⟨⟨touched, hall, hinside⟩, hothers, -, -, hpaths, -⟩ :=
    confined_of_make fresh_drawnSurroundings.spelled hrun
  refine ⟨fun place hplace => ?_, ?_, ?_⟩
  · rw [hall, List.mem_append] at hplace
    obtain ⟨name, -, -, rfl⟩ := hinside place (hplace.resolve_right List.not_mem_nil)
    rw [hfolder, List.dropLast_concat]
  · rw [hothers ["note"] ?_]
    · decide
    · rintro ⟨name, -, -, hplace⟩
      rw [hfolder] at hplace
      exact absurd (congrArg List.length hplace) (by simp)
  · exact hpaths fresh_drawnSurroundings.distinct "/tmp" "/tmp" "t" "t" 1 2 (by decide)

end Deposit

end Intercept
