/-
# Which files a form touches

Taking the files out of a form touches the files that are stored for it, and temporary ones.  `Room`
says where their paths lead, and then all work on the form is confined to these places, whatever
comes of it.  Two cases of it are used later: a file that was stored before is somewhere else, and
all files that are made are children of one folder.
-/
import Intercept.Proofs.Upload.FileIndex
import Intercept.Proofs.Upload.Transform
import Intercept.Upload.Deposit

namespace Intercept

namespace Deposit

variable {surroundings : Surroundings} {settings : Settings} {part : Part} {parts : List Part}
variable {draft : Draft} {n : Nat} {place : Disk.Place} {inside : Disk.Place → Prop} {start : Site}

/-! ### Where the paths lead -/

/-- The folder that files are stored in. -/
def folder (settings : Settings) : String :=
  settings.grant.directory.getD settings.transform.directory

/-- The path of the stored file with a number. -/
def storedPath (surroundings : Surroundings) (settings : Settings) (fileName : String) (n : Nat) :
    String :=
  Path.join (settings.grant.directory.getD settings.transform.directory)
    (labelled fileName (surroundings.chance.label n))

lemma not_mem_of_isIllegal {fileName : String} (hlegal : FileName.isIllegal fileName = false) :
    '/' ∉ fileName.toList := by
  intro hslash
  rw [FileName.isIllegal, List.contains_iff_mem.2 hslash] at hlegal
  simp at hlegal

/-- A path is that of a file which was stored for one of some parts, under a new number. -/
def IsDrawn (surroundings : Surroundings) (settings : Settings) (parts : List Part) (start : Site)
    (path : String) : Prop :=
  ∃ part ∈ parts, ∃ fileName m, part.fileName? = some fileName ∧
    FileName.isIllegal fileName = false ∧ start.saves < m ∧
    path = storedPath surroundings settings fileName m

/-- Since some point, whatever is stored for parts and whatever temporary file is made has a path
that leads to some places. -/
structure Room (surroundings : Surroundings) (settings : Settings) (parts : List Part)
    (inside : Disk.Place → Prop) (start : Site) : Prop where
  stored : ∀ path, IsDrawn surroundings settings parts start path →
    Disk.Leads inside start.disk.here path
  archive : ∀ m, start.scratches < m → Disk.Leads inside start.disk.here
    (Path.join (folder settings) (archiveName surroundings.chance m))
  artifact : ∀ m, start.scratches < m → Disk.Leads inside start.disk.here
    (Path.join (folder settings) (artifactName surroundings.chance m))

/-- Everywhere there is room. -/
lemma room_anywhere (surroundings : Surroundings) (settings : Settings) (parts : List Part)
    (start : Site) : Room surroundings settings parts (fun _ => True) start :=
  ⟨fun _ _ => Disk.leads_anywhere _ _, fun _ _ => Disk.leads_anywhere _ _,
    fun _ _ => Disk.leads_anywhere _ _⟩

/-- Where a file was stored before, nothing is stored. -/
lemma room_elsewhere (hfresh : surroundings.chance.Fresh)
    (hplace : StoredAt surroundings.chance n place) (settings : Settings) (parts : List Part)
    (hn : n ≤ start.saves) :
    Room surroundings settings parts (fun other => place ≠ other) start where
  stored := by
    rintro path ⟨_, _, fileName, m, _, hlegal, hm, rfl⟩
    -- the number of the new file is higher, so its label is another one
    have hne : surroundings.chance.label n ≠ surroundings.chance.label m := fun hsame =>
      absurd (hfresh.distinct n m hsame) (Nat.ne_of_lt (Nat.lt_of_le_of_lt hn hm))
    exact (hplace.apart hfresh (not_mem_of_isIllegal hlegal) (hfresh.label m).not_mem_slash
      (hfresh.label m).not_mem_dash hne _).leads _
  archive m _ := (hplace.apart_archive hfresh _ m).leads _
  artifact m _ := (hplace.apart_artifact hfresh _ m).leads _

/-- How the file of a part is to be stored. -/
def storing (settings : Settings) (fileName : String) : Storage.Request :=
  ⟨fileName, settings.grant.directory.getD settings.transform.directory, fileName,
    settings.grant.maximumSize⟩

/-! ### Work on a form -/

/-- What was stored for a draft, and what its index lists, was stored for parts since some point. -/
structure Recorded (surroundings : Surroundings) (settings : Settings) (parts : List Part)
    (start : Site) (draft : Draft) : Prop where
  stored : ∀ path ∈ draft.stored, IsDrawn surroundings settings parts start path
  index : ∀ entry ∈ draft.index.entries, IsDrawn surroundings settings parts start entry.2

/-- A file that is stored is recorded. -/
lemma Recorded.describe (h : Recorded surroundings settings parts start draft) (name : String)
    {file : StoredFile} (hfile : IsDrawn surroundings settings parts start file.path) :
    Recorded surroundings settings parts start (describe name file draft) where
  stored := List.forall_mem_append.2 ⟨h.stored, List.forall_mem_singleton.2 hfile⟩
  index entry hentry := by
    rcases FileIndex.mem_put hentry with rfl | hold
    · exact hfile
    · exact h.index entry hold

/-- Work on a draft keeps what is known of its files. -/
def Records (surroundings : Surroundings) (settings : Settings) (parts : List Part) (start : Site)
    (draft : Draft) (taken : Draft × Option DepositError) : Prop :=
  Recorded surroundings settings parts start draft →
    Recorded surroundings settings parts start taken.1

/-- Storing the file of a part touches no file but this one and temporary ones. -/
lemma confined_storePart (hroom : Room surroundings settings parts inside start)
    (hpart : part ∈ parts) {fileName : String} (hfile : part.fileName? = some fileName)
    (name : String) (draft : Draft) :
    Run.Confined inside start (storePart surroundings settings name fileName part draft)
      (Records surroundings settings parts start draft) := by
  rw [storePart]
  split
  · exact Run.confined_pure id
  · next hlegal =>
    refine (Run.confined_count _ _).bind fun _ _ =>
      (Transform.confined_run hroom.archive hroom.artifact _ _).bind fun transformed _ => ?_
    cases transformed with
    | error error => exact Run.confined_pure id
    | ok stream =>
      have hdrawn : ∀ m, start.saves < m → IsDrawn surroundings settings parts start
          (storedPath surroundings settings fileName m) :=
        fun m hm => ⟨part, hpart, fileName, m, hfile, Bool.eq_false_iff.2 hlegal, hm, rfl⟩
      have hsave : Run.Confined inside start
          (Storage.save surroundings.chance (storing settings fileName) none stream)
          fun saved => ∀ file, saved = .ok file → ∃ m, start.saves < m ∧
            file.path = storedPath surroundings settings fileName m := by
        refine Storage.confined_save (fun m hm => ?_) none stream
        exact hroom.stored _ (hdrawn m hm)
      refine hsave.bind fun saved hsaved => ?_
      cases saved with
      | error error => exact (Run.confined_logAll _).bind fun _ _ => Run.confined_pure id
      | ok file =>
        obtain ⟨m, hm, hpath⟩ := hsaved file rfl
        refine (Run.confined_count _ _).bind fun _ _ => Run.confined_pure fun hdraft => ?_
        exact hdraft.describe name (hpath ▸ hdrawn m hm)

lemma confined_takePart (hroom : Room surroundings settings parts inside start)
    (hpart : part ∈ parts) (draft : Draft) :
    Run.Confined inside start (takePart surroundings settings part draft)
      (Records surroundings settings parts start draft) := by
  rw [takePart]
  split
  · exact Run.confined_pure id
  · split
    · exact Run.confined_pure id
    · split
      · next hfile =>
        exact confined_storePart hroom hpart (Option.filter_eq_some_iff.1 hfile).1 _ draft
      · exact Run.confined_pure fun hdraft => ⟨hdraft.stored, hdraft.index⟩

/-- Taking in parts touches no file but those that are stored for them and temporary ones. -/
lemma confined_takeParts (hroom : Room surroundings settings parts inside start)
    {taken : List Part} (htaken : taken ⊆ parts) (draft : Draft) :
    Run.Confined inside start (takeParts surroundings settings taken draft)
      (Records surroundings settings parts start draft) := by
  induction taken generalizing draft with
  | nil => exact Run.confined_pure id
  | cons part rest ih =>
    obtain ⟨hpart, hrest⟩ := List.cons_subset.1 htaken
    refine (confined_takePart hroom hpart draft).bind fun outcome houtcome => ?_
    obtain ⟨next, failure⟩ := outcome
    cases failure with
    | some error => exact Run.confined_pure houtcome
    | none =>
      intro site hsite
      obtain ⟨hlater, hmore⟩ := ih hrest next site hsite
      exact ⟨hlater, fun hdraft => hmore (houtcome hdraft)⟩

/-- Files that are removed by their paths are where these lead to. -/
lemma confined_removeAll {paths : List String}
    (hleads : ∀ path ∈ paths, Disk.Leads inside start.disk.here path) (requestId : String) :
    Run.Confined inside start (removeAll requestId paths) fun _ => True := by
  induction paths with
  | nil => exact Run.confined_pure trivial
  | cons path rest ih =>
    have hrest := ih fun other hother => hleads other (List.mem_cons_of_mem _ hother)
    refine (Run.confined_remove (hleads path List.mem_cons_self)).bind fun removed _ => ?_
    cases removed with
    | error cause => exact (Run.confined_log _).bind fun _ _ => hrest
    | ok done => exact hrest

/-- Taking the files out of a form touches no file but those that are stored for it and temporary
ones, whatever comes of it, and the index lists what was stored. -/
lemma confined_make {form : Form} (hroom : Room surroundings settings form.parts inside start) :
    Run.Confined inside start (make surroundings settings form) fun deposit =>
      ∀ entry ∈ deposit.index.entries,
        IsDrawn surroundings settings form.parts start entry.2 := by
  refine (confined_takeParts hroom (List.Subset.refl _) _).bind fun taken htaken => ?_
  obtain ⟨draft, failure⟩ := taken
  have hdraft : Recorded surroundings settings form.parts start draft :=
    htaken ⟨List.forall_mem_nil _, List.forall_mem_nil _⟩
  simp only
  split
  · -- what is removed was stored before
    have hleads := fun path hpath => hroom.stored path (hdraft.stored path hpath)
    exact (confined_removeAll hleads _).bind fun _ _ => Run.confined_pure hdraft.index
  · exact Run.confined_pure hdraft.index

/-! ### Files stored before -/

/-- Taking in a part leaves the files stored before alone. -/
lemma guards_takePart (hfresh : surroundings.chance.Fresh)
    (hplace : StoredAt surroundings.chance n place) (part : Part) (draft : Draft) :
    Run.Guards n place (takePart surroundings settings part draft) fun _ => True :=
  Run.guards_of_confined fun _ hn =>
    confined_takePart (room_elsewhere hfresh hplace settings [part] hn) List.mem_cons_self draft

lemma guards_takeParts (hfresh : surroundings.chance.Fresh)
    (hplace : StoredAt surroundings.chance n place) (parts : List Part) (draft : Draft) :
    Run.Guards n place (takeParts surroundings settings parts draft) fun _ => True :=
  Run.guards_of_confined fun _ hn =>
    confined_takeParts (room_elsewhere hfresh hplace settings parts hn) (List.Subset.refl _) draft

end Deposit

end Intercept
