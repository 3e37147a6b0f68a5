/-
# What a new form says

The parts of a form are taken in one by one.  `Taken` lists what a part can come to: it is dropped,
it is copied, or its file is stored and described by fields.  `Rewritten` says the same of a whole
form and of the disk at its end, in terms of what a form says, and is proved by induction on the
parts.  What carries the induction is that no later part touches a file that was stored before.

The names that are reserved follow the fields that were written, so that a copied part never has
the name that a field before it was given.
-/
import Intercept.Proofs.Multipart.Writer
import Intercept.Proofs.Upload.Footprint

namespace Intercept

namespace Deposit

variable {surroundings : Surroundings} {settings : Settings} {part : Part} {draft next : Draft}
variable {n : Nat} {place : Disk.Place} {site after : Site}

/-! ### One part -/

/-- What is known of a stored file. -/
def stored (surroundings : Surroundings) (settings : Settings) (fileName : String) (n : Nat)
    (bytes : Bytes) : StoredFile :=
  ⟨fileName, storedPath surroundings settings fileName n, bytes.length, Sha256.hex bytes,
    surroundings.chance.duration n⟩

/-- What a part comes to that is taken in. -/
inductive Taken (surroundings : Surroundings) (settings : Settings) (part : Part) (draft : Draft)
    (site : Site) : Draft → Site → Prop where
  /-- It has no name, and is dropped. -/
  | dropped (hname : Form.isNamed part.headers = false) :
    Taken surroundings settings part draft site draft site
  /-- It holds no file, and is copied. -/
  | copied {name : String} (hname : part.name? = some name) (hne : name ≠ "")
      (hreserved : draft.reserved.contains name = false)
      (hfile : (part.fileName?.filter fun fileName => !fileName.isEmpty) = none) :
    Taken surroundings settings part draft site (copy part draft).1 site
  /-- Its file is stored under a new number, and described. -/
  | stored {name fileName : String} {n : Nat} {bytes : Bytes} {place : Disk.Place} {after : Site}
      (hname : part.name? = some name) (hne : name ≠ "") (hfile : part.fileName? = some fileName)
      (hfileName : fileName ≠ "") (hlegal : FileName.isIllegal fileName = false)
      (hnew : site.saves < n) (hsaves : after.saves = n)
      (hmade : Transform.Made surroundings settings.transform settings.grant fileName part.data
        bytes)
      (hfound : Storage.Found after.disk (storedPath surroundings settings fileName n) place bytes)
      (hplace : StoredAt surroundings.chance n place)
      (hfiles : site.Unused surroundings.chance → after.Unused surroundings.chance ∧
        Disk.Lacks place site.disk.files ∧
        after.disk.files = site.disk.files ++ [(place, bytes)]) :
    Taken surroundings settings part draft site
      (describe name (stored surroundings settings fileName n bytes) draft) after

lemma isNamed_iff {headers : Headers} : Form.isNamed headers = true ↔
    ∃ name, Disposition.fieldName? headers = some name ∧ name ≠ "" := by
  rw [Form.isNamed]
  cases Disposition.fieldName? headers with
  | none => simp
  | some name => simp

/-- The data of a part, taken as a stream, is its data with its fault. -/
lemma deliver_dataOf (part : Part) : (dataOf part).deliver
    = ⟨part.data, part.fault.map fun error => .unreadable error.message⟩ := by
  have hended := Stream.deliver_ended part.pieces
    (part.fault.map fun error => UploadFault.unreadable error.message)
  rwa [Option.map_map] at hended

/-- Everything that storing the file of a part can come to. -/
inductive Handled (surroundings : Surroundings) (settings : Settings) (name fileName : String)
    (part : Part) (draft : Draft) (site : Site) (outcome : Draft × Option DepositError)
    (after : Site) : Prop where
  /-- Its name could lead out of the folder. -/
  | illegal (houtcome : outcome = (draft, some (.illegalName fileName))) (hafter : after = site)
      (hillegal : FileName.isIllegal fileName = true)
  /-- It is not transformed. -/
  | untransformed {error : TransformError}
      (htransform : (Transform.run surroundings settings.transform settings.grant fileName
        (dataOf part)).run ((Site.count (.uploadFiles settings.processor) 1).run site).2
          = (.error error, after))
      (houtcome : outcome = (draft, some (untransformed error)))
  /-- What is made of it is not stored. -/
  | rejected {stream : Stream UploadFault} {error : StoreError UploadFault} {later last : Site}
      (hlegal : FileName.isIllegal fileName = false)
      (htransform : (Transform.run surroundings settings.transform settings.grant fileName
        (dataOf part)).run ((Site.count (.uploadFiles settings.processor) 1).run site).2
          = (.ok stream, later))
      (hsave : (Storage.save surroundings.chance (storing settings fileName) none stream).run later
        = (.error error, last))
      (houtcome : outcome = (draft, some (rejected error).1))
      (hafter : after = ((Site.logAll (rejected error).2).run last).2)
  /-- What is made of it is stored, and described. -/
  | stored {stream : Stream UploadFault} {file : StoredFile} {later last : Site}
      (hlegal : FileName.isIllegal fileName = false)
      (htransform : (Transform.run surroundings settings.transform settings.grant fileName
        (dataOf part)).run ((Site.count (.uploadFiles settings.processor) 1).run site).2
          = (.ok stream, later))
      (hsave : (Storage.save surroundings.chance (storing settings fileName) none stream).run later
        = (.ok file, last))
      (houtcome : outcome = (describe name file draft, none))
      (hafter : after = ((Site.count (.uploadBytes settings.processor) file.size).run last).2)

lemma storePart_handled {name fileName : String} {outcome : Draft × Option DepositError}
    (hrun : (storePart surroundings settings name fileName part draft).run site
      = (outcome, after)) :
    Handled surroundings settings name fileName part draft site outcome after := by
  rw [storePart] at hrun
  split at hrun
  · next hillegal =>
    obtain ⟨rfl, rfl⟩ := Prod.mk.inj hrun
    exact .illegal rfl rfl hillegal
  · next hlegal =>
    have hlegal := Bool.eq_false_iff.2 hlegal
    simp only [Run.run_bind] at hrun
    rcases htransform : (Transform.run surroundings settings.transform settings.grant fileName
      (dataOf part)).run ((Site.count (.uploadFiles settings.processor) 1).run site).2
        with ⟨transformed, later⟩
    rw [htransform] at hrun
    cases transformed with
    | error error =>
      obtain ⟨rfl, rfl⟩ := Prod.mk.inj hrun
      exact .untransformed htransform rfl
    | ok stream =>
      simp only [Run.run_bind] at hrun
      rcases hsave : (Storage.save surroundings.chance (storing settings fileName) none stream).run
        later with ⟨saved, last⟩
      rw [storing] at hsave
      rw [hsave] at hrun
      cases saved with
      | error error =>
        obtain ⟨rfl, rfl⟩ := Prod.mk.inj hrun
        exact .rejected hlegal htransform hsave rfl rfl
      | ok file =>
        obtain ⟨rfl, rfl⟩ := Prod.mk.inj hrun
        exact .stored hlegal htransform hsave rfl rfl

/-- A file that is stored was made of the data of its part, and is the only one that is added. -/
lemma stored_of_save (hfresh : surroundings.chance.Fresh) {fileName : String}
    (hlegal : FileName.isIllegal fileName = false) {stream : Stream UploadFault} {file : StoredFile}
    {later last : Site}
    (htransform : (Transform.run surroundings settings.transform settings.grant fileName
      (dataOf part)).run ((Site.count (.uploadFiles settings.processor) 1).run site).2
        = (.ok stream, later))
    (hsave : (Storage.save surroundings.chance (storing settings fileName) none stream).run later
      = (.ok file, last)) :
    ∃ n bytes place, file = stored surroundings settings fileName n bytes ∧ site.saves < n ∧
      last.saves = n ∧
      Transform.Made surroundings settings.transform settings.grant fileName part.data bytes ∧
      Storage.Found last.disk (storedPath surroundings settings fileName n) place bytes ∧
      StoredAt surroundings.chance n place ∧
      (site.Unused surroundings.chance → last.Unused surroundings.chance ∧
        Disk.Lacks place site.disk.files ∧
        last.disk.files = site.disk.files ++ [(place, bytes)]) := by
  have hgrows := Transform.saves_le surroundings settings.transform settings.grant fileName
    (dataOf part) ((Site.count (.uploadFiles settings.processor) 1).run site).2
  rw [htransform] at hgrows
  have hstem : '/' ∉ (storing settings fileName).stem.toList := not_mem_of_isIllegal hlegal
  obtain ⟨bytes, place, haccept, rfl, hsaves, hfound, hplace, hfiles⟩ :=
    Storage.save_ok hfresh hstem hsave
  have hmade := Transform.made_of_run htransform haccept
  rw [deliver_dataOf] at hmade
  refine ⟨later.saves + 1, bytes, place, rfl, Nat.lt_succ_of_le hgrows, hsaves, hmade, hfound,
    hplace, fun hunused => ?_⟩
  -- while the file is transformed no file appears, so the name is still new when it is stored
  obtain ⟨hsame, hcount, hscratches⟩ := Transform.files_run hfresh htransform hunused
  have hlater : later.Unused surroundings.chance :=
    hunused.congr hsame (Nat.le_of_eq hcount.symm) hscratches
  obtain ⟨stem, hlast⟩ := hplace
  have hlacks := hlater.lacks (.stored stem (Nat.lt_succ_self _)) hlast
  have hadded := hfiles hlacks
  obtain ⟨hbegun, hdrawn⟩ := Storage.counts_save hsave
  refine ⟨hlater.stored hfresh ⟨stem, hlast⟩ hadded hsaves.ge hbegun hdrawn.ge, ?_, ?_⟩
  · rwa [hsame] at hlacks
  · rwa [hsame] at hadded

/-- A file that is stored is described. -/
lemma storePart_taken (hfresh : surroundings.chance.Fresh) {name fileName : String}
    (hname : part.name? = some name) (hne : name ≠ "") (hfile : part.fileName? = some fileName)
    (hfileName : fileName ≠ "")
    (hrun : (storePart surroundings settings name fileName part draft).run site
      = ((next, none), after)) : Taken surroundings settings part draft site next after := by
  cases storePart_handled hrun with
  | illegal houtcome hafter => cases congrArg Prod.snd houtcome
  | untransformed htransform houtcome => cases congrArg Prod.snd houtcome
  | rejected hlegal htransform hsave houtcome hafter => cases congrArg Prod.snd houtcome
  | @stored stream file later last hlegal htransform hsave houtcome hafter =>
    obtain rfl : next = describe name file draft := congrArg Prod.fst houtcome
    subst hafter
    obtain ⟨n, bytes, place, rfl, hnew, hsaves, hmade, hfound, hplace, hadded⟩ :=
      stored_of_save hfresh hlegal htransform hsave
    exact .stored hname hne hfile hfileName hlegal hnew hsaves hmade hfound hplace hadded

/-- Everything that taking in a part can come to. -/
inductive Tried (surroundings : Surroundings) (settings : Settings) (part : Part) (draft : Draft)
    (site : Site) (outcome : Draft × Option DepositError) (after : Site) : Prop where
  /-- It has no name, and is dropped. -/
  | dropped (hname : Form.isNamed part.headers = false) (houtcome : outcome = (draft, none))
      (hafter : after = site)
  /-- Its name is reserved. -/
  | reserved {name : String} (hname : part.name? = some name) (hne : name ≠ "")
      (hreserved : draft.reserved.contains name = true)
      (houtcome : outcome = (draft, some (.injected name))) (hafter : after = site)
  /-- It holds no file, and is copied as far as it goes. -/
  | copied {name : String} (hname : part.name? = some name) (hne : name ≠ "")
      (hreserved : draft.reserved.contains name = false)
      (hfile : (part.fileName?.filter fun fileName => !fileName.isEmpty) = none)
      (houtcome : outcome = copy part draft) (hafter : after = site)
  /-- It holds a file. -/
  | filed {name fileName : String} (hname : part.name? = some name) (hne : name ≠ "")
      (hfile : part.fileName? = some fileName) (hfileName : fileName ≠ "")
      (hstore : (storePart surroundings settings name fileName part draft).run site
        = (outcome, after))

lemma takePart_tried {outcome : Draft × Option DepositError}
    (hrun : (takePart surroundings settings part draft).run site = (outcome, after)) :
    Tried surroundings settings part draft site outcome after := by
  rw [takePart] at hrun
  split at hrun
  · next hnone =>
    obtain ⟨rfl, rfl⟩ := Prod.mk.inj hrun
    refine .dropped ?_ rfl rfl
    rw [← Bool.not_eq_true, isNamed_iff]
    rintro ⟨name, hname, hne⟩
    rw [Part.name?, hname, Option.filter_some, if_pos (by simpa using hne)] at hnone
    cases hnone
  · next name hsome =>
    obtain ⟨hname, hnonempty⟩ := Option.filter_eq_some_iff.1 hsome
    have hne : name ≠ "" := by simpa using hnonempty
    split at hrun
    · next hreserved =>
      obtain ⟨rfl, rfl⟩ := Prod.mk.inj hrun
      exact .reserved hname hne hreserved rfl rfl
    · next hreserved =>
      split at hrun
      · next fileName hfile =>
        obtain ⟨hfile, hfileName⟩ := Option.filter_eq_some_iff.1 hfile
        exact .filed hname hne hfile (by simpa using hfileName) hrun
      · next hnone =>
        obtain ⟨rfl, rfl⟩ := Prod.mk.inj hrun
        exact .copied hname hne (Bool.eq_false_iff.2 hreserved) hnone rfl rfl

/-- A part that is taken in is dropped, copied, or stored. -/
lemma takePart_taken (hfresh : surroundings.chance.Fresh)
    (hrun : (takePart surroundings settings part draft).run site = ((next, none), after)) :
    Taken surroundings settings part draft site next after := by
  cases takePart_tried hrun with
  | dropped hname houtcome hafter =>
    obtain ⟨rfl, -⟩ := Prod.mk.inj houtcome
    subst hafter
    exact .dropped hname
  | reserved hname hne hreserved houtcome hafter => cases congrArg Prod.snd houtcome
  | copied hname hne hreserved hfile houtcome hafter =>
    obtain rfl : next = (copy part draft).1 := congrArg Prod.fst houtcome
    subst hafter
    exact .copied hname hne hreserved hfile
  | filed hname hne hfile hfileName hstore =>
    exact storePart_taken hfresh hname hne hfile hfileName hstore

/-! ### All parts -/

/-- What stands in a new form: a part of the client, or a field that describes a stored file, called
like the file's part with an ending. -/
inductive Entry where
  | copied (headers : Headers) (data : Bytes)
  | described (name ending value : String)

/-- What an entry says when the new form is read. -/
def Entry.content : Entry → Headers × Bytes
  | .copied headers data => (headers, data)
  | .described name ending value =>
    ([(Header.contentDisposition, Disposition.written (name ++ ending))], Utf8.encode value)

/-- What the names of the fields that describe a file end with. -/
def endings : List String := [".name", ".path", ".size", ".sha256", ".upload_duration"]

/-- The fields that describe a file. -/
def descriptions (name : String) (file : StoredFile) : List Entry := [
  .described name ".name" file.name,
  .described name ".path" file.path,
  .described name ".size" (toString file.size),
  .described name ".sha256" file.digest,
  .described name ".upload_duration" file.duration.text]

/-- What the parts of a form, with the headers and the data that each says, become in the new form,
where `disk` is the disk at the end and more than `n` files were begun before.

* A part without a name, or with an empty one, leaves nothing.
* A part without a file name, or with an empty one, is copied.
* Of a part with a file only five fields are left.  The file is found on the disk under the path
  that they give, and they tell its length and its digest.  It holds the data of the part, unless
  that had to be transformed. -/
inductive Rewritten (surroundings : Surroundings) (settings : Settings) (disk : Disk) :
    Nat → List (Headers × Bytes) → List Entry → Prop where
  | nil {n : Nat} : Rewritten surroundings settings disk n [] []
  | dropped {n : Nat} {headers : Headers} {data : Bytes} {rest : List (Headers × Bytes)}
      {entries : List Entry} (hname : Form.isNamed headers = false)
      (hrest : Rewritten surroundings settings disk n rest entries) :
    Rewritten surroundings settings disk n ((headers, data) :: rest) entries
  | copied {n : Nat} {headers : Headers} {data : Bytes} {rest : List (Headers × Bytes)}
      {entries : List Entry} (hname : Form.isNamed headers = true)
      (hfile : ((Disposition.fileName? headers).filter fun fileName => !fileName.isEmpty) = none)
      (hrest : Rewritten surroundings settings disk n rest entries) :
    Rewritten surroundings settings disk n ((headers, data) :: rest)
      (.copied headers data :: entries)
  | stored {n m : Nat} {headers : Headers} {data bytes : Bytes} {name fileName : String}
      {rest : List (Headers × Bytes)} {entries : List Entry}
      (hname : Disposition.fieldName? headers = some name) (hne : name ≠ "")
      (hfile : Disposition.fileName? headers = some fileName) (hfileName : fileName ≠ "")
      (hnew : n < m)
      (hread : disk.read (storedPath surroundings settings fileName m) = .ok bytes)
      (hkept : Transform.select settings.grant fileName = .keep → bytes = data)
      (hrest : Rewritten surroundings settings disk m rest entries) :
    Rewritten surroundings settings disk n ((headers, data) :: rest)
      (descriptions name (stored surroundings settings fileName m bytes) ++ entries)

/-- What the parts of a form become in the new form and on the disk.  It is as `Rewritten` says; in
addition each file that is stored is listed with its place, and what it holds was made of the data
of its part as the grant and the name demand. -/
inductive Deposited (surroundings : Surroundings) (settings : Settings) (disk : Disk) :
    Nat → List (Headers × Bytes) → List Entry → List (Disk.Place × Bytes) → Prop where
  | nil {n : Nat} : Deposited surroundings settings disk n [] [] []
  | dropped {n : Nat} {headers : Headers} {data : Bytes} {rest : List (Headers × Bytes)}
      {entries : List Entry} {files : List (Disk.Place × Bytes)}
      (hname : Form.isNamed headers = false)
      (hrest : Deposited surroundings settings disk n rest entries files) :
    Deposited surroundings settings disk n ((headers, data) :: rest) entries files
  | copied {n : Nat} {headers : Headers} {data : Bytes} {rest : List (Headers × Bytes)}
      {entries : List Entry} {files : List (Disk.Place × Bytes)}
      (hname : Form.isNamed headers = true)
      (hfile : ((Disposition.fileName? headers).filter fun fileName => !fileName.isEmpty) = none)
      (hrest : Deposited surroundings settings disk n rest entries files) :
    Deposited surroundings settings disk n ((headers, data) :: rest)
      (.copied headers data :: entries) files
  | stored {n m : Nat} {headers : Headers} {data bytes : Bytes} {name fileName : String}
      {rest : List (Headers × Bytes)} {entries : List Entry} {place : Disk.Place}
      {files : List (Disk.Place × Bytes)}
      (hname : Disposition.fieldName? headers = some name) (hne : name ≠ "")
      (hfile : Disposition.fileName? headers = some fileName) (hfileName : fileName ≠ "")
      (hlegal : FileName.isIllegal fileName = false) (hnew : n < m)
      (hfound : Storage.Found disk (storedPath surroundings settings fileName m) place bytes)
      (hmade : Transform.Made surroundings settings.transform settings.grant fileName data bytes)
      (hrest : Deposited surroundings settings disk m rest entries files) :
    Deposited surroundings settings disk n ((headers, data) :: rest)
      (descriptions name (stored surroundings settings fileName m bytes) ++ entries)
      ((place, bytes) :: files)

variable {contents : List (Headers × Bytes)} {entries : List Entry}
variable {files : List (Disk.Place × Bytes)}

lemma Deposited.rewritten {disk : Disk}
    (h : Deposited surroundings settings disk n contents entries files) :
    Rewritten surroundings settings disk n contents entries := by
  induction h with
  | nil => exact .nil
  | dropped hname _ ih => exact .dropped hname ih
  | copied hname hfile _ ih => exact .copied hname hfile ih
  | stored hname hne hfile hfileName _ hnew hfound hmade _ ih =>
    have hread := (Disk.Keeps.refl _ disk).read hfound.path hfound.file
    exact .stored hname hne hfile hfileName hnew hread hmade.kept ih

/-- Whether a part holds a file. -/
def holdsFile (headers : Headers) : Bool :=
  Form.isNamed headers && (Disposition.fileName? headers).any fun fileName => !fileName.isEmpty

/-- There is one file for each part that holds one. -/
lemma Deposited.length_files {disk : Disk}
    (h : Deposited surroundings settings disk n contents entries files) :
    files.length = (contents.filter fun content => holdsFile content.1).length := by
  induction h with
  | nil => rfl
  | dropped hname _ ih => simpa [holdsFile, hname] using ih
  | @copied _ headers _ _ _ _ hname hfile _ ih =>
    have hnone : ((Disposition.fileName? headers).any fun fileName => !fileName.isEmpty) = false := by
      cases hfound : Disposition.fileName? headers with
      | none => rfl
      | some fileName => simpa [hfound, Option.filter] using hfile
    simpa [holdsFile, hnone] using ih
  | stored hname hne hfile hfileName _ _ _ _ _ ih =>
    simpa [holdsFile, isNamed_iff.2 ⟨_, hname, hne⟩, hfile, hfileName] using ih

/-- The part and the path that an entry reports, if it is a path. -/
def Entry.report? : Entry → Option (String × String)
  | .copied _ _ => none
  | .described name ending value => if ending = ".path" then some (name, value) else none

/-- What a new form reports of stored files: the names of their parts and their paths. -/
def reports (entries : List Entry) : List (String × String) := entries.filterMap Entry.report?

@[simp] lemma reports_copied (headers : Headers) (data : Bytes) (entries : List Entry) :
    reports (.copied headers data :: entries) = reports entries := rfl

@[simp] lemma reports_descriptions (name : String) (file : StoredFile) (entries : List Entry) :
    reports (descriptions name file ++ entries) = (name, file.path) :: reports entries := by
  simp [reports, descriptions, Entry.report?]

/-- Each of the files is where the new form reports it. -/
lemma Deposited.found {disk : Disk}
    (h : Deposited surroundings settings disk n contents entries files) :
    List.Forall₂ (fun file report => Storage.Found disk report.2 file.1 file.2) files
      (reports entries) := by
  induction h with
  | nil => exact .nil
  | dropped _ _ ih => exact ih
  | copied _ _ _ ih => exact ih
  | stored _ _ _ _ _ _ hfound _ _ ih =>
    rw [reports_descriptions]
    exact .cons hfound ih

/-- No copied part has a name that is reserved, or that a field before it was given. -/
def Guarded : List String → List Entry → Prop
  | _, [] => True
  | reserved, .copied headers _ :: rest =>
    (∀ name, Disposition.fieldName? headers = some name → name ∉ reserved) ∧ Guarded reserved rest
  | reserved, .described name ending _ :: rest => Guarded ((name ++ ending) :: reserved) rest

lemma Guarded.mono {reserved fewer : List String} {entries : List Entry}
    (h : Guarded reserved entries) (hfewer : fewer ⊆ reserved) : Guarded fewer entries := by
  induction entries generalizing reserved fewer with
  | nil => trivial
  | cons entry rest ih =>
    cases entry with
    | copied headers data =>
      exact ⟨fun name hname hmem => h.1 name hname (hfewer hmem), ih h.2 hfewer⟩
    | described name ending value =>
      exact ih h (List.cons_subset_cons _ hfewer)

/-- Behind a field that was written no copied part has its name. -/
lemma Guarded.ne {reserved : List String} {before between behind : List Entry}
    {name ending value : String} {headers : Headers} {data : Bytes}
    (h : Guarded reserved (before ++ .described name ending value :: between
      ++ .copied headers data :: behind)) :
    Disposition.fieldName? headers ≠ some (name ++ ending) := by
  have hbetween : ∀ {entries : List Entry} {reserved : List String}, name ++ ending ∈ reserved →
      Guarded reserved (entries ++ .copied headers data :: behind) →
      Disposition.fieldName? headers ≠ some (name ++ ending) := by
    intro entries
    induction entries with
    | nil => exact fun hmem hguarded hname => hguarded.1 _ hname hmem
    | cons entry rest ih =>
      intro reserved hmem hguarded
      cases entry with
      | copied headers data => exact ih hmem hguarded.2
      | described name ending value => exact ih (List.mem_cons_of_mem _ hmem) hguarded
  rw [List.append_assoc] at h
  induction before generalizing reserved with
  | nil => exact hbetween List.mem_cons_self h
  | cons entry rest ih =>
    cases entry with
    | copied headers data => exact ih h.2
    | described name ending value => exact ih h

/-! ### What the new form says -/

variable {name : String}

/-- A name that was read from clean headers may stand in a header again. -/
lemma isValueByte_of_fieldName? {headers : Headers} (hclean : HeaderBlock.Clean headers)
    (hname : Disposition.fieldName? headers = some name) :
    ∀ b ∈ Utf8.encode name, Header.isValueByte b = true := by
  obtain ⟨header, hheader, hsubset⟩ := Disposition.fieldName?_subset hname
  exact fun b hb => (hclean.legible header hheader).value b (hsubset b hb)

lemma boundary_copy (part : Part) (draft : Draft) :
    (copy part draft).1.writer.boundary = draft.writer.boundary := by
  have hfold : ∀ (pieces : List Bytes) (writer : FormWriter),
      (pieces.foldl (fun writer bytes => writer.write bytes) writer).boundary
        = writer.boundary := by
    intro pieces
    induction pieces with
    | nil => exact fun _ => rfl
    | cons bytes more ih => exact fun writer => ih (writer.write bytes)
  exact hfold part.pieces _

lemma says_copy (hsay : draft.writer.Says contents) (hclean : HeaderBlock.Clean part.headers)
    (hname : part.name? = some name) :
    (copy part draft).1.writer.Says (contents ++ [(part.headers, part.data)]) := by
  refine hsay.copy hclean (fun hnil => ?_) part.pieces
  rw [Part.name?, hnil] at hname
  cases hname

/-- With an ending, too, a name may stand in a header. -/
lemma isValueByte_append_ending (hname : ∀ b ∈ Utf8.encode name, Header.isValueByte b = true)
    {ending : String} (hending : ending ∈ endings) :
    ∀ b ∈ Utf8.encode (name ++ ending), Header.isValueByte b = true := by
  have hbytes : ∀ ending ∈ endings, (Utf8.encode ending).all Header.isValueByte = true := by
    decide +kernel
  intro b hb
  rw [Utf8.encode_append, List.mem_append] at hb
  rcases hb with hb | hb
  · exact hname b hb
  · exact List.all_eq_true.1 (hbytes ending hending) b hb

lemma says_describe (hsay : draft.writer.Says contents)
    (hname : ∀ b ∈ Utf8.encode name, Header.isValueByte b = true) (file : StoredFile) :
    (describe name file draft).writer.Says
      (contents ++ (descriptions name file).map Entry.content) := by
  have hkey : ∀ ending ∈ endings, ∀ b ∈ Utf8.encode (name ++ ending), Header.isValueByte b = true :=
    fun _ => isValueByte_append_ending hname
  have hfields := ((((hsay.writeField (hkey ".name" (by simp [endings])) file.name).writeField
    (hkey ".path" (by simp [endings])) file.path).writeField
    (hkey ".size" (by simp [endings])) (toString file.size)).writeField
    (hkey ".sha256" (by simp [endings])) file.digest).writeField
    (hkey ".upload_duration" (by simp [endings])) file.duration.text
  simpa [describe, descriptions, StoredFile.fields, Entry.content] using hfields

/-- What is known of parts that were all taken in: what they became, that the new form says so behind
what was written before, and that their files are the only ones that were added. -/
structure TakenIn (surroundings : Surroundings) (settings : Settings) (parts : List Part)
    (draft : Draft) (site : Site) (next : Draft) (after : Site) (entries : List Entry)
    (files : List (Disk.Place × Bytes)) : Prop where
  deposited : Deposited surroundings settings after.disk site.saves
    (parts.map fun part => (part.headers, part.data)) entries files
  boundary : next.writer.boundary = draft.writer.boundary
  written : ∀ contents, (∀ part ∈ parts, HeaderBlock.Clean part.headers) →
    draft.writer.Says contents → next.writer.Says (contents ++ entries.map Entry.content)
  guarded : Guarded draft.reserved.names entries
  stored : next.stored = draft.stored ++ (reports entries).map Prod.snd
  index : next.index = draft.index.recordAll (reports entries)
  begun : site.saves ≤ after.saves
  placed : ∀ file ∈ files, ∃ m ≤ after.saves, StoredAt surroundings.chance m file.1
  added : site.Unused surroundings.chance → after.Unused surroundings.chance ∧
    after.disk.files = site.disk.files ++ files ∧ Disk.Beside site.disk.files files

/-- If parts are all taken in, so is the first, and then the rest. -/
lemma takeParts_ok_cons {rest : List Part}
    (hrun : (takeParts surroundings settings (part :: rest) draft).run site
      = ((next, none), after)) :
    ∃ middle later, (takePart surroundings settings part draft).run site
        = ((middle, none), later) ∧
      (takeParts surroundings settings rest middle).run later = ((next, none), after) := by
  rw [takeParts, Run.run_bind] at hrun
  rcases htake : (takePart surroundings settings part draft).run site
    with ⟨⟨middle, failure⟩, later⟩
  rw [htake] at hrun
  cases failure with
  | some error => cases congrArg (fun found => found.1.2) hrun
  | none => exact ⟨middle, later, rfl, hrun⟩

/-- **What becomes of a form.**  Parts that are all taken in become entries of the new form and files
on the disk. -/
lemma takeParts_takenIn (hfresh : surroundings.chance.Fresh) {parts : List Part}
    (hrun : (takeParts surroundings settings parts draft).run site = ((next, none), after)) :
    ∃ entries files,
      TakenIn surroundings settings parts draft site next after entries files := by
  induction parts generalizing draft site with
  | nil =>
    obtain ⟨hdraft, rfl⟩ := Prod.mk.inj hrun
    obtain ⟨rfl, -⟩ := Prod.mk.inj hdraft
    exact ⟨[], [], .nil, rfl, fun _ _ hsay => by simpa using hsay, trivial, by simp [reports], rfl,
      Nat.le_refl _, List.forall_mem_nil _, fun hunused => ⟨hunused, by simp, .nil _⟩⟩
  | cons part rest ih =>
    obtain ⟨middle, later, htake, hrun⟩ := takeParts_ok_cons hrun
    have hhead : ∀ {parts : List Part}, (∀ other ∈ part :: parts, HeaderBlock.Clean other.headers) →
        HeaderBlock.Clean part.headers ∧ ∀ other ∈ parts, HeaderBlock.Clean other.headers :=
      fun hclean => ⟨hclean part List.mem_cons_self,
        fun other hother => hclean other (List.mem_cons_of_mem _ hother)⟩
    cases takePart_taken hfresh htake with
    | dropped hname =>
      obtain ⟨entries, files, h⟩ := ih hrun
      exact ⟨entries, files, { h with
        deposited := .dropped hname h.deposited
        written := fun contents hclean => h.written contents (hhead hclean).2 }⟩
    | copied hname hne hreserved hfile =>
      obtain ⟨entries, files, h⟩ := ih hrun
      refine ⟨.copied part.headers part.data :: entries, files,
        .copied (isNamed_iff.2 ⟨_, hname, hne⟩) hfile h.deposited,
        h.boundary.trans (boundary_copy part draft), fun contents hclean hsay => ?_,
        ⟨fun found hfound hmem => ?_, h.guarded⟩, h.stored, h.index, h.begun, h.placed, h.added⟩
      · obtain ⟨hpart, hrest⟩ := hhead hclean
        simpa [Entry.content] using h.written _ hrest (says_copy hsay hpart hname)
      · rw [Part.name?, hfound] at hname
        obtain rfl := Option.some.inj hname
        rw [ReservedNames.contains, List.contains_iff_mem.2 hmem] at hreserved
        cases hreserved
    | @stored name fileName m bytes place _ hname hne hfile hfileName hlegal hnew hsaves hmade
        hfound hplace hfiles =>
      obtain ⟨entries, files, h⟩ := ih hrun
      -- none of the later parts touches the file
      have hguards : Run.Guards m place (takeParts surroundings settings rest
          (describe name (stored surroundings settings fileName m bytes) draft)) fun _ => True :=
        guards_takeParts hfresh hplace rest _
      have hmore : (takeParts surroundings settings rest
          (describe name (stored surroundings settings fileName m bytes) draft)).run later
            = ((next, none), after) := hrun
      obtain ⟨hkeeps, hcount, -⟩ := hguards later hsaves.ge
      rw [hmore] at hkeeps hcount
      have hrest := h.deposited
      rw [hsaves] at hrest
      refine ⟨_, (place, bytes) :: files,
        .stored hname hne hfile hfileName hlegal hnew (hfound.keeps hkeeps) hmade hrest,
        h.boundary, fun contents hclean hsay => ?_, ?_, ?_, ?_,
        Nat.le_of_lt (Nat.lt_of_lt_of_le hnew hcount), fun file hmem => ?_, fun hunused => ?_⟩
      · obtain ⟨hpart, hrest⟩ := hhead hclean
        simpa using h.written _ hrest (says_describe hsay (isValueByte_of_fieldName? hpart hname) _)
      · -- the name of the part itself is reserved, too
        exact h.guarded.mono (List.cons_subset_cons _ (List.cons_subset_cons _
          (List.cons_subset_cons _ (List.cons_subset_cons _ (List.cons_subset_cons _
            (List.subset_cons_self name draft.reserved.names))))))
      · rw [h.stored, reports_descriptions]
        simp [describe]
      · rw [h.index, reports_descriptions]
        rfl
      · rcases List.mem_cons.1 hmem with rfl | hmem
        · exact ⟨m, hcount, hplace⟩
        · exact h.placed file hmem
      · obtain ⟨hlater, hlacks, hadded⟩ := hfiles hunused
        obtain ⟨hafter, hall, hbeside⟩ := h.added hlater
        rw [hadded] at hall hbeside
        exact ⟨hafter, by rw [hall, List.append_assoc]; rfl, .cons hlacks hbeside⟩

end Deposit

end Intercept
