/-
# Counting files and bytes

Two metrics are kept for an upload: a file is counted when its part has passed the checks of its names,
and its bytes are counted when it is stored.  `Site.Tallied` says by how much all metrics grow, and
`takePart_tallied` what one part adds to them and to the disk.  Parts add up (`takeParts_tallied`), up
to the first one that is not taken in, and what is removed afterwards is not taken off again.

If a form is rewritten, each of its files was counted once, was added to the disk, is listed in the
index, and is described by five fields, one of which tells the bytes that were counted for it.
-/
import Mathlib.Algebra.GroupWithZero.Nat
import Intercept.Proofs.Text.Decimal
import Intercept.Proofs.Upload.Agreement

namespace Intercept

namespace Journal

/-- What is counted is added to one metric, and to no other. -/
lemma value_count (journal : Journal) (metric other : Metric) (n : Nat) :
    (journal.count metric n).value other
      = journal.value other + if other = metric then n else 0 := by
  rw [count, set, value, lookup_put]
  split
  · next hsame => rw [hsame]; rfl
  · rfl

end Journal

namespace Site

variable {site later after : Site} {processor : String} {passed more bytes others : Nat}

/-- By how much a metric grows when files of a route were counted, and bytes. -/
def growth (processor : String) (passed bytes : Nat) : Metric → Nat
  | .uploadFiles route => if route = processor then passed else 0
  | .uploadBytes route => if route = processor then bytes else 0
  | _ => 0

/-- From a state of the site to a later one, some files of a route were counted, and some bytes, and
no metric has changed otherwise. -/
def Tallied (site later : Site) (processor : String) (passed bytes : Nat) : Prop :=
  ∀ metric, later.journal.value metric
    = site.journal.value metric + growth processor passed bytes metric

lemma tallied_of_values (h : later.journal.values = site.journal.values) :
    site.Tallied later processor 0 0 := by
  intro metric
  rw [Journal.value, h]
  cases metric <;> simp [growth, Journal.value]

lemma Tallied.trans (h : site.Tallied later processor passed bytes)
    (hmore : later.Tallied after processor more others) :
    site.Tallied after processor (passed + more) (bytes + others) := by
  intro metric
  rw [hmore, h]
  cases metric <;> simp only [growth] <;> split <;> omega

lemma tallied_countFiles (processor : String) (n : Nat) (site : Site) :
    site.Tallied ((Site.count (.uploadFiles processor) n).run site).2 processor n 0 := by
  intro metric
  rw [run_count, Journal.value_count]
  cases metric <;> simp [growth]

lemma tallied_countBytes (processor : String) (n : Nat) (site : Site) :
    site.Tallied ((Site.count (.uploadBytes processor) n).run site).2 processor 0 n := by
  intro metric
  rw [run_count, Journal.value_count]
  cases metric <;> simp [growth]

end Site

namespace Run

variable {α β : Type}

/-- A piece of work changes no metric. -/
def Uncounted (work : Run α) : Prop :=
  ∀ site : Site, (work.run site).2.journal.values = site.journal.values

lemma uncounted_pure (a : α) : Uncounted (pure a) := fun _ => rfl

lemma Uncounted.bind {work : Run α} {next : α → Run β} (h : Uncounted work)
    (hnext : ∀ a, Uncounted (next a)) : Uncounted (work >>= next) := fun site =>
  (hnext _ _).trans (h site)

lemma uncounted_log (event : Event) : Uncounted (Site.log event) := fun _ => rfl

lemma uncounted_nextScratch : Uncounted Site.nextScratch := fun _ => rfl

lemma uncounted_onDisk (change : Disk → α × Disk) : Uncounted (Site.onDisk change) := fun _ => rfl

lemma uncounted_tryOnDisk (change : Disk → Except SystemError (α × Disk)) :
    Uncounted (Site.tryOnDisk change) := uncounted_onDisk _

end Run

/-! ### Work that changes no metric -/

namespace Extraction

lemma uncounted_spoolWhole (path : String) (input : Stream UploadFault) :
    Run.Uncounted (spoolWhole path input) := by
  refine (Run.uncounted_onDisk _).bind fun made => ?_
  cases made with
  | error cause => exact Run.uncounted_pure _
  | ok done =>
    refine (Run.uncounted_tryOnDisk _).bind fun found => ?_
    cases found with
    | error cause => exact Run.uncounted_pure _
    | ok place =>
      refine (Run.uncounted_onDisk _).bind fun written => ?_
      split <;> exact Run.uncounted_pure _

lemma uncounted_spool (path : String) (input : Stream UploadFault) :
    Run.Uncounted (spool path input) := by
  intro site
  rw [run_spool]
  exact uncounted_spoolWhole path input site

lemma uncounted_unpackAt (path artifact : String) (limit : Option Nat) (archive : Bytes) :
    Run.Uncounted (unpackAt path artifact limit archive) := by
  rw [unpackAt]
  cases locate archive artifact limit with
  | error error => exact Run.uncounted_pure _
  | ok located =>
    refine (Run.uncounted_tryOnDisk _).bind fun found => ?_
    cases found with
    | error cause => exact Run.uncounted_pure _
    | ok place =>
      refine (Run.uncounted_onDisk _).bind fun written =>
        (Run.uncounted_onDisk _).bind fun _ => ?_
      cases written <;> exact Run.uncounted_pure _

lemma uncounted_discard (requestId path : String) : Run.Uncounted (discard requestId path) := by
  refine (Run.uncounted_tryOnDisk _).bind fun found => ?_
  split
  · exact Run.uncounted_pure _
  · exact Run.uncounted_pure _
  · exact Run.uncounted_log _

lemma uncounted_extract (chance : Chance) (requestId directory artifact : String)
    (limit : Option Nat) (input : Stream UploadFault) :
    Run.Uncounted (extract chance requestId directory artifact limit input) := by
  rw [extract_eq]
  refine Run.uncounted_nextScratch.bind fun n => (uncounted_spool _ input).bind fun spooled => ?_
  have hdiscard : ∀ found : Except ExtractError Bytes, Run.Uncounted
      (discard requestId (Path.join directory (archiveName chance n)) >>= fun _ => pure found) :=
    fun found => (uncounted_discard _ _).bind fun _ => Run.uncounted_pure _
  cases spooled with
  | error error => exact (Run.uncounted_pure _).bind hdiscard
  | ok archive =>
    exact Run.uncounted_nextScratch.bind fun m => (uncounted_unpackAt _ _ _ _).bind hdiscard

end Extraction

/-- Whatever is done to a file before it is stored, no metric changes. -/
lemma Transform.uncounted_run (surroundings : Surroundings) (settings : Settings) (grant : Grant)
    (fileName : String) (input : Stream UploadFault) :
    Run.Uncounted (run surroundings settings grant fileName input) := by
  rw [run]
  cases select grant fileName with
  | strip => exact Run.uncounted_pure _
  | extract =>
    refine (Extraction.uncounted_extract _ _ _ _ _ _).bind fun found => ?_
    cases found <;> exact Run.uncounted_pure _
  | keep => exact Run.uncounted_pure _

/-- Storing a file changes no metric. -/
lemma Storage.uncounted_save {φ : Type} (chance : Chance) (request : Request) (hint : Option Nat)
    (stream : Stream φ) : Run.Uncounted (save chance request hint stream) := by
  intro site
  rcases hsave : (save chance request hint stream).run site with ⟨result, after⟩
  obtain ⟨-, rfl⟩ | ⟨written, -, hwrote⟩ := save_cases hsave
  · rfl
  · cases hwrote <;> rfl

namespace Deposit

variable {surroundings : Surroundings} {settings : Settings} {part : Part} {draft next : Draft}
variable {parts earlier : List Part} {site after : Site} {failure : Option DepositError}

/-- Removing files changes no metric. -/
lemma uncounted_removeAll (requestId : String) (paths : List String) :
    Run.Uncounted (removeAll requestId paths) := by
  induction paths with
  | nil => exact Run.uncounted_pure _
  | cons path rest ih =>
    rw [removeAll]
    refine (Run.uncounted_tryOnDisk _).bind fun removed => ?_
    cases removed with
    | ok done => exact ih
    | error cause => exact (Run.uncounted_log _).bind fun _ => ih

/-! ### One part -/

instance (field name : String) : Decidable (Takes field name) :=
  inferInstanceAs (Decidable (_ ∨ _))

/-- Whether a part holds a file and passes the checks of its names: the name of the part was not taken
by a file of an earlier part, and the name of the file is legal. -/
def passes (earlier : List Part) (part : Part) : Bool :=
  holdsFile part.headers &&
    (part.name?.all fun name => (fileFields (earlier.map Part.headers)).all fun field =>
      !decide (Takes field name)) &&
    part.fileName?.all fun fileName => !FileName.isIllegal fileName

/-- What is reserved is what the files of earlier parts have taken. -/
def Reserves (draft : Draft) (earlier : List Part) : Prop :=
  ∀ key, key ∈ draft.reserved.names ↔
    ∃ field ∈ fileFields (earlier.map Part.headers), Takes field key

lemma fileField?_eq_none_iff {headers : Headers} :
    fileField? headers = none ↔ holdsFile headers = false := by
  constructor
  · intro hnone
    by_contra hholds
    rw [Bool.not_eq_false] at hholds
    obtain ⟨name, hname, -⟩ := isNamed_iff.1 ((Bool.and_eq_true _ _).mp hholds).1
    rw [fileField?, if_pos hholds, hname] at hnone
    cases hnone
  · intro hholds
    rw [fileField?, hholds, if_neg Bool.false_ne_true]

lemma passes_of_no_file (hnone : fileField? part.headers = none) : passes earlier part = false := by
  rw [passes, fileField?_eq_none_iff.1 hnone, Bool.false_and, Bool.false_and]

/-- Of a part with a file both names are checked. -/
lemma passes_iff_of_file (hreserves : Reserves draft earlier) {name fileName : String}
    (hname : part.name? = some name) (hne : name ≠ "") (hfile : part.fileName? = some fileName)
    (hfileName : fileName ≠ "") : passes earlier part = true ↔
      draft.reserved.contains name = false ∧ FileName.isIllegal fileName = false := by
  have hholds : holdsFile part.headers = true := by
    have hsome : fileField? part.headers = some name := fileField?_of_file hname hne hfile hfileName
    rw [← Bool.not_eq_false, ← fileField?_eq_none_iff, hsome]
    exact Option.some_ne_none name
  have hfree : draft.reserved.contains name = false ↔
      ∀ field ∈ fileFields (earlier.map Part.headers), ¬ Takes field name := by
    rw [← Bool.not_eq_true, ReservedNames.contains, List.contains_iff_mem, hreserves name]
    simp only [not_exists, not_and]
  rw [hfree, passes, hholds, hname, hfile]
  simp

/-- A part whose name is reserved does not pass. -/
lemma passes_of_reserved (hreserves : Reserves draft earlier) {name : String}
    (hname : part.name? = some name) (hne : name ≠ "")
    (hreserved : draft.reserved.contains name = true) : passes earlier part = false := by
  cases hfile : part.fileName?.filter fun fileName => !fileName.isEmpty with
  | none => exact passes_of_no_file (fileField?_of_no_file hfile)
  | some fileName =>
    obtain ⟨hfile, hfileName⟩ := Option.filter_eq_some_iff.1 hfile
    rw [← Bool.not_eq_true, passes_iff_of_file hreserves hname hne hfile (by simpa using hfileName),
      hreserved]
    exact fun h => Bool.noConfusion h.1

/-- How many bytes files hold. -/
def sizes (files : List (Disk.Place × Bytes)) : Nat := (files.map fun file => file.2.length).sum

/-- From a state of the site to a later one some files were counted, and some were added with their
bytes. -/
structure Accounted (settings : Settings) (site after : Site) (passed : Nat)
    (files : List (Disk.Place × Bytes)) : Prop where
  tallied : site.Tallied after settings.processor passed (sizes files)
  added : after.disk.files = site.disk.files ++ files

lemma Accounted.refl (settings : Settings) (site : Site) : Accounted settings site site 0 [] :=
  ⟨Site.tallied_of_values rfl, (List.append_nil _).symm⟩

lemma Accounted.trans {later : Site} {passed more : Nat} {files others : List (Disk.Place × Bytes)}
    (h : Accounted settings site later passed files)
    (hmore : Accounted settings later after more others) :
    Accounted settings site after (passed + more) (files ++ others) := by
  refine ⟨?_, by rw [hmore.added, h.added, List.append_assoc]⟩
  have hsizes : sizes (files ++ others) = sizes files + sizes others := by
    rw [sizes, List.map_append, List.sum_append, sizes, sizes]
  rw [hsizes]
  exact h.tallied.trans hmore.tallied

/-- Storing the file of a part counts the file if its name is legal, and its bytes if it is stored. -/
lemma storePart_accounted (hfresh : surroundings.chance.Fresh)
    (hunused : site.Unused surroundings.chance) {name fileName : String}
    (hrun : (storePart surroundings settings name fileName part draft).run site
      = ((next, failure), after)) :
    ∃ files, Accounted settings site after (if FileName.isIllegal fileName then 0 else 1) files ∧
      (failure = none → after.Unused surroundings.chance ∧
        files.length = if FileName.isIllegal fileName then 0 else 1) := by
  by_cases hillegal : FileName.isIllegal fileName = true
  · rw [storePart, if_pos hillegal] at hrun
    obtain ⟨houtcome, rfl⟩ := Prod.mk.inj hrun
    obtain ⟨-, rfl⟩ := Prod.mk.inj houtcome
    rw [if_pos hillegal]
    refine ⟨[], .refl settings site, fun hnone => ?_⟩
    cases hnone
  have hcounted := Site.tallied_countFiles settings.processor 1 site
  have hkept := Transform.uncounted_run surroundings settings.transform settings.grant fileName
    (dataOf part) ((Site.count (.uploadFiles settings.processor) 1).run site).2
  rw [if_neg hillegal]
  cases storePart_handled hrun with
  | illegal _ _ hlegal => exact absurd hlegal hillegal
  | untransformed htransform houtcome =>
    rw [htransform] at hkept
    obtain ⟨hsame, -⟩ := Transform.files_run hfresh htransform hunused
    refine ⟨[], ⟨hcounted.trans (Site.tallied_of_values hkept), ?_⟩, fun hnone => ?_⟩
    · rw [hsame, List.append_nil]
      rfl
    · rw [hnone] at houtcome
      cases congrArg Prod.snd houtcome
  | @rejected stream error later last hlegal htransform hsave houtcome hafter =>
    rw [htransform] at hkept
    have hvalues := Storage.uncounted_save surroundings.chance (storing settings fileName) none
      stream later
    rw [hsave] at hvalues
    obtain ⟨-, hsame⟩ : next.stored = draft.stored ∧ after.disk.files = site.disk.files := by
      obtain ⟨rfl, hfailure⟩ := Prod.mk.inj houtcome
      subst hfailure
      exact files_of_storePart_error hfresh hrun hunused
    refine ⟨[], ⟨hcounted.trans (Site.tallied_of_values ?_), ?_⟩, fun hnone => ?_⟩
    · rw [hafter]
      exact hvalues.trans hkept
    · rw [hsame, List.append_nil]
    · rw [hnone] at houtcome
      cases congrArg Prod.snd houtcome
  | @stored stream file later last hlegal htransform hsave houtcome hafter =>
    rw [htransform] at hkept
    have hvalues := Storage.uncounted_save surroundings.chance (storing settings fileName) none
      stream later
    rw [hsave] at hvalues
    obtain ⟨n, bytes, place, rfl, -, -, -, -, -, hadded⟩ :=
      stored_of_save hfresh hlegal htransform hsave
    obtain ⟨hlast, -, hfiles⟩ := hadded hunused
    subst hafter
    refine ⟨[(place, bytes)], ⟨?_, hfiles⟩, fun _ => ⟨hlast, rfl⟩⟩
    have hmiddle := hcounted.trans (Site.tallied_of_values (hvalues.trans hkept))
    have hsize : sizes [(place, bytes)] = 0 + 0 + bytes.length := by simp [sizes]
    rw [hsize]
    exact hmiddle.trans (Site.tallied_countBytes settings.processor bytes.length last)

/-- Taking in a part counts its file if it passes the checks, and its bytes if it is stored. -/
lemma takePart_accounted (hfresh : surroundings.chance.Fresh)
    (hunused : site.Unused surroundings.chance) (hreserves : Reserves draft earlier)
    (hrun : (takePart surroundings settings part draft).run site = ((next, failure), after)) :
    ∃ files, Accounted settings site after (if passes earlier part then 1 else 0) files ∧
      (failure = none → after.Unused surroundings.chance ∧
        files.length = if passes earlier part then 1 else 0) := by
  cases takePart_tried hrun with
  | dropped hname houtcome hafter =>
    subst hafter
    rw [passes_of_no_file (fileField?_of_not_named hname)]
    exact ⟨[], .refl settings _, fun _ => ⟨hunused, rfl⟩⟩
  | reserved hname hne hreserved houtcome hafter =>
    subst hafter
    rw [passes_of_reserved hreserves hname hne hreserved]
    exact ⟨[], .refl settings _, fun _ => ⟨hunused, rfl⟩⟩
  | copied hname hne hreserved hfile houtcome hafter =>
    subst hafter
    rw [passes_of_no_file (fileField?_of_no_file hfile)]
    exact ⟨[], .refl settings _, fun _ => ⟨hunused, rfl⟩⟩
  | @filed name fileName hname hne hfile hfileName hstore =>
    have hfree : draft.reserved.contains name = false := by
      by_contra hreserved
      rw [Bool.not_eq_false, ReservedNames.contains, List.contains_iff_mem] at hreserved
      have hinjected : ((takePart surroundings settings part draft).run site).1.2
          = some (.injected name) := takePart_injected_iff.2 ⟨hname, hne, hreserved⟩
      rw [hrun] at hinjected
      obtain rfl : failure = some (.injected name) := hinjected
      obtain ⟨hillegal, -⟩ | hother := storePart_error hstore
      · cases hillegal
      · exact absurd rfl (hother name).1
    have hpasses := passes_iff_of_file hreserves hname hne hfile hfileName
    have hlegal : (if passes earlier part then 1 else 0)
        = if FileName.isIllegal fileName then 0 else 1 := by
      cases hname : FileName.isIllegal fileName with
      | true =>
        have hnot : passes earlier part = false := by simpa [hname] using hpasses
        rw [hnot]
        rfl
      | false =>
        rw [hpasses.2 ⟨hfree, hname⟩]
        rfl
    rw [hlegal]
    exact storePart_accounted hfresh hunused hstore

lemma reserves_nil (writer : FormWriter) : Reserves { writer } [] := fun key => by
  simp [fileFields]

/-- What a part takes is reserved when it was taken in. -/
lemma Reserves.concat (hreserves : Reserves draft earlier)
    (htake : (takePart surroundings settings part draft).run site = ((next, none), after)) :
    Reserves next (earlier ++ [part]) := by
  intro key
  have hone : (takeParts surroundings settings [part] draft).run site = ((next, none), after) :=
    takeParts_cons htake
  rw [mem_reserved_of_takeParts hone, hreserves key, fileFields, fileFields, List.map_append,
    fileFields, List.filterMap_append]
  simp only [List.mem_append, or_and_right, exists_or]

/-! ### All parts -/

/-- The parts that are reached: those up to the first one that cannot be taken in. -/
def reached (surroundings : Surroundings) (settings : Settings) :
    List Part → Draft → Site → List Part
  | [], _, _ => []
  | part :: rest, draft, site =>
    match (takePart surroundings settings part draft).run site with
    | ((next, none), after) => part :: reached surroundings settings rest next after
    | ((_, some _), _) => [part]

/-- How many parts pass the checks, where others came before them. -/
def countPassing : List Part → List Part → Nat
  | _, [] => 0
  | earlier, part :: rest =>
    (if passes earlier part then 1 else 0) + countPassing (earlier ++ [part]) rest

/-- **What a form is counted for.**  Taking in parts counts the files of those that are reached and
pass the checks, and the bytes of those that are stored. -/
lemma takeParts_accounted (hfresh : surroundings.chance.Fresh)
    (hunused : site.Unused surroundings.chance) (hreserves : Reserves draft earlier)
    (hrun : (takeParts surroundings settings parts draft).run site = ((next, failure), after)) :
    ∃ files, Accounted settings site after
        (countPassing earlier (reached surroundings settings parts draft site)) files ∧
      (failure = none → files.length
        = countPassing earlier (reached surroundings settings parts draft site)) := by
  induction parts generalizing draft site earlier with
  | nil =>
    obtain ⟨-, rfl⟩ := Prod.mk.inj hrun
    exact ⟨[], .refl settings _, fun _ => rfl⟩
  | cons part rest ih =>
    rcases htake : (takePart surroundings settings part draft).run site
      with ⟨⟨middle, found⟩, later⟩
    obtain ⟨files, hpart, hlater⟩ := takePart_accounted hfresh hunused hreserves htake
    cases found with
    | some error =>
      rw [takeParts, Run.run_bind, htake] at hrun
      obtain ⟨houtcome, rfl⟩ := Prod.mk.inj hrun
      obtain ⟨-, rfl⟩ := Prod.mk.inj houtcome
      rw [reached, htake]
      refine ⟨files, hpart, fun hnone => ?_⟩
      cases hnone
    | none =>
      rw [takeParts_cons htake] at hrun
      obtain ⟨hmiddle, hlength⟩ := hlater rfl
      obtain ⟨others, hrest, hmore⟩ := ih hmiddle (hreserves.concat htake) hrun
      rw [reached, htake, countPassing]
      refine ⟨files ++ others, hpart.trans hrest, fun hnone => ?_⟩
      rw [List.length_append, hlength, hmore hnone]

/-! ### What the new form tells -/

variable {contents : List (Headers × Bytes)} {entries : List Entry} {disk : Disk} {n : Nat}
variable {files : List (Disk.Place × Bytes)}

/-- The length that an entry tells, if it is a length. -/
def Entry.size? : Entry → Option String
  | .copied _ _ => none
  | .described _ ending value => if ending = ".size" then some value else none

/-- The lengths that a new form tells, as they are written. -/
def writtenSizes (entries : List Entry) : List String := entries.filterMap Entry.size?

@[simp] lemma writtenSizes_copied (headers : Headers) (data : Bytes) (entries : List Entry) :
    writtenSizes (.copied headers data :: entries) = writtenSizes entries := rfl

@[simp] lemma writtenSizes_descriptions (name : String) (file : StoredFile)
    (entries : List Entry) :
    writtenSizes (descriptions name file ++ entries) = toString file.size :: writtenSizes entries := by
  simp [writtenSizes, descriptions, Entry.size?]

/-- A new form tells the length of each file, in digits. -/
lemma Deposited.writtenSizes (h : Deposited surroundings settings disk n contents entries files) :
    (writtenSizes entries).map (fun text => Bytes.decimal? (Utf8.encode text))
      = (files.map fun file => file.2.length).map some := by
  induction h with
  | nil => rfl
  | dropped _ _ ih => exact ih
  | copied _ _ _ ih => exact ih
  | stored _ _ _ _ _ _ _ _ _ ih =>
    rw [writtenSizes_descriptions, List.map_cons, ih, Decimal.decimal?_encode_toString]
    rfl

/-- A new form has five fields for each file. -/
lemma Deposited.length_writtenFields
    (h : Deposited surroundings settings disk n contents entries files) :
    (writtenFields entries).length = 5 * files.length := by
  induction h with
  | nil => rfl
  | dropped _ _ ih => exact ih
  | copied _ _ _ ih => exact ih
  | stored _ _ _ _ _ _ _ _ _ ih =>
    rw [writtenFields_descriptions, List.length_append, ih, List.length_cons, StoredFile.fields]
    simp only [List.length_cons, List.length_nil]
    omega

/-- Files whose parts have different names are all in the index, under different keys. -/
lemma TakenIn.index_perm {parts : List Part}
    (h : TakenIn surroundings settings parts draft site next after entries files)
    (hindex : draft.index = {}) (hnodup : (fileFields (parts.map Part.headers)).Nodup) :
    next.index.count = files.length ∧ (next.index.entries.map Prod.fst).Nodup := by
  have hnames : (reports entries).map Prod.fst = fileFields (parts.map Part.headers) := by
    rw [h.deposited.rewritten.names_reports, List.map_map]
    rfl
  have hperm : (FileIndex.recordAll {} (reports entries)).entries.Perm (reports entries ++ []) :=
    FileIndex.recordAll_perm (hnames ▸ hnodup) (List.forall_mem_nil _)
  rw [List.append_nil, ← hindex, ← h.index] at hperm
  refine ⟨hperm.length_eq.trans h.deposited.found.length_eq.symm, ?_⟩
  rw [(hperm.map Prod.fst).nodup_iff, hnames]
  exact hnodup

/-- The list of files that goes with a new form has an entry for each name in the index. -/
lemma exists_members (request : Request) (index : FileIndex) (writer : FormWriter)
    (hnodup : (index.entries.map Prod.fst).Nodup) :
    ∃ value members, (Upload.rewritten request index writer).headers.values Header.multipartFields
        = [value] ∧ Json.parse? value = some (.object members) ∧
      (members.map Prod.fst).Nodup ∧ members.length = index.count := by
  refine ⟨_, Json.textMembers index.entries, Upload.values_multipartFields_rewritten _ _ _,
    Json.parse?_render (Json.written_textMembers _), ?_, List.length_map _⟩
  have hkeys : (Json.textMembers index.entries).map Prod.fst
      = (index.entries.map Prod.fst).map Utf8.encode := by
    rw [Json.textMembers, List.map_map, List.map_map]
    rfl
  rw [hkeys]
  exact hnodup.map fun _ _ => Utf8.encode_inj

/-- All that says how many files a form has says that there are `n`: its parts, what was added to the
disk, the list that goes with the new form, and the fields that describe files.  The lengths that
these fields tell add up to the bytes on the disk. -/
structure Balanced (contents : List (Headers × Bytes)) (index : FileIndex) (writer : FormWriter)
    (entries : List Entry) (files : List (Disk.Place × Bytes)) (n : Nat) : Prop where
  held : (contents.filter fun content => holdsFile content.1).length = n
  added : files.length = n
  listed : ∀ request, ∃ value members,
    (Upload.rewritten request index writer).headers.values Header.multipartFields = [value] ∧
    Json.parse? value = some (.object members) ∧ (members.map Prod.fst).Nodup ∧ members.length = n
  described : (writtenFields entries).length = 5 * n
  told : ∃ lengths : List Nat,
    (writtenSizes entries).map (fun text => Bytes.decimal? (Utf8.encode text)) = lengths.map some ∧
    lengths.length = n ∧ lengths.sum = sizes files

lemma TakenIn.balanced {parts : List Part}
    (h : TakenIn surroundings settings parts draft site next after entries files)
    (hindex : draft.index = {}) (hnodup : (fileFields (parts.map Part.headers)).Nodup) :
    Balanced (parts.map fun part => (part.headers, part.data)) next.index next.writer entries files
      files.length := by
  obtain ⟨hcount, hkeys⟩ := h.index_perm hindex hnodup
  refine ⟨h.deposited.length_files.symm, rfl, fun request => ?_,
    h.deposited.length_writtenFields, _, h.deposited.writtenSizes, List.length_map _, rfl⟩
  rw [← hcount]
  exact exists_members request next.index next.writer hkeys

/-- **What an upload is counted for.**  Whatever comes of a form, the files are counted of the parts
that were reached and passed the checks of their names, and the bytes of the files that were stored,
also if these are removed again since the form is turned down.  No other metric changes.

If the form is rewritten, as many files were counted as parts hold a file.  As many were added to the
disk, as many are in the list that goes with the new form, the new form has five times as many fields
that describe files, and the lengths that these tell add up to the bytes that were counted. -/
theorem tallied_of_make (hfresh : surroundings.chance.Fresh)
    (hunused : site.Unused surroundings.chance) {form : Form} {deposit : Deposit}
    (hrun : (make surroundings settings form).run site = (deposit, after)) :
    let start : Draft := { writer := .start surroundings.chance.boundary }
    let passed := countPassing [] (reached surroundings settings form.parts start site)
    ∃ next failure later files,
      (takeParts surroundings settings form.parts start).run site = ((next, failure), later) ∧
      later.disk.files = site.disk.files ++ files ∧
      site.Tallied after settings.processor passed (sizes files) ∧
      match deposit.form with
      | .error _ =>
        after = ((removeAll settings.transform.requestId next.stored).run later).2 ∧
        after.disk.files = site.disk.files
      | .ok writer => after = later ∧ ∃ entries,
        Deposited surroundings settings after.disk site.saves form.contents entries files ∧
        ((∀ part ∈ form.parts, HeaderBlock.Clean part.headers) → IsReadAs writer entries) ∧
        Balanced form.contents deposit.index writer entries files passed := by
  intro start passed
  cases hform : deposit.form with
  | error error =>
    obtain ⟨next, failure, later, htake, -, -, rfl⟩ := takeParts_of_make_error hrun hform
    obtain ⟨files, haccounted, -⟩ :=
      takeParts_accounted hfresh hunused (reserves_nil _) htake
    have hremoved : later.Tallied
        ((removeAll settings.transform.requestId next.stored).run later).2 settings.processor 0 0 :=
      Site.tallied_of_values (uncounted_removeAll settings.transform.requestId next.stored later)
    exact ⟨next, failure, later, files, htake, haccounted.added,
      haccounted.tallied.trans hremoved, rfl, files_of_make_error hfresh hunused hrun hform⟩
  | ok writer =>
    obtain ⟨-, next, htake, rfl, hindex⟩ := takeParts_of_make hrun hform
    obtain ⟨files, haccounted, hpassed⟩ :=
      takeParts_accounted hfresh hunused (reserves_nil _) htake
    obtain ⟨entries, others, h⟩ := takeParts_takenIn hfresh htake
    obtain ⟨-, hothers, -⟩ := h.added hunused
    obtain rfl : others = files :=
      List.append_cancel_left (hothers.symm.trans haccounted.added)
    have hbalanced := h.balanced rfl (nodup_fileFields_of_takeParts htake).1
    rw [hpassed rfl, ← hindex] at hbalanced
    exact ⟨next, none, after, others, htake, haccounted.added, haccounted.tallied, rfl, entries,
      h.deposited, h.readable hfresh, hbalanced⟩

/-- The second of two files passes the checks, but cannot be written: both were counted, with the bytes
of the first one, and none is left. -/
theorem tallied_of_make_troubled :
    troubledSite.Tallied ((make drawnSurroundings plainSettings
      (Form.readNamed ⟨[88], 1000⟩ twoFiles)).run troubledSite).2 "uploads" 2 4 ∧
    ((make drawnSurroundings plainSettings (Form.readNamed ⟨[88], 1000⟩ twoFiles)).run
      troubledSite).2.disk.files = [(["note"], [1])] := by
  have hrejected : ((make drawnSurroundings plainSettings
      (Form.readNamed ⟨[88], 1000⟩ twoFiles)).run troubledSite).1.form.toOption.isSome = false := by
    decide +kernel
  have hpassed : countPassing [] (reached drawnSurroundings plainSettings
      (Form.readNamed ⟨[88], 1000⟩ twoFiles).parts
        { writer := .start drawnSurroundings.chance.boundary } troubledSite) = 2 := by
    decide +kernel
  have hlengths : ((takeParts drawnSurroundings plainSettings
      (Form.readNamed ⟨[88], 1000⟩ twoFiles).parts
        { writer := .start drawnSurroundings.chance.boundary }).run troubledSite).2.disk.files.map
          (fun file => file.2.length) = [1, 4] := by
    decide +kernel
  rcases hrun : (make drawnSurroundings plainSettings (Form.readNamed ⟨[88], 1000⟩ twoFiles)).run
    troubledSite with ⟨deposit, after⟩
  obtain ⟨next, failure, later, files, htake, hadded, htallied, houtcome⟩ :=
    tallied_of_make fresh_drawnSurroundings unused_troubledSite hrun
  rw [htake, hadded, List.map_append] at hlengths
  have hsizes : sizes files = 4 := by
    have hmore : files.map (fun file => file.2.length) = [4] := (List.cons.inj hlengths).2
    rw [sizes, hmore]
    rfl
  rw [hpassed, hsizes] at htallied
  rw [hrun] at hrejected
  cases hform : deposit.form with
  | error error =>
    rw [hform] at houtcome
    exact ⟨htallied, houtcome.2⟩
  | ok writer =>
    rw [hform] at hrejected
    cases hrejected

end Deposit

end Intercept
