/-
# What an extraction leaves

Taking an artifact out of an archive makes two temporary files.  As long as their names are new,
there are as many files afterwards as before, wherever the work fails: the artifact is taken away by
the place it was made at, and the archive by its path, which still leads to it then.

What is extracted is the whole content of the entry, since less than the bound is accepted.
-/
import Intercept.Proofs.Archive.Unpack
import Intercept.Proofs.Storage.Save
import Intercept.Upload.Extraction

namespace Intercept

namespace Extraction

variable {chance : Chance} {inside : Disk.Place → Prop} {place : Disk.Place}
variable {start site after : Site} {path artifact : String}
variable {limit : Option Nat} {input : Stream UploadFault} {result : Except ExtractError Bytes}

/-! ### The artifact -/

/-- The data is an archive, and `bytes` are the whole content of its entry with the name. -/
def Extracted (artifact : String) (data bytes : Bytes) : Prop :=
  ∃ archive entry packing packed, Archive.open? data = some archive ∧
    archive.find? artifact = some entry ∧ archive.packed? entry = some (packing, packed) ∧
    ∀ bound, bytes.length < bound → Archive.unpack entry bound packing packed = .whole bytes

lemma locate_ok {data : Bytes} {entry : Archive.Entry} {packing : Archive.Packing} {packed : Bytes}
    (h : locate data artifact limit = .ok (entry, packing, packed)) :
    ∃ archive, Archive.open? data = some archive ∧ archive.find? artifact = some entry ∧
      archive.packed? entry = some (packing, packed) := by
  unfold locate at h
  split at h
  · cases h
  · next archive hopen =>
    split at h
    · cases h
    · next found hfind =>
      split at h
      · cases h
      · next kind bytes hpacked =>
        have hsame : (found, kind, bytes) = (entry, packing, packed) := by
          split at h
          · split at h
            · cases h
            · exact Except.ok.inj h
          · exact Except.ok.inj h
        cases hsame
        exact ⟨archive, hopen, hfind, hpacked⟩

/-- Only whole content is an artifact, and only if it fits. -/
lemma judge_ok {content : Archive.Content} {bytes : Bytes} (h : judge limit content = .ok bytes) :
    content = .whole bytes ∧ Storage.exceeds limit bytes.length = false := by
  unfold judge at h
  split at h
  · split at h
    · split at h
      · cases h
      · next hfits =>
        obtain rfl := Except.ok.inj h
        exact ⟨rfl, decide_eq_false hfits⟩
    · obtain rfl := Except.ok.inj h
      exact ⟨rfl, rfl⟩
  · split at h <;> cases h
  · cases h

/-- What unpacking to a temporary file comes to: it is not tried, or what was unpacked is judged when
the file is gone. -/
lemma unpackAt_cases {archive : Bytes}
    (hrun : (unpackAt path artifact limit archive).run site = (result, after)) :
    (after = site ∧ ∃ error, result = .error error) ∨
    ∃ place disk entry packing packed, site.disk.create path = .ok (place, disk) ∧
      locate archive artifact limit = .ok (entry, packing, packed) ∧
      let content := Archive.unpack entry (bound limit) packing packed
      after = { site with disk := (disk.write place content.bytes).2.erase place } ∧
      ∀ bytes, result = .ok bytes → judge limit content = .ok bytes := by
  rw [unpackAt] at hrun
  cases hlocate : locate archive artifact limit with
  | error error =>
    rw [hlocate] at hrun
    obtain ⟨rfl, rfl⟩ := Prod.mk.inj hrun
    exact .inl ⟨rfl, error, rfl⟩
  | ok located =>
    obtain ⟨entry, packing, packed⟩ := located
    simp only [hlocate, Run.run_bind, Site.tryOnDisk, Site.run_onDisk] at hrun
    cases hcreate : site.disk.create path with
    | error cause =>
      rw [hcreate] at hrun
      obtain ⟨rfl, rfl⟩ := Prod.mk.inj hrun
      exact .inl ⟨rfl, _, rfl⟩
    | ok made =>
      obtain ⟨place, disk⟩ := made
      simp only [hcreate, Run.run_bind, Site.run_onDisk] at hrun
      refine .inr ⟨place, disk, entry, packing, packed, rfl, rfl, ?_⟩
      split at hrun
      · obtain ⟨rfl, rfl⟩ := Prod.mk.inj hrun
        refine ⟨rfl, fun bytes hok => ?_⟩
        cases hok
      · obtain ⟨rfl, rfl⟩ := Prod.mk.inj hrun
        exact ⟨rfl, fun _ h => h⟩

/-! ### Spooling -/

/-- The error for an archive that is not stored; without a limit it is never too large. -/
def unspooled : StoreError UploadFault → ExtractError
  | .tooLarge => .tooLarge 0
  | .unreadable fault => .unreadable fault
  | .unwritable path cause => .unwritable path cause

/-- The data of a part is written to a temporary file like a file that is stored without a limit. -/
lemma run_pour (path : String) (writer : Disk.Writer) (progress : Storage.Progress)
    (input : Stream UploadFault) (site : Site) :
    (pour path writer input).run site
      = Prod.map (fun stored => (stored.mapError unspooled).map fun _ => ()) id
          ((Storage.pour path none writer progress input).run site) := by
  induction input generalizing writer progress site with
  | nil =>
    rw [pour, Storage.pour, Run.run_bind, Run.run_bind, Site.run_onDisk]
    cases (site.disk.flush writer).1 with
    | ok handle => rfl
    | error cause => rfl
  | cons item rest ih =>
    cases item with
    | pause => exact ih writer progress site
    | fault cause => rfl
    | piece bytes =>
      rw [pour, Storage.pour, Run.run_bind, Site.run_onDisk]
      simp only [Storage.exceeds, Option.any_none, Bool.false_eq_true, if_false, Run.run_bind,
        Site.run_onDisk]
      cases (site.disk.handOver writer bytes).1 with
      | ok next => exact ih next _ _
      | error cause => rfl

/-- Writes what is poured of the data of a part to a temporary file, all at once. -/
def spoolWhole (path : String) (input : Stream UploadFault) : Run (Except ExtractError Bytes) := do
  match ← Site.onDisk fun disk => disk.makeParent path with
  | .error cause => return .error (.unwritable path cause)
  | .ok () =>
    match ← Site.tryOnDisk fun disk => disk.create path with
    | .error cause => return .error (.unwritable path cause)
    | .ok place =>
      let written ← Site.onDisk fun disk => disk.write place (Storage.poured none input)
      match written, input.deliver.fault with
      | .error cause, _ => return .error (.unwritable path cause)
      | .ok (), some fault => return .error (.unreadable fault)
      | .ok (), none => return .ok input.deliver.bytes

/-- Spooled piece by piece is spooled at once. -/
lemma run_spool (path : String) (input : Stream UploadFault) (site : Site) :
    (spool path input).run site = (spoolWhole path input).run site := by
  rw [spool, spoolWhole, Run.run_bind, Run.run_bind, Site.run_onDisk]
  cases (site.disk.makeParent path).1 with
  | error cause => rfl
  | ok done =>
    simp only [Run.run_bind, Site.tryOnDisk, Site.run_onDisk]
    cases hcreate : (site.disk.makeParent path).2.create path with
    | error cause => rfl
    | ok created =>
      obtain ⟨place, disk⟩ := created
      obtain ⟨base, trouble, hopen⟩ := Disk.openHandle_of_create hcreate
      have hpour := Storage.run_pour_empty path none base site ⟨place, trouble⟩ input
      simp only [Run.run_bind, Site.run_onDisk, hopen, Disk.write, Disk.writeTo, Disk.append_put,
        run_pour _ _ {}, hpour, List.nil_append, Storage.accept_snd]
      cases (Disk.Handle.take ⟨place, trouble⟩ (Storage.poured none input)).1 with
      | error cause => rfl
      | ok handle => cases input.deliver.fault <;> rfl

/-- What spooling comes to: no file is made, or the data is written to it as it is poured. -/
lemma spool_cases (hrun : (spool path input).run site = (result, after)) :
    (after = { site with disk := (site.disk.makeParent path).2 } ∧
      ∃ cause, result = .error (.unwritable path cause)) ∨
    ∃ place disk, (site.disk.makeParent path).2.create path = .ok (place, disk) ∧
      after = { site with disk := (disk.write place (Storage.poured none input)).2 } ∧
      match result with
      | .ok archive => input.deliver = ⟨archive, none⟩
      | .error (.unreadable fault) => input.deliver.fault = some fault
      | .error _ => True := by
  rw [run_spool, spoolWhole, Run.run_bind, Site.run_onDisk] at hrun
  cases hfolders : (site.disk.makeParent path).1 with
  | error cause =>
    rw [hfolders] at hrun
    obtain ⟨rfl, rfl⟩ := Prod.mk.inj hrun
    exact .inl ⟨rfl, _, rfl⟩
  | ok done =>
    simp only [hfolders, Run.run_bind, Site.tryOnDisk, Site.run_onDisk] at hrun
    cases hcreate : (site.disk.makeParent path).2.create path with
    | error cause =>
      rw [hcreate] at hrun
      obtain ⟨rfl, rfl⟩ := Prod.mk.inj hrun
      exact .inl ⟨rfl, _, rfl⟩
    | ok made =>
      obtain ⟨place, disk⟩ := made
      simp only [hcreate, Run.run_bind, Site.run_onDisk] at hrun
      refine .inr ⟨place, disk, rfl, ?_⟩
      split at hrun
      · obtain ⟨rfl, rfl⟩ := Prod.mk.inj hrun
        exact ⟨rfl, trivial⟩
      · next hfault =>
        obtain ⟨rfl, rfl⟩ := Prod.mk.inj hrun
        exact ⟨rfl, hfault⟩
      · next hfault =>
        obtain ⟨rfl, rfl⟩ := Prod.mk.inj hrun
        refine ⟨rfl, ?_⟩
        rw [← hfault]

/-- The steps of an extraction, by the names of the temporary files. -/
lemma extract_eq (chance : Chance) (requestId directory artifact : String) (limit : Option Nat)
    (input : Stream UploadFault) :
    extract chance requestId directory artifact limit input = (do
      let n ← Site.nextScratch
      let spooled ← spool (Path.join directory (archiveName chance n)) input
      let found ← match spooled with
        | .error error => pure (.error error)
        | .ok archive =>
          let m ← Site.nextScratch
          unpackAt (Path.join directory (artifactName chance m)) artifact limit archive
      discard requestId (Path.join directory (archiveName chance n))
      return found) := rfl

/-- An extraction spools the data, unpacks the artifact if that went well, and then removes the
archive. -/
lemma extract_cases {requestId directory : String}
    (hrun : (extract chance requestId directory artifact limit input).run site
      = (result, after)) :
    ∃ path spooled later, path = Path.join directory (archiveName chance (site.scratches + 1)) ∧
      (spool path input).run { site with scratches := site.scratches + 1 } = (spooled, later) ∧
      ((∃ error, spooled = .error error ∧ result = .error error ∧
        after = ((discard requestId path).run later).2) ∨
      ∃ archive last, spooled = .ok archive ∧
        (unpackAt (Path.join directory (artifactName chance (later.scratches + 1))) artifact limit
          archive).run { later with scratches := later.scratches + 1 } = (result, last) ∧
        after = ((discard requestId path).run last).2) := by
  rw [extract_eq, Run.run_bind, Site.run_nextScratch] at hrun
  simp only [Run.run_bind] at hrun
  generalize Path.join directory (archiveName chance (site.scratches + 1)) = path at hrun ⊢
  rcases hspool : (spool path input).run { site with scratches := site.scratches + 1 }
    with ⟨spooled, later⟩
  rw [hspool] at hrun
  refine ⟨path, spooled, later, rfl, hspool, ?_⟩
  cases spooled with
  | error error =>
    obtain ⟨rfl, rfl⟩ := Prod.mk.inj hrun
    exact .inl ⟨error, rfl, rfl, rfl⟩
  | ok archive =>
    obtain ⟨hresult, rfl⟩ := Prod.mk.inj hrun
    exact .inr ⟨archive, _, rfl, Prod.ext hresult rfl, rfl⟩

/-- What is extracted is the artifact of data that was read to its end, and fits. -/
lemma extracted_of_extract {requestId directory : String} {bytes : Bytes}
    (hrun : (extract chance requestId directory artifact limit input).run site
      = (.ok bytes, after)) :
    input.deliver.fault = none ∧ Extracted artifact input.deliver.bytes bytes ∧
      Storage.exceeds limit bytes.length = false := by
  obtain ⟨path, spooled, later, -, hspool, ⟨error, -, hresult, -⟩ |
    ⟨archive, last, rfl, hunpack, -⟩⟩ := extract_cases hrun
  · cases hresult
  · obtain ⟨-, cause, hcause⟩ | ⟨_, _, -, -, hdelivered⟩ := spool_cases hspool
    · cases hcause
    · rw [show input.deliver = ⟨archive, none⟩ from hdelivered]
      obtain ⟨-, error, herror⟩ | ⟨_, _, entry, packing, packed, -, hlocate, -, hjudge⟩ :=
        unpackAt_cases hunpack
      · cases herror
      · obtain ⟨whole, hopen, hfind, hpacked⟩ := locate_ok hlocate
        obtain ⟨hwhole, hfits⟩ := judge_ok (hjudge bytes rfl)
        exact ⟨rfl, ⟨whole, entry, packing, packed, hopen, hfind, hpacked, fun _ hbound =>
          Archive.unpack_eq_whole hwhole hbound⟩, hfits⟩

lemma locate_ne_unreadable (archive : Bytes) (artifact : String) (limit : Option Nat)
    (fault : UploadFault) : locate archive artifact limit ≠ .error (.unreadable fault) := by
  unfold locate
  split
  · simp
  · split
    · simp
    · split
      · simp
      · split
        · split <;> simp
        · simp

lemma judge_ne_unreadable (limit : Option Nat) (content : Archive.Content) (fault : UploadFault) :
    judge limit content ≠ .error (.unreadable fault) := by
  unfold judge
  split
  · split
    · split <;> simp
    · simp
  · split
    · split <;> simp
    · simp
  · simp

/-- Unpacking does not read the data of the part any more. -/
lemma unpackAt_ne_unreadable {archive : Bytes} {fault : UploadFault}
    (hrun : (unpackAt path artifact limit archive).run site = (result, after)) :
    result ≠ .error (.unreadable fault) := by
  rintro rfl
  rw [unpackAt] at hrun
  cases hlocate : locate archive artifact limit with
  | error error =>
    rw [hlocate] at hrun
    obtain rfl := Except.error.inj (congrArg Prod.fst hrun)
    exact locate_ne_unreadable _ _ _ _ hlocate
  | ok located =>
    obtain ⟨entry, packing, packed⟩ := located
    simp only [hlocate, Run.run_bind, Site.tryOnDisk, Site.run_onDisk] at hrun
    cases hcreate : site.disk.create path with
    | error cause =>
      rw [hcreate] at hrun
      cases Except.error.inj (congrArg Prod.fst hrun)
    | ok made =>
      simp only [hcreate, Run.run_bind, Site.run_onDisk] at hrun
      split at hrun
      · cases Except.error.inj (congrArg Prod.fst hrun)
      · exact judge_ne_unreadable _ _ _ (congrArg Prod.fst hrun)

/-- Nothing is extracted for want of data only if the data has that fault. -/
lemma fault_of_extract {requestId directory : String} {fault : UploadFault}
    (hrun : (extract chance requestId directory artifact limit input).run site
      = (.error (.unreadable fault), after)) : input.deliver.fault = some fault := by
  obtain ⟨path, spooled, later, -, hspool, ⟨error, rfl, hresult, -⟩ |
    ⟨archive, last, rfl, hunpack, -⟩⟩ := extract_cases hrun
  · obtain rfl := Except.error.inj hresult
    obtain ⟨-, cause, hcause⟩ | ⟨_, _, -, -, hdelivered⟩ := spool_cases hspool
    · cases hcause
    · exact hdelivered
  · exact absurd rfl (unpackAt_ne_unreadable hunpack)

/-! ### Other files -/

lemma confined_spoolWhole (hleads : Disk.Leads inside start.disk.here path)
    (input : Stream UploadFault) :
    Run.Confined inside start (spoolWhole path input) fun _ => True := by
  have hfolders : Run.Confined inside start (Site.onDisk fun disk => disk.makeParent path)
      fun _ => True :=
    Run.confined_onDisk fun disk _ => ⟨Disk.works_makeParent inside path disk, trivial⟩
  refine hfolders.bind fun made _ => ?_
  cases made with
  | error cause => exact Run.confined_pure trivial
  | ok done =>
    refine (Run.confined_create hleads).bind fun found hfound => ?_
    cases found with
    | error cause => exact Run.confined_pure trivial
    | ok place =>
      refine (Run.confined_write (hfound place rfl) _).bind fun written _ => ?_
      split
      · exact Run.confined_pure trivial
      · exact Run.confined_pure trivial
      · exact Run.confined_pure trivial

lemma confined_spool (hleads : Disk.Leads inside start.disk.here path)
    (input : Stream UploadFault) :
    Run.Confined inside start (spool path input) fun _ => True := by
  intro site hsite
  rw [run_spool]
  exact confined_spoolWhole hleads input site hsite

lemma confined_unpackAt (hleads : Disk.Leads inside start.disk.here path) (artifact : String)
    (limit : Option Nat) (archive : Bytes) :
    Run.Confined inside start (unpackAt path artifact limit archive) fun _ => True := by
  rw [unpackAt]
  cases locate archive artifact limit with
  | error error => exact Run.confined_pure trivial
  | ok located =>
    refine (Run.confined_create hleads).bind fun found hfound => ?_
    cases found with
    | error cause => exact Run.confined_pure trivial
    | ok place =>
      have hplace := hfound place rfl
      refine (Run.confined_write hplace _).bind fun written _ =>
        (Run.confined_erase hplace).bind fun _ _ => ?_
      cases written with
      | error cause => exact Run.confined_pure trivial
      | ok done => exact Run.confined_pure trivial

lemma confined_discard (hleads : Disk.Leads inside start.disk.here path) (requestId : String) :
    Run.Confined inside start (discard requestId path) fun _ => True := by
  refine (Run.confined_remove hleads).bind fun found _ => ?_
  split
  · exact Run.confined_pure trivial
  · exact Run.confined_pure trivial
  · exact Run.confined_log _

/-- An extraction touches no file but its two temporary ones. -/
lemma confined_extract {directory : String}
    (harchive : ∀ m, start.scratches < m →
      Disk.Leads inside start.disk.here (Path.join directory (archiveName chance m)))
    (hartifact : ∀ m, start.scratches < m →
      Disk.Leads inside start.disk.here (Path.join directory (artifactName chance m)))
    (requestId artifact : String) (limit : Option Nat) (input : Stream UploadFault) :
    Run.Confined inside start (extract chance requestId directory artifact limit input)
      fun _ => True := by
  rw [extract_eq]
  refine Run.confined_nextScratch.bind fun m hm => ?_
  refine (confined_spool (harchive m hm) input).bind fun spooled _ => ?_
  have hdiscard : ∀ found : Except ExtractError Bytes, Run.Confined inside start
      (discard requestId (Path.join directory (archiveName chance m)) >>= fun _ => pure found)
        fun _ => True :=
    fun found => (confined_discard (harchive m hm) requestId).bind fun _ _ =>
      Run.confined_pure trivial
  cases spooled with
  | error error =>
    have hfailed : Run.Confined inside start
        (pure (.error error) : Run (Except ExtractError Bytes)) fun _ => True :=
      Run.confined_pure trivial
    exact hfailed.bind fun found _ => hdiscard found
  | ok archive =>
    refine Run.confined_nextScratch.bind fun k hk => ?_
    exact (confined_unpackAt (hartifact k hk) artifact limit archive).bind
      fun found _ => hdiscard found

/-! ### All files -/

/-- A temporary artifact is gone when it is unpacked, and other files are left alone. -/
lemma files_unpackAt {archive : Bytes}
    (hrun : (unpackAt path artifact limit archive).run site = (result, after))
    (hlacks : ∀ spot place, Disk.Reached site.disk (Path.names path) spot place →
      Disk.Lacks place site.disk.files) :
    after.disk.files = site.disk.files ∧ after.saves = site.saves ∧
      after.scratches = site.scratches := by
  obtain ⟨rfl, -⟩ | ⟨place, disk, _, _, _, hcreate, -, rfl, -⟩ := unpackAt_cases hrun
  · exact ⟨rfl, rfl, rfl⟩
  · obtain ⟨-, -, -, spot, hreached⟩ := Disk.create_cases hcreate
    have hnew := hlacks _ _ hreached
    obtain ⟨written, hfiles, -⟩ := Storage.files_write_new hcreate hnew _
    have hnone : Disk.Lacks place [] := List.forall_mem_nil _
    exact ⟨(Disk.files_erase hfiles hnew hnone).trans (List.append_nil _), rfl, rfl⟩

/-- A temporary archive that is made comes behind all other files, and its path leads to it. -/
lemma files_spool (hrun : (spool path input).run site = (result, after))
    (hlacks : ∀ disk spot place, Disk.Reached disk (Path.names path) spot place →
      Disk.Lacks place site.disk.files) :
    after.saves = site.saves ∧ after.scratches = site.scratches ∧
      ((after.disk.files = site.disk.files ∧ ∃ error, result = .error error) ∨
      ∃ place bytes written, Storage.Found after.disk path place bytes ∧
        (∃ disk spot, Disk.Reached disk (Path.names path) spot place) ∧
        after.disk.files = site.disk.files ++ [(place, written)]) := by
  obtain ⟨rfl, hfailed⟩ | ⟨place, disk, hcreate, rfl, -⟩ := spool_cases hrun
  · obtain ⟨cause, hcause⟩ := hfailed
    exact ⟨rfl, rfl, .inl ⟨Disk.files_makeParent _ _, _, hcause⟩⟩
  · obtain ⟨-, hempty, hfind, spot, hreached⟩ := Disk.create_cases hcreate
    have hnew := hlacks _ _ _ hreached
    rw [← Disk.files_makeParent path site.disk] at hnew
    obtain ⟨written, hfiles, -⟩ := Storage.files_write_new hcreate hnew (Storage.poured none input)
    obtain ⟨bytes, hfile, -⟩ := hempty.write (Storage.poured none input)
    rw [Disk.files_makeParent] at hfiles
    exact ⟨rfl, rfl, .inr ⟨place, _, written, ⟨Disk.find_write hfind hempty _, hfile⟩,
      ⟨_, spot, hreached⟩, hfiles⟩⟩

lemma run_discard (requestId path : String) (site : Site) :
    ((discard requestId path).run site).2.disk
        = (match site.disk.remove path with | .ok disk => disk | .error _ => site.disk) ∧
      ((discard requestId path).run site).2.saves = site.saves ∧
      ((discard requestId path).run site).2.scratches = site.scratches := by
  rw [discard, Run.run_bind, Site.tryOnDisk, Site.run_onDisk]
  cases site.disk.remove path with
  | ok disk => exact ⟨rfl, rfl, rfl⟩
  | error cause => cases cause <;> exact ⟨rfl, rfl, rfl⟩

/-- Where a path leads to no file, discarding it changes nothing. -/
lemma files_discard_of_lacks (requestId : String) (hlacks : ∀ spot place,
      Disk.Reached site.disk (Path.names path) spot place → Disk.Lacks place site.disk.files) :
    ((discard requestId path).run site).2.disk.files = site.disk.files := by
  rw [(run_discard requestId path site).1]
  cases hremove : site.disk.remove path with
  | error cause => rfl
  | ok disk =>
    obtain ⟨place, spot, rfl, hreached⟩ := Disk.remove_cases hremove
    exact Disk.files_erase_of_lacks (hlacks _ _ hreached)

/-- The last file is discarded by its path. -/
lemma files_discard_of_found (requestId : String) {before : List (Disk.Place × Bytes)}
    {bytes written : Bytes} (hfound : Storage.Found site.disk path place bytes)
    (hfiles : site.disk.files = before ++ [(place, written)]) (hlacks : Disk.Lacks place before) :
    ((discard requestId path).run site).2.disk.files = before := by
  rw [(run_discard requestId path site).1, Disk.remove_of_find hfound.path]
  have hnone : Disk.Lacks place [] := fun _ h => nomatch h
  exact (Disk.files_erase hfiles hlacks hnone).trans (List.append_nil _)

/-- **An extraction leaves no file.**  Wherever it fails, the same files are on the disk as before,
if the names of its temporary files are new. -/
lemma files_extract (hfresh : chance.Fresh) (hunused : site.Unused chance)
    {requestId directory : String}
    (hrun : (extract chance requestId directory artifact limit input).run site
      = (result, after)) :
    after.disk.files = site.disk.files ∧ after.saves = site.saves ∧
      site.scratches ≤ after.scratches := by
  obtain ⟨path, spooled, later, hpath, hspool, hrest⟩ := extract_cases hrun
  have hnamed : ∀ {disk spot place}, Disk.Reached disk (Path.names path) spot place →
      place.getLast? = some (archiveName chance (site.scratches + 1)) := by
    intro disk spot place hreached
    rw [hpath] at hreached
    exact getLast?_of_reached_archive hfresh hreached
  have hlacks : ∀ disk spot place, Disk.Reached disk (Path.names path) spot place →
      Disk.Lacks place site.disk.files := fun _ _ _ hreached =>
    hunused.lacks (.archive (Nat.lt_succ_self _)) (hnamed hreached)
  obtain ⟨hsaves, hscratches, hspooled⟩ := files_spool hspool hlacks
  obtain ⟨_, rfl, -, rfl⟩ | ⟨archive, last, rfl, hunpack, rfl⟩ := hrest
  · -- without an archive nothing is unpacked
    obtain ⟨-, hsame, hmore⟩ := run_discard requestId path later
    refine ⟨?_, hsame.trans hsaves, ?_⟩
    · obtain ⟨hfiles, -⟩ | ⟨place, bytes, written, hfound, ⟨_, _, hreached⟩, hfiles⟩ := hspooled
      · rw [files_discard_of_lacks requestId fun spot place hreached => ?_, hfiles]
        rw [hfiles]
        exact hlacks _ _ _ hreached
      · exact files_discard_of_found requestId hfound hfiles (hlacks _ _ _ hreached)
    · rw [hmore, hscratches]
      exact Nat.le_succ _
  · obtain ⟨-, _, hfailed⟩ | ⟨place, bytes, written, hfound, ⟨_, _, hreached⟩, hfiles⟩ := hspooled
    · cases hfailed
    -- the artifact is somewhere else, so the archive stays where it is
    have hapart : Disk.Apart place
        (Path.join directory (artifactName chance (later.scratches + 1))) := by
      rintro disk spot other hother rfl
      have hname := hnamed hreached
      rw [getLast?_of_reached_artifact hfresh hother] at hname
      exact hfresh.archiveName_ne _ _ (Option.some.inj hname).symm
    have hnew : ∀ spot other, Disk.Reached later.disk
        (Path.names (Path.join directory (artifactName chance (later.scratches + 1)))) spot other →
        Disk.Lacks other later.disk.files := by
      rintro spot other hother file hfile rfl
      rw [hfiles, List.mem_append, List.mem_singleton] at hfile
      rcases hfile with hfile | rfl
      · refine hunused.lacks (.artifact ?_) (getLast?_of_reached_artifact hfresh hother) file
          hfile rfl
        rw [hscratches]
        exact Nat.lt_succ_of_lt (Nat.lt_succ_self _)
      · exact hapart _ _ _ hother rfl
    obtain ⟨hunpacked, hsame, hmore⟩ := files_unpackAt hunpack hnew
    have hguards : Run.Guards 0 place (unpackAt
        (Path.join directory (artifactName chance (later.scratches + 1))) artifact limit archive)
        fun _ => True :=
      Run.guards_of_confined fun _ _ => confined_unpackAt (hapart.leads _) artifact limit archive
    have hkeeps := (hguards { later with scratches := later.scratches + 1 } (Nat.zero_le _)).1
    rw [hunpack] at hkeeps
    obtain ⟨-, hdiscarded, hdrawn⟩ := run_discard requestId path last
    refine ⟨files_discard_of_found requestId (hfound.keeps hkeeps) (hunpacked.trans hfiles)
      (hlacks _ _ _ hreached), ?_, ?_⟩
    · rw [hdiscarded, hsame, hsaves]
    · rw [hdrawn, hmore, hscratches]
      exact Nat.le_add_right _ 2

end Extraction

end Intercept
