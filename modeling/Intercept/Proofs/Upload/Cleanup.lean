/-
# What is left on the disk

A form that is turned down leaves no file: neither the part at which it fails, nor a file that was
stored for an earlier part.  A form that is rewritten leaves one file for each part that holds one,
where the new form reports it.  Both need that the names which are drawn are new.

The parts before the one that fails were all taken in, so what is known of such parts is known of
them, too; the part itself leaves all files alone, and what is removed afterwards is what was stored.
-/
import Mathlib.Data.List.Forall2
import Intercept.Proofs.Upload.NewForm

namespace Intercept

namespace Deposit

variable {surroundings : Surroundings} {settings : Settings} {part : Part} {draft next : Draft}
variable {site after : Site} {error : DepositError}

/-! ### The part that fails -/

/-- A part whose file cannot be stored leaves all files alone. -/
lemma files_of_storePart_error (hfresh : surroundings.chance.Fresh) {name fileName : String}
    (hrun : (storePart surroundings settings name fileName part draft).run site
      = ((next, some error), after))
    (hunused : site.Unused surroundings.chance) :
    next.stored = draft.stored ∧ after.disk.files = site.disk.files := by
  cases storePart_handled hrun with
  | illegal houtcome hafter =>
    obtain rfl : next = draft := congrArg Prod.fst houtcome
    subst hafter
    exact ⟨rfl, rfl⟩
  | untransformed htransform houtcome =>
    obtain rfl : next = draft := congrArg Prod.fst houtcome
    exact ⟨rfl, (Transform.files_run hfresh htransform hunused).1⟩
  | rejected hlegal htransform hsave houtcome hafter =>
    obtain rfl : next = draft := congrArg Prod.fst houtcome
    subst hafter
    obtain ⟨hsame, hsaves, hscratches⟩ := Transform.files_run hfresh htransform hunused
    have hlater := hunused.congr hsame hsaves.ge hscratches
    have hstem : '/' ∉ (storing settings fileName).stem.toList := not_mem_of_isIllegal hlegal
    exact ⟨rfl, (Storage.files_of_save_error hfresh hlater hstem hsave).trans hsame⟩
  | stored hlegal htransform hsave houtcome hafter => cases congrArg Prod.snd houtcome

/-- A part that cannot be taken in leaves all files alone. -/
lemma files_of_takePart_error (hfresh : surroundings.chance.Fresh)
    (hrun : (takePart surroundings settings part draft).run site = ((next, some error), after))
    (hunused : site.Unused surroundings.chance) :
    next.stored = draft.stored ∧ after.disk.files = site.disk.files := by
  cases takePart_tried hrun with
  | dropped hname houtcome hafter => cases congrArg Prod.snd houtcome
  | reserved hname hne hreserved houtcome hafter =>
    obtain rfl : next = draft := congrArg Prod.fst houtcome
    subst hafter
    exact ⟨rfl, rfl⟩
  | copied hname hne hreserved hfile houtcome hafter =>
    obtain rfl : next = (copy part draft).1 := congrArg Prod.fst houtcome
    subst hafter
    exact ⟨rfl, rfl⟩
  | filed hname hne hfile hfileName hstore =>
    exact files_of_storePart_error hfresh hstore hunused

/-- Where parts cannot be taken in, those before the first such part were. -/
lemma takeParts_failed {parts : List Part}
    (hrun : (takeParts surroundings settings parts draft).run site
      = ((next, some error), after)) :
    ∃ taken part rest middle later, parts = taken ++ part :: rest ∧
      (takeParts surroundings settings taken draft).run site = ((middle, none), later) ∧
      (takePart surroundings settings part middle).run later = ((next, some error), after) := by
  induction parts generalizing draft site with
  | nil => cases congrArg (fun found => found.1.2) hrun
  | cons part rest ih =>
    rw [takeParts, Run.run_bind] at hrun
    rcases htake : (takePart surroundings settings part draft).run site
      with ⟨⟨middle, failure⟩, later⟩
    rw [htake] at hrun
    cases failure with
    | some error =>
      obtain ⟨hdraft, rfl⟩ := Prod.mk.inj hrun
      obtain ⟨rfl, hfailure⟩ := Prod.mk.inj hdraft
      obtain rfl := Option.some.inj hfailure
      exact ⟨[], part, rest, draft, site, rfl, rfl, htake⟩
    | none =>
      obtain ⟨taken, failed, others, last, end_, rfl, htaken, hfailed⟩ := ih hrun
      refine ⟨part :: taken, failed, others, last, end_, rfl, ?_, hfailed⟩
      rw [takeParts, Run.run_bind, htake]
      exact htaken

/-! ### Removing what was stored -/

lemma run_removeAll_cons {disk : Disk} {path : String} (requestId : String) (rest : List String)
    (hremove : site.disk.remove path = .ok disk) :
    (removeAll requestId (path :: rest)).run site
      = (removeAll requestId rest).run { site with disk } := by
  rw [removeAll, Run.run_bind, Site.tryOnDisk, Site.run_onDisk, hremove]
  rfl

/-- Files that are found by their paths are all removed, and no others. -/
lemma files_removeAll (requestId : String) {paths : List String}
    {old files : List (Disk.Place × Bytes)}
    (hfound : List.Forall₂ (fun file path => Storage.Found site.disk path file.1 file.2) files paths)
    (hfiles : site.disk.files = old ++ files) (hbeside : Disk.Beside old files) :
    ((removeAll requestId paths).run site).2.disk.files = old := by
  induction files generalizing site paths with
  | nil =>
    cases hfound
    rw [removeAll, Run.run_pure, hfiles, List.append_nil]
  | cons file files ih =>
    cases hfound with
    | @cons _ path _ paths hfile hrest =>
      obtain ⟨place, bytes⟩ := file
      obtain ⟨hlacks, hothers⟩ := hbeside.tail
      rw [run_removeAll_cons requestId paths (Disk.remove_of_find hfile.path)]
      refine ih ?_ (Disk.files_erase hfiles hlacks hothers.1) hothers.2
      -- the other files are somewhere else, so they are still found
      have hall := (List.forall₂_and_left _ _).2 ⟨hothers.1, hrest⟩
      exact hall.imp fun other path hother => hother.2.keeps (Disk.keeps_erase hother.1)

/-- A form that is turned down was not read to its end, or one of its parts was not taken in; then
the files of the parts before it are removed. -/
lemma takeParts_of_make_error {form : Form} {deposit : Deposit}
    (hrun : (make surroundings settings form).run site = (deposit, after))
    (hform : deposit.form = .error error) :
    ∃ next failure later,
      (takeParts surroundings settings form.parts
        { writer := .start surroundings.chance.boundary }).run site = ((next, failure), later) ∧
      (failure.orElse fun _ => form.fault.map DepositError.form) = some error ∧
      deposit.index = next.index ∧
      after = ((removeAll settings.transform.requestId next.stored).run later).2 := by
  rw [make, Run.run_bind] at hrun
  rcases htake : (takeParts surroundings settings form.parts
    { writer := .start surroundings.chance.boundary }).run site with ⟨⟨next, failure⟩, later⟩
  rw [htake] at hrun
  refine ⟨next, failure, later, rfl, ?_⟩
  cases hfailure : failure.orElse fun _ => form.fault.map DepositError.form with
  | none =>
    simp only [hfailure] at hrun
    obtain ⟨rfl, -⟩ := Prod.mk.inj hrun
    cases hform
  | some found =>
    simp only [hfailure] at hrun
    obtain ⟨rfl, rfl⟩ := Prod.mk.inj hrun
    obtain rfl := Except.error.inj hform
    exact ⟨rfl, rfl, rfl⟩

/-- What was stored for parts that were taken in is found where it was added. -/
lemma TakenIn.found {parts : List Part} {entries : List Entry}
    {files : List (Disk.Place × Bytes)}
    (h : TakenIn surroundings settings parts draft site next after entries files)
    (hstart : draft.stored = []) :
    List.Forall₂ (fun file path => Storage.Found after.disk path file.1 file.2) files
      next.stored := by
  rw [h.stored, hstart, List.nil_append, List.forall₂_map_right_iff]
  exact h.deposited.found

/-- **A form that is turned down leaves nothing.**  Wherever taking out its files fails, the same
files are on the disk afterwards. -/
lemma files_of_make_error (hfresh : surroundings.chance.Fresh)
    (hunused : site.Unused surroundings.chance) {form : Form} {deposit : Deposit}
    (hrun : (make surroundings settings form).run site = (deposit, after))
    (hform : deposit.form = .error error) : after.disk.files = site.disk.files := by
  obtain ⟨next, failure, later, htake, -, -, rfl⟩ := takeParts_of_make_error hrun hform
  cases failure with
  | none =>
    -- all parts were taken in, but the form goes on behind them
    obtain ⟨entries, files, h⟩ := takeParts_takenIn hfresh htake
    obtain ⟨-, hfiles, hbeside⟩ := h.added hunused
    exact files_removeAll _ (h.found rfl) hfiles hbeside
  | some failure =>
    obtain ⟨taken, part, rest, middle, before, -, htaken, hfailed⟩ := takeParts_failed htake
    obtain ⟨entries, files, h⟩ := takeParts_takenIn hfresh htaken
    obtain ⟨hbefore, hfiles, hbeside⟩ := h.added hunused
    obtain ⟨hstored, hsame⟩ := files_of_takePart_error hfresh hfailed hbefore
    refine files_removeAll _ ?_ (hsame.trans hfiles) hbeside
    rw [hstored]
    -- the part that fails does not touch what was stored before
    have hall := (List.forall₂_and_left _ _).2 ⟨h.placed, h.found rfl⟩
    refine hall.imp fun file path hfile => ?_
    obtain ⟨⟨m, hm, hplace⟩, hfound⟩ := hfile
    have hguards : Run.Guards m file.1 (takePart surroundings settings part middle)
        fun _ => True := guards_takePart hfresh hplace part middle
    have hkeeps := (hguards before hm).1
    rw [hfailed] at hkeeps
    exact hfound.keeps hkeeps

/-- **What is left on the disk.**  However a form arrives and wherever taking out its files fails: if it
is turned down, the same files are on the disk as before.  If it is rewritten, there is one more file
for each part that holds one, and it is where the new form reports it. -/
theorem files_of_make (hfresh : surroundings.chance.Fresh)
    (hunused : site.Unused surroundings.chance) {headers : Headers} {boundary : Bytes}
    (hboundary : headers.boundary? = some boundary) {limit : Nat} {stream : Stream String}
    {deposit : Deposit}
    (hrun : (make surroundings settings (Form.readNamed ⟨boundary, limit⟩ stream)).run site
      = (deposit, after)) :
    match deposit.form with
    | .error _ => after.disk.files = site.disk.files
    | .ok writer =>
      let body := stream.deliver.bytes
      let contents := (Form.read ⟨boundary, body.length⟩ (Stream.once body)).contents
      ∃ entries files,
        Rewritten surroundings settings after.disk site.saves contents entries ∧
        IsReadAs writer entries ∧
        after.disk.files = site.disk.files ++ files ∧ Disk.Beside site.disk.files files ∧
        files.length = (contents.filter fun content => holdsFile content.1).length ∧
        List.Forall₂ (fun file report => Storage.Found after.disk report.2 file.1 file.2) files
          (reports entries) := by
  cases hform : deposit.form with
  | error error => exact files_of_make_error hfresh hunused hrun hform
  | ok writer =>
    obtain ⟨-, entries, files, h⟩ := remade_of_make_readNamed hfresh hboundary hrun hform
    obtain ⟨-, hfiles, hbeside⟩ := h.added hunused
    exact ⟨entries, files, h.deposited.rewritten, h.readable, hfiles, hbeside,
      h.deposited.length_files, h.deposited.found⟩

/-- A disk with a note, where the second file that is written cannot be written to its end. -/
def troubledSite : Site where
  disk := {
    files := [(["note"], [1])]
    troubles := [(100, .inputOutput), (3, .inputOutput)] }
  gate := ⟨1, 0, 0⟩

lemma unused_troubledSite : troubledSite.Unused drawnSurroundings.chance := by
  intro file hfile name hlast hdraws
  obtain rfl := List.mem_singleton.1 hfile
  obtain rfl := Option.some.inj hlast
  exact absurd hdraws.mem_dash (by decide)

/-- A form with two files. -/
def twoFiles : Stream String := [
  .piece (Utf8.encode ("--X\r\nContent-Disposition: form-data; name=\"f\"; filename=\"t\"\r\n\r\n"
    ++ "data\r\n--X\r\nContent-Disposition: form-data; name=\"g\"; filename=\"u\"\r\n\r\n")),
  .pause,
  .piece (Utf8.encode "more\r\n--X--\r\n")]

/-- The second file cannot be written, and the first one is removed. -/
theorem files_of_make_troubled :
    ((make drawnSurroundings plainSettings (Form.readNamed ⟨[88], 1000⟩ twoFiles)).run
      troubledSite).1.form.toOption.isSome = false ∧
    ((make drawnSurroundings plainSettings (Form.readNamed ⟨[88], 1000⟩ twoFiles)).run
      troubledSite).2.disk.files = [(["note"], [1])] := by
  have hboundary : Headers.boundary?
      [(Header.contentType, Utf8.encode "multipart/form-data; boundary=X")] = some [88] := by
    decide +kernel
  have hrejected : ((make drawnSurroundings plainSettings
      (Form.readNamed ⟨[88], 1000⟩ twoFiles)).run troubledSite).1.form.toOption.isSome = false := by
    decide +kernel
  refine ⟨hrejected, ?_⟩
  rcases hrun : (make drawnSurroundings plainSettings (Form.readNamed ⟨[88], 1000⟩ twoFiles)).run
    troubledSite with ⟨deposit, after⟩
  have h := files_of_make fresh_drawnSurroundings unused_troubledSite hboundary hrun
  rw [hrun] at hrejected
  cases hform : deposit.form with
  | error error =>
    rw [hform] at h
    exact h
  | ok writer =>
    rw [hform] at hrejected
    cases hrejected

end Deposit

end Intercept
