/-
# Names that are still to be drawn

The proxy gives names to the files that it stores and to its temporary files, each with a label that
is drawn for it.  `Site.Unused` says that no file on the disk has a name that is still to be drawn.
Then whatever the proxy makes is new, and it stays so: a file that is stored uses up its label.
-/
import Intercept.Proofs.Storage.Guard

namespace Intercept

variable {chance : Chance} {m n saves scratches : Nat} {place : Disk.Place} {site after : Site}

/-! ### Labels -/

/-- A label has no dot, but the end of the name of a temporary archive has one. -/
lemma Chance.Fresh.label_ne_archive (hfresh : chance.Fresh) (m n : Nat) :
    chance.label n ≠ chance.scratchLabel m ++ ".zip" := by
  intro hsame
  have hdot : '.' ∈ (chance.label n).toList := by
    rw [hsame, String.toList_append]
    exact List.mem_append_right _ (by decide)
  exact (hfresh.label n).not_mem_dot hdot

lemma not_mem_archive {c : Char} (hlabel : c ∉ (chance.scratchLabel m).toList)
    (hzip : c ∉ ".zip".toList) : c ∉ (chance.scratchLabel m ++ ".zip").toList := by
  rw [String.toList_append, List.mem_append, not_or]
  exact ⟨hlabel, hzip⟩

/-- The name of a temporary archive. -/
def archiveName (chance : Chance) (n : Nat) : String :=
  labelled "spool" (chance.scratchLabel n ++ ".zip")

/-- The name of a temporary artifact. -/
def artifactName (chance : Chance) (n : Nat) : String :=
  labelled "artifact" (chance.scratchLabel n)

/-- A temporary archive is not called like a temporary artifact. -/
lemma Chance.Fresh.archiveName_ne (hfresh : chance.Fresh) (m n : Nat) :
    archiveName chance m ≠ artifactName chance n := by
  intro hsame
  have hlabel := label_eq_of_labelled_eq
    (not_mem_archive (hfresh.scratchLabel m).not_mem_dash (by decide))
    (hfresh.scratchLabel n).not_mem_dash hsame
  have hdot : '.' ∈ (chance.scratchLabel n).toList := by
    rw [← hlabel, String.toList_append]
    exact List.mem_append_right _ (by decide)
  exact (hfresh.scratchLabel n).not_mem_dot hdot

/-! ### What paths of new names lead to -/

lemma getLast?_of_reached_archive (hfresh : chance.Fresh) {folder : String} {disk : Disk}
    {spot : Disk.Spot}
    (hreached : Disk.Reached disk (Path.names (Path.join folder (archiveName chance m))) spot
      place) :
    place.getLast? = some (archiveName chance m) :=
  getLast?_of_reached (by decide)
    (not_mem_archive (hfresh.scratchLabel m).not_mem_slash (by decide)) hreached

lemma getLast?_of_reached_artifact (hfresh : chance.Fresh) {folder : String} {disk : Disk}
    {spot : Disk.Spot}
    (hreached : Disk.Reached disk (Path.names (Path.join folder (artifactName chance m))) spot
      place) :
    place.getLast? = some (artifactName chance m) :=
  getLast?_of_reached (by decide) (hfresh.scratchLabel m).not_mem_slash hreached

/-! ### Names of temporary files -/

/-- A stored file is not where a temporary archive is made. -/
lemma StoredAt.apart_archive (hfresh : chance.Fresh) (h : StoredAt chance n place)
    (directory : String) (m : Nat) :
    Disk.Apart place (Path.join directory (archiveName chance m)) :=
  h.apart hfresh (by decide)
    (not_mem_archive (hfresh.scratchLabel m).not_mem_slash (by decide))
    (not_mem_archive (hfresh.scratchLabel m).not_mem_dash (by decide))
    (hfresh.label_ne_archive m n) directory

/-- A stored file is not where a temporary artifact is made. -/
lemma StoredAt.apart_artifact (hfresh : chance.Fresh) (h : StoredAt chance n place)
    (directory : String) (m : Nat) :
    Disk.Apart place (Path.join directory (artifactName chance m)) :=
  h.apart hfresh (by decide) (hfresh.scratchLabel m).not_mem_slash
    (hfresh.scratchLabel m).not_mem_dash (hfresh.apart n m) directory

/-! ### Names that are still to be drawn -/

/-- The names that files may be given when so many stored and so many temporary files were begun. -/
inductive Chance.Draws (chance : Chance) (saves scratches : Nat) : String → Prop where
  | stored (stem : String) {n : Nat} (hn : saves < n) :
    Draws chance saves scratches (labelled stem (chance.label n))
  | archive {n : Nat} (hn : scratches < n) : Draws chance saves scratches (archiveName chance n)
  | artifact {n : Nat} (hn : scratches < n) : Draws chance saves scratches (artifactName chance n)

/-- Names that may be drawn later may be drawn now. -/
lemma Chance.Draws.earlier {name : String} {moreSaves moreScratches : Nat}
    (h : chance.Draws moreSaves moreScratches name) (hsaves : saves ≤ moreSaves)
    (hscratches : scratches ≤ moreScratches) : chance.Draws saves scratches name := by
  cases h with
  | stored stem hn => exact .stored stem (Nat.lt_of_le_of_lt hsaves hn)
  | archive hn => exact .archive (Nat.lt_of_le_of_lt hscratches hn)
  | artifact hn => exact .artifact (Nat.lt_of_le_of_lt hscratches hn)

/-- A name that is drawn has a dash before its label. -/
lemma Chance.Draws.mem_dash {name : String} (h : chance.Draws saves scratches name) :
    '-' ∈ name.toList := by
  cases h <;>
    exact toList_labelled _ _ ▸ List.mem_append_right _ List.mem_cons_self

/-- The name of a stored file is not drawn again. -/
lemma Chance.Fresh.not_draws (hfresh : chance.Fresh) (hn : n ≤ saves) (stem : String) :
    ¬ chance.Draws saves scratches (labelled stem (chance.label n)) := by
  intro hdraws
  generalize hname : labelled stem (chance.label n) = name at hdraws
  have hlabel : ∀ {other label : String}, '-' ∉ label.toList → labelled other label = name →
      chance.label n = label := fun hdash hother =>
    label_eq_of_labelled_eq (hfresh.label n).not_mem_dash hdash (hname.trans hother.symm)
  cases hdraws with
  | stored other hlater =>
    have hsame := hfresh.distinct _ _ (hlabel (hfresh.label _).not_mem_dash rfl)
    omega
  | archive hlater =>
    exact hfresh.label_ne_archive _ _ (hlabel
      (not_mem_archive (hfresh.scratchLabel _).not_mem_dash (by decide)) rfl)
  | artifact hlater =>
    exact hfresh.apart _ _ (hlabel (hfresh.scratchLabel _).not_mem_dash rfl)

/-- No file on the disk has a name that is still to be drawn. -/
def Site.Unused (chance : Chance) (site : Site) : Prop :=
  ∀ file ∈ site.disk.files, ∀ name, file.1.getLast? = some name →
    ¬ chance.Draws site.saves site.scratches name

/-- Where a name leads that is still to be drawn, there is no file. -/
lemma Site.Unused.lacks {name : String} (h : site.Unused chance)
    (hdraws : chance.Draws site.saves site.scratches name) (hlast : place.getLast? = some name) :
    Disk.Lacks place site.disk.files := by
  rintro file hfile rfl
  exact h file hfile name hlast hdraws

/-- Work that leaves all files alone leaves the names unused. -/
lemma Site.Unused.congr (h : site.Unused chance) (hfiles : after.disk.files = site.disk.files)
    (hsaves : site.saves ≤ after.saves) (hscratches : site.scratches ≤ after.scratches) :
    after.Unused chance := by
  intro file hfile name hlast hdraws
  rw [hfiles] at hfile
  exact h file hfile name hlast (hdraws.earlier hsaves hscratches)

/-- A stored file uses up its name. -/
lemma Site.Unused.stored (h : site.Unused chance) (hfresh : chance.Fresh) {bytes : Bytes}
    (hplace : StoredAt chance n place)
    (hfiles : after.disk.files = site.disk.files ++ [(place, bytes)]) (hn : n ≤ after.saves)
    (hsaves : site.saves ≤ after.saves) (hscratches : site.scratches ≤ after.scratches) :
    after.Unused chance := by
  intro file hfile name hlast hdraws
  rw [hfiles, List.mem_append, List.mem_singleton] at hfile
  rcases hfile with hfile | rfl
  · exact h file hfile name hlast (hdraws.earlier hsaves hscratches)
  · obtain ⟨stem, hstem⟩ := hplace
    obtain rfl : name = labelled stem (chance.label n) :=
      Option.some.inj (hlast.symm.trans hstem)
    exact hfresh.not_draws hn stem hdraws

end Intercept
