/-
# Files that stay

A file that is on the disk stays there, with its contents, while folders are made and while other
files are made, written and removed.  Two files are different if the last names of their paths are.
So `Disk.Keeps` follows one file through work on the disk, and the path that led to the file leads
to it afterwards, since no folder that the path goes through is ever taken away.
-/
import Intercept.Proofs.Lists
import Intercept.System.Disk

namespace Intercept

namespace Path

/-! ### The last name of a path -/

lemma split_ne_nil (chars : List Char) : split chars ≠ [] := by
  induction chars with
  | nil => simp [split]
  | cons c rest ih =>
    rw [split]
    split
    · simp
    · split
      · simp
      · simp

lemma split_of_not_mem {chars : List Char} (hslash : '/' ∉ chars) : split chars = [chars] := by
  induction chars with
  | nil => rfl
  | cons c rest ih =>
    rw [List.mem_cons, not_or] at hslash
    rw [split, if_neg (Ne.symm hslash.1), ih hslash.2]

lemma split_append_slash (front back : List Char) :
    split (front ++ '/' :: back) = split front ++ split back := by
  induction front with
  | nil => simp [split]
  | cons c rest ih =>
    rw [List.cons_append, split, split, ih]
    split
    · rfl
    · obtain ⟨first, more, hfirst⟩ := List.exists_cons_of_ne_nil (split_ne_nil rest)
      simp [hfirst]

variable {name : String}

/-- A name in a folder stands behind the names of the folder, in place of the empty one if the
folder is written with a slash at its end. -/
lemma names_join (hslash : '/' ∉ name.toList) (folder : String) :
    ∃ front, names (join folder name) = front ++ [name] ∧
      (names folder = front ++ [""] ∨ names folder = front) := by
  have hrelative : isAbsolute name = false := by
    rw [isAbsolute, beq_eq_false_iff_ne]
    exact fun hhead => hslash (List.mem_of_head? hhead)
  have hname : split name.toList = [name.toList] := split_of_not_mem hslash
  have hbehind : ∀ front : List Char, (split (front ++ '/' :: name.toList)).map String.ofList
      = (split front).map String.ofList ++ [name] := by
    intro front
    rw [split_append_slash, hname]
    simp
  rw [join, if_neg (by rw [hrelative]; exact Bool.false_ne_true), names]
  split
  · next hfolder =>
    rcases hfolder with hempty | hend
    · refine ⟨[], ?_, .inl ?_⟩
      · rw [String.isEmpty_iff.1 hempty, String.empty_append, hname]
        simp
      · rw [String.isEmpty_iff.1 hempty]
        rfl
    · obtain ⟨front, hfront⟩ := List.getLast?_eq_some_iff.1 hend
      have happend : (folder ++ name).toList = front ++ '/' :: name.toList := by
        rw [String.toList_append, hfront, List.append_assoc]
        rfl
      refine ⟨(split front).map String.ofList, by rw [happend, hbehind], .inl ?_⟩
      rw [names, hfront, split_append_slash]
      simp [split]
  · have happend : (folder ++ "/" ++ name).toList = folder.toList ++ '/' :: name.toList := by
      rw [String.toList_append, String.toList_append, List.append_assoc]
      rfl
    exact ⟨names folder, by rw [happend, hbehind]; rfl, .inr rfl⟩

/-- A name in a folder is the last one of its path. -/
lemma getLast?_names_join (hslash : '/' ∉ name.toList) (folder : String) :
    (names (join folder name)).getLast? = some name := by
  obtain ⟨front, hnames, -⟩ := names_join hslash folder
  rw [hnames, List.getLast?_concat]

/-- A name in a folder starts where the folder does. -/
lemma isAbsolute_join (hslash : '/' ∉ name.toList) (folder : String) :
    isAbsolute (join folder name) = isAbsolute folder := by
  have hrelative : isAbsolute name = false := by
    rw [isAbsolute, beq_eq_false_iff_ne]
    exact fun hhead => hslash (List.mem_of_head? hhead)
  rw [join, if_neg (by rw [hrelative]; exact Bool.false_ne_true)]
  by_cases hempty : folder = ""
  · subst hempty
    rw [if_pos (.inl rfl), String.empty_append, hrelative]
    rfl
  · have hfirst : ∃ c rest, folder.toList = c :: rest :=
      List.exists_cons_of_ne_nil fun hnil => hempty (String.toList_eq_nil_iff.1 hnil)
    obtain ⟨c, rest, hfolder⟩ := hfirst
    split
    · rw [isAbsolute, isAbsolute, String.toList_append, hfolder]
      rfl
    · rw [isAbsolute, isAbsolute, String.toList_append, String.toList_append, hfolder]
      rfl

end Path

namespace Disk

variable {disk after later : Disk} {place other : Place} {bytes : Bytes}

/-! ### A file at a place -/

/-- There is a file at a place, with contents, and no folder. -/
structure HasFile (disk : Disk) (place : Place) (bytes : Bytes) : Prop where
  contents : disk.contents? place = some bytes
  apart : disk.hasFolder place = false

/-- Between two states of the disk a file at a place stays there, and so do all folders. -/
structure Keeps (place : Place) (disk after : Disk) : Prop where
  here : after.here = disk.here
  folders : ∀ other, disk.hasFolder other = true → after.hasFolder other = true
  file : ∀ bytes, disk.HasFile place bytes → after.HasFile place bytes

lemma Keeps.refl (place : Place) (disk : Disk) : Keeps place disk disk :=
  ⟨rfl, fun _ h => h, fun _ h => h⟩

lemma Keeps.trans (h : Keeps place disk after) (hlater : Keeps place after later) :
    Keeps place disk later :=
  ⟨hlater.here.trans h.here, fun other hother => hlater.folders other (h.folders other hother),
    fun bytes hbytes => hlater.file bytes (h.file bytes hbytes)⟩

lemma lookup_putFile (files : List (Place × Bytes)) :
    (putFile place bytes files).lookup other
      = if other = place then some bytes else files.lookup other :=
  lookup_upsert (putFile place bytes) rfl (fun _ _ _ => rfl) files

lemma contents?_put (disk : Disk) (place : Place) (bytes : Bytes) (other : Place) :
    (disk.put place bytes).contents? other
      = if other = place then some bytes else disk.contents? other :=
  lookup_putFile disk.files

lemma contents?_erase (disk : Disk) (hne : other ≠ place) :
    (disk.erase place).contents? other = disk.contents? other := by
  have hfilter : ∀ files : List (Place × Bytes),
      (files.filter fun file => file.1 != place).lookup other = files.lookup other := by
    intro files
    induction files with
    | nil => rfl
    | cons file rest ih =>
      obtain ⟨first, old⟩ := file
      by_cases hfirst : first = place
      · have hother : (other == first) = false := beq_eq_false_iff_ne.2 (hfirst ▸ hne)
        rw [List.filter_cons, if_neg (by simpa using hfirst), List.lookup_cons, hother, ih]
      · rw [List.filter_cons, if_pos (by simpa using hfirst), List.lookup_cons, List.lookup_cons,
          ih]
  exact hfilter disk.files

/-! ### Following a path -/

/-- Whether a path leads to a file at a place, or to the free place itself. -/
def Spot.IsAt (place : Place) : Spot → Prop
  | .folder _ => False
  | .file found _ => found = place
  | .free found _ => found = place

/-- What is known of a place that names lead to, if there is no folder there: a free place is
empty, and the place ends with the last of the names. -/
structure Reached (disk : Disk) (names : List String) (spot : Spot) (place : Place) : Prop where
  apart : disk.hasFolder place = false
  empty : ∀ slash, spot = .free place slash → disk.contents? place = none
  last : ∀ name, names.getLast? = some name → Path.isHere name = false → name ≠ ".." →
    place.getLast? = some name

lemma reached_of_walk {names : List String} {start : Place} {spot : Spot}
    (hwalk : disk.walk start names = .ok spot) (hat : spot.IsAt place) :
    Reached disk names spot place := by
  induction names generalizing start with
  | nil =>
    obtain rfl := Except.ok.inj hwalk
    exact hat.elim
  | cons first rest ih =>
    -- a name that is passed through is not the last one
    have hpassed : ∀ {next : Place}, disk.walk next rest = .ok spot →
        Reached disk (first :: rest) spot place := by
      intro next hnext
      have hreached := ih hnext
      cases rest with
      | nil =>
        obtain rfl := Except.ok.inj hnext
        exact hat.elim
      | cons second more =>
        exact ⟨hreached.apart, hreached.empty, fun name hname =>
          hreached.last name (by simpa using hname)⟩
    -- behind the place itself there are only slashes
    have hended : disk.hasFolder (start ++ [first]) = false → rest.all String.isEmpty = true →
        start ++ [first] = place → (∀ slash, spot = .free place slash →
          disk.contents? place = none) → Reached disk (first :: rest) spot place := by
      rintro hapart hslashes rfl hempty
      refine ⟨hapart, hempty, fun name hname hhere _ => ?_⟩
      cases rest with
      | nil => simpa using hname
      | cons second more =>
        have hmem : name ∈ second :: more := List.mem_of_getLast? (by simpa using hname)
        have hblank := List.all_eq_true.1 hslashes name hmem
        rw [Path.isHere, hblank] at hhere
        cases hhere
    rw [walk] at hwalk
    split at hwalk
    · exact hpassed hwalk
    · split at hwalk
      · exact hpassed hwalk
      · split at hwalk
        · cases hwalk
        · split at hwalk
          · exact hpassed hwalk
          · next hfolder =>
            rw [Bool.not_eq_true] at hfolder
            split at hwalk
            · split at hwalk
              · next hslashes =>
                obtain rfl := Except.ok.inj hwalk
                exact hended hfolder hslashes hat fun slash hfree => nomatch hfree
              · cases hwalk
            · next hnone =>
              split at hwalk
              · next hslashes =>
                obtain rfl := Except.ok.inj hwalk
                obtain rfl : start ++ [first] = place := hat
                exact hended hfolder hslashes rfl fun _ _ => by simpa using hnone
              · cases hwalk

/-- No names lead anywhere of which the last is too long. -/
lemma size_le_of_walk {names : List String} {name : String} {start : Place} {spot : Spot}
    (hwalk : disk.walk start names = .ok spot) (hlast : names.getLast? = some name)
    (hhere : Path.isHere name = false) (hup : name ≠ "..") : name.utf8ByteSize ≤ maxName := by
  induction names generalizing start with
  | nil => cases hlast
  | cons first rest ih =>
    rw [walk] at hwalk
    cases rest with
    | nil =>
      obtain rfl : first = name := by simpa using hlast
      rw [if_neg (Bool.eq_false_iff.1 hhere), if_neg (by simpa using hup)] at hwalk
      split at hwalk
      · cases hwalk
      · next hshort => exact Nat.not_lt.1 hshort
    | cons second more =>
      have hmore : (second :: more).getLast? = some name := by simpa using hlast
      -- there is more than slashes behind the first name
      have hname : ¬ (second :: more).all String.isEmpty = true := by
        intro hslashes
        rw [Path.isHere, List.all_eq_true.1 hslashes name (List.mem_of_getLast? hmore)] at hhere
        cases hhere
      split at hwalk
      · exact ih hwalk hmore
      · split at hwalk
        · exact ih hwalk hmore
        · split at hwalk
          · cases hwalk
          · split at hwalk
            · exact ih hwalk hmore
            · split at hwalk
              · cases hwalk
              · cases hwalk

/-- Names that lead to a place lead to the file there, as long as the folders stay. -/
lemma walk_file {names : List String} {start : Place} {spot : Spot} {slash : Bool}
    (hwalk : disk.walk start names = .ok spot)
    (hat : spot = .file place slash ∨ spot = .free place slash)
    (hfolders : ∀ other, disk.hasFolder other = true → after.hasFolder other = true)
    (hfile : after.HasFile place bytes) : after.walk start names = .ok (.file place slash) := by
  induction names generalizing start with
  | nil =>
    obtain rfl := Except.ok.inj hwalk
    rcases hat with hat | hat <;> cases hat
  | cons first rest ih =>
    have hfound : (after.contents? place).isSome = true := by rw [hfile.contents]; rfl
    -- the later walk takes every turn that the first one took
    rw [walk] at hwalk ⊢
    split at hwalk
    · next hhere => rw [if_pos hhere, ih hwalk]
    · next hhere =>
      rw [if_neg hhere]
      split at hwalk
      · next hup => rw [if_pos hup, ih hwalk]
      · next hup =>
        rw [if_neg hup]
        split at hwalk
        · cases hwalk
        · next hshort =>
          rw [if_neg hshort]
          split at hwalk
          · next hfolder => rw [if_pos (hfolders _ hfolder), ih hwalk]
          · split at hwalk
            · split at hwalk
              · -- here was a file, and it is the one at the place
                next hslashes =>
                obtain rfl := Except.ok.inj hwalk
                rcases hat with hat | hat
                · obtain ⟨rfl, rfl⟩ := Spot.file.inj hat
                  rw [if_neg (by rw [hfile.apart]; exact Bool.false_ne_true), if_pos hfound,
                    if_pos hslashes]
                · cases hat
              · cases hwalk
            · split at hwalk
              · -- here was nothing, and now there is the file
                next hslashes =>
                obtain rfl := Except.ok.inj hwalk
                rcases hat with hat | hat
                · cases hat
                · obtain ⟨rfl, rfl⟩ := Spot.free.inj hat
                  rw [if_neg (by rw [hfile.apart]; exact Bool.false_ne_true), if_pos hfound,
                    if_pos hslashes]
              · cases hwalk

/-- A path that leads to a place leads to the file there, as long as the folders stay. -/
lemma find_file {path : String} {spot : Spot} {slash : Bool} (hfind : disk.find path = .ok spot)
    (hat : spot = .file place slash ∨ spot = .free place slash) (hhere : after.here = disk.here)
    (hfolders : ∀ other, disk.hasFolder other = true → after.hasFolder other = true)
    (hfile : after.HasFile place bytes) : after.find path = .ok (.file place slash) := by
  rw [find] at hfind ⊢
  split at hfind
  · cases hfind
  · next hzero =>
    rw [if_neg hzero]
    split at hfind
    · cases hfind
    · next hempty =>
      rw [if_neg hempty]
      split at hfind
      · cases hfind
      · next hlong =>
        rw [if_neg hlong, follow, hhere]
        exact walk_file hfind hat hfolders hfile

lemma reached_of_find {path : String} {spot : Spot} (hfind : disk.find path = .ok spot)
    (hat : spot.IsAt place) : Reached disk (Path.names path) spot place := by
  rw [find] at hfind
  split at hfind
  · cases hfind
  · split at hfind
    · cases hfind
    · split at hfind
      · cases hfind
      · exact reached_of_walk hfind hat

/-- There is nothing at a path that ends with a name which is too long. -/
lemma size_le_of_find {folder name : String} {spot : Spot} (hslash : '/' ∉ name.toList)
    (hhere : Path.isHere name = false) (hup : name ≠ "..")
    (hfind : disk.find (Path.join folder name) = .ok spot) : name.utf8ByteSize ≤ maxName := by
  rw [find] at hfind
  split at hfind
  · cases hfind
  · split at hfind
    · cases hfind
    · split at hfind
      · cases hfind
      · exact size_le_of_walk hfind (Path.getLast?_names_join hslash folder) hhere hup

/-- A file that stays is read by its path. -/
lemma Keeps.read {path : String} (h : Keeps place disk after)
    (hfind : disk.find path = .ok (.file place false)) (hfile : disk.HasFile place bytes) :
    after.read path = .ok bytes := by
  have hafter := h.file bytes hfile
  rw [Disk.read, openPath, find_file hfind (.inl rfl) h.here h.folders hafter]
  simp only [hafter.contents]

/-! ### Work on other files -/

lemma keeps_put (hne : place ≠ other) (bytes : Bytes) : Keeps place disk (disk.put other bytes) :=
  ⟨rfl, fun _ h => h, fun _ h =>
    ⟨by rw [contents?_put, if_neg hne, h.contents], h.apart⟩⟩

/-- An open file takes all bytes, or only some of them if writing fails. -/
lemma Handle.take_cases (handle : Handle) (bytes : Bytes) :
    (∃ next, handle.take bytes = (.ok next, bytes) ∧ next.place = handle.place) ∨
      ∃ cause taken, handle.take bytes = (.error cause, taken) := by
  rw [take]
  split
  · exact .inl ⟨handle, rfl, rfl⟩
  · split
    · exact .inl ⟨_, rfl, rfl⟩
    · exact .inr ⟨_, _, rfl⟩

lemma openHandle_eq (disk : Disk) (place : Place) :
    ∃ trouble troubles, disk.openHandle place = (⟨place, trouble⟩, { disk with troubles }) := by
  rw [openHandle]
  cases disk.troubles with
  | nil => exact ⟨none, disk.troubles, rfl⟩
  | cons trouble troubles => exact ⟨some trouble, troubles, rfl⟩

/-- Whatever a write meets, it adds to the file, and it adds everything if it does not fail. -/
lemma write_cases (disk : Disk) (place : Place) (bytes : Bytes) :
    ∃ troubles written, (disk.write place bytes).2 = { disk.append place written with troubles } ∧
      ((disk.write place bytes).1 = .ok () → written = bytes) := by
  obtain ⟨trouble, troubles, hopen⟩ := openHandle_eq disk place
  simp only [write, hopen, writeTo]
  rcases Handle.take_cases ⟨place, trouble⟩ bytes with ⟨next, htake, -⟩ | ⟨cause, taken, htake⟩
  · exact ⟨troubles, bytes, by rw [htake]; rfl, fun _ => rfl⟩
  · refine ⟨troubles, taken, by rw [htake]; rfl, fun hwritten => ?_⟩
    rw [htake] at hwritten
    cases hwritten

lemma keeps_write (hne : place ≠ other) (bytes : Bytes) :
    Keeps place disk (disk.write other bytes).2 := by
  obtain ⟨troubles, written, hwrite, -⟩ := write_cases disk other bytes
  rw [hwrite]
  obtain ⟨hhere, hfolders, hfile⟩ : Keeps place disk (disk.append other written) :=
    keeps_put hne _
  exact ⟨hhere, hfolders, fun bytes h => ⟨(hfile bytes h).contents, (hfile bytes h).apart⟩⟩

lemma keeps_erase (hne : place ≠ other) : Keeps place disk (disk.erase other) :=
  ⟨rfl, fun _ h => h, fun _ h =>
    ⟨by rw [contents?_erase disk hne, h.contents], h.apart⟩⟩

/-! ### Making and removing a file -/

/-- A file is made at the end of its path, in place of one that is there or where nothing is. -/
lemma find_of_create {path : String} (hcreate : disk.create path = .ok (place, after)) :
    after = disk.put place [] ∧ ∃ spot, disk.find path = .ok spot ∧
      (spot = .file place false ∨ spot = .free place false) := by
  rw [create] at hcreate
  split at hcreate
  · next found hfind =>
    obtain ⟨rfl, rfl⟩ := Prod.mk.inj (Except.ok.inj hcreate)
    exact ⟨rfl, _, hfind, .inl rfl⟩
  · next found hfind =>
    obtain ⟨rfl, rfl⟩ := Prod.mk.inj (Except.ok.inj hcreate)
    exact ⟨rfl, _, hfind, .inr rfl⟩
  · cases hcreate
  · cases hcreate

/-- A file that is made is empty, its path leads to it, and its place ends with the last name of
the path. -/
lemma create_cases {path : String} (hcreate : disk.create path = .ok (place, after)) :
    after = disk.put place [] ∧ after.HasFile place [] ∧
      after.find path = .ok (.file place false) ∧
      ∃ spot, Reached disk (Path.names path) spot place := by
  obtain ⟨rfl, spot, hfind, hspot⟩ := find_of_create hcreate
  have hreached : Reached disk (Path.names path) spot place := by
    refine reached_of_find hfind ?_
    rcases hspot with rfl | rfl <;> rfl
  have hfile : (disk.put place []).HasFile place [] :=
    ⟨by rw [contents?_put, if_pos rfl], hreached.apart⟩
  exact ⟨rfl, hfile, find_file hfind hspot rfl (fun _ h => h) hfile, spot, hreached⟩

/-- A write adds bytes to the file, and all of them if it does not fail. -/
lemma HasFile.write {old : Bytes} (h : disk.HasFile place old) (bytes : Bytes) :
    ∃ written, (disk.write place bytes).2.HasFile place (old ++ written) ∧
      ((disk.write place bytes).1 = .ok () → written = bytes) := by
  obtain ⟨troubles, written, hwrite, hall⟩ := write_cases disk place bytes
  have hcontents : (disk.append place written).contents? place = some (old ++ written) := by
    rw [Disk.append, contents?_put, if_pos rfl, h.contents, Option.getD_some]
  refine ⟨written, ?_, hall⟩
  rw [hwrite]
  exact ⟨hcontents, h.apart⟩

/-- The path of a file leads to it when something was written to it. -/
lemma find_write {path : String} {old : Bytes} (hfind : disk.find path = .ok (.file place false))
    (h : disk.HasFile place old) (bytes : Bytes) :
    (disk.write place bytes).2.find path = .ok (.file place false) := by
  obtain ⟨written, hfile, -⟩ := h.write bytes
  obtain ⟨_, _, hwrite, -⟩ := write_cases disk place bytes
  have hhere : (disk.write place bytes).2.here = disk.here := by rw [hwrite]; rfl
  have hfolders : (disk.write place bytes).2.folders = disk.folders := by rw [hwrite]; rfl
  refine find_file hfind (.inl rfl) hhere (fun other hother => ?_) hfile
  rwa [hasFolder, hfolders]

/-- A file is made at a free place. -/
lemma create_of_free {path : String} (hfind : disk.find path = .ok (.free place false)) :
    disk.create path = .ok (place, disk.put place []) := by
  rw [create, hfind]

lemma contents?_erase_self (disk : Disk) (place : Place) :
    (disk.erase place).contents? place = none := by
  refine List.lookup_eq_none_iff.2 fun file hfile => ?_
  have hother := (List.mem_filter.1 hfile).2
  rwa [bne_iff_ne, ne_comm, ← bne_iff_ne] at hother

/-- Names that lead to a place lead to it as a free one, as long as there are the same folders and
no file is there. -/
lemma walk_free {names : List String} {start : Place} {spot : Spot} {slash : Bool}
    (hwalk : disk.walk start names = .ok spot)
    (hat : spot = .file place slash ∨ spot = .free place slash)
    (hfolders : ∀ other, after.hasFolder other = disk.hasFolder other)
    (hempty : after.contents? place = none) : after.walk start names = .ok (.free place slash) := by
  induction names generalizing start with
  | nil =>
    obtain rfl := Except.ok.inj hwalk
    rcases hat with hat | hat <;> cases hat
  | cons first rest ih =>
    have hnone : ¬ (after.contents? place).isSome = true := by
      rw [hempty]
      exact Bool.false_ne_true
    rw [walk] at hwalk ⊢
    split at hwalk
    · next hhere => rw [if_pos hhere, ih hwalk]
    · next hhere =>
      rw [if_neg hhere]
      split at hwalk
      · next hup => rw [if_pos hup, ih hwalk]
      · next hup =>
        rw [if_neg hup]
        split at hwalk
        · cases hwalk
        · next hshort =>
          rw [if_neg hshort, hfolders]
          split at hwalk
          · next hfolder => rw [if_pos hfolder, ih hwalk]
          · next hfolder =>
            rw [if_neg hfolder]
            split at hwalk
            · split at hwalk
              · -- here was a file, and it is gone
                next hslashes =>
                obtain rfl := Except.ok.inj hwalk
                rcases hat with hat | hat
                · obtain ⟨rfl, rfl⟩ := Spot.file.inj hat
                  rw [if_neg hnone, if_pos hslashes]
                · cases hat
              · cases hwalk
            · split at hwalk
              · -- here was nothing, and there still is nothing
                next hslashes =>
                obtain rfl := Except.ok.inj hwalk
                rcases hat with hat | hat
                · cases hat
                · obtain ⟨rfl, rfl⟩ := Spot.free.inj hat
                  rw [if_neg hnone, if_pos hslashes]
              · cases hwalk

lemma find_free {path : String} {spot : Spot} {slash : Bool} (hfind : disk.find path = .ok spot)
    (hat : spot = .file place slash ∨ spot = .free place slash) (hhere : after.here = disk.here)
    (hfolders : ∀ other, after.hasFolder other = disk.hasFolder other)
    (hempty : after.contents? place = none) : after.find path = .ok (.free place slash) := by
  rw [find] at hfind ⊢
  split at hfind
  · cases hfind
  · next hzero =>
    rw [if_neg hzero]
    split at hfind
    · cases hfind
    · next hnil =>
      rw [if_neg hnil]
      split at hfind
      · cases hfind
      · next hlong =>
        rw [if_neg hlong, follow, hhere]
        exact walk_free hfind hat hfolders hempty

/-- A path that leads to a file leads to a free place when the file is taken away. -/
lemma find_erase {path : String} {slash : Bool} (hfind : disk.find path = .ok (.file place slash)) :
    (disk.erase place).find path = .ok (.free place slash) :=
  find_free hfind (.inl rfl) rfl (fun _ => rfl) (contents?_erase_self disk place)

/-- A file that is removed is at the end of its path. -/
lemma find_of_remove {path : String} (hremove : disk.remove path = .ok after) :
    ∃ place, after = disk.erase place ∧ disk.find path = .ok (.file place false) := by
  rw [remove] at hremove
  split at hremove
  · next found hfind => exact ⟨found, (Except.ok.inj hremove).symm, hfind⟩
  · cases hremove
  · cases hremove
  · cases hremove
  · cases hremove

lemma remove_cases {path : String} (hremove : disk.remove path = .ok after) :
    ∃ place spot, after = disk.erase place ∧ Reached disk (Path.names path) spot place := by
  obtain ⟨place, rfl, hfind⟩ := find_of_remove hremove
  exact ⟨place, _, rfl, reached_of_find hfind rfl⟩

/-- A path that leads to a file is enough to remove it. -/
lemma remove_of_find {path : String} (hfind : disk.find path = .ok (.file place false)) :
    disk.remove path = .ok (disk.erase place) := by
  rw [remove, hfind]

/-! ### All files -/

variable {files rest : List (Place × Bytes)}

/-- None of some files is at a place. -/
def Lacks (place : Place) (files : List (Place × Bytes)) : Prop := ∀ file ∈ files, file.1 ≠ place

lemma lookup_of_lacks (hlacks : Lacks place files) :
    (files ++ rest).lookup place = rest.lookup place := by
  induction files with
  | nil => rfl
  | cons file more ih =>
    have hne : (place == file.1) = false :=
      beq_eq_false_iff_ne.2 (hlacks file List.mem_cons_self).symm
    rw [List.cons_append, List.lookup_cons, hne]
    exact ih fun other hother => hlacks other (List.mem_cons_of_mem _ hother)

lemma putFile_of_lacks (hlacks : Lacks place files) (bytes : Bytes) :
    putFile place bytes (files ++ rest) = files ++ putFile place bytes rest := by
  induction files with
  | nil => rfl
  | cons file more ih =>
    rw [List.cons_append, putFile, if_neg (hlacks file List.mem_cons_self),
      ih fun other hother => hlacks other (List.mem_cons_of_mem _ hother)]
    rfl

/-- A new file comes behind all others. -/
lemma files_put (hlacks : Lacks place disk.files) (bytes : Bytes) :
    (disk.put place bytes).files = disk.files ++ [(place, bytes)] := by
  have hput : putFile place bytes (disk.files ++ []) = disk.files ++ [(place, bytes)] :=
    putFile_of_lacks hlacks bytes
  rwa [List.append_nil] at hput

/-- The last file stays the last one when it grows. -/
lemma files_append {old : Bytes} (hfiles : disk.files = files ++ [(place, old)])
    (hlacks : Lacks place files) (bytes : Bytes) :
    (disk.append place bytes).files = files ++ [(place, old ++ bytes)] := by
  have hcontents : disk.contents? place = some old := by
    rw [contents?, hfiles, lookup_of_lacks hlacks]
    simp
  rw [append, hcontents, put, hfiles, putFile_of_lacks hlacks]
  simp [putFile]

lemma filter_of_lacks (hlacks : Lacks place files) :
    (files.filter fun file => file.1 != place) = files :=
  List.filter_eq_self.2 fun file hfile => bne_iff_ne.2 (hlacks file hfile)

/-- Where no file is, none is taken away. -/
lemma files_erase_of_lacks (hlacks : Lacks place disk.files) :
    (disk.erase place).files = disk.files :=
  filter_of_lacks hlacks

/-- A file is taken away from between the others. -/
lemma files_erase (hfiles : disk.files = files ++ (place, bytes) :: rest)
    (hlacks : Lacks place files) (hrest : Lacks place rest) :
    (disk.erase place).files = files ++ rest := by
  show (disk.files.filter fun file => file.1 != place) = files ++ rest
  rw [hfiles, List.filter_append, filter_of_lacks hlacks, List.filter_cons,
    if_neg (by simp), filter_of_lacks hrest]

/-- Whatever a write to the last file meets, no other file changes. -/
lemma files_write {old : Bytes} (hfiles : disk.files = files ++ [(place, old)])
    (hlacks : Lacks place files) (bytes : Bytes) :
    ∃ written, (disk.write place bytes).2.files = files ++ [(place, old ++ written)] ∧
      ((disk.write place bytes).1 = .ok () → written = bytes) := by
  obtain ⟨troubles, written, hwrite, hall⟩ := write_cases disk place bytes
  refine ⟨written, ?_, hall⟩
  rw [hwrite]
  exact files_append hfiles hlacks written

/-- Some files are each at a place of its own, where none of the old files is. -/
structure Beside (old files : List (Place × Bytes)) : Prop where
  distinct : (files.map Prod.fst).Nodup
  new : ∀ file ∈ files, Lacks file.1 old

lemma Beside.nil (old : List (Place × Bytes)) : Beside old [] :=
  ⟨List.nodup_nil, List.forall_mem_nil _⟩

/-- A file is new, and others are new beside it. -/
lemma Beside.cons {old : List (Place × Bytes)} (hlacks : Lacks place old)
    (h : Beside (old ++ [(place, bytes)]) files) : Beside old ((place, bytes) :: files) := by
  refine ⟨?_, fun file hfile other hother => ?_⟩
  · rw [List.map_cons, List.nodup_cons]
    refine ⟨fun hmem => ?_, h.distinct⟩
    obtain ⟨file, hfile, hplace⟩ := List.mem_map.1 hmem
    exact h.new file hfile (place, bytes) (List.mem_append_right _ List.mem_cons_self) hplace.symm
  · rcases List.mem_cons.1 hfile with rfl | hfile
    · exact hlacks other hother
    · exact h.new file hfile other (List.mem_append_left _ hother)

lemma Beside.tail {old : List (Place × Bytes)} (h : Beside old ((place, bytes) :: files)) :
    Lacks place old ∧ Lacks place files ∧ Beside old files := by
  obtain ⟨hplace, hdistinct⟩ := List.nodup_cons.1 h.distinct
  refine ⟨h.new _ List.mem_cons_self, ?_, hdistinct, fun file hfile =>
    h.new file (List.mem_cons_of_mem _ hfile)⟩
  intro file hfile hsame
  exact hplace (List.mem_map.2 ⟨file, hfile, hsame⟩)

end Disk

end Intercept
