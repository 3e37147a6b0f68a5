/-
# Work at some places of the disk

The place that a path leads to does not depend on what is there: it is read off the names of the
path, one after the other (`Disk.placeOf`).  A name in a folder leads to the place of the folder
with the name behind it.

`Disk.Works` says that one disk came of another by making folders where nothing was, and by making,
writing and removing files at some places only.  Then whatever was touched is at one of them, and
the files at all other places are as they were.
-/
import Mathlib.Logic.Relation
import Intercept.Proofs.System.Disk

namespace Intercept

namespace Disk

variable {disk after later : Disk} {place other : Place} {inside more : Place → Prop}

/-! ### Where a path leads -/

/-- The place that names lead to from another. -/
def lead : Place → List String → Place
  | place, [] => place
  | place, name :: rest =>
    if Path.isHere name then lead place rest
    else if name == ".." then lead place.dropLast rest
    else lead (place ++ [name]) rest

/-- The place that a path leads to, where `here` is the working folder. -/
def placeOf (here : Place) (path : String) : Place :=
  lead (if Path.isAbsolute path then [] else here) (Path.names path)

lemma lead_append (start : Place) (front back : List String) :
    lead start (front ++ back) = lead (lead start front) back := by
  induction front generalizing start with
  | nil => rfl
  | cons name rest ih =>
    rw [List.cons_append, lead, lead]
    split
    · exact ih _
    · split
      · exact ih _
      · exact ih _

/-- Slashes lead nowhere else. -/
lemma lead_of_blank {names : List String} (hblank : names.all String.isEmpty = true)
    (start : Place) : lead start names = start := by
  induction names with
  | nil => rfl
  | cons name rest ih =>
    rw [List.all_cons, Bool.and_eq_true] at hblank
    rw [lead, if_pos (by rw [Path.isHere, hblank.1]; rfl), ih hblank.2]

/-- A name in a folder leads to the place of the folder with the name behind it. -/
lemma placeOf_join {name : String} (hslash : '/' ∉ name.toList) (hhere : Path.isHere name = false)
    (hup : name ≠ "..") (here : Place) (folder : String) :
    placeOf here (Path.join folder name) = placeOf here folder ++ [name] := by
  obtain ⟨front, hnames, hfolder⟩ := Path.names_join hslash folder
  have hlast : ∀ start, lead start [name] = start ++ [name] := by
    intro start
    rw [lead, if_neg (by rw [hhere]; exact Bool.false_ne_true), if_neg (by simpa using hup)]
    rfl
  have hfront : ∀ start, lead start front = lead start (Path.names folder) := by
    intro start
    rcases hfolder with hfolder | hfolder
    · rw [hfolder, lead_append]
      exact (lead_of_blank rfl _).symm
    · rw [hfolder]
  rw [placeOf, placeOf, Path.isAbsolute_join hslash, hnames, lead_append, hlast, hfront]

/-- The place of what is at the end of a path. -/
def Spot.target : Spot → Place
  | .folder place => place
  | .file place _ => place
  | .free place _ => place

lemma Spot.IsAt.target_eq {spot : Spot} (h : spot.IsAt place) : spot.target = place := by
  cases spot with
  | folder found => exact h.elim
  | file found slash => exact h
  | free found slash => exact h

lemma place_of_walk {names : List String} {start : Place} {spot : Spot}
    (hwalk : disk.walk start names = .ok spot) : spot.target = lead start names := by
  induction names generalizing start with
  | nil =>
    obtain rfl := Except.ok.inj hwalk
    rfl
  | cons first rest ih =>
    rw [walk] at hwalk
    rw [lead]
    split at hwalk
    · next hhere => rw [if_pos hhere, ih hwalk]
    · next hhere =>
      rw [if_neg hhere]
      split at hwalk
      · next hup => rw [if_pos hup, ih hwalk]
      · next hup =>
        rw [if_neg hup]
        split at hwalk
        · cases hwalk
        · split at hwalk
          · exact ih hwalk
          · split at hwalk
            · split at hwalk
              · next hslashes =>
                obtain rfl := Except.ok.inj hwalk
                exact (lead_of_blank hslashes _).symm
              · cases hwalk
            · split at hwalk
              · next hslashes =>
                obtain rfl := Except.ok.inj hwalk
                exact (lead_of_blank hslashes _).symm
              · cases hwalk

/-- Whatever is there, a path leads to its place. -/
lemma place_of_find {path : String} {spot : Spot} (hfind : disk.find path = .ok spot) :
    spot.target = placeOf disk.here path := by
  rw [find] at hfind
  split at hfind
  · cases hfind
  · split at hfind
    · cases hfind
    · split at hfind
      · cases hfind
      · exact place_of_walk hfind

/-- Wherever there is a file for a path, or could be one, it is at one of some places. -/
def Leads (inside : Place → Prop) (here : Place) (path : String) : Prop :=
  ∀ (disk : Disk) (spot : Spot) (place : Place), disk.here = here → disk.find path = .ok spot →
    spot.IsAt place → inside place

lemma leads_anywhere (here : Place) (path : String) : Leads (fun _ => True) here path :=
  fun _ _ _ _ _ _ => trivial

/-- The path of a name in a folder leads to the place of the folder with the name behind it. -/
lemma leads_join {here : Place} {folder name : String} (hslash : '/' ∉ name.toList)
    (hhere : Path.isHere name = false) (hup : name ≠ "..")
    (hplace : inside (placeOf here folder ++ [name])) :
    Leads inside here (Path.join folder name) := by
  rintro disk spot place rfl hfind hat
  rw [← hat.target_eq, place_of_find hfind, placeOf_join hslash hhere hup]
  exact hplace

/-! ### Work at some places -/

/-- One change of a disk: a folder is made where nothing was, or a file is made, written or removed
at one of some places. -/
inductive Change (inside : Place → Prop) (disk : Disk) : Disk → Prop where
  | folder {place : Place} (hfree : disk.contents? place = none) :
    Change inside disk { disk with folders := disk.folders ++ [place] }
  | put {place : Place} (hplace : inside place) (bytes : Bytes) :
    Change inside disk (disk.put place bytes)
  | write {place : Place} (hplace : inside place) (bytes : Bytes) :
    Change inside disk (disk.write place bytes).2
  | erase {place : Place} (hplace : inside place) : Change inside disk (disk.erase place)

/-- One disk comes of another by work on the files at some places, and by making folders. -/
def Works (inside : Place → Prop) : Disk → Disk → Prop := Relation.ReflTransGen (Change inside)

lemma Works.refl (inside : Place → Prop) (disk : Disk) : Works inside disk disk :=
  Relation.ReflTransGen.refl

lemma Works.trans (h : Works inside disk after) (hlater : Works inside after later) :
    Works inside disk later :=
  Relation.ReflTransGen.trans h hlater

lemma Change.works (h : Change inside disk after) : Works inside disk after :=
  Relation.ReflTransGen.single h

lemma note_eq (hplace : inside place) (touched : List Place) :
    ∃ new, note place touched = new ++ touched ∧ ∀ other ∈ new, inside other := by
  rw [note]
  split
  · exact ⟨[], rfl, List.forall_mem_nil _⟩
  · exact ⟨[place], rfl, List.forall_mem_singleton.2 hplace⟩

/-- Where files were touched is noted. -/
lemma Change.touched (h : Change inside disk after) :
    ∃ new, after.touched = new ++ disk.touched ∧ ∀ place ∈ new, inside place := by
  cases h with
  | folder hfree => exact ⟨[], rfl, List.forall_mem_nil _⟩
  | put hplace bytes => exact note_eq hplace _
  | @write place hplace bytes =>
    obtain ⟨_, _, hwrite, -⟩ := write_cases disk place bytes
    rw [hwrite]
    exact note_eq hplace _
  | erase hplace => exact note_eq hplace _

lemma Works.touched (h : Works inside disk after) :
    ∃ new, after.touched = new ++ disk.touched ∧ ∀ place ∈ new, inside place := by
  induction h with
  | refl => exact ⟨[], rfl, List.forall_mem_nil _⟩
  | tail _ hchange ih =>
    obtain ⟨before, hbefore, hall⟩ := ih
    obtain ⟨new, hnew, hmore⟩ := hchange.touched
    refine ⟨new ++ before, by rw [hnew, hbefore, List.append_assoc], fun place hplace => ?_⟩
    exact (List.mem_append.1 hplace).elim (hmore place) (hall place)

lemma Change.here (h : Change inside disk after) : after.here = disk.here := by
  cases h with
  | folder hfree => rfl
  | put hplace bytes => rfl
  | @write place hplace bytes =>
    obtain ⟨_, _, hwrite, -⟩ := write_cases disk place bytes
    rw [hwrite]
    rfl
  | erase hplace => rfl

lemma Works.here (h : Works inside disk after) : after.here = disk.here := by
  induction h with
  | refl => rfl
  | tail _ hchange ih => exact hchange.here.trans ih

lemma ne_of_not_inside (hplace : ¬ inside place) (hother : inside other) : place ≠ other := by
  rintro rfl
  exact hplace hother

/-- A file somewhere else stays as it is. -/
lemma Change.keeps (h : Change inside disk after) (hplace : ¬ inside place) :
    Keeps place disk after := by
  cases h with
  | @folder made hfree =>
    refine ⟨rfl, fun other hother => ?_, fun bytes hfile => ⟨hfile.contents, ?_⟩⟩
    · simp only [hasFolder, List.contains_iff_mem, List.mem_append] at hother ⊢
      exact .inl hother
    · -- the new folder is not where the file is
      have hmade : place ≠ made := by
        rintro rfl
        rw [hfile.contents] at hfree
        cases hfree
      have hapart := hfile.apart
      rw [hasFolder, ← Bool.not_eq_true, List.contains_iff_mem] at hapart ⊢
      simpa [hmade] using hapart
  | put hother bytes => exact keeps_put (ne_of_not_inside hplace hother) bytes
  | write hother bytes => exact keeps_write (ne_of_not_inside hplace hother) bytes
  | erase hother => exact keeps_erase (ne_of_not_inside hplace hother)

lemma Works.keeps (h : Works inside disk after) (hplace : ¬ inside place) :
    Keeps place disk after := by
  induction h with
  | refl => exact Keeps.refl place disk
  | tail _ hchange ih => exact ih.trans (hchange.keeps hplace)

/-- Somewhere else there is a file afterwards if there was one, and it is the same. -/
lemma Change.contents? (h : Change inside disk after) (hplace : ¬ inside place) :
    after.contents? place = disk.contents? place := by
  cases h with
  | folder hfree => rfl
  | put hother bytes => rw [contents?_put, if_neg (ne_of_not_inside hplace hother)]
  | @write other hother bytes =>
    obtain ⟨_, written, hwrite, -⟩ := write_cases disk other bytes
    rw [hwrite]
    exact (contents?_put disk other _ place).trans (if_neg (ne_of_not_inside hplace hother))
  | erase hother => exact contents?_erase disk (ne_of_not_inside hplace hother)

lemma Works.contents? (h : Works inside disk after) (hplace : ¬ inside place) :
    after.contents? place = disk.contents? place := by
  induction h with
  | refl => rfl
  | tail _ hchange ih => exact (hchange.contents? hplace).trans ih

/-- Work at no place at all makes folders only. -/
lemma Works.files (h : Works (fun _ => False) disk after) : after.files = disk.files := by
  induction h with
  | refl => rfl
  | tail _ hchange ih =>
    cases hchange with
    | folder hfree => exact ih
    | put hplace bytes => exact hplace.elim
    | write hplace bytes => exact hplace.elim
    | erase hplace => exact hplace.elim

/-- Making folders meets nothing that writing would meet. -/
lemma Works.troubles (h : Works (fun _ => False) disk after) :
    after.troubles = disk.troubles := by
  induction h with
  | refl => rfl
  | tail _ hchange ih =>
    cases hchange with
    | folder hfree => exact ih
    | put hplace bytes => exact hplace.elim
    | write hplace bytes => exact hplace.elim
    | erase hplace => exact hplace.elim

/-! ### What is done to the disk -/

/-- A folder is only made where there is nothing. -/
lemma works_makeAt {absolute : Bool} {names : List String}
    (hmake : disk.makeAt (disk.follow absolute names) = .ok after) : Works inside disk after := by
  unfold makeAt at hmake
  split at hmake
  · next found slash hfollow =>
    obtain rfl := Except.ok.inj hmake
    have hreached := reached_of_walk hfollow (show Spot.IsAt found (.free found slash) from rfl)
    exact (Change.folder (hreached.empty slash rfl)).works
  · cases hmake
  · cases hmake

lemma works_makeChain (inside : Place → Prop) (absolute : Bool) (names : List String)
    (disk : Disk) : Works inside disk (disk.makeChain absolute names).2 := by
  induction names generalizing disk with
  | nil => exact Works.refl inside disk
  | cons name before ih =>
    rw [makeChain]
    simp only
    split
    · next hmake => exact works_makeAt hmake
    · have hbefore := ih disk
      split
      · next hchain =>
        rw [hchain] at hbefore
        exact hbefore
      · next hchain =>
        rw [hchain] at hbefore
        split
        · next hmake => exact hbefore.trans (works_makeAt hmake)
        · exact hbefore
    · exact Works.refl inside disk

lemma works_makeFolders (inside : Place → Prop) (path : String) (disk : Disk) :
    Works inside disk (disk.makeFolders path).2 := by
  rw [makeFolders]
  split
  · exact Works.refl inside disk
  · split
    · exact Works.refl inside disk
    · split
      · exact Works.refl inside disk
      · exact works_makeChain inside _ _ disk

lemma works_makeParent (inside : Place → Prop) (path : String) (disk : Disk) :
    Works inside disk (disk.makeParent path).2 := by
  rw [makeParent]
  split
  · exact Works.refl inside disk
  · split
    · exact Works.refl inside disk
    · split
      · exact Works.refl inside disk
      · exact works_makeChain inside _ _ disk

/-- Making folders changes no file. -/
@[simp] lemma files_makeFolders (path : String) (disk : Disk) :
    (disk.makeFolders path).2.files = disk.files :=
  (works_makeFolders (fun _ => False) path disk).files

@[simp] lemma files_makeParent (path : String) (disk : Disk) :
    (disk.makeParent path).2.files = disk.files :=
  (works_makeParent (fun _ => False) path disk).files

lemma troubles_makeParent (path : String) (disk : Disk) :
    (disk.makeParent path).2.troubles = disk.troubles :=
  (works_makeParent (fun _ => False) path disk).troubles

/-- A file is made where its path leads to. -/
lemma works_create {path : String} (hleads : Leads inside disk.here path)
    (hcreate : disk.create path = .ok (place, after)) : Works inside disk after ∧ inside place := by
  obtain ⟨rfl, spot, hfind, hspot⟩ := find_of_create hcreate
  have hat : spot.IsAt place := by
    rcases hspot with rfl | rfl <;> rfl
  have hplace := hleads disk spot place rfl hfind hat
  exact ⟨(Change.put hplace []).works, hplace⟩

/-- A file is removed where its path leads to. -/
lemma works_remove {path : String} (hleads : Leads inside disk.here path)
    (hremove : disk.remove path = .ok after) : Works inside disk after := by
  obtain ⟨place, rfl, hfind⟩ := find_of_remove hremove
  exact (Change.erase (hleads disk _ place rfl hfind rfl)).works

/-! ### Other troubles ahead -/

/-- The disk with other troubles ahead. -/
def facing (disk : Disk) (troubles : List (Nat × SystemError)) : Disk := { disk with troubles }

variable {troubles : List (Nat × SystemError)}

lemma walk_facing (disk : Disk) (names : List String) (start : Place) :
    (disk.facing troubles).walk start names = disk.walk start names := by
  induction names generalizing start with
  | nil => rfl
  | cons name rest ih =>
    rw [walk, walk]
    simp only [ih]
    rfl

lemma follow_facing (disk : Disk) (absolute : Bool) (names : List String) :
    (disk.facing troubles).follow absolute names = disk.follow absolute names :=
  walk_facing disk names _

/-- A path leads to the same, whatever is ahead. -/
lemma find_facing (disk : Disk) (path : String) :
    (disk.facing troubles).find path = disk.find path := by
  rw [find, find, follow_facing]

lemma makeAt_facing (disk : Disk) (spot : Except SystemError Spot) :
    (disk.facing troubles).makeAt spot = (disk.makeAt spot).map (facing · troubles) := by
  unfold makeAt
  split <;> rfl

lemma makeChain_facing (disk : Disk) (absolute : Bool) (names : List String) :
    (disk.facing troubles).makeChain absolute names
      = (disk.makeChain absolute names).map id (facing · troubles) := by
  induction names generalizing disk with
  | nil => rfl
  | cons name before ih =>
    rw [makeChain, makeChain]
    simp only [follow_facing, makeAt_facing, ih]
    cases disk.makeAt (disk.follow absolute (name :: before).reverse) with
    | ok made => rfl
    | error cause =>
      cases cause
      case notFound =>
        rcases disk.makeChain absolute before with ⟨made, later⟩
        cases made with
        | error cause => rfl
        | ok done =>
          simp only [Except.map, Prod.map, id, follow_facing, makeAt_facing]
          cases later.makeAt (later.follow absolute (name :: before).reverse) <;> rfl
      all_goals rfl

/-- Folders are made in the same way, whatever is ahead. -/
lemma makeFolders_facing (disk : Disk) (path : String) :
    (disk.facing troubles).makeFolders path
      = (disk.makeFolders path).map id (facing · troubles) := by
  rw [makeFolders, makeFolders, makeChain_facing]
  split
  · rfl
  · split
    · rfl
    · split <;> rfl

lemma makeParent_facing (disk : Disk) (path : String) :
    (disk.facing troubles).makeParent path
      = (disk.makeParent path).map id (facing · troubles) := by
  rw [makeParent, makeParent, makeChain_facing]
  split
  · rfl
  · split
    · rfl
    · split <;> rfl

/-- A file is made at the same place, whatever is ahead. -/
lemma create_facing {path : String} (hcreate : disk.create path = .ok (place, after)) :
    (disk.facing troubles).create path = .ok (place, after.facing troubles) := by
  obtain ⟨rfl, spot, hfind, hspot⟩ := find_of_create hcreate
  rw [create, find_facing, hfind]
  rcases hspot with rfl | rfl <;> rfl

/-- A file that takes so many bytes takes any that are no more. -/
lemma write_facing (disk : Disk) (place : Place) {room : Nat} {bytes : Bytes}
    (hroom : bytes.length ≤ room) (cause : SystemError) :
    (disk.facing ((room, cause) :: troubles)).write place bytes
      = (.ok (), (disk.facing troubles).append place bytes) := by
  rw [write, facing, openHandle]
  simp only [writeTo, Handle.take, if_pos hroom]
  rfl

/-- The next files that are written take so many bytes, in turn. -/
def HasRoom : List Nat → List (Nat × SystemError) → Prop
  | [], _ | _ :: _, [] => True
  | size :: sizes, (room, _) :: troubles => size ≤ room ∧ HasRoom sizes troubles

lemma write_of_hasRoom {size : Nat} {sizes : List Nat} {bytes : Bytes}
    (hroom : HasRoom (size :: sizes) disk.troubles) (hsize : bytes.length ≤ size)
    (place : Place) :
    ∃ troubles, HasRoom sizes troubles ∧
      disk.write place bytes = (.ok (), (disk.facing troubles).append place bytes) := by
  cases htroubles : disk.troubles with
  | nil =>
    refine ⟨[], by cases sizes <;> trivial, ?_⟩
    have hfacing : disk.facing [] = disk := by rw [facing, ← htroubles]
    rw [hfacing, write, openHandle, htroubles]
    rfl
  | cons trouble troubles =>
    obtain ⟨room, cause⟩ := trouble
    rw [htroubles] at hroom
    refine ⟨troubles, hroom.2, ?_⟩
    have hfacing : disk.facing ((room, cause) :: troubles) = disk := by rw [facing, ← htroubles]
    rw [← write_facing disk place (Nat.le_trans hsize hroom.1) cause, hfacing]

end Disk

end Intercept
