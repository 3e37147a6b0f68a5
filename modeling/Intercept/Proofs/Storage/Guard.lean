/-
# Stored files are not touched again

The name of a stored file ends with a label that is drawn for it alone, and so do the names of
temporary files.  Labels are hexadecimal digits, so the last dash of a name stands before its label,
and different labels make different names.  `Run.Guards` says of a piece of work that the file with
a number is safe from it: the file stays as it is, and numbers that are drawn are new.
-/
import Intercept.Proofs.Storage.Confined
import Intercept.Proofs.Text.Utf8

namespace Intercept

variable {α : Type} {chance : Chance} {n : Nat} {place : Disk.Place}

/-! ### Labels -/

/-- Whether a text consists of hexadecimal digits. -/
def IsHex (text : String) : Prop := ∀ b ∈ Utf8.encode text, (Bytes.hexValue? b).isSome = true

/-- What is promised of things that are drawn by chance: they consist of hexadecimal digits, and
what tells one file from all others is drawn once. -/
structure Chance.Fresh (chance : Chance) : Prop where
  label : ∀ n, IsHex (chance.label n)
  scratchLabel : ∀ n, IsHex (chance.scratchLabel n)
  boundary : ∀ b ∈ chance.boundary, (Bytes.hexValue? b).isSome = true
  distinct : ∀ m n, chance.label m = chance.label n → m = n
  apart : ∀ m n, chance.label m ≠ chance.scratchLabel n

/-- What tells files apart consists of hexadecimal digits. -/
structure Chance.Spelled (chance : Chance) : Prop where
  label : ∀ n, IsHex (chance.label n)
  scratchLabel : ∀ n, IsHex (chance.scratchLabel n)

lemma Chance.Fresh.spelled (h : chance.Fresh) : chance.Spelled := ⟨h.label, h.scratchLabel⟩

lemma IsHex.not_mem {text : String} (h : IsHex text) {c : Char} {b : UInt8} (hb : b < 128)
    (hc : c.toNat = b.toNat) (hnot : Bytes.hexValue? b = none) : c ∉ text.toList := by
  intro hmem
  have hhex := h b ((Utf8.mem_encode_iff hb hc).2 hmem)
  rw [hnot] at hhex
  cases hhex

lemma IsHex.not_mem_slash {text : String} (h : IsHex text) : '/' ∉ text.toList :=
  h.not_mem (b := 47) (by decide) rfl (by decide)

lemma IsHex.not_mem_dash {text : String} (h : IsHex text) : '-' ∉ text.toList :=
  h.not_mem (b := 45) (by decide) rfl (by decide)

lemma IsHex.not_mem_dot {text : String} (h : IsHex text) : '.' ∉ text.toList :=
  h.not_mem (b := 46) (by decide) rfl (by decide)

/-- What is behind the last separator is determined. -/
lemma eq_of_append_cons_eq {front back front' back' : List α} {x : α} (hback : x ∉ back)
    (hback' : x ∉ back') (h : front ++ x :: back = front' ++ x :: back') : back = back' := by
  rcases List.append_eq_append_iff.1 h with ⟨middle, -, hmiddle⟩ | ⟨middle, -, hmiddle⟩
  · cases middle with
    | nil => exact (List.cons.inj hmiddle).2
    | cons y more =>
      obtain ⟨rfl, hmore⟩ := List.cons.inj hmiddle
      exact absurd (hmore ▸ List.mem_append_right _ List.mem_cons_self) hback
  · cases middle with
    | nil => exact (List.cons.inj hmiddle).2.symm
    | cons y more =>
      obtain ⟨rfl, hmore⟩ := List.cons.inj hmiddle
      exact absurd (hmore ▸ List.mem_append_right _ List.mem_cons_self) hback'

/-- A name with a label behind a dash. -/
def labelled (stem label : String) : String := stem ++ "-" ++ label

lemma toList_labelled (stem label : String) :
    (labelled stem label).toList = stem.toList ++ '-' :: label.toList := by
  rw [labelled, String.toList_append, String.toList_append, List.append_assoc]
  rfl

lemma label_eq_of_labelled_eq {stem stem' label label' : String} (hlabel : '-' ∉ label.toList)
    (hlabel' : '-' ∉ label'.toList) (h : labelled stem label = labelled stem' label') :
    label = label' := by
  have hchars := congrArg String.toList h
  rw [toList_labelled, toList_labelled] at hchars
  exact String.toList_inj.1 (eq_of_append_cons_eq hlabel hlabel' hchars)

lemma mem_dash_labelled (stem label : String) : '-' ∈ (labelled stem label).toList := by
  rw [toList_labelled]
  exact List.mem_append_right _ List.mem_cons_self

lemma not_mem_slash_labelled {stem label : String} (hstem : '/' ∉ stem.toList)
    (hlabel : '/' ∉ label.toList) : '/' ∉ (labelled stem label).toList := by
  rw [toList_labelled, List.mem_append, List.mem_cons]
  rintro (hslash | hslash | hslash)
  · exact hstem hslash
  · exact absurd hslash (by decide)
  · exact hlabel hslash

/-- The dash shows that the name is none of those that stand for a folder. -/
lemma isHere_labelled (stem label : String) : Path.isHere (labelled stem label) = false := by
  have hdash := mem_dash_labelled stem label
  rw [Path.isHere, Bool.or_eq_false_iff, ← Bool.not_eq_true, String.isEmpty_iff,
    beq_eq_false_iff_ne]
  constructor
  · intro hempty
    rw [hempty] at hdash
    cases hdash
  · intro hdot
    rw [hdot] at hdash
    exact absurd hdash (by decide)

lemma labelled_ne_up (stem label : String) : labelled stem label ≠ ".." := by
  intro hup
  have hdash := mem_dash_labelled stem label
  rw [hup] at hdash
  exact absurd hdash (by decide)

/-- The path of a labelled name ends with the label. -/
lemma toList_join_labelled (folder stem label : String) :
    ∃ front, (Path.join folder (labelled stem label)).toList = front ++ '-' :: label.toList := by
  rw [Path.join]
  split
  · exact ⟨stem.toList, toList_labelled stem label⟩
  · split
    · exact ⟨folder.toList ++ stem.toList, by
        rw [String.toList_append, toList_labelled, List.append_assoc]⟩
    · exact ⟨(folder ++ "/").toList ++ stem.toList, by
        rw [String.toList_append, toList_labelled, List.append_assoc]⟩

/-- Labels that are different make different paths, whatever stands before them. -/
lemma label_eq_of_join_eq {folder folder' stem stem' label label' : String}
    (hlabel : '-' ∉ label.toList) (hlabel' : '-' ∉ label'.toList)
    (h : Path.join folder (labelled stem label) = Path.join folder' (labelled stem' label')) :
    label = label' := by
  obtain ⟨front, hfront⟩ := toList_join_labelled folder stem label
  obtain ⟨front', hfront'⟩ := toList_join_labelled folder' stem' label'
  rw [h, hfront'] at hfront
  exact (String.toList_inj.1 (eq_of_append_cons_eq hlabel' hlabel hfront)).symm

/-- Files that have the same path have the same label, whatever their names and folders are. -/
lemma Chance.Spelled.label_eq_of_path_eq (hspelled : chance.Spelled)
    {folder folder' stem stem' : String} {m n : Nat}
    (h : Path.join folder (labelled stem (chance.label m))
      = Path.join folder' (labelled stem' (chance.label n))) : chance.label m = chance.label n :=
  label_eq_of_join_eq (hspelled.label m).not_mem_dash (hspelled.label n).not_mem_dash h

/-! ### Other places -/

/-- Whatever a path leads to is not at a place. -/
def Disk.Apart (place : Disk.Place) (path : String) : Prop :=
  ∀ (disk : Disk) (spot : Disk.Spot) (other : Disk.Place),
    Disk.Reached disk (Path.names path) spot other → place ≠ other

/-- The place is that of the stored file with a number. -/
def StoredAt (chance : Chance) (n : Nat) (place : Disk.Place) : Prop :=
  ∃ stem, place.getLast? = some (labelled stem (chance.label n))

/-- The place of a labelled name ends with it. -/
lemma getLast?_of_reached {stem label folder : String} {disk : Disk} {spot : Disk.Spot}
    (hstem : '/' ∉ stem.toList) (hlabel : '/' ∉ label.toList)
    (hreached : Disk.Reached disk (Path.names (Path.join folder (labelled stem label))) spot
      place) :
    place.getLast? = some (labelled stem label) :=
  hreached.last _ (Path.getLast?_names_join (not_mem_slash_labelled hstem hlabel) folder)
    (isHere_labelled stem label) (labelled_ne_up stem label)

/-- A file with another label is somewhere else. -/
lemma StoredAt.apart (hfresh : chance.Fresh) (h : StoredAt chance n place) {stem label : String}
    (hstem : '/' ∉ stem.toList) (hlabel : '/' ∉ label.toList) (hdash : '-' ∉ label.toList)
    (hne : chance.label n ≠ label) (folder : String) :
    Disk.Apart place (Path.join folder (labelled stem label)) := by
  rintro disk spot other hreached rfl
  obtain ⟨first, hplace⟩ := h
  have hother := getLast?_of_reached hstem hlabel hreached
  rw [hplace] at hother
  exact hne (label_eq_of_labelled_eq (hfresh.label n).not_mem_dash hdash (Option.some.inj hother))

/-! ### Work that leaves a stored file alone -/

/-- A piece of work keeps the file at a place once its number was drawn, and what the work finds has
a property. -/
def Run.Guards (n : Nat) (place : Disk.Place) (work : Run α) (post : α → Prop) : Prop :=
  ∀ site : Site, n ≤ site.saves → Disk.Keeps place site.disk (work.run site).2.disk ∧
    n ≤ (work.run site).2.saves ∧ post (work.run site).1

/-- Work elsewhere leaves the file alone. -/
lemma Run.guards_of_confined {work : Run α} {post : Site → α → Prop}
    (h : ∀ start : Site, n ≤ start.saves →
      Run.Confined (fun other => place ≠ other) start work (post start)) :
    Run.Guards n place work fun _ => True := by
  intro site hn
  obtain ⟨hsince, -⟩ := h site hn site (Site.Since.refl _ site)
  exact ⟨hsince.works.keeps fun hne => hne rfl, Nat.le_trans hn hsince.saves, trivial⟩

/-- The path of a labelled name leads to the place of the folder with this name behind it. -/
lemma leads_labelled {inside : Disk.Place → Prop} {here : Disk.Place} {folder stem label : String}
    (hstem : '/' ∉ stem.toList) (hlabel : '/' ∉ label.toList)
    (hplace : inside (Disk.placeOf here folder ++ [labelled stem label])) :
    Disk.Leads inside here (Path.join folder (labelled stem label)) :=
  Disk.leads_join (not_mem_slash_labelled hstem hlabel) (isHere_labelled stem label)
    (labelled_ne_up stem label) hplace

/-- A path that leads nowhere near the place leads elsewhere. -/
lemma Disk.Apart.leads {path : String} (h : Disk.Apart place path) (here : Disk.Place) :
    Disk.Leads (fun other => place ≠ other) here path :=
  fun disk spot other _ hfind hat => h disk spot other (Disk.reached_of_find hfind hat)

end Intercept
