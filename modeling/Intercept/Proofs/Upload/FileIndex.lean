/-
# The index of stored files

Files are recorded one after the other, and a file takes the place of an earlier one whose part has the
same name.  The index goes into a header, as JSON.  It does not fit if a name or a path in it holds
the one control character that JSON does not escape.
-/
import Intercept.Proofs.Json.Printer
import Intercept.Upload.FileIndex

namespace Intercept

namespace FileIndex

variable {index : FileIndex} {name path : String} {entry : String × String}
variable {entries records : List (String × String)}

/-! ### What is in an index -/

lemma mem_put_self : (name, path) ∈ put name path entries := by
  induction entries with
  | nil => exact List.mem_cons_self
  | cons other rest ih =>
    obtain ⟨n, p⟩ := other
    rw [put]
    split
    · exact List.mem_cons_self
    · split
      · exact List.mem_cons_self
      · exact List.mem_cons_of_mem _ ih

lemma mem_put (h : entry ∈ put name path entries) : entry = (name, path) ∨ entry ∈ entries := by
  induction entries with
  | nil => exact .inl (List.mem_singleton.1 h)
  | cons other rest ih =>
    obtain ⟨n, p⟩ := other
    rw [put] at h
    split at h
    · exact List.mem_cons.1 h
    · split at h
      · exact (List.mem_cons.1 h).imp_right (List.mem_cons_of_mem _)
      · rcases List.mem_cons.1 h with rfl | h
        · exact .inr List.mem_cons_self
        · exact (ih h).imp_right (List.mem_cons_of_mem _)

/-- The index when some more files were recorded. -/
def recordAll (index : FileIndex) (records : List (String × String)) : FileIndex :=
  records.foldl (fun index (name, path) => index.record name path) index

lemma mem_recordAll (h : entry ∈ (index.recordAll records).entries) :
    entry ∈ index.entries ∨ entry ∈ records := by
  induction records generalizing index with
  | nil => exact .inl h
  | cons record rest ih =>
    rcases ih h with h | h
    · rcases mem_put h with rfl | h
      · exact .inr List.mem_cons_self
      · exact .inl h
    · exact .inr (List.mem_cons_of_mem _ h)

/-- The file that was recorded last is in the index. -/
lemma mem_recordAll_concat : entry ∈ (index.recordAll (records ++ [entry])).entries := by
  rw [recordAll, List.foldl_append]
  exact mem_put_self

/-- Under a new name an entry is added. -/
lemma put_perm (hname : name ∉ entries.map Prod.fst) :
    (put name path entries).Perm ((name, path) :: entries) := by
  induction entries with
  | nil => exact .refl _
  | cons other rest ih =>
    obtain ⟨n, p⟩ := other
    rw [List.map_cons, List.mem_cons, not_or] at hname
    rw [put, if_neg hname.1]
    split
    · exact .refl _
    · exact ((ih hname.2).cons (n, p)).trans (.swap _ _ _)

/-- Files whose parts have different names are all in the index, and nothing else is. -/
lemma recordAll_perm (hnames : (records.map Prod.fst).Nodup)
    (hnew : ∀ entry ∈ index.entries, entry.1 ∉ records.map Prod.fst) :
    (index.recordAll records).entries.Perm (records ++ index.entries) := by
  induction records generalizing index with
  | nil => exact .refl _
  | cons record rest ih =>
    obtain ⟨name, path⟩ := record
    rw [List.map_cons, List.nodup_cons] at hnames
    have hput : (index.record name path).entries.Perm ((name, path) :: index.entries) := by
      refine put_perm fun hmem => ?_
      obtain ⟨entry, hentry, hsame⟩ := List.mem_map.1 hmem
      exact hnew entry hentry (hsame ▸ List.mem_cons_self)
    have hrest : ((index.record name path).recordAll rest).entries.Perm
        (rest ++ (index.record name path).entries) := by
      refine ih hnames.2 fun entry hentry => ?_
      rcases List.mem_cons.1 (hput.subset hentry) with rfl | hentry
      · exact hnames.1
      · exact fun hmem => hnew entry hentry (List.mem_cons_of_mem _ hmem)
    exact hrest.trans ((hput.append_left rest).trans List.perm_middle)

/-! ### The header -/

/-- The names and the paths in an index fit into a header. -/
def Fits (index : FileIndex) : Prop := ∀ entry ∈ index.entries,
  Json.bareControl ∉ entry.1.toList ∧ Json.bareControl ∉ entry.2.toList

lemma all_render_toJson (index : FileIndex) :
    index.toJson.render.all Header.isValueByte = true ↔ index.Fits :=
  Json.all_render_textMembers index.entries

lemma announce?_of_fits (h : index.Fits) (headers : Headers) :
    index.announce? headers = some (headers.set Header.multipartFields index.toJson.render) :=
  if_pos ((all_render_toJson index).2 h)

lemma announce?_of_not_fits (h : ¬ index.Fits) (headers : Headers) :
    index.announce? headers = none :=
  if_neg fun hall => h ((all_render_toJson index).1 hall)

end FileIndex

end Intercept
