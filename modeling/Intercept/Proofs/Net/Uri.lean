/-
# Reading and writing targets

A target that was read has only characters that can be read again.  So a text that is made of a path
and a query of read targets is read back as just this path and this query, unless it is too long.
Its path begins with a slash, unless the target is `*` or an authority alone.
-/
import Mathlib.Data.List.TakeWhile
import Intercept.Net.Uri

namespace Intercept

namespace Uri

/-! ### What is read -/

/-- The path and the query have only characters that may stand there. -/
structure Legible (path : String) (query : Option String) : Prop where
  path : ∀ c ∈ path.toList, isPathChar c = true
  query : ∀ text, query = some text → ∀ c ∈ text.toList, isQueryChar c = true

lemma legible_of_pathAndQuery? {input : List Char} {path : String} {query : Option String}
    (h : pathAndQuery? input = some (path, query)) : Legible path query := by
  have hpath : ∀ c ∈ (String.ofList (input.takeWhile isPathChar)).toList, isPathChar c = true := by
    intro c hc
    rw [String.toList_ofList] at hc
    exact List.mem_takeWhile_imp hc
  rw [pathAndQuery?] at h
  split at h
  · cases h
    exact ⟨hpath, nofun⟩
  · cases h
    exact ⟨hpath, nofun⟩
  · rename_i rest hrest
    split at h
    · cases h
      refine ⟨hpath, ?_⟩
      rintro text ⟨⟩ c hc
      rw [String.toList_ofList] at hc
      exact List.mem_takeWhile_imp hc
    · cases h
      refine ⟨hpath, ?_⟩
      rintro text ⟨⟩ c hc
      rw [String.toList_ofList] at hc
      exact List.mem_takeWhile_imp hc
    · cases h
  · cases h

/-- A target that was read has only characters that may stand there. -/
lemma legible_of_parse? {text : String} {uri : Uri} (h : parse? text = some uri) :
    Legible uri.path uri.query := by
  have hempty : Legible "" none := ⟨by simp, nofun⟩
  rw [parse?] at h
  simp only at h
  split at h
  · cases h
  · split at h
    · cases h
      exact ⟨List.all_eq_true.1 (by decide), nofun⟩
    · split at h
      · obtain ⟨⟨path, query⟩, hread, rfl⟩ := Option.map_eq_some_iff.1 h
        exact legible_of_pathAndQuery? hread
      · obtain ⟨scheme, -, h⟩ := Option.bind_eq_some_iff.1 h
        split at h
        · obtain ⟨authority, -, rfl⟩ := Option.map_eq_some_iff.1 h
          exact hempty
        · obtain ⟨⟨authority, rest⟩, -, h⟩ := Option.bind_eq_some_iff.1 h
          simp only at h
          split at h
          · cases h
          · obtain ⟨⟨path, query⟩, hread, h⟩ := Option.bind_eq_some_iff.1 h
            cases h
            have hlegible := legible_of_pathAndQuery? hread
            refine ⟨?_, hlegible.query⟩
            simp only
            split
            · exact List.all_eq_true.1 (by decide)
            · exact hlegible.path

/-! ### Reading back -/

/-- The text of a path and a query. -/
def written (path : String) (query : Option String) : String :=
  path ++ (match query with | some query => "?" ++ query | none => "")

lemma pathAndQuery?_written {path : String} {query : Option String} (h : Legible path query) :
    pathAndQuery? (written path query).toList = some (path, query) := by
  cases query with
  | none =>
    have htake : path.toList.takeWhile isPathChar = path.toList := List.takeWhile_eq_self_iff.2 h.path
    have hdrop : path.toList.dropWhile isPathChar = [] := List.dropWhile_eq_nil_iff.2 h.path
    simp [pathAndQuery?, written, htake, hdrop]
  | some query =>
    have hmark : isPathChar '?' = false := by decide
    have hquery := h.query query rfl
    have htake : query.toList.takeWhile isQueryChar = query.toList :=
      List.takeWhile_eq_self_iff.2 hquery
    have hdrop : query.toList.dropWhile isQueryChar = [] := List.dropWhile_eq_nil_iff.2 hquery
    have htext : (written path (some query)).toList = path.toList ++ '?' :: query.toList := by
      simp [written]
    rw [pathAndQuery?, htext, List.takeWhile_append_of_pos h.path,
      List.dropWhile_append_of_pos h.path]
    simp [hmark, htake, hdrop]

/-- A path that begins with a slash is what its text begins with. -/
lemma head?_written {path : String} (query : Option String) (hslash : path.toList.head? = some '/') :
    (written path query).toList.head? = some '/' := by
  have htext : (written path query).toList
      = path.toList ++ (match query with | some query => "?" ++ query | none => "").toList :=
    String.toList_append
  rw [htext, List.head?_append, hslash]
  rfl

lemma ne_star_of_head? {text : String} (h : text.toList.head? = some '/') : text.toList ≠ ['*'] := by
  intro hstar
  rw [hstar] at h
  exact absurd h (by decide)

/-- A path that begins with a slash is read back together with its query. -/
lemma parse?_written {path : String} {query : Option String} (h : Legible path query)
    (hslash : path.toList.head? = some '/') {uri : Uri}
    (hread : parse? (written path query) = some uri) : uri = ⟨none, none, path, query⟩ := by
  have hhead := head?_written query hslash
  have hstar := ne_star_of_head? hhead
  rw [parse?] at hread
  simp only [hstar, hhead, if_true, if_false, pathAndQuery?_written h] at hread
  split at hread
  · cases hread
  · exact (Option.some.inj hread).symm

/-- Only a text that is too long is not read back. -/
lemma parse?_written_eq_none_iff {path : String} {query : Option String} (h : Legible path query)
    (hslash : path.toList.head? = some '/') :
    parse? (written path query) = none ↔ maxLength ≤ (written path query).utf8ByteSize := by
  have hhead := head?_written query hslash
  have hstar : (written path query).toList ≠ ['*'] := ne_star_of_head? hhead
  have hempty : (written path query).toList.isEmpty = false := by
    cases hchars : (written path query).toList with
    | nil => rw [hchars] at hhead; cases hhead
    | cons c rest => rfl
  rw [parse?]
  simp only [hstar, hhead, hempty, if_true, if_false, pathAndQuery?_written h]
  simp

/-! ### Targets with a path -/

/-- A target has a path. -/
def HasPath (uri : Uri) : Prop := uri.path.toList.head? = some '/'

instance (uri : Uri) : Decidable uri.HasPath := inferInstanceAs (Decidable (_ = _))

/-- What is behind an authority does not go on with it. -/
lemma endsAuthority_of_authority? {input found rest : List Char} {c : Char}
    (h : authority? input = some (found, rest)) (hc : rest.head? = some c) :
    endsAuthority c = true := by
  have hrest : rest = input.dropWhile fun c => !endsAuthority c := by
    rw [authority?] at h
    split at h
    · split at h
      · obtain ⟨-, rfl⟩ := Prod.mk.inj (Option.some.inj h)
        have hsplit := List.takeWhile_append_dropWhile (p := fun c => !endsAuthority c) (l := input)
        calc input.drop (input.takeWhile fun c => !endsAuthority c).length
          _ = ((input.takeWhile fun c => !endsAuthority c)
                ++ input.dropWhile fun c => !endsAuthority c).drop
                (input.takeWhile fun c => !endsAuthority c).length := by rw [hsplit]
          _ = input.dropWhile fun c => !endsAuthority c := List.drop_left
      · cases h
    · cases h
  have hfirst := List.head?_dropWhile_not (fun c => !endsAuthority c) input
  rw [← hrest, hc] at hfirst
  simpa using hfirst

lemma path_of_pathAndQuery? {input : List Char} {path : String} {query : Option String}
    (h : pathAndQuery? input = some (path, query)) :
    path = String.ofList (input.takeWhile isPathChar) := by
  rw [pathAndQuery?] at h
  split at h
  · exact (Prod.mk.inj (Option.some.inj h)).1.symm
  · exact (Prod.mk.inj (Option.some.inj h)).1.symm
  · split at h
    · exact (Prod.mk.inj (Option.some.inj h)).1.symm
    · exact (Prod.mk.inj (Option.some.inj h)).1.symm
    · cases h
  · cases h

/-- A path begins with a slash if anything does before it ends. -/
lemma head?_of_pathAndQuery? {rest : List Char} {path : String} {query : Option String}
    (h : pathAndQuery? ('/' :: rest) = some (path, query)) : path.toList.head? = some '/' := by
  have hslash : isPathChar '/' = true := by decide
  rw [path_of_pathAndQuery? h, String.toList_ofList, List.takeWhile_cons_of_pos hslash]
  rfl

/-- What is behind an authority has a path, or none is written there. -/
lemma path_behind_authority {input found rest : List Char} {path : String} {query : Option String}
    (hauthority : authority? input = some (found, rest))
    (hread : pathAndQuery? rest = some (path, query)) :
    path.isEmpty = true ∨ path.toList.head? = some '/' := by
  cases rest with
  | nil =>
    rw [path_of_pathAndQuery? hread]
    exact .inl rfl
  | cons c rest =>
    have hend := endsAuthority_of_authority? hauthority rfl
    rw [endsAuthority, Bool.or_eq_true, Bool.or_eq_true] at hend
    rcases hend with (hslash | hmark) | hhash
    · obtain rfl := beq_iff_eq.1 hslash
      exact .inr (head?_of_pathAndQuery? hread)
    · obtain rfl := beq_iff_eq.1 hmark
      rw [path_of_pathAndQuery? hread, List.takeWhile_cons_of_neg (by decide)]
      exact .inl rfl
    · obtain rfl := beq_iff_eq.1 hhash
      rw [path_of_pathAndQuery? hread, List.takeWhile_cons_of_neg (by decide)]
      exact .inl rfl

/-- Only `*` and an authority alone have no path. -/
theorem hasPath_of_parse? {text : String} {uri : Uri} (h : parse? text = some uri) :
    uri.HasPath ∨ uri = ⟨none, none, "*", none⟩ ∨
      ∃ authority, uri = ⟨none, some authority, "", none⟩ := by
  rw [parse?] at h
  simp only at h
  split at h
  · cases h
  · split at h
    · exact .inr (.inl (Option.some.inj h).symm)
    · split at h
      · next hslash =>
        obtain ⟨⟨path, query⟩, hread, rfl⟩ := Option.map_eq_some_iff.1 h
        obtain ⟨rest, hrest⟩ := List.head?_eq_some_iff.1 hslash
        rw [hrest] at hread
        exact .inl (head?_of_pathAndQuery? hread)
      · obtain ⟨scheme, -, h⟩ := Option.bind_eq_some_iff.1 h
        split at h
        · obtain ⟨authority, -, rfl⟩ := Option.map_eq_some_iff.1 h
          exact .inr (.inr ⟨authority, rfl⟩)
        · obtain ⟨⟨authority, rest⟩, hauthority, h⟩ := Option.bind_eq_some_iff.1 h
          simp only at h
          split at h
          · cases h
          · obtain ⟨⟨path, query⟩, hread, h⟩ := Option.bind_eq_some_iff.1 h
            cases h
            left
            rw [HasPath]
            simp only
            split
            · rfl
            · next hwritten => exact (path_behind_authority hauthority hread).resolve_left hwritten

end Uri

end Intercept
