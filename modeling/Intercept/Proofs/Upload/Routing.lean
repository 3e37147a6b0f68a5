/-
# Which route an upload takes, and which target is asked about it

Routes are chosen by their endings and the application is asked at a target made of the path, and for
both the slashes at the end of the path are taken off.  This file says what is left without the loop
that takes them off: a text that does not end in a slash, of which the path is made by adding slashes.
There is exactly one such text, so that the choice of a route and the target agree about it, and
neither changes when slashes are added to a path or taken from it.

A route of a configuration that passed its checks begins with a slash.  So what is left of it begins
with a slash as well, if anything is left, and a path that ends like it does so from a slash on.
-/
import Intercept.Proofs.Bytes
import Intercept.Proofs.Transparency

namespace Intercept

namespace Route

variable {path : String} {text : List Char}

/-! ### Paths without the slashes at their end -/

/-- A text is what is left of a path without the slashes at its end. -/
def IsStripped (path : String) (text : List Char) : Prop :=
  text.getLast? ≠ some '/' ∧ ∃ count, path.toList = text ++ List.replicate count '/'

lemma stripped_eq_rdropWhile (path : String) : stripped path = path.toList.rdropWhile (· = '/') :=
  rfl

/-- Just one text is left. -/
lemma isStripped_iff : IsStripped path text ↔ text = stripped path := by
  constructor
  · rintro ⟨hlast, count, hpath⟩
    rw [stripped_eq_rdropWhile, hpath,
      Bytes.rdropWhile_append_replicate (p := fun c => decide (c = '/')) (decide_eq_true rfl)]
    intro c hc
    refine decide_eq_false fun hslash => hlast ?_
    rw [← hslash]
    exact hc
  · rintro rfl
    refine ⟨fun hlast => ?_, Bytes.exists_append_replicate (fun c => of_decide_eq_true) _⟩
    have hne : path.toList.rdropWhile (fun c => decide (c = '/')) ≠ [] :=
      List.ne_nil_of_mem (List.mem_of_getLast? hlast)
    have hnot := List.rdropWhile_last_not (fun c => decide (c = '/')) path.toList hne
    rw [stripped_eq_rdropWhile, List.getLast?_eq_some_getLast hne] at hlast
    exact hnot (decide_eq_true (Option.some.inj hlast))

lemma isStripped_stripped (path : String) : IsStripped path (stripped path) := isStripped_iff.2 rfl

/-- A path with more slashes at its end. -/
def slashed (count : Nat) (path : String) : String :=
  path ++ String.ofList (List.replicate count '/')

lemma isStripped_slashed_iff (count : Nat) :
    IsStripped (slashed count path) text ↔ IsStripped path text := by
  have hsame : IsStripped (slashed count path) (stripped path) := by
    obtain ⟨hlast, slashes, hpath⟩ := isStripped_stripped path
    refine ⟨hlast, slashes + count, ?_⟩
    rw [slashed, String.toList_append, String.toList_ofList, List.replicate_add,
      ← List.append_assoc, ← hpath]
  rw [isStripped_iff, isStripped_iff, ← isStripped_iff.1 hsame]

@[simp] lemma stripped_slashed (count : Nat) (path : String) :
    stripped (slashed count path) = stripped path :=
  (isStripped_iff.1 ((isStripped_slashed_iff count).2 (isStripped_stripped path))).symm

/-! ### The choice of a route -/

variable {routes : List Route} {route : Route}

/-- A path ends like a route, where the slashes at both their ends do not count. -/
def Matches (path : String) (route : Route) : Prop :=
  ∃ front ending, IsStripped route.suffix ending ∧ IsStripped path (front ++ ending)

lemma isFor_iff : isFor path route = true ↔ Matches path route := by
  rw [isFor, List.isSuffixOf_iff_suffix]
  constructor
  · rintro ⟨front, hfront⟩
    exact ⟨front, _, isStripped_stripped _, isStripped_iff.2 hfront⟩
  · rintro ⟨front, ending, hending, hpath⟩
    rw [← isStripped_iff.1 hending, ← isStripped_iff.1 hpath]
    exact List.suffix_append front ending

/-- The first route that a path ends like is chosen. -/
lemma select?_eq_some_iff : select? routes path = some route ↔
    ∃ before behind, routes = before ++ route :: behind ∧ Matches path route ∧
      ∀ other ∈ before, ¬ Matches path other := by
  rw [select?, List.find?_eq_some_iff_append, isFor_iff]
  constructor
  · rintro ⟨hmatch, before, behind, hroutes, hbefore⟩
    exact ⟨before, behind, hroutes, hmatch, fun other hother hmatches => by
      simpa [isFor_iff.2 hmatches] using hbefore other hother⟩
  · rintro ⟨before, behind, hroutes, hmatch, hbefore⟩
    refine ⟨hmatch, before, behind, hroutes, fun other hother => ?_⟩
    have hnot := hbefore other hother
    rw [← isFor_iff, Bool.not_eq_true] at hnot
    rw [hnot]
    rfl

lemma select?_eq_none_iff :
    select? routes path = none ↔ ∀ route ∈ routes, ¬ Matches path route := by
  simp only [select?, List.find?_eq_none, isFor_iff]

@[simp] lemma select?_slashed (routes : List Route) (count : Nat) (path : String) :
    select? routes (slashed count path) = select? routes path := by
  have hsame : isFor (slashed count path) = isFor path := by
    funext route
    rw [isFor, isFor, stripped_slashed]
  rw [select?, select?, hsame]

/-- The routes of a configuration that passed its checks begin with a slash. -/
lemma head?_suffix_of_problems {config : Config} (hvalid : config.problems = [])
    (hroute : route ∈ config.uploads.routes) : route.suffix.toList.head? = some '/' := by
  have hroutes := List.flatMap_eq_nil_iff.1 hvalid _ (List.mem_of_getElem? (i := 9) rfl)
  have hnone := (List.append_eq_nil_iff.1 (List.flatMap_eq_nil_iff.1 hroutes route hroute)).1
  have hhead := Server.problemIf_eq_nil hnone
  simpa using hhead

/-- What is left of a route begins as the route does. -/
lemma IsStripped.head? {c : Char} (h : IsStripped path text) (hne : text ≠ [])
    (hhead : path.toList.head? = some c) : text.head? = some c := by
  obtain ⟨-, count, hpath⟩ := h
  rwa [hpath, List.head?_append_of_ne_nil _ hne] at hhead

end Route

namespace Authorization

variable {uri : Uri} {headers : Headers}

/-! ### The request that asks -/

/-- The names of the headers that say how or as what a body is sent. -/
def bodyHeaders : List Bytes := [Header.contentLength, Header.contentType, Header.transferEncoding]

/-- The headers that are not about a body are kept, in their order and as often as they stand
there. -/
structure Kept (headers kept : Headers) : Prop where
  order : kept.Sublist headers
  count : ∀ header, kept.count header = if header.1 ∈ bodyHeaders then 0 else headers.count header

lemma describesBody_iff {header : Header} :
    describesBody header = true ↔ header.1 ∈ bodyHeaders := by
  simp [describesBody, bodyHeaders, or_assoc]

lemma kept_filter (headers : Headers) :
    Kept headers (headers.filter fun header => !describesBody header) := by
  refine ⟨List.filter_sublist, fun header => ?_⟩
  split
  · next hbody =>
    refine List.count_eq_zero.2 fun hmem => ?_
    have hnot := (List.mem_filter.1 hmem).2
    rw [describesBody_iff.2 hbody] at hnot
    cases hnot
  · next hother =>
    refine List.count_filter ?_
    rw [← describesBody_iff, Bool.not_eq_true] at hother
    rw [hother]
    rfl

/-- The text of the target at which the application is asked about an upload, where `text` is what is
left of the path. -/
def askedText (text : List Char) (query : Option String) : String :=
  Uri.written (String.ofList text ++ "/authorize") query

/-- The application is asked at the stripped path with `/authorize` behind it, unless this is too
long. -/
lemma request?_eq (hlegible : Uri.Legible uri.path uri.query) (hpath : uri.HasPath)
    (headers : Headers) : request? uri headers
      = if Uri.maxLength ≤ (askedText (Route.stripped uri.path) uri.query).utf8ByteSize then none
        else some ⟨"POST", ⟨none, none, String.ofList (Route.stripped uri.path) ++ "/authorize",
          uri.query⟩, headers.filter fun header => !describesBody header, []⟩ := by
  have hread : request? uri headers = (Uri.parse? (askedText (Route.stripped uri.path) uri.query)).map
      fun uri => ⟨"POST", uri, headers.filter fun header => !describesBody header, []⟩ := rfl
  have hnone : Uri.parse? (askedText (Route.stripped uri.path) uri.query) = none ↔
      Uri.maxLength ≤ (askedText (Route.stripped uri.path) uri.query).utf8ByteSize :=
    Uri.parse?_written_eq_none_iff (legible_asked hlegible) (head?_asked hpath)
  rw [hread]
  split
  · next hlong =>
    rw [hnone.2 hlong]
    rfl
  · next hshort =>
    obtain ⟨target, htarget⟩ := Option.ne_none_iff_exists'.1 fun hfail => hshort (hnone.1 hfail)
    rw [htarget, Uri.parse?_written (legible_asked hlegible) (head?_asked hpath) htarget]
    rfl

/-- What is sent when the application is asked. -/
lemma sent_ask (application : Application) (backend : Backend) (uri : Uri) (headers : Headers)
    (site : Site) : ((ask application backend uri headers).run site).2.sent
      = ((request? uri headers).map backend.directed).toList ++ site.sent := by
  cases hasked : request? uri headers with
  | none => rw [run_ask_of_none hasked]; rfl
  | some asked => rw [run_ask_of_some hasked]; rfl

/-- Slashes at the end of the path do not matter to what the application is asked. -/
lemma request?_slashed (count : Nat) (uri : Uri) (headers : Headers) :
    request? { uri with path := Route.slashed count uri.path } headers = request? uri headers := by
  simp only [request?, target, Route.stripped_slashed]

lemma ask_slashed (application : Application) (backend : Backend) (count : Nat) (uri : Uri)
    (headers : Headers) : ask application backend { uri with path := Route.slashed count uri.path }
      headers = ask application backend uri headers := by
  simp only [ask, request?_slashed]

end Authorization

namespace Route

/-- **The route of an upload and the target at which the application is asked about it.**  Of the
routes of a configuration that passed its checks the first is chosen that the path ends like, without
the slashes at both their ends, and if anything is left of such a route the path ends like it from a
slash on.  The application is asked at what is left of the path with `/authorize` behind it and with
the same query, and it gets all headers but those about a body; only a target that is too long is
not asked at.  Slashes at the end of the path make no difference to any of this. -/
theorem select?_authorize {config : Config} (hvalid : config.problems = []) {text : String}
    {uri : Uri} (hread : Uri.parse? text = some uri) (hpath : uri.HasPath) :
    let routes := config.uploads.routes
    (∀ route, select? routes uri.path = some route ↔
      ∃ before behind, routes = before ++ route :: behind ∧ Matches uri.path route ∧
        ∀ other ∈ before, ¬ Matches uri.path other) ∧
    (select? routes uri.path = none ↔ ∀ route ∈ routes, ¬ Matches uri.path route) ∧
    (∀ route ∈ routes, ∀ front ending, IsStripped route.suffix ending → ending ≠ [] →
      IsStripped uri.path (front ++ ending) →
      ∃ rest, ending = '/' :: rest ∧ front ++ '/' :: rest <+: uri.path.toList) ∧
    (∀ other count, uri.path = slashed count other ∨ other = slashed count uri.path →
      select? routes other = select? routes uri.path ∧
      ∀ application backend headers,
        Authorization.ask application backend { uri with path := other } headers
          = Authorization.ask application backend uri headers) ∧
    ∃ short, IsStripped uri.path short ∧ ∀ application backend headers site,
      ∃ kept, Authorization.Kept headers kept ∧
        ((Authorization.ask application backend uri headers).run site).2.sent
          = if Uri.maxLength ≤ (Authorization.askedText short uri.query).utf8ByteSize then site.sent
            else ⟨"POST", ⟨some "http", some backend.authority,
              String.ofList short ++ "/authorize", uri.query⟩, kept, []⟩ :: site.sent := by
  refine ⟨fun route => select?_eq_some_iff, select?_eq_none_iff, ?_, ?_, _,
    isStripped_stripped uri.path, fun application backend headers site =>
      ⟨_, Authorization.kept_filter headers, ?_⟩⟩
  · rintro route hroute front ending hending hne ⟨-, count, htext⟩
    have hslash := hending.head? hne (head?_suffix_of_problems hvalid hroute)
    obtain ⟨rest, rfl⟩ := List.head?_eq_some_iff.1 hslash
    exact ⟨rest, rfl, _, htext.symm⟩
  · rintro other count (hslashed | rfl)
    · have huri : uri = { uri with path := slashed count other } := by rw [← hslashed]
      refine ⟨by rw [hslashed, select?_slashed], fun application backend headers => ?_⟩
      conv_rhs => rw [huri]
      exact (Authorization.ask_slashed application backend count { uri with path := other }
        headers).symm
    · exact ⟨select?_slashed _ _ _, fun application backend headers =>
        Authorization.ask_slashed application backend count uri headers⟩
  · rw [Authorization.sent_ask,
      Authorization.request?_eq (Uri.legible_of_parse? hread) hpath headers]
    split
    · rfl
    · rw [Option.map_some, Backend.directed, Uri.retarget]
      have hsome : (String.ofList (stripped uri.path) ++ "/authorize").isEmpty = false := by
        rw [String.isEmpty_eq_false_iff, Ne, ← String.toList_inj, String.toList_append]
        exact List.append_ne_nil_of_right_ne_nil _ (by decide)
      simp [hsome]

/-- Two routes that end alike, behind one that no path of theirs ends like. -/
def nestedRoutes : List Route :=
  [⟨"/other/uploads", "other"⟩, ⟨"/uploads//", "uploads"⟩, ⟨"/", "any"⟩]

theorem select?_authorize_nested :
    select? nestedRoutes "/project/uploads/" = some ⟨"/uploads//", "uploads"⟩ ∧
    select? nestedRoutes "/project/uploads" = some ⟨"/uploads//", "uploads"⟩ ∧
    ∃ rest, "/uploads".toList = '/' :: rest := by
  have hvalid : Config.problems { uploads := { routes := nestedRoutes } } = [] := by decide +kernel
  have hread : Uri.parse? "/project/uploads/?x=1"
      = some ⟨none, none, "/project/uploads/", some "x=1"⟩ := by decide +kernel
  obtain ⟨-, -, hboundary, hslashed, -⟩ := select?_authorize hvalid hread (by decide)
  have hselect : select? nestedRoutes "/project/uploads/" = some ⟨"/uploads//", "uploads"⟩ := by
    decide +kernel
  have hshorter := (hslashed "/project/uploads" 1 (.inl (by decide))).1
  obtain ⟨rest, hrest, -⟩ := hboundary ⟨"/uploads//", "uploads"⟩ (by decide) "/project".toList
    "/uploads".toList (isStripped_iff.2 (by decide)) (by decide) (isStripped_iff.2 (by decide))
  exact ⟨hselect, hshorter.trans hselect, rest, hrest⟩

end Route

end Intercept
