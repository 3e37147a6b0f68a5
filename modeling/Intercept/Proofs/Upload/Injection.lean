/-
# Names that may not be used again

A form is turned down for the name of a part exactly if the name was taken by a file that was stored
before: it is the name of the file's part, or of a field that describes the file.  What carries the
proof is that the names which are reserved are at each moment those that the files stored so far
have taken.

So files that are accepted together have different names, and as a name tells with what it ends and
what stands before that, the fields that describe them have different names, too.
-/
import Mathlib.Data.List.Nodup
import Intercept.Proofs.Upload.Cleanup
import Intercept.Proofs.Upload.Collision

namespace Intercept

namespace Deposit

variable {surroundings : Surroundings} {settings : Settings} {part : Part} {draft next : Draft}
variable {parts rest : List Part} {site after : Site} {field name key : String}

/-! ### One part -/

/-- Storing a file is turned down for its name, or for what becomes of its data. -/
lemma storePart_error {fileName : String} {error : DepositError}
    (hrun : (storePart surroundings settings field fileName part draft).run site
      = ((next, some error), after)) :
    (error = .illegalName fileName ∧ FileName.isIllegal fileName = true) ∨
      ∀ name, error ≠ .injected name ∧ error ≠ .illegalName name := by
  have hsame : ∀ {found : DepositError}, (next, some error) = (draft, some found) →
      error = found := fun h => Option.some.inj (congrArg Prod.snd h)
  cases storePart_handled hrun with
  | illegal houtcome hafter hillegal => exact .inl ⟨hsame houtcome, hillegal⟩
  | @untransformed cause htransform houtcome =>
    rw [hsame houtcome]
    refine .inr fun name => ?_
    cases cause with
    | notStarted program cause => exact ⟨nofun, nofun⟩
    | extract cause => cases cause <;> exact ⟨nofun, nofun⟩
  | @rejected stream cause later last hlegal htransform hsave houtcome hafter =>
    rw [hsame houtcome]
    refine .inr fun name => ?_
    cases cause with
    | tooLarge => exact ⟨nofun, nofun⟩
    | unreadable fault =>
      rw [rejected]
      split <;> exact ⟨nofun, nofun⟩
    | unwritable path cause => exact ⟨nofun, nofun⟩
  | stored hlegal htransform hsave houtcome hafter => cases congrArg Prod.snd houtcome

/-- A part is turned down for its name exactly if the name is reserved. -/
lemma takePart_injected_iff :
    ((takePart surroundings settings part draft).run site).1.2 = some (.injected name) ↔
      part.name? = some name ∧ name ≠ "" ∧ name ∈ draft.reserved.names := by
  constructor
  · intro hfailure
    rcases hrun : (takePart surroundings settings part draft).run site with ⟨⟨next, failure⟩, after⟩
    rw [hrun] at hfailure
    obtain rfl : failure = some (.injected name) := hfailure
    cases takePart_tried hrun with
    | dropped hname houtcome hafter => cases congrArg Prod.snd houtcome
    | reserved hname hne hreserved houtcome hafter =>
      obtain ⟨-, hsame⟩ := Prod.mk.inj houtcome
      obtain rfl := DepositError.injected.inj (Option.some.inj hsame)
      exact ⟨hname, hne, List.contains_iff_mem.1 hreserved⟩
    | copied hname hne hreserved hfile houtcome hafter =>
      have hfault : some (DepositError.injected name) = part.fault.map .form :=
        congrArg Prod.snd houtcome
      obtain ⟨fault, -, hform⟩ := Option.map_eq_some_iff.1 hfault.symm
      cases hform
    | filed hname hne hfile hfileName hstore =>
      obtain ⟨hillegal, -⟩ | hother := storePart_error hstore
      · cases hillegal
      · exact absurd rfl (hother name).1
  · rintro ⟨hname, hne, hreserved⟩
    have hnonempty : (!name.isEmpty) = true := by simpa using hne
    have hcontains : draft.reserved.contains name = true := List.contains_iff_mem.2 hreserved
    rw [takePart, hname, Option.filter_some, if_pos hnonempty]
    simp only [hcontains, if_true]
    rfl

/-- A part that is taken in has no reserved name. -/
lemma not_mem_reserved_of_takePart
    (htake : (takePart surroundings settings part draft).run site = ((next, none), after))
    (hname : part.name? = some name) (hne : name ≠ "") : name ∉ draft.reserved.names := by
  intro hreserved
  have hinjected : ((takePart surroundings settings part draft).run site).1.2
      = some (.injected name) := takePart_injected_iff.2 ⟨hname, hne, hreserved⟩
  rw [htake] at hinjected
  cases hinjected

/-- The name of a part that holds a file. -/
def fileField? (headers : Headers) : Option String :=
  if holdsFile headers then Disposition.fieldName? headers else none

lemma fileField?_of_file {headers : Headers} {fileName : String}
    (hname : Disposition.fieldName? headers = some field) (hne : field ≠ "")
    (hfile : Disposition.fileName? headers = some fileName) (hfileName : fileName ≠ "") :
    fileField? headers = some field := by
  have hholds : holdsFile headers = true := by
    rw [holdsFile, isNamed_iff.2 ⟨field, hname, hne⟩, hfile, Bool.true_and, Option.any_some]
    simpa using hfileName
  rw [fileField?, if_pos hholds, hname]

lemma fileField?_of_not_named {headers : Headers} (hname : Form.isNamed headers = false) :
    fileField? headers = none := by
  rw [fileField?, holdsFile, hname, Bool.false_and, if_neg Bool.false_ne_true]

lemma fileField?_of_no_file {headers : Headers}
    (hfile : ((Disposition.fileName? headers).filter fun fileName => !fileName.isEmpty) = none) :
    fileField? headers = none := by
  refine if_neg fun hholds => ?_
  obtain ⟨-, hany⟩ := (Bool.and_eq_true _ _).mp hholds
  obtain ⟨fileName, hsome, hnonempty⟩ := (Option.any_eq_true _ _).1 hany
  rw [hsome, Option.filter_some, if_pos hnonempty] at hfile
  cases hfile

/-- What is known of a part that is taken in: it holds no file and reserves nothing, or its name was
not reserved, and its file is stored and described. -/
inductive Settled (surroundings : Surroundings) (settings : Settings) (part : Part) (draft : Draft)
    (site : Site) (next : Draft) (after : Site) : Prop where
  | plain (hnone : fileField? part.headers = none) (hreserved : next.reserved = draft.reserved)
  | filed {field fileName : String} {file : StoredFile} (hname : part.name? = some field)
      (hne : field ≠ "") (hfile : part.fileName? = some fileName) (hfileName : fileName ≠ "")
      (hnew : field ∉ draft.reserved.names) (hnext : next = describe field file draft)
      (hstore : (storePart surroundings settings field fileName part draft).run site
        = ((describe field file draft, none), after))

lemma takePart_settled
    (htake : (takePart surroundings settings part draft).run site = ((next, none), after)) :
    Settled surroundings settings part draft site next after := by
  cases takePart_tried htake with
  | dropped hname houtcome hafter =>
    obtain rfl : next = draft := congrArg Prod.fst houtcome
    exact .plain (fileField?_of_not_named hname) rfl
  | reserved hname hne hreserved houtcome hafter => cases congrArg Prod.snd houtcome
  | copied hname hne hreserved hfile houtcome hafter =>
    obtain rfl : next = (copy part draft).1 := congrArg Prod.fst houtcome
    exact .plain (fileField?_of_no_file hfile) rfl
  | @filed field fileName hname hne hfile hfileName hstore =>
    cases storePart_handled hstore with
    | illegal houtcome hafter => cases congrArg Prod.snd houtcome
    | untransformed htransform houtcome => cases congrArg Prod.snd houtcome
    | rejected hlegal htransform hsave houtcome hafter => cases congrArg Prod.snd houtcome
    | @stored stream file later last hlegal htransform hsave houtcome hafter =>
      obtain rfl : next = describe field file draft := congrArg Prod.fst houtcome
      exact .filed hname hne hfile hfileName (not_mem_reserved_of_takePart htake hname hne) rfl
        hstore

/-! ### Parts one after the other -/

/-- The names that a file takes when it is stored for a part: that of the part, and those of the
fields that describe the file. -/
def Takes (field name : String) : Prop := name = field ∨ ∃ ending ∈ endings, name = field ++ ending

/-- Of parts that are taken in one after the other, one that is called `field` holds a file, and the
file is stored. -/
inductive Stores (surroundings : Surroundings) (settings : Settings) (field : String) :
    List Part → Draft → Site → Prop where
  | here {part : Part} {rest : List Part} {draft : Draft} {site after : Site} {fileName : String}
      {file : StoredFile} (hname : part.name? = some field) (hne : field ≠ "")
      (hfile : part.fileName? = some fileName) (hfileName : fileName ≠ "")
      (hstore : (storePart surroundings settings field fileName part draft).run site
        = ((describe field file draft, none), after)) :
    Stores surroundings settings field (part :: rest) draft site
  | later {part : Part} {rest : List Part} {draft next : Draft} {site after : Site}
      (htake : (takePart surroundings settings part draft).run site = ((next, none), after))
      (hrest : Stores surroundings settings field rest next after) :
    Stores surroundings settings field (part :: rest) draft site

/-- What a file takes is reserved when it has been described. -/
lemma mem_reserved_describe_iff {file : StoredFile} :
    key ∈ (describe field file draft).reserved.names ↔
      Takes field key ∨ key ∈ draft.reserved.names := by
  rw [mem_reserved_describe, Takes, or_assoc]

/-- The names of the parts that hold a file, where these are the headers of the parts. -/
def fileFields (all : List Headers) : List String := all.filterMap fileField?

lemma fileFields_cons_of_none {headers : Headers} {all : List Headers}
    (hnone : fileField? headers = none) : fileFields (headers :: all) = fileFields all :=
  List.filterMap_cons_none hnone

lemma fileFields_cons_of_file {headers : Headers} {all : List Headers} {fileName : String}
    (hname : Disposition.fieldName? headers = some field) (hne : field ≠ "")
    (hfile : Disposition.fileName? headers = some fileName) (hfileName : fileName ≠ "") :
    fileFields (headers :: all) = field :: fileFields all :=
  List.filterMap_cons_some (fileField?_of_file hname hne hfile hfileName)

/-- Where parts are all taken in, the files that they hold are stored. -/
lemma stores_iff_of_takeParts
    (htake : (takeParts surroundings settings parts draft).run site = ((next, none), after)) :
    Stores surroundings settings field parts draft site ↔
      field ∈ fileFields (parts.map Part.headers) := by
  constructor
  · intro hstores
    clear htake
    induction hstores with
    | here hname hne hfile hfileName _ =>
      exact List.mem_filterMap.2
        ⟨_, List.mem_cons_self, fileField?_of_file hname hne hfile hfileName⟩
    | later _ _ ih =>
      obtain ⟨part, hpart, hfield⟩ := List.mem_filterMap.1 ih
      exact List.mem_filterMap.2 ⟨part, List.mem_cons_of_mem _ hpart, hfield⟩
  · intro hfield
    induction parts generalizing draft site with
    | nil => cases hfield
    | cons part rest ih =>
      obtain ⟨middle, later, hfirst, hrest⟩ := takeParts_ok_cons htake
      cases takePart_settled hfirst with
      | plain hnone _ =>
        rw [List.map_cons, fileFields_cons_of_none hnone] at hfield
        exact .later hfirst (ih hrest hfield)
      | filed hname hne hfile hfileName _ _ hstore =>
        rw [List.map_cons, fileFields_cons_of_file hname hne hfile hfileName,
          List.mem_cons] at hfield
        rcases hfield with rfl | hfield
        · exact .here hname hne hfile hfileName hstore
        · exact .later hfirst (ih hrest hfield)

/-- What is reserved once parts were taken in is what was reserved before, and what their files
take. -/
lemma mem_reserved_of_takeParts
    (htake : (takeParts surroundings settings parts draft).run site = ((next, none), after)) :
    key ∈ next.reserved.names ↔ key ∈ draft.reserved.names ∨
      ∃ field ∈ fileFields (parts.map Part.headers), Takes field key := by
  induction parts generalizing draft site with
  | nil =>
    obtain ⟨hdraft, -⟩ := Prod.mk.inj htake
    obtain ⟨rfl, -⟩ := Prod.mk.inj hdraft
    simp [fileFields]
  | cons part rest ih =>
    obtain ⟨middle, later, hfirst, hrest⟩ := takeParts_ok_cons htake
    rw [ih hrest]
    cases takePart_settled hfirst with
    | plain hnone hreserved => rw [hreserved, List.map_cons, fileFields_cons_of_none hnone]
    | filed hname hne hfile hfileName _ hnext _ =>
      rw [hnext, mem_reserved_describe_iff, List.map_cons,
        fileFields_cons_of_file hname hne hfile hfileName, List.exists_mem_cons_iff, or_assoc,
        or_left_comm]

/-- Parts that are all taken in hold files under different names, and none that was reserved. -/
lemma nodup_fileFields_of_takeParts
    (htake : (takeParts surroundings settings parts draft).run site = ((next, none), after)) :
    (fileFields (parts.map Part.headers)).Nodup ∧
      ∀ field ∈ fileFields (parts.map Part.headers), field ∉ draft.reserved.names := by
  induction parts generalizing draft site with
  | nil => exact ⟨.nil, nofun⟩
  | cons part rest ih =>
    obtain ⟨middle, later, hfirst, hrest⟩ := takeParts_ok_cons htake
    obtain ⟨hnodup, hfree⟩ := ih hrest
    cases takePart_settled hfirst with
    | plain hnone hreserved =>
      rw [List.map_cons, fileFields_cons_of_none hnone]
      exact ⟨hnodup, fun field hfield => hreserved ▸ hfree field hfield⟩
    | @filed field fileName file hname hne hfile hfileName hnew hnext hstore =>
      -- from the file on, its own name and all that was reserved before it are reserved
      have hmore : ∀ other ∈ fileFields (rest.map Part.headers),
          other ≠ field ∧ other ∉ draft.reserved.names := by
        intro other hother
        have hnone := hfree other hother
        rw [hnext, mem_reserved_describe_iff, not_or] at hnone
        exact ⟨fun hsame => hnone.1 (.inl hsame), hnone.2⟩
      rw [List.map_cons, fileFields_cons_of_file hname hne hfile hfileName]
      refine ⟨List.nodup_cons.2 ⟨fun hmem => (hmore field hmem).1 rfl, hnodup⟩,
        fun other hother => ?_⟩
      rcases List.mem_cons.1 hother with rfl | hother
      · exact hnew
      · exact (hmore other hother).2

/-- Parts are taken in one list after the other. -/
lemma takeParts_append {middle : Draft} {later : Site}
    (htake : (takeParts surroundings settings parts draft).run site = ((middle, none), later)) :
    (takeParts surroundings settings (parts ++ rest) draft).run site
      = (takeParts surroundings settings rest middle).run later := by
  induction parts generalizing draft site with
  | nil =>
    obtain ⟨hdraft, rfl⟩ := Prod.mk.inj htake
    obtain ⟨rfl, -⟩ := Prod.mk.inj hdraft
    rfl
  | cons part others ih =>
    obtain ⟨first, between, hfirst, hothers⟩ := takeParts_ok_cons htake
    rw [List.cons_append, takeParts_cons hfirst]
    exact ih hothers

/-- If parts are all taken in, so are those at the front, and then the others. -/
lemma takeParts_ok_append
    (htake : (takeParts surroundings settings (parts ++ rest) draft).run site
      = ((next, none), after)) :
    ∃ middle later, (takeParts surroundings settings parts draft).run site
        = ((middle, none), later) ∧
      (takeParts surroundings settings rest middle).run later = ((next, none), after) := by
  induction parts generalizing draft site with
  | nil => exact ⟨draft, site, rfl, htake⟩
  | cons part others ih =>
    obtain ⟨first, between, hfirst, hothers⟩ := takeParts_ok_cons htake
    obtain ⟨middle, later, hmiddle, hrest⟩ := ih hothers
    exact ⟨middle, later, (takeParts_cons hfirst).trans hmiddle, hrest⟩

/-- At a part that is not taken in, nothing behind it matters. -/
lemma takeParts_cons_error {error : DepositError}
    (hfailed : ((takePart surroundings settings part draft).run site).1.2 = some error) :
    ((takeParts surroundings settings (part :: rest) draft).run site).1.2 = some error := by
  rcases hpart : (takePart surroundings settings part draft).run site with ⟨⟨next, failure⟩, after⟩
  rw [hpart] at hfailed
  obtain rfl : failure = some error := hfailed
  rw [takeParts, Run.run_bind, hpart]
  rfl

/-- Parts are turned down for what the first of them is turned down for that is not taken in. -/
lemma takeParts_error_iff {error : DepositError} :
    ((takeParts surroundings settings parts draft).run site).1.2 = some error ↔
      ∃ before part rest middle later, parts = before ++ part :: rest ∧
        (takeParts surroundings settings before draft).run site = ((middle, none), later) ∧
        ((takePart surroundings settings part middle).run later).1.2 = some error := by
  constructor
  · intro hfailure
    rcases htake : (takeParts surroundings settings parts draft).run site
      with ⟨⟨next, failure⟩, after⟩
    rw [htake] at hfailure
    obtain rfl : failure = some error := hfailure
    obtain ⟨before, part, rest, middle, later, hparts, hbefore, hpart⟩ := takeParts_failed htake
    exact ⟨before, part, rest, middle, later, hparts, hbefore, by rw [hpart]⟩
  · rintro ⟨before, part, rest, middle, later, rfl, hbefore, hpart⟩
    rw [takeParts_append hbefore]
    exact takeParts_cons_error hpart

/-! ### A form -/

/-- A part has a name that was taken before.

* All parts before it are taken in.
* Its name is not empty, and it was taken by a file that was stored before.
* No part before it has such a name. -/
structure Intrudes (surroundings : Surroundings) (settings : Settings) (site : Site)
    (before : List Part) (part : Part) (name : String) : Prop where
  reached : ∃ draft later, (takeParts surroundings settings before
    { writer := .start surroundings.chance.boundary }).run site = ((draft, none), later)
  named : part.name? = some name
  nonempty : name ≠ ""
  taken : ∃ field, Stores surroundings settings field before
    { writer := .start surroundings.chance.boundary } site ∧ Takes field name
  first : ∀ earlier other between, before = earlier ++ other :: between →
    ∀ found, other.name? = some found → found ≠ "" →
      ∀ field, Stores surroundings settings field earlier
        { writer := .start surroundings.chance.boundary } site → ¬ Takes field found

/-- Where parts are taken in at the beginning of a form, the names that are reserved are those that
a file has taken. -/
lemma mem_reserved_iff_stores
    (htake : (takeParts surroundings settings parts
      { writer := .start surroundings.chance.boundary }).run site = ((next, none), after)) :
    key ∈ next.reserved.names ↔ ∃ field, Stores surroundings settings field parts
      { writer := .start surroundings.chance.boundary } site ∧ Takes field key := by
  have hnone : key ∉ ({ writer := .start surroundings.chance.boundary } : Draft).reserved.names :=
    List.not_mem_nil
  rw [mem_reserved_of_takeParts htake, or_iff_right hnone]
  simp only [stores_iff_of_takeParts htake]

/-- A part that is the first to be turned down, and this for its name, has a name that was taken
before. -/
lemma intrudes_of_takePart {before : List Part} {later : Site}
    (hbefore : (takeParts surroundings settings before
      { writer := .start surroundings.chance.boundary }).run site = ((draft, none), later))
    (hfailed : ((takePart surroundings settings part draft).run later).1.2
      = some (.injected name)) :
    Intrudes surroundings settings site before part name := by
  obtain ⟨hname, hne, hreserved⟩ := takePart_injected_iff.1 hfailed
  refine ⟨⟨draft, later, hbefore⟩, hname, hne, (mem_reserved_iff_stores hbefore).1 hreserved,
    fun earlier other between hsplit found hfound hfoundNe field hstores htakes => ?_⟩
  -- the other part was taken in, so its name was not reserved then
  obtain ⟨middle, between, hearlier, hothers⟩ := takeParts_ok_append (hsplit ▸ hbefore)
  obtain ⟨next, after, hother, -⟩ := takeParts_ok_cons hothers
  exact not_mem_reserved_of_takePart hother hfound hfoundNe
    ((mem_reserved_iff_stores hearlier).2 ⟨field, hstores, htakes⟩)

/-- A form is turned down for what a part is exactly if one of its parts is turned down for it. -/
lemma make_error_iff {form : Form} {error : DepositError} (hform : ∀ fault, error ≠ .form fault) :
    ((make surroundings settings form).run site).1.form = .error error ↔
      ((takeParts surroundings settings form.parts
        { writer := .start surroundings.chance.boundary }).run site).1.2 = some error := by
  constructor
  · intro herror
    obtain ⟨next, failure, later, htake, hfailure, -, -⟩ := takeParts_of_make_error rfl herror
    rw [htake]
    cases failure with
    | some error => exact hfailure
    | none =>
      obtain ⟨fault, -, hfault⟩ := Option.map_eq_some_iff.1 hfailure
      exact absurd hfault.symm (hform fault)
  · intro hfailure
    rcases htake : (takeParts surroundings settings form.parts
      { writer := .start surroundings.chance.boundary }).run site with ⟨⟨next, failure⟩, later⟩
    rw [htake] at hfailure
    obtain rfl : failure = some error := hfailure
    rw [make, Run.run_bind, htake]
    rfl

lemma make_injected_iff {form : Form} :
    ((make surroundings settings form).run site).1.form = .error (.injected name) ↔
      ((takeParts surroundings settings form.parts
        { writer := .start surroundings.chance.boundary }).run site).1.2
          = some (.injected name) :=
  make_error_iff nofun

lemma make_injected_iff_intrudes {form : Form} :
    ((make surroundings settings form).run site).1.form = .error (.injected name) ↔
      ∃ before part rest, form.parts = before ++ part :: rest ∧
        Intrudes surroundings settings site before part name := by
  rw [make_injected_iff, takeParts_error_iff]
  constructor
  · rintro ⟨before, part, rest, draft, later, hparts, hbefore, hfailed⟩
    exact ⟨before, part, rest, hparts, intrudes_of_takePart hbefore hfailed⟩
  · rintro ⟨before, part, rest, hparts, hintrudes⟩
    obtain ⟨draft, later, hbefore⟩ := hintrudes.reached
    have hreserved := (mem_reserved_iff_stores hbefore).2 hintrudes.taken
    exact ⟨before, part, rest, draft, later, hparts, hbefore,
      takePart_injected_iff.2 ⟨hintrudes.named, hintrudes.nonempty, hreserved⟩⟩

/-! ### The fields that describe files -/

/-- The name and the value of a field that describes a file. -/
def Entry.writtenField? : Entry → Option (String × String)
  | .copied _ _ => none
  | .described name ending value => some (name ++ ending, value)

/-- The fields that describe files. -/
def writtenFields (entries : List Entry) : List (String × String) :=
  entries.filterMap Entry.writtenField?

@[simp] lemma writtenFields_copied (headers : Headers) (data : Bytes) (entries : List Entry) :
    writtenFields (.copied headers data :: entries) = writtenFields entries := rfl

@[simp] lemma writtenFields_descriptions (name : String) (file : StoredFile)
    (entries : List Entry) :
    writtenFields (descriptions name file ++ entries)
      = file.fields name ++ writtenFields entries := rfl

variable {contents : List (Headers × Bytes)} {entries : List Entry} {disk : Disk} {n : Nat}

/-- For each part that holds a file, each ending gives a field. -/
lemma Rewritten.names_writtenFields
    (h : Rewritten surroundings settings disk n contents entries) :
    (writtenFields entries).map Prod.fst
      = (fileFields (contents.map Prod.fst)).flatMap fun field => endings.map (field ++ ·) := by
  induction h with
  | nil => rfl
  | dropped hname _ ih =>
    rw [ih, List.map_cons, fileFields_cons_of_none (fileField?_of_not_named hname)]
  | copied hname hfile _ ih =>
    rw [writtenFields_copied, ih, List.map_cons,
      fileFields_cons_of_none (fileField?_of_no_file hfile)]
  | stored hname hne hfile hfileName _ _ _ _ ih =>
    rw [writtenFields_descriptions, List.map_append, ih, List.map_cons,
      fileFields_cons_of_file hname hne hfile hfileName, List.flatMap_cons]
    rfl

/-- Different names with endings are different. -/
lemma nodup_flatMap_endings {fields : List String} (hfields : fields.Nodup) :
    (fields.flatMap fun field => endings.map (field ++ ·)).Nodup := by
  rw [List.nodup_flatMap]
  refine ⟨fun field _ => ?_, hfields.imp fun {field other} hne => ?_⟩
  · refine List.Nodup.map (fun _ _ hsame => (String.append_right_inj field).1 hsame) (by decide)
  · intro key hkey hother
    obtain ⟨ending, hending, rfl⟩ := List.mem_map.1 hkey
    obtain ⟨another, hanother, hsame⟩ := List.mem_map.1 hother
    exact hne (append_ending_inj hanother hending hsame).1.symm

/-- **Which names turn a form down.**  A form is turned down for a name exactly if one of its parts
has the name and the name was taken by a file that was stored before, where all parts before it are
taken in; the part is the first of this kind.  What stands behind the part does not matter.

So if a form is rewritten, the parts that hold a file have different names, and so have all fields
that the new form says of the files. -/
theorem injected_iff_intrudes (form : Form) (site : Site) :
    (∀ name, ((make surroundings settings form).run site).1.form = .error (.injected name) ↔
      ∃ before part rest, form.parts = before ++ part :: rest ∧
        Intrudes surroundings settings site before part name) ∧
    (∀ before part name, Intrudes surroundings settings site before part name →
      ∀ rest fault, ((make surroundings settings ⟨before ++ part :: rest, fault⟩).run site).1.form
        = .error (.injected name)) ∧
    ∀ {deposit : Deposit} {after : Site} {writer : FormWriter},
      (make surroundings settings form).run site = (deposit, after) →
      deposit.form = .ok writer →
      (fileFields (form.parts.map Part.headers)).Nodup ∧
      (surroundings.chance.Fresh → ∃ entries,
        Rewritten surroundings settings after.disk site.saves form.contents entries ∧
        ((∀ part ∈ form.parts, HeaderBlock.Clean part.headers) → IsReadAs writer entries) ∧
        ((writtenFields entries).map Prod.fst).Nodup) := by
  refine ⟨fun name => make_injected_iff_intrudes, fun before part name hintrudes rest fault => ?_,
    fun {deposit after writer} hrun hform => ?_⟩
  · exact make_injected_iff_intrudes.2 ⟨before, part, rest, rfl, hintrudes⟩
  · obtain ⟨-, next, htake, rfl, -⟩ := takeParts_of_make hrun hform
    obtain ⟨hnodup, -⟩ := nodup_fileFields_of_takeParts htake
    refine ⟨hnodup, fun hfresh => ?_⟩
    obtain ⟨entries, files, h⟩ := takeParts_takenIn hfresh htake
    refine ⟨entries, h.deposited.rewritten, h.readable hfresh, ?_⟩
    have hheaders : form.parts.map Part.headers
        = (form.parts.map fun part => (part.headers, part.data)).map Prod.fst := by
      rw [List.map_map]
      rfl
    rw [h.deposited.rewritten.names_writtenFields]
    exact nodup_flatMap_endings (hheaders ▸ hnodup)

/-- A form with two files. -/
def formOfFiles (first second : String) : Form :=
  Form.readNamed ⟨[88], 1000⟩ (Stream.once (Utf8.encode (
    "--X\r\nContent-Disposition: form-data; name=\"" ++ first ++ "\"; filename=\"t\"\r\n\r\ndata"
    ++ "\r\n--X\r\nContent-Disposition: form-data; name=\"" ++ second
    ++ "\"; filename=\"u\"\r\n\r\nmore\r\n--X--\r\n")))

/-- The name of a field of the second file may be the name of the first file's part, but the name of
a field of the first file may not be the name of the second file's part. -/
theorem injected_iff_intrudes_files :
    (∃ writer entries,
      ((make drawnSurroundings plainSettings (formOfFiles "a.name" "a")).run
        { gate := ⟨1, 0, 0⟩ }).1.form = .ok writer ∧
      (fileFields ((formOfFiles "a.name" "a").parts.map Part.headers)).Nodup ∧
      Rewritten drawnSurroundings plainSettings
        ((make drawnSurroundings plainSettings (formOfFiles "a.name" "a")).run
          { gate := ⟨1, 0, 0⟩ }).2.disk 0 (formOfFiles "a.name" "a").contents entries ∧
      IsReadAs writer entries ∧ ((writtenFields entries).map Prod.fst).Nodup) ∧
    ∃ before part rest, (formOfFiles "a" "a.name").parts = before ++ part :: rest ∧
      Intrudes drawnSurroundings plainSettings { gate := ⟨1, 0, 0⟩ } before part "a.name" := by
  constructor
  · have haccepted : ((make drawnSurroundings plainSettings (formOfFiles "a.name" "a")).run
        { gate := ⟨1, 0, 0⟩ }).1.form.toOption.isSome = true := by
      decide +kernel
    have hfault : (formOfFiles "a.name" "a").fault = none := by
      decide +kernel
    have hboundary : 13 ∉ Form.Settings.boundary ⟨[88], 1000⟩ := by
      decide
    have hclean : ∀ part ∈ (formOfFiles "a.name" "a").parts, HeaderBlock.Clean part.headers := by
      intro part hpart
      rw [formOfFiles] at hfault hpart
      exact Form.clean_of_mem_contents hboundary hfault _ (List.mem_map_of_mem hpart)
    rcases hrun : (make drawnSurroundings plainSettings (formOfFiles "a.name" "a")).run
      { gate := ⟨1, 0, 0⟩ } with ⟨deposit, after⟩
    rw [hrun] at haccepted
    obtain ⟨writer, hform⟩ := exists_of_isSome haccepted
    obtain ⟨hnodup, hentries⟩ := (injected_iff_intrudes (formOfFiles "a.name" "a") _).2.2 hrun hform
    obtain ⟨entries, hrewritten, hread, hnames⟩ := hentries fresh_drawnSurroundings
    exact ⟨writer, entries, hform, hnodup, hrewritten, hread hclean, hnames⟩
  · have hrejected : ((takeParts drawnSurroundings plainSettings (formOfFiles "a" "a.name").parts
        { writer := .start drawnSurroundings.chance.boundary }).run { gate := ⟨1, 0, 0⟩ }).1.2
          = some (.injected "a.name") := by
      decide +kernel
    exact ((injected_iff_intrudes _ _).1 "a.name").1 (make_injected_iff.2 hrejected)

end Deposit

end Intercept
