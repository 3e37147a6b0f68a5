/-
# A form that is too large

A form is read up to a limit.  If it is larger it is turned down, and nothing of it is sent.  What
the client is told depends on where the limit strikes: the error is passed on as it is, unless a file
is being made of the data of a part.  Then only the text of the error is passed on, as the reason why
this data cannot be read, and the client is told that the proxy failed.

Only the last part of a form can break off.  So it is enough to follow one part, and to see that no
part which is whole leads to an error that blames the limit.
-/
import Intercept.Proofs.Upload.Cleanup
import Intercept.Proofs.Upload.Handling

namespace Intercept

/-! ### Errors that blame the limit -/

/-- An error says that a form cannot be read on: it passes the fault on, or gives its text as the
reason why the data of a part cannot be read. -/
def DepositError.ComesFrom (fault : FormError) : DepositError → Prop
  | .form error => error = fault
  | .store (.unreadable (.unreadable cause)) => cause = fault.message
  | .transform (.extract (.unreadable (.unreadable cause))) => cause = fault.message
  | _ => False

instance (fault : FormError) (error : DepositError) : Decidable (error.ComesFrom fault) := by
  unfold DepositError.ComesFrom
  split <;> infer_instance

lemma FormError.message_tooLarge (limit : Nat) : (FormError.tooLarge limit).message
    = "stream size exceeded limit: " ++ toString limit ++ " bytes" := rfl

/-- The operating system does not say that a form is too large. -/
lemma SystemError.message_ne_tooLarge (error : SystemError) (limit : Nat) :
    error.message ≠ (FormError.tooLarge limit).message := by
  -- the texts differ within their first eight characters
  have hlimit : ∀ text : String, ("stream size exceeded limit: " ++ text).toList.take 8
      = "stream s".toList := by
    intro text
    rw [String.toList_append, List.take_append_of_le_length (by decide)]
    decide
  have herror : error.message.toList.take 8 ≠ "stream s".toList := by
    cases error <;> decide
  intro hsame
  rw [FormError.message_tooLarge, String.append_assoc] at hsame
  rw [hsame] at herror
  exact herror (hlimit _)

namespace Form

/-- Only the last part of a form can break off, and then with the fault of the form. -/
lemma readParts_faults (settings : Settings) (isWanted : Headers → Bool) (fuel : Nat)
    (stage : Stage) (reader : Reader) :
    (∀ part ∈ (readParts settings isWanted fuel stage reader).parts, part.fault = none) ∨
    ∃ front last, (readParts settings isWanted fuel stage reader).parts = front ++ [last] ∧
      (∀ part ∈ front, part.fault = none) ∧
      last.fault = (readParts settings isWanted fuel stage reader).fault := by
  induction fuel generalizing stage reader with
  | zero => exact .inl (List.forall_mem_nil _)
  | succ fuel ih =>
    rw [readParts]
    split
    · exact .inl (List.forall_mem_nil _)
    · exact .inl (List.forall_mem_nil _)
    · simp only
      split
      · split
        · next pieces error _ =>
          exact .inr ⟨[], _, rfl, List.forall_mem_nil _, rfl⟩
        · next headers reader _ _ pieces next _ =>
          obtain hwhole | ⟨front, last, hparts, hfront, hlast⟩ := ih .delimiter next
          · refine .inl fun part hpart => ?_
            rcases List.mem_cons.1 hpart with rfl | hpart
            · rfl
            · exact hwhole part hpart
          · refine .inr ⟨_ :: front, last, by rw [hparts]; rfl, fun part hpart => ?_, hlast⟩
            rcases List.mem_cons.1 hpart with rfl | hpart
            · rfl
            · exact hfront part hpart
      · exact ih _ _

end Form

namespace Deposit

variable {surroundings : Surroundings} {settings : Settings} {part : Part} {draft next : Draft}
variable {site after : Site} {failure : Option DepositError} {limit : Nat}

/-! ### Where the limit strikes -/

/-- Whether the data of a part breaks off while a file is made of it.  A program that has closed its
input does not see it. -/
def breaksFile (surroundings : Surroundings) (settings : Settings) (part : Part) : Bool :=
  part.fault.isSome && Form.isNamed part.headers &&
    (part.fileName?.filter fun fileName => !fileName.isEmpty).any fun fileName =>
      !Transform.closesWithin surroundings settings.transform settings.grant fileName
        part.data.length

/-- What a part can come to if a form is too large: if it is taken in, it does not break off while a
file is made of it; if it fails and the error blames the limit, it breaks off, and the status says
whether a file was being made of it. -/
def Answers (surroundings : Surroundings) (settings : Settings) (limit : Nat) (part : Part) :
    Option DepositError → Prop
  | none => breaksFile surroundings settings part = false
  | some error => error.ComesFrom (.tooLarge limit) → part.fault.isSome = true ∧
      error.status = if breaksFile surroundings settings part then 500 else 413

/-- Only an artifact that is not extracted for want of data makes an error that blames the limit. -/
lemma comesFrom_untransformed {fault : FormError} {error : TransformError}
    (h : (untransformed error).ComesFrom fault) :
    ∃ cause, error = .extract (.unreadable (.unreadable cause)) ∧
      (untransformed error).status = 500 := by
  cases error with
  | notStarted program cause => exact h.elim
  | extract error =>
    cases error with
    | unreadable found =>
      cases found with
      | unreadable cause => exact ⟨cause, rfl, rfl⟩
      | notStripped event => exact h.elim
    | tooLarge limit => exact h.elim
    | unwritable path cause => exact h.elim
    | missing artifact => exact h.elim
    | badArchive => exact h.elim
    | notUnpacked => exact h.elim

/-- Only a file that is not stored for want of data makes an error that blames the limit. -/
lemma comesFrom_rejected {fault : FormError} {error : StoreError UploadFault}
    (h : (rejected error).1.ComesFrom fault) :
    ∃ cause, error = .unreadable (.unreadable cause) ∧ cause = fault.message ∧
      (rejected error).1.status = 500 := by
  cases error with
  | tooLarge => exact h.elim
  | unwritable path cause => exact h.elim
  | unreadable found =>
    cases found with
    | unreadable cause => exact ⟨cause, rfl, h, rfl⟩
    | notStripped event => exact h.elim

lemma storePart_answers {name fileName : String} (hname : part.name? = some name) (hne : name ≠ "")
    (hfile : part.fileName? = some fileName) (hfileName : fileName ≠ "")
    (hrun : (storePart surroundings settings name fileName part draft).run site
      = ((next, failure), after)) : Answers surroundings settings limit part failure := by
  have hnamed : Form.isNamed part.headers = true := isNamed_iff.2 ⟨name, hname, hne⟩
  have hbreaks : breaksFile surroundings settings part = (part.fault.isSome &&
      !Transform.closesWithin surroundings settings.transform settings.grant fileName
        part.data.length) := by
    rw [breaksFile, hnamed, hfile, Option.filter_some, if_pos (by simpa using hfileName),
      Bool.and_true]
    rfl
  have hfault : ∀ {cause : String},
      (dataOf part).deliver.fault = some (.unreadable cause) → part.fault.isSome = true := by
    intro cause h
    rw [deliver_dataOf] at h
    obtain ⟨error, herror, -⟩ := Option.map_eq_some_iff.1 h
    rw [herror]
    rfl
  have hlength : (dataOf part).deliver.bytes.length = part.data.length := by rw [deliver_dataOf]
  cases storePart_handled hrun with
  | illegal houtcome hafter =>
    obtain rfl : failure = _ := congrArg Prod.snd houtcome
    exact fun hcomes => hcomes.elim
  | @untransformed error htransform houtcome =>
    obtain rfl : failure = _ := congrArg Prod.snd houtcome
    intro hcomes
    obtain ⟨cause, rfl, hstatus⟩ := comesFrom_untransformed hcomes
    obtain ⟨hunreadable, hreads⟩ := Transform.unreadable_of_run_error htransform
    rw [hlength] at hreads
    rw [hstatus, hbreaks, hfault hunreadable, hreads]
    exact ⟨rfl, rfl⟩
  | @rejected stream error later last hlegal htransform hsave houtcome hafter =>
    obtain rfl : failure = _ := congrArg Prod.snd houtcome
    intro hcomes
    obtain ⟨cause, rfl, hcause, hstatus⟩ := comesFrom_rejected hcomes
    obtain ⟨hunreadable, hreads⟩ | ⟨error, herror⟩ :=
      Transform.unreadable_of_run htransform (Storage.fault_of_save hsave)
    · rw [hlength] at hreads
      rw [hstatus, hbreaks, hfault hunreadable, hreads]
      exact ⟨rfl, rfl⟩
    · exact absurd (herror.symm.trans hcause) (error.message_ne_tooLarge limit)
  | @stored stream file later last hlegal htransform hsave houtcome hafter =>
    obtain rfl : failure = none := congrArg Prod.snd houtcome
    obtain ⟨bytes, haccept⟩ := Storage.accept_of_save hsave
    have hdeliver := (Storage.accept_eq_iff.1 haccept).1
    show breaksFile surroundings settings part = false
    rw [hbreaks]
    obtain hnone | hcloses := Transform.fault_of_run htransform (by rw [hdeliver])
    · rw [deliver_dataOf] at hnone
      rw [Option.map_eq_none_iff.1 hnone]
      rfl
    · rw [hlength] at hcloses
      rw [hcloses]
      simp

lemma takePart_answers
    (hrun : (takePart surroundings settings part draft).run site = ((next, failure), after)) :
    Answers surroundings settings limit part failure := by
  cases takePart_tried hrun with
  | dropped hname houtcome hafter =>
    obtain rfl : failure = none := congrArg Prod.snd houtcome
    show breaksFile surroundings settings part = false
    rw [breaksFile, hname, Bool.and_false, Bool.false_and]
  | reserved hname hne hreserved houtcome hafter =>
    obtain rfl : failure = _ := congrArg Prod.snd houtcome
    exact fun hcomes => hcomes.elim
  | copied hname hne hreserved hfile houtcome hafter =>
    obtain rfl : failure = part.fault.map fun error => .form error := congrArg Prod.snd houtcome
    have hbreaks : breaksFile surroundings settings part = false := by
      rw [breaksFile, hfile]
      exact Bool.and_false _
    cases hfault : part.fault with
    | none => exact hbreaks
    | some error =>
      intro hcomes
      obtain rfl : error = .tooLarge limit := hcomes
      rw [hfault, hbreaks]
      exact ⟨rfl, rfl⟩
  | filed hname hne hfile hfileName hstore => exact storePart_answers hname hne hfile hfileName hstore

/-- Parts that are taken in do not break off while files are made of them.  Where an error blames the
limit, it is about a part that breaks off. -/
lemma takeParts_answers (limit : Nat) {parts : List Part}
    (hrun : (takeParts surroundings settings parts draft).run site = ((next, failure), after)) :
    (failure = none → ∀ part ∈ parts, breaksFile surroundings settings part = false) ∧
    ∀ error, failure = some error → ∃ part ∈ parts,
      Answers surroundings settings limit part (some error) := by
  induction parts generalizing draft site with
  | nil =>
    obtain rfl := congrArg (fun found => found.1.2) hrun
    refine ⟨fun _ => List.forall_mem_nil _, fun error hnone => ?_⟩
    cases hnone
  | cons part rest ih =>
    rw [takeParts, Run.run_bind] at hrun
    rcases htake : (takePart surroundings settings part draft).run site
      with ⟨⟨middle, found⟩, later⟩
    have hanswers : Answers surroundings settings limit part found := takePart_answers htake
    rw [htake] at hrun
    cases found with
    | some error =>
      obtain rfl := congrArg (fun found => found.1.2) hrun
      refine ⟨fun hnone => ?_, fun other hother => ⟨part, List.mem_cons_self, ?_⟩⟩
      · cases hnone
      · obtain rfl := Option.some.inj hother
        exact hanswers
    | none =>
      obtain ⟨hwhole, hfailed⟩ := ih hrun
      refine ⟨fun hnone other hother => ?_, fun error herror => ?_⟩
      · rcases List.mem_cons.1 hother with rfl | hother
        · exact hanswers
        · exact hwhole hnone other hother
      · obtain ⟨other, hother, hfound⟩ := hfailed error herror
        exact ⟨other, List.mem_cons_of_mem _ hother, hfound⟩

/-- A part that breaks off is the last one, and it alone decides. -/
lemma any_breaksFile {reading : Form.Settings} {stream : Stream String}
    (hpart : part ∈ (Form.readNamed reading stream).parts) (hfault : part.fault.isSome = true) :
    (Form.readNamed reading stream).parts.any (breaksFile surroundings settings)
      = breaksFile surroundings settings part := by
  have hwhole : ∀ {other : Part}, other.fault = none →
      breaksFile surroundings settings other = false := by
    intro other hnone
    rw [breaksFile, hnone]
    rfl
  obtain hall | ⟨front, last, hparts, hfront, -⟩ :=
    Form.readParts_faults reading Form.isNamed (Form.streamSize stream + 2) .preamble
      ⟨[], stream, false, 0⟩
  · rw [hall part hpart] at hfault
    cases hfault
  · have hread : (Form.readNamed reading stream).parts = front ++ [last] := hparts
    rw [hread, List.mem_append, List.mem_singleton] at hpart
    rcases hpart with hpart | rfl
    · rw [hfront part hpart] at hfault
      cases hfault
    · rw [hread, List.any_append, List.any_eq_false.2 fun other hother =>
        Bool.eq_false_iff.1 (hwhole (hfront other hother))]
      simp

/-- **How a form that is too large is turned down.**  It is always turned down.  If the error blames
the limit, its status is 500 if the limit strikes while a file is made of the data of a part, and 413
if it strikes anywhere else. -/
lemma status_of_make {reading : Form.Settings} {stream : Stream String} {deposit : Deposit}
    (hrun : (make surroundings settings (Form.readNamed reading stream)).run site
      = (deposit, after))
    (hlarge : (Form.readNamed reading stream).fault = some (.tooLarge limit)) :
    ∃ error, deposit.form = .error error ∧ (error.ComesFrom (.tooLarge limit) →
      error.status = if (Form.readNamed reading stream).parts.any
        (breaksFile surroundings settings) then 500 else 413) := by
  cases hform : deposit.form with
  | ok writer =>
    obtain ⟨hnone, -⟩ := takeParts_of_make hrun hform
    rw [hlarge] at hnone
    cases hnone
  | error error =>
    refine ⟨error, rfl, fun hcomes => ?_⟩
    obtain ⟨next, failure, later, htake, hfailure, -, -⟩ := takeParts_of_make_error hrun hform
    obtain ⟨hwhole, hfailed⟩ := takeParts_answers limit htake
    cases failure with
    | none =>
      -- every part was taken in, so the limit struck behind them
      rw [hlarge] at hfailure
      obtain rfl := Option.some.inj hfailure
      rw [List.any_eq_false.2 fun part hpart => Bool.eq_false_iff.1 (hwhole rfl part hpart)]
      rfl
    | some found =>
      obtain rfl := Option.some.inj hfailure
      obtain ⟨part, hpart, hanswers⟩ := hfailed _ rfl
      obtain ⟨hfault, hstatus⟩ := hanswers hcomes
      rw [hstatus, any_breaksFile hpart hfault]

end Deposit

namespace Upload

variable {surroundings : Surroundings} {backend : Backend} {uploads : Config.Uploads}
variable {route : Route} {request : Request} {boundary : Bytes} {grant : Grant}
variable {site later : Site}

/-- **What a form that is too large is answered.**  An upload was allowed, and its form is larger than
the limit.  Then nothing is sent any more, and the form is turned down.  If the error blames the
limit, the client is told that the proxy failed if the limit strikes while a file is made of the data
of a part, and that the form is too large if it strikes anywhere else. -/
theorem handle_of_oversized (hboundary : request.headers.boundary? = some boundary)
    (hask : (Authorization.ask surroundings.application backend request.uri request.headers).run
      site = (.ok (.granted grant), later))
    (hlarge : (formOf uploads request boundary).fault = some (.tooLarge uploads.maxFormSize)) :
    ((handle surroundings backend uploads route request).run site).2.sent = later.sent ∧
    ∃ error,
      ((Deposit.make surroundings (settingsFor uploads route request grant)
        (formOf uploads request boundary)).run (counted route later)).1.form = .error error ∧
      (error.ComesFrom (.tooLarge uploads.maxFormSize) →
        ((handle surroundings backend uploads route request).run site).1
          = if (formOf uploads request boundary).parts.any
              (Deposit.breaksFile surroundings (settingsFor uploads route request grant))
            then Response.failed
            else Response.plain 413 "Request Entity Too Large") := by
  rcases hmake : (Deposit.make surroundings (settingsFor uploads route request grant)
    (formOf uploads request boundary)).run (counted route later) with ⟨deposit, after⟩
  obtain ⟨error, hform, hstatus⟩ := Deposit.status_of_make hmake hlarge
  have hsent := sent_of_make hmake
  obtain ⟨event, hrefuse⟩ := run_refuse request.headers.requestId error after
  rw [handle_granted hboundary hask hmake, hform]
  simp only [hrefuse]
  refine ⟨hsent, error, rfl, fun hcomes => ?_⟩
  rw [refusal, hstatus hcomes, formOf]
  split
  · rfl
  · rfl

/-! ### A limit that strikes in a file -/

/-- Settings by which a form may have seventy bytes. -/
def narrowUploads : Config.Uploads := { maxFormSize := 70 }

/-- A request with a form of more than seventy bytes, which pauses in the middle of a file. -/
def overlongRequest : Request := ⟨"POST", ⟨none, none, "/uploads", none⟩,
  [(Header.contentType, Utf8.encode "multipart/form-data; boundary=X")],
  [.piece (Utf8.encode ("--X\r\nContent-Disposition: form-data; name=\"f\"; filename=\"t\"\r\n\r\n"
    ++ "da")), .pause, .piece (Utf8.encode "ta\r\n--X--\r\n")]⟩

theorem handle_of_oversized_stored :
    ((handle (grantingSurroundings "{}") plainBackend narrowUploads plainRoute
      overlongRequest).run { gate := ⟨1, 0, 0⟩ }).1 = Response.failed := by
  have hboundary : overlongRequest.headers.boundary? = some [88] := by decide +kernel
  have hlarge : (formOf narrowUploads overlongRequest [88]).fault = some (.tooLarge 70) := by
    decide +kernel
  have hask := ask_granting (by decide)
    (show Grant.decode? (Utf8.encode "{}") = some {} by decide +kernel)
    (show (Authorization.request? overlongRequest.uri overlongRequest.headers).isSome = true by
      decide +kernel)
  obtain ⟨-, error, hform, hanswer⟩ := @handle_of_oversized _ _ _ plainRoute _ _ _ _ _
    hboundary hask hlarge
  have hblames : ((((Deposit.make (grantingSurroundings "{}")
      (settingsFor narrowUploads plainRoute overlongRequest {})
      (formOf narrowUploads overlongRequest [88])).run
        (counted plainRoute (allowedSite "{}" overlongRequest))).1.form.mapError fun error =>
          decide (error.ComesFrom (.tooLarge 70))).map fun _ => ()) = .error true := by
    decide +kernel
  rw [hform] at hblames
  have hstruck : (formOf narrowUploads overlongRequest [88]).parts.any
      (Deposit.breaksFile (grantingSurroundings "{}")
        (settingsFor narrowUploads plainRoute overlongRequest {})) = true := by
    decide +kernel
  exact (hanswer (of_decide_eq_true (Except.error.inj hblames))).trans (if_pos hstruck)

end Upload

end Intercept
