/-
# What is reported of a configuration

`Config.Rule` lists the rules that the settings have to keep, two of them for each upload route, and
`Rule.Broken` says what breaks a rule; what an address is, and what is blank, is said of the
characters of a text.  `Config.report` has the broken rules in their order, each with its problem,
and is what the checks find (`problems_eq`).

A rule reads few settings.  As long as these stay as they are, so does what is reported of it, and
it stays in its place among all that is reported (`report_unaffected`); nothing is hidden by another
problem, and nothing is reported twice.  `Config.Verdict` collects what is known of the answer to a
document.
-/
import Intercept.Config.Load
import Intercept.Proofs.Config.Settings
import Intercept.Proofs.Net.SocketAddress
import Intercept.Proofs.Text.Quoted

namespace Intercept.Config

/-! ### Rules -/

/-- What is asked of the settings.  The rules about a route have the index of the route. -/
inductive Rule where
  | listenerAddress
  | backendAddress
  | backendTimeout
  | requestTimeout
  | scaler
  | maxProcesses
  | fetchTimeouts
  | stripper
  | artifact
  | routeSuffix (i : Nat)
  | routeProcessor (i : Nat)
  | metricsAddress
deriving DecidableEq, Repr

/-- A text has no characters but blanks. -/
def Blank (text : String) : Prop := ∀ c ∈ text.toList, Text.isBlank c = true

lemma isAllBlank_iff {text : String} : Text.isAllBlank text = true ↔ Blank text := List.all_eq_true

-- There are finitely many characters, but it is the text that is to be looked through.
instance (text : String) : Decidable (Blank text) := decidable_of_iff _ isAllBlank_iff

namespace Rule

/-- Where a rule stands among all rules, in lexicographic order. -/
def position : Rule → List Nat
  | listenerAddress => [0]
  | backendAddress => [1]
  | backendTimeout => [2]
  | requestTimeout => [3]
  | scaler => [4]
  | maxProcesses => [5]
  | fetchTimeouts => [6]
  | stripper => [7]
  | artifact => [8]
  | routeSuffix i => [9, i, 0]
  | routeProcessor i => [9, i, 1]
  | metricsAddress => [10]

/-- The settings that a rule reads. -/
def reads : Rule → List Setting
  | listenerAddress => [.listenerAddress]
  | backendAddress => [.backendAddress]
  | backendTimeout => [.backendTimeout]
  | requestTimeout => [.requestTimeout]
  | scaler => [.scaling, .scaler]
  | maxProcesses => [.maxProcesses]
  | fetchTimeouts => [.connectTimeout, .headerTimeout]
  | stripper => [.stripper]
  | artifact => [.artifact]
  | routeSuffix i => [.routeSuffix i]
  | routeProcessor i => [.routeProcessor i]
  | metricsAddress => [.metricsEnabled, .metricsAddress]

/-- The setting whose value is quoted when a rule about an address or an ending is broken. -/
def quotes? : Rule → Option Setting
  | listenerAddress => some .listenerAddress
  | backendAddress => some .backendAddress
  | routeSuffix i => some (.routeSuffix i)
  | metricsAddress => some .metricsAddress
  | _ => none

variable (config : Config)

/-- A configuration breaks a rule. -/
def Broken : Rule → Prop
  | listenerAddress => ¬ SocketAddress.Written config.listener.address.toList
  | backendAddress => ¬ SocketAddress.Written config.backend.address.toList
  | backendTimeout => config.backend.timeout = 0
  | requestTimeout => config.timeouts.request = 0
  | scaler => config.resizer.enabled = true ∧ Blank config.resizer.program
  | maxProcesses => config.resizer.maxProcesses = 0
  | fetchTimeouts =>
    config.resizer.fetch.connectTimeout = 0 ∨ config.resizer.fetch.headerTimeout = 0
  | stripper => Blank config.uploads.stripper
  | artifact => config.uploads.artifact = ""
  | routeSuffix i =>
    ∃ suffix ∈ config.uploads.routes[i]?.map Route.suffix, suffix.toList.head? ≠ some '/'
  | routeProcessor i => ∃ processor ∈ config.uploads.routes[i]?.map Route.processor, processor = ""
  | metricsAddress =>
    config.observability.metricsEnabled = true ∧
      ¬ SocketAddress.Written config.observability.metricsAddress.toList

instance : DecidablePred (Broken config) := by
  intro rule
  cases rule <;> dsimp only [Broken] <;> infer_instance

/-- What is reported of a text that is no address. -/
def noAddress (text : String) : String := "invalid socket address " ++ Text.quoted text

/-- What is reported of a broken rule. -/
def problem : Rule → Problem
  | listenerAddress => ⟨"listener.bind_address", noAddress config.listener.address⟩
  | backendAddress => ⟨"upstream.address", noAddress config.backend.address⟩
  | backendTimeout => ⟨"upstream.timeout_secs", "must be > 0"⟩
  | requestTimeout => ⟨"timeouts.request_secs", "must be > 0"⟩
  | scaler => ⟨"image_resizer.scaler_path", "must be set when the resizer is enabled"⟩
  | maxProcesses => ⟨"image_resizer.max_scaler_procs", "must be > 0"⟩
  | fetchTimeouts => ⟨"image_resizer.fetch", "timeouts must be > 0"⟩
  | stripper => ⟨"uploads.exiftool_path", "must be set"⟩
  | artifact => ⟨"uploads.artifact_name", "must be set"⟩
  | routeSuffix i =>
    let suffix := (config.uploads.routes[i]?.map Route.suffix).getD ""
    ⟨"uploads.routes.path_suffix", Text.quoted suffix ++ " must start with '/'"⟩
  | routeProcessor _ => ⟨"uploads.routes.processor", "must not be empty"⟩
  | metricsAddress =>
    ⟨"observability.metrics_address", noAddress config.observability.metricsAddress⟩

end Rule

/-- The rules in front of those about the routes. -/
def Rule.leading : List Rule :=
  [.listenerAddress, .backendAddress, .backendTimeout, .requestTimeout, .scaler, .maxProcesses,
    .fetchTimeouts, .stripper, .artifact]

/-- The rules about so many routes. -/
def Rule.ofRoutes (count : Nat) : List Rule :=
  (List.range count).flatMap fun i => [.routeSuffix i, .routeProcessor i]

/-- All rules for a configuration, in their order. -/
def rules (config : Config) : List Rule :=
  Rule.leading ++ Rule.ofRoutes config.uploads.routes.length ++ [.metricsAddress]

/-- The rules that a configuration breaks, in their order, with what is reported of them. -/
def report (config : Config) : List (Rule × Problem) :=
  ((rules config).filter (Rule.Broken config)).map fun rule => (rule, rule.problem config)

/-! ### The checks -/

/-- What is reported of some of the rules. -/
def problemsOf (config : Config) (chosen : List Rule) : List Problem :=
  (chosen.filter (Rule.Broken config)).map (Rule.problem config)

section

variable (config : Config)

lemma map_snd_report : (report config).map Prod.snd = problemsOf config (rules config) := by
  rw [report, List.map_map]
  rfl

lemma problemsOf_append (front back : List Rule) :
    problemsOf config (front ++ back) = problemsOf config front ++ problemsOf config back := by
  rw [problemsOf, List.filter_append, List.map_append]
  rfl

lemma problemsOf_flatMap {α : Type} (f : α → List Rule) (items : List α) :
    problemsOf config (items.flatMap f) = items.flatMap fun item => problemsOf config (f item) := by
  rw [problemsOf, List.filter_flatMap, List.map_flatMap]
  rfl

/-- A check reports what is reported of its rule. -/
lemma problemIf_eq {condition : Bool} {setting complaint : String} (rule : Rule)
    (hbroken : condition = true ↔ rule.Broken config)
    (hproblem : rule.problem config = ⟨setting, complaint⟩) :
    problemIf condition setting complaint = problemsOf config [rule] := by
  rw [problemIf, problemsOf, List.filter_cons, ← hproblem]
  by_cases h : rule.Broken config
  · rw [if_pos (hbroken.2 h), if_pos (decide_eq_true h)]
    rfl
  · rw [if_neg (fun hcondition => h (hbroken.1 hcondition)), if_neg (by simpa using h)]
    rfl

lemma addressProblem_eq {setting address : String} (rule : Rule)
    (hbroken : ¬ SocketAddress.Written address.toList ↔ rule.Broken config)
    (hproblem : rule.problem config = ⟨setting, Rule.noAddress address⟩) :
    addressProblem setting address = problemsOf config [rule] := by
  refine problemIf_eq config rule ?_ hproblem
  rw [← hbroken, ← SocketAddress.isWritten_iff, Bool.not_eq_true', Bool.not_eq_true]

variable {config}

lemma append_eq {found more : List Problem} {rule : Rule} {rest : List Rule}
    (hfound : found = problemsOf config [rule]) (hmore : more = problemsOf config rest) :
    found ++ more = problemsOf config (rule :: rest) := by
  rw [hfound, hmore, ← problemsOf_append]
  rfl

lemma routeProblems_eq {route : Route} {i : Nat} (h : config.uploads.routes[i]? = some route) :
    routeProblems route = problemsOf config [.routeSuffix i, .routeProcessor i] := by
  refine append_eq (problemIf_eq config _ ?_ ?_) (problemIf_eq config _ ?_ rfl)
  · simp [Rule.Broken, h]
  · simp [Rule.problem, h]
  · simp [Rule.Broken, h]

/-- The routes one after the other are what stands under their indices. -/
lemma flatMap_eq_range {α β : Type} {items : List α} {f : α → List β} {g : Nat → List β}
    (h : ∀ i item, items[i]? = some item → f item = g i) :
    items.flatMap f = (List.range items.length).flatMap g := by
  induction items generalizing g with
  | nil => rfl
  | cons item items ih =>
    rw [List.flatMap_cons, List.length_cons, List.range_succ_eq_map, List.flatMap_cons,
      List.flatMap_map, h 0 item rfl, ih fun i item hitem => h (i + 1) item hitem]

/-- **The checks.**  What the checks find is what is reported of the broken rules, in the order of
the rules. -/
theorem problems_eq : problems config = (report config).map Prod.snd := by
  have hroutes : config.uploads.routes.flatMap routeProblems
      = problemsOf config (Rule.ofRoutes config.uploads.routes.length) := by
    rw [Rule.ofRoutes, problemsOf_flatMap]
    exact flatMap_eq_range fun i route h => routeProblems_eq h
  rw [map_snd_report, rules, Rule.leading, problems, checks]
  simp only [List.flatMap_cons, List.flatMap_nil, List.append_nil, List.cons_append,
    List.nil_append]
  -- one step for each check; what is left are the checks behind it
  refine append_eq (addressProblem_eq config .listenerAddress Iff.rfl rfl) ?_
  refine append_eq (addressProblem_eq config .backendAddress Iff.rfl rfl) ?_
  refine append_eq (problemIf_eq config .backendTimeout beq_iff_eq rfl) ?_
  refine append_eq (problemIf_eq config .requestTimeout beq_iff_eq rfl) ?_
  refine append_eq (problemIf_eq config .scaler ?_ rfl) ?_
  · rw [Bool.and_eq_true, isAllBlank_iff]
    rfl
  refine append_eq (problemIf_eq config .maxProcesses beq_iff_eq rfl) ?_
  refine append_eq (problemIf_eq config .fetchTimeouts ?_ rfl) ?_
  · rw [Bool.or_eq_true, beq_iff_eq, beq_iff_eq]
    rfl
  refine append_eq (problemIf_eq config .stripper isAllBlank_iff rfl) ?_
  refine append_eq (problemIf_eq config .artifact String.isEmpty_iff rfl) ?_
  rw [problemsOf_append, hroutes, List.append_cancel_left_eq]
  by_cases henabled : config.observability.metricsEnabled = true
  · rw [if_pos henabled]
    exact addressProblem_eq config .metricsAddress (by simp [Rule.Broken, henabled]) rfl
  · rw [if_neg henabled]
    simp [problemsOf, Rule.Broken, henabled]

/-- The standard settings break no rule. -/
example : report {} = [] := by decide +kernel

end

/-! ### The order of the report -/

section

variable {config : Config}

lemma position_of_leading : ∀ rule ∈ Rule.leading, rule.position < [9] := by decide

lemma position_of_mem_ofRoutes {rule : Rule} {count : Nat} (h : rule ∈ Rule.ofRoutes count) :
    [9] < rule.position ∧ rule.position < [10] := by
  obtain ⟨i, -, h⟩ := List.mem_flatMap.1 h
  simp only [List.mem_cons, List.not_mem_nil, or_false] at h
  rcases h with rfl | rfl <;> simp [Rule.position, List.cons_lt_cons_iff]

lemma ofRoutes_pairwise (count : Nat) :
    (Rule.ofRoutes count).Pairwise fun rule later => rule.position < later.position := by
  rw [Rule.ofRoutes, List.pairwise_flatMap]
  constructor
  · intro i hi
    simp [Rule.position, List.cons_lt_cons_iff]
  · refine List.pairwise_lt_range.imp fun {i j} hlt => ?_
    simp [Rule.position, List.cons_lt_cons_iff, hlt]

lemma rules_pairwise :
    (rules config).Pairwise fun rule later => rule.position < later.position := by
  rw [rules, List.pairwise_append, List.pairwise_append]
  refine ⟨⟨by decide, ofRoutes_pairwise _, ?_⟩, List.pairwise_singleton _ _, ?_⟩
  · intro rule hrule later hlater
    exact List.lt_trans (position_of_leading rule hrule) (position_of_mem_ofRoutes hlater).1
  · intro rule hrule later hlater
    obtain rfl := List.mem_singleton.1 hlater
    rcases List.mem_append.1 hrule with hrule | hrule
    · exact List.lt_trans (position_of_leading rule hrule) (by decide)
    · exact (position_of_mem_ofRoutes hrule).2

lemma mem_rules_of_broken {rule : Rule} (h : rule.Broken config) : rule ∈ rules config := by
  have hroute : ∀ {i : Nat} {part : Route → String} {value : String},
      value ∈ config.uploads.routes[i]?.map part → i < config.uploads.routes.length := by
    intro i part value hvalue
    obtain ⟨route, hroute, -⟩ := Option.map_eq_some_iff.1 hvalue
    exact (List.getElem?_eq_some_iff.1 hroute).1
  cases rule with
  | routeSuffix i =>
    obtain ⟨suffix, hsuffix, -⟩ := h
    simp [rules, Rule.ofRoutes, hroute hsuffix]
  | routeProcessor i =>
    obtain ⟨processor, hprocessor, -⟩ := h
    simp [rules, Rule.ofRoutes, hroute hprocessor]
  | _ => simp [rules, Rule.leading]

/-- Just the broken rules are reported. -/
lemma mem_report_iff {rule : Rule} {problem : Problem} :
    (rule, problem) ∈ report config ↔ rule.Broken config ∧ problem = rule.problem config := by
  rw [report, List.mem_map]
  constructor
  · rintro ⟨rule, hrule, ⟨⟩⟩
    exact ⟨of_decide_eq_true (List.mem_filter.1 hrule).2, rfl⟩
  · rintro ⟨hbroken, rfl⟩
    exact ⟨rule, List.mem_filter.2 ⟨mem_rules_of_broken hbroken, decide_eq_true hbroken⟩, rfl⟩

/-- What is reported is in the order of the rules, and nothing is reported twice. -/
lemma report_pairwise :
    (report config).Pairwise fun entry later => entry.1.position < later.1.position :=
  List.pairwise_map.2 (rules_pairwise.filter _)

/-- A configuration that breaks no rule is accepted as it is. -/
lemma checked_of_kept (h : ∀ rule : Rule, ¬ rule.Broken config) : checked config = .ok config := by
  have hnil : report config = [] := by
    rw [List.eq_nil_iff_forall_not_mem]
    rintro ⟨rule, problem⟩ hmem
    exact h rule (mem_report_iff.1 hmem).1
  rw [checked, problems_eq, hnil]
  rfl

/-- If a rule is broken, everything is reported. -/
lemma checked_of_broken {rule : Rule} (h : rule.Broken config) :
    checked config = .error (.rejected ((report config).map Prod.snd)) := by
  have hmem := List.mem_map_of_mem (f := Prod.snd) (mem_report_iff.2 ⟨h, rfl⟩)
  rw [checked, problems_eq]
  split
  · next hnil =>
    rw [hnil] at hmem
    cases hmem
  · rfl

/-- The standard settings are accepted, whatever folder the environment names. -/
theorem checked_standard (folder : Option Bytes) :
    checked (standard folder) = .ok (standard folder) := by
  -- no rule looks at the folder
  have hsame : problems (standard folder) = problems {} := rfl
  have hnone : problems {} = [] := by decide +kernel
  rw [checked, hsame, hnone]

end

/-! ### What is not read -/

section

variable {config other : Config}

/-- What is reported of a rule depends on nothing but the settings that the rule reads. -/
lemma Rule.congr_of_reads {rule : Rule}
    (h : ∀ setting ∈ rule.reads, setting.value other = setting.value config) :
    (rule.Broken other ↔ rule.Broken config) ∧ rule.problem other = rule.problem config := by
  cases rule with
  | routeSuffix i =>
    have hsuffix := Value.ofOption_inj.1 (h _ (.head _))
    simp only [Broken, problem, hsuffix, and_self]
  | routeProcessor i =>
    have hprocessor := Value.ofOption_inj.1 (h _ (.head _))
    simp only [Broken, problem, hprocessor, and_self]
  | _ =>
    simp only [reads, List.forall_mem_cons, List.not_mem_nil, false_imp_iff, implies_true, and_true,
      Setting.value, Value.text.injEq, Value.number.injEq, Value.flag.injEq] at h
    simp only [Broken, problem, h, and_self]

/-- **Unread settings.**  If only some settings are different, what is reported of the rules that
read none of these is the same, in the same order. -/
theorem report_unaffected (changed : Setting → Bool)
    (h : ∀ setting, changed setting = false → setting.value other = setting.value config) :
    (report other).filter (fun entry => !entry.1.reads.any changed)
      = (report config).filter fun entry => !entry.1.reads.any changed := by
  have hnodup : ∀ config : Config,
      ((report config).filter fun entry => !entry.1.reads.any changed).Nodup := by
    intro config
    refine (report_pairwise.imp fun hlt heq => ?_).filter _
    rw [heq] at hlt
    exact List.lt_irrefl _ hlt
  -- both are in the order of the rules, so that only their entries have to be compared
  refine List.Perm.eq_of_pairwise ?_ (report_pairwise.filter _) (report_pairwise.filter _)
    ((List.perm_ext_iff_of_nodup (hnodup other) (hnodup config)).2 ?_)
  · intro entry later _ _ hlt hgt
    exact absurd (List.lt_trans hlt hgt) (List.lt_irrefl _)
  · rintro ⟨rule, problem⟩
    simp only [List.mem_filter, mem_report_iff, Bool.not_eq_true', List.any_eq_false]
    refine and_congr_left fun hreads => ?_
    obtain ⟨hbroken, hproblem⟩ := Rule.congr_of_reads fun setting hsetting =>
      h setting (by simpa using hreads setting hsetting)
    rw [hbroken, hproblem]

end

/-! ### What is quoted -/

section

variable {config other : Config} {rule : Rule} {setting : Setting} {problem : Problem}

/-- What is reported of an address or an ending is the same but for the value that is quoted. -/
lemma exists_quoting (hquotes : rule.quotes? = some setting) :
    ∃ before behind, ∀ {config : Config} {problem : Problem}, (rule, problem) ∈ report config →
      ∃ content, setting.value config = .text content ∧
        problem.complaint = before ++ Text.quoted content ++ behind := by
  cases rule with
  | listenerAddress | backendAddress | metricsAddress =>
    cases hquotes
    refine ⟨"invalid socket address ", "", fun h => ?_⟩
    obtain ⟨-, rfl⟩ := mem_report_iff.1 h
    exact ⟨_, rfl, String.append_empty.symm⟩
  | routeSuffix i =>
    cases hquotes
    refine ⟨"", " must start with '/'", fun h => ?_⟩
    obtain ⟨⟨suffix, hsuffix, -⟩, rfl⟩ := mem_report_iff.1 h
    refine ⟨suffix, congrArg Value.ofOption hsuffix, ?_⟩
    rw [Rule.problem, hsuffix, String.empty_append]
    rfl
  | _ => cases hquotes

/-- No two addresses or endings are reported alike. -/
lemma value_eq_of_mem_report (hquotes : rule.quotes? = some setting)
    (h : (rule, problem) ∈ report config) (hother : (rule, problem) ∈ report other) :
    setting.value other = setting.value config := by
  obtain ⟨before, behind, hquoting⟩ := exists_quoting hquotes
  obtain ⟨content, hcontent, hcomplaint⟩ := hquoting h
  obtain ⟨content', hcontent', hcomplaint'⟩ := hquoting hother
  rw [hcomplaint, String.append_left_inj, String.append_right_inj, Text.quoted_inj] at hcomplaint'
  rw [hcontent, hcontent', hcomplaint']

end

/-! ### The verdict -/

/-- What is known of the answer to a document that is read as a configuration. -/
structure Verdict (folder : Option Bytes) (document : Toml) (config : Config)
    (answer : Except Error Config) : Prop where
  /-- A setting for which there is nothing in the document has its standard value, which for the
  folder of files is the one that the environment names, if it does. -/
  value_of_absent (setting : Setting) : document.find? setting.place = none →
    setting.value config = setting.value (standard folder)
  /-- Any other setting has the value that is given. -/
  value_of_given (setting : Setting) (given : Toml) : document.find? setting.place = some given →
    setting.read? given = some (setting.value config)
  /-- There is nothing in the configuration but its settings. -/
  eq_of_value (other : Config) :
    (∀ setting : Setting, setting.value other = setting.value config) → other = config
  /-- If no rule is broken, the configuration is accepted as it is. -/
  accepted : (∀ rule : Rule, ¬ rule.Broken config) → answer = .ok config
  /-- If a rule is broken, everything is reported. -/
  rejected (rule : Rule) : rule.Broken config →
    answer = .error (.rejected ((report config).map Prod.snd))
  /-- Just the broken rules are reported. -/
  mem_report_iff (rule : Rule) (problem : Problem) :
    (rule, problem) ∈ report config ↔ rule.Broken config ∧ problem = rule.problem config
  /-- The report is in the order of the rules. -/
  pairwise : (report config).Pairwise fun entry later => entry.1.position < later.1.position
  /-- If only some settings are different, all that is reported of rules that read none of these
  stays as it is. -/
  unaffected (other : Config) (changed : Setting → Bool) :
    (∀ setting, changed setting = false → setting.value other = setting.value config) →
    (report other).filter (fun entry => !entry.1.reads.any changed)
      = (report config).filter fun entry => !entry.1.reads.any changed
  /-- What is reported of an address or an ending quotes it. -/
  quoted (rule : Rule) (setting : Setting) (problem : Problem) : rule.quotes? = some setting →
    (rule, problem) ∈ report config →
    ∃ content before behind, setting.value config = .text content ∧
      problem.complaint = before ++ Text.quoted content ++ behind
  /-- What is reported of an address or an ending tells it from all others. -/
  value_of_reported (other : Config) (rule : Rule) (setting : Setting) (problem : Problem) :
    rule.quotes? = some setting → (rule, problem) ∈ report config →
    (rule, problem) ∈ report other → setting.value other = setting.value config

/-- **Verdicts.**  The answer to a text that is read as a configuration is the configuration as it
is, or a report of just the broken rules in their order, in which a rule depends on nothing but the
settings that it reads. -/
theorem parse_verdict {folder : Option Bytes} {text : String} {members : Toml.Members}
    {config : Config} (hparse : Toml.parse? text = some members)
    (hdecode : decode? .toml folder (.table .header members) = some config) :
    Verdict folder (.table .header members) config (parse folder text) where
  value_of_absent setting hnone := by
    have hsetting := setting_of_decode? hdecode setting
    rw [hnone] at hsetting
    exact (Option.some.inj hsetting).symm
  value_of_given setting given hsome := by
    have hsetting := setting_of_decode? hdecode setting
    rw [hsome] at hsetting
    exact hsetting
  eq_of_value _ hvalue := eq_of_value hvalue
  accepted hkept := by
    rw [parse, hparse, Option.bind_some, hdecode]
    exact checked_of_kept hkept
  rejected rule hbroken := by
    rw [parse, hparse, Option.bind_some, hdecode]
    exact checked_of_broken hbroken
  mem_report_iff _ _ := mem_report_iff
  pairwise := report_pairwise
  unaffected _ changed hchanged := report_unaffected changed hchanged
  quoted rule setting problem hquotes hmem := by
    obtain ⟨before, behind, hquoting⟩ := exists_quoting hquotes
    obtain ⟨content, hcontent, hcomplaint⟩ := hquoting hmem
    exact ⟨content, before, behind, hcontent, hcomplaint⟩
  value_of_reported _ _ _ _ hquotes hmem hother := value_eq_of_mem_report hquotes hmem hother

/-- A document with a key that is unknown, an address that is none, and a route without a slash and
without a name. -/
def flawed : String :=
  "surplus = 1\nlistener.bind_address = \"nope\"\n\n"
    ++ "[[uploads.routes]]\npath_suffix = \"files\"\nprocessor = \"\"\n"

/-- A folder that the environment names. -/
def namedFolder : Option Bytes := some (Utf8.encode "/var/tmp")

theorem parse_verdict_flawed :
    ∃ members config, Toml.parse? flawed = some members ∧
      decode? .toml namedFolder (.table .header members) = some config ∧
      (report config).map Prod.fst = [.listenerAddress, .routeSuffix 0, .routeProcessor 0] ∧
      Verdict namedFolder (.table .header members) config (parse namedFolder flawed) := by
  have hread : ((Toml.parse? flawed).bind fun members =>
        decode? .toml namedFolder (.table .header members))
      = some { listener := ⟨"nope"⟩
               uploads := { directory := "/var/tmp", routes := [⟨"files", ""⟩] } } := by
    decide +kernel
  obtain ⟨members, hparse, hdecode⟩ := Option.bind_eq_some_iff.1 hread
  exact ⟨members, _, hparse, hdecode, by decide +kernel, parse_verdict hparse hdecode⟩

end Intercept.Config
