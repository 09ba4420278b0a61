import Telemetry.Settings.Basic

/-!
Contract: which violated constraints the issues of the settings name, and how often.

Owns:
- the constraints of accepted settings, when one is violated, and the issues that
  speak about it;
- `Settings.issues_eq`: the issues are those of the constraints that are reported;
- the theorem that there are no issues exactly without a violation, that every
  issue is about one violated constraint, and when each violation has exactly one.

Two of the sections are checked by validators that stop at their first failure.
An empty batch hides that there is no concurrency. A growth that is no positive
number hides what is wrong with the waits, and is itself found twice, once by the
settings and once by the policy.
-/

namespace Telemetry

inductive Constraint where
  | applicationId
  | trackerId
  | batchSize
  | concurrency
  | maxAttempts
  | retryFactor
  | minTimeout
  | timeoutOrder
  | interval
deriving DecidableEq, Repr

namespace Constraint

/-- The constraints in the order of their checks. -/
def all : List Constraint :=
  [.applicationId, .trackerId, .batchSize, .concurrency, .maxAttempts, .retryFactor, .minTimeout,
    .timeoutOrder, .interval]

def Violated (settings : Settings) : Constraint → Prop
  | .applicationId => Text.isBlank settings.tracker.applicationId = true
  | .trackerId => settings.tracker.trackerId.any Text.isBlank = true
  | .batchSize => settings.queue.batchSize = 0
  | .concurrency => settings.queue.concurrency = 0
  | .maxAttempts => settings.retry.maxAttempts = 0
  | .retryFactor => settings.retry.retryFactor.isPositive = false
  | .minTimeout => settings.retry.minTimeout = 0
  | .timeoutOrder => settings.retry.maxTimeout.any (· < settings.retry.minTimeout) = true
  | .interval => settings.wait.interval = 0

instance (settings : Settings) (constraint : Constraint) :
    Decidable (Violated settings constraint) := by
  cases constraint <;> unfold Violated <;> infer_instance

/-- What is said about a growth that is no positive number. -/
def factorReason (settings : Settings) : String :=
  "retry_factor must be a positive number, got " ++ settings.retry.retryFactor.display

/-- What is said about a shortest wait above the longest. -/
def orderReason (settings : Settings) : String :=
  "min_timeout (" ++ Text.decimal settings.retry.policy.minTimeout.milliseconds ++
    "ms) cannot be greater than max_timeout (" ++
    Text.decimal ((settings.retry.policy.maxTimeout.getD default).milliseconds) ++ "ms)"

/-- The issues that speak about a constraint. -/
def reports (settings : Settings) : Constraint → List SettingsIssue
  | .applicationId => [.tracker "application_id cannot be empty"]
  | .trackerId => [.tracker "tracker_id cannot be empty when set"]
  | .batchSize =>
      [.queue (TrackerError.configuration "Queue batch_size must be at least 1").message]
  | .concurrency =>
      [.queue (TrackerError.configuration "Queue concurrency must be at least 1").message]
  | .maxAttempts => [.retry "max_attempts must be at least 1"]
  | .retryFactor =>
      [.retry (factorReason settings),
        .retry (TrackerError.invalidBackoff (factorReason settings)).message]
  | .minTimeout =>
      [.retry (TrackerError.invalidBackoff "min_timeout must be greater than zero").message]
  | .timeoutOrder => [.retry (TrackerError.invalidBackoff (orderReason settings)).message]
  | .interval => [.wait "interval_ms must be greater than 0"]

/-- The constraints whose violation ends the check before this one. -/
def hiddenBehind : Constraint → List Constraint
  | .concurrency => [.batchSize]
  | .minTimeout | .timeoutOrder => [.retryFactor]
  | _ => []

/-- The constraint is violated, and the check comes to it. -/
def Reported (settings : Settings) (constraint : Constraint) : Prop :=
  Violated settings constraint ∧ ∀ earlier ∈ constraint.hiddenBehind, ¬ Violated settings earlier

instance (settings : Settings) (constraint : Constraint) :
    Decidable (Reported settings constraint) :=
  inferInstanceAs (Decidable (_ ∧ _))

def raised (settings : Settings) (constraint : Constraint) : List SettingsIssue :=
  if Reported settings constraint then reports settings constraint else []

variable {settings : Settings} {constraint : Constraint}

theorem raised_of_not_violated (kept : ¬ Violated settings constraint) :
    raised settings constraint = [] :=
  if_neg fun reported => kept reported.1

theorem raised_of_hidden {earlier : Constraint} (hidden : earlier ∈ constraint.hiddenBehind)
    (violated : Violated settings earlier) : raised settings constraint = [] :=
  if_neg fun reported => reported.2 earlier hidden violated

theorem raised_of_violated (violated : Violated settings constraint)
    (reached : ∀ earlier ∈ constraint.hiddenBehind, ¬ Violated settings earlier) :
    raised settings constraint = reports settings constraint :=
  if_pos ⟨violated, reached⟩

/-- A constraint that nothing hides is reported whenever it is violated. -/
theorem raised_of_open (settings : Settings) (opened : constraint.hiddenBehind = []) :
    raised settings constraint =
      if Violated settings constraint then reports settings constraint else [] := by
  by_cases violated : Violated settings constraint
  · rw [if_pos violated]
    apply raised_of_violated violated
    rw [opened]
    exact fun _ impossible => absurd impossible List.not_mem_nil
  · rw [if_neg violated, raised_of_not_violated violated]

end Constraint

namespace Settings

open Constraint

variable (settings : Settings)

theorem trackerIssues_eq :
    trackerIssues settings.tracker =
      raised settings .applicationId ++ raised settings .trackerId := by
  rw [raised_of_open settings rfl, raised_of_open settings rfl]
  rfl

theorem queue_validate :
    settings.queue.validate =
      if Violated settings .batchSize then
        .error (.configuration "Queue batch_size must be at least 1")
      else if Violated settings .concurrency then
        .error (.configuration "Queue concurrency must be at least 1")
      else .ok () :=
  rfl

theorem queueIssues_eq :
    queueIssues settings.queue = raised settings .batchSize ++ raised settings .concurrency := by
  rw [raised_of_open settings rfl, queueIssues, queue_validate]
  by_cases noBatch : Violated settings .batchSize
  · rw [if_pos noBatch, if_pos noBatch, raised_of_hidden (List.mem_singleton_self _) noBatch]
    rfl
  · rw [if_neg noBatch, if_neg noBatch]
    by_cases noConcurrency : Violated settings .concurrency
    · rw [if_pos noConcurrency, raised_of_violated noConcurrency]
      · rfl
      · intro earlier hidden
        rw [List.mem_singleton.mp hidden]
        exact noBatch
    · rw [if_neg noConcurrency, raised_of_not_violated noConcurrency]
      rfl

/-- What the policy finds wrong: the growth alone, or else one of the waits. -/
theorem policy_validate (settings : Settings) :
    settings.retry.policy.validate =
      if Violated settings .retryFactor then .error (.invalidBackoff (factorReason settings))
      else if Violated settings .minTimeout then
        .error (.invalidBackoff "min_timeout must be greater than zero")
      else if Violated settings .timeoutOrder then
        .error (.invalidBackoff (orderReason settings))
      else .ok () := by
  have factor : (!settings.retry.policy.retryFactor.isPositive) = true ↔
      Violated settings .retryFactor := by
    rw [Bool.not_eq_true']
    rfl
  have zero : settings.retry.policy.minTimeout.nanoseconds = 0 ↔ Violated settings .minTimeout := by
    show 1000000 * settings.retry.minTimeout = 0 ↔ settings.retry.minTimeout = 0
    omega
  refine ite_congr (propext factor) (fun _ => rfl) fun _ => ?_
  refine ite_congr (propext zero) (fun _ => rfl) fun _ => ?_
  cases set : settings.retry.maxTimeout with
  | none =>
      have unset : settings.retry.policy.maxTimeout = none := congrArg (Option.map _) set
      have ordered : ¬ Violated settings .timeoutOrder := by simp [Violated, set]
      rw [unset, if_neg ordered]
  | some longest =>
      have order : Duration.ofMilliseconds longest < settings.retry.policy.minTimeout ↔
          Violated settings .timeoutOrder := by
        simp only [Violated, set, Option.any_some, decide_eq_true_eq]
        show 1000000 * longest < 1000000 * settings.retry.minTimeout ↔ _
        omega
      have bound : settings.retry.policy.maxTimeout = some (.ofMilliseconds longest) :=
        congrArg (Option.map _) set
      simp only [bound]
      refine ite_congr (propext order) (fun _ => ?_) fun _ => rfl
      unfold orderReason
      rw [bound]
      rfl

theorem not_violated_timeoutOrder {settings : Settings} (zero : Violated settings .minTimeout) :
    ¬ Violated settings .timeoutOrder := by
  have zeroWait : settings.retry.minTimeout = 0 := zero
  cases set : settings.retry.maxTimeout <;> simp [Violated, set, zeroWait]

theorem retryIssues_eq :
    retryIssues settings.retry = raised settings .maxAttempts ++ raised settings .retryFactor ++
      raised settings .minTimeout ++ raised settings .timeoutOrder := by
  rw [raised_of_open settings rfl, raised_of_open settings rfl, retryIssues, policy_validate]
  by_cases factor : Violated settings .retryFactor
  · have negative : settings.retry.retryFactor.isPositive = false := factor
    have hides : .retryFactor ∈ hiddenBehind .minTimeout ∧
        .retryFactor ∈ hiddenBehind .timeoutOrder := by decide
    rw [if_pos factor, if_pos factor, negative,
      raised_of_hidden hides.1 factor,
      raised_of_hidden hides.2 factor]
    simp only [List.append_nil, List.append_assoc]
    rfl
  · have positive : settings.retry.retryFactor.isPositive = true := by
      simpa only [Violated, Bool.not_eq_false] using factor
    have reached (constraint : Constraint) (hidden : constraint.hiddenBehind = [.retryFactor])
        (earlier : Constraint) (mem : earlier ∈ constraint.hiddenBehind) :
        ¬ Violated settings earlier := by
      rw [hidden] at mem
      rw [List.mem_singleton.mp mem]
      exact factor
    rw [if_neg factor, if_neg factor, if_pos positive]
    by_cases zero : Violated settings .minTimeout
    · rw [if_pos zero, raised_of_violated zero (reached _ rfl),
        raised_of_not_violated (not_violated_timeoutOrder zero)]
      simp only [List.append_nil]
      rfl
    · rw [if_neg zero, raised_of_not_violated zero]
      by_cases order : Violated settings .timeoutOrder
      · rw [if_pos order, raised_of_violated order (reached _ rfl)]
        simp only [List.append_nil]
        rfl
      · rw [if_neg order, raised_of_not_violated order]
        simp only [List.append_nil]
        rfl

theorem waitIssues_eq : waitIssues settings.wait = raised settings .interval := by
  rw [raised_of_open settings rfl]
  rfl

/-- The issues are those of the constraints that are reported, in the order of the checks. -/
theorem issues_eq : settings.issues = all.flatMap (raised settings) := by
  rw [issues, trackerIssues_eq, queueIssues_eq, retryIssues_eq, waitIssues_eq]
  simp only [all, List.flatMap_cons, List.flatMap_nil, List.append_assoc, List.append_nil]

end Settings

namespace Constraint

variable {settings : Settings} {constraint : Constraint}

/-- The constraint an issue is about, told by the letters in which the messages of its section
differ. -/
def subject : SettingsIssue → Constraint
  | .tracker reason => if reason.toList[0]? = some 'a' then .applicationId else .trackerId
  | .queue reason => if reason.toList[27]? = some 'b' then .batchSize else .concurrency
  | .retry reason =>
      if reason.toList[0]? = some 'm' then .maxAttempts
      else if reason.toList[0]? = some 'r' ∨ reason.toList[31]? = some 'r' then .retryFactor
      else if reason.toList[43]? = some 'm' then .minTimeout
      else .timeoutOrder
  | .wait _ => .interval

theorem letter_append_left {first : String} {index : Nat} (short : index < first.toList.length)
    (second : String) : (first ++ second).toList[index]? = first.toList[index]? := by
  rw [String.toList_append, List.getElem?_append_left short]

theorem letter_append_right {first : String} {skipped : Nat} (long : first.toList.length = skipped)
    (second : String) (index : Nat) :
    (first ++ second).toList[skipped + index]? = second.toList[index]? := by
  rw [String.toList_append, ← long, List.getElem?_append_right (Nat.le_add_right _ _),
    Nat.add_sub_cancel_left]

theorem letter_factorReason : (factorReason settings).toList[0]? = some 'r' := by
  unfold factorReason
  exact (letter_append_left (by decide +kernel) _).trans (by decide +kernel)

theorem letters_orderReason (settings : Settings) :
    (orderReason settings).toList[0]? = some 'm' ∧
      (orderReason settings).toList[12]? = some '(' := by
  unfold orderReason
  simp only [String.append_assoc]
  exact ⟨(letter_append_left (by decide +kernel) _).trans (by decide +kernel),
    (letter_append_left (by decide +kernel) _).trans (by decide +kernel)⟩

theorem subject_of_factor {reason : String} (first : reason.toList[0]? = some 'r') :
    subject (.retry reason) = .retryFactor := by
  simp [subject, first]

/-- Behind the words that every error of a policy begins with. -/
theorem subject_invalidBackoff (reason : String) :
    subject (.retry (TrackerError.invalidBackoff reason).message) =
      if reason.toList[0]? = some 'r' then .retryFactor
      else if reason.toList[12]? = some 'm' then .minTimeout
      else .timeoutOrder := by
  have opening : (TrackerError.invalidBackoff reason).message.toList[0]? = some 'I' := by
    unfold TrackerError.message
    exact (letter_append_left (by decide +kernel) _).trans (by decide +kernel)
  have behind (index : Nat) :
      (TrackerError.invalidBackoff reason).message.toList[31 + index]? =
        reason.toList[index]? := by
    unfold TrackerError.message
    exact letter_append_right (by decide +kernel) _ _
  have first := behind 0
  have later := behind 12
  generalize (TrackerError.invalidBackoff reason).message = message at opening first later ⊢
  simp [subject, opening, first, later]

theorem subject_of_mem_reports {issue : SettingsIssue}
    (reported : issue ∈ reports settings constraint) : subject issue = constraint := by
  cases constraint with
  | retryFactor =>
      rcases List.mem_cons.mp reported with rfl | again
      · exact subject_of_factor letter_factorReason
      · obtain rfl := List.mem_singleton.mp again
        exact (subject_invalidBackoff _).trans (if_pos letter_factorReason)
  | timeoutOrder =>
      obtain rfl := List.mem_singleton.mp reported
      obtain ⟨first, later⟩ := letters_orderReason settings
      generalize orderReason settings = reason at first later ⊢
      rw [subject_invalidBackoff]
      simp [first, later]
  | _ =>
      obtain rfl := List.mem_singleton.mp reported
      decide +kernel

theorem reported_of_mem_raised {issue : SettingsIssue}
    (mem : issue ∈ raised settings constraint) :
    Reported settings constraint ∧ issue ∈ reports settings constraint := by
  unfold raised at mem
  split at mem
  · next reported => exact ⟨reported, mem⟩
  · exact absurd mem List.not_mem_nil

theorem length_raised :
    (raised settings constraint).length =
      if Reported settings constraint then (if constraint = .retryFactor then 2 else 1) else 0 := by
  unfold raised
  split
  · cases constraint <;> rfl
  · rfl

theorem countP_raised (constraint other : Constraint) :
    (raised settings other).countP (· ∈ reports settings constraint) =
      if other = constraint then (raised settings constraint).length else 0 := by
  split
  · next same =>
      subst same
      apply List.countP_eq_length.mpr
      intro issue mem
      exact decide_eq_true (reported_of_mem_raised mem).2
  · next differ =>
      apply List.countP_eq_zero.mpr
      intro issue mem shared
      apply differ
      rw [← subject_of_mem_reports (reported_of_mem_raised mem).2]
      exact subject_of_mem_reports (of_decide_eq_true shared)

/-- Behind every violation is one that is reported: what hides another is not hidden itself. -/
theorem exists_reported (violated : Violated settings constraint) :
    ∃ reported, Reported settings reported := by
  by_cases reached : ∀ earlier ∈ constraint.hiddenBehind, ¬ Violated settings earlier
  · exact ⟨constraint, violated, reached⟩
  · simp only [Classical.not_forall, Classical.not_not] at reached
    obtain ⟨earlier, hidden, earlierViolated⟩ := reached
    refine ⟨earlier, earlierViolated, ?_⟩
    have opened : earlier.hiddenBehind = [] := by
      revert hidden
      cases constraint <;> cases earlier <;> decide
    rw [opened]
    exact fun _ impossible => absurd impossible List.not_mem_nil

end Constraint

namespace Settings

open Constraint

/-- How many issues speak about a constraint. -/
def mentions (settings : Settings) (constraint : Constraint) : Nat :=
  settings.issues.countP (· ∈ reports settings constraint)

theorem mentions_eq (settings : Settings) (constraint : Constraint) :
    settings.mentions constraint =
      if Reported settings constraint then (if constraint = .retryFactor then 2 else 1)
      else 0 := by
  rw [← length_raised, mentions, issues_eq, List.countP_flatMap]
  simp only [Function.comp_def, countP_raised]
  cases constraint <;> simp [all]

theorem issues_eq_nil_iff (settings : Settings) :
    settings.issues = [] ↔ ∀ constraint, ¬ Violated settings constraint := by
  constructor
  · intro none constraint violated
    obtain ⟨reported, isReported⟩ := exists_reported violated
    have mentioned := mentions_eq settings reported
    rw [if_pos isReported, mentions, none, List.countP_nil] at mentioned
    split at mentioned <;> omega
  · intro kept
    rw [issues_eq, List.flatMap_eq_nil_iff]
    exact fun constraint _ => raised_of_not_violated (kept constraint)

/-- Settings are accepted exactly when they violate no constraint, and every issue is about a
violated one. Whether each violated constraint has exactly one issue depends on the others:
concurrency has none beside an empty batch, the waits have none beside a growth that is no
positive number, and such a growth has two. -/
theorem issues_name_each_violation_once_iff (settings : Settings) :
    (settings.issues = [] ↔ ∀ constraint, ¬ Violated settings constraint) ∧
    (∀ issue ∈ settings.issues,
      ∃ constraint, Violated settings constraint ∧ issue ∈ reports settings constraint) ∧
    (∀ constraint, settings.mentions constraint =
      if Reported settings constraint then (if constraint = .retryFactor then 2 else 1) else 0) ∧
    ((∀ constraint, settings.mentions constraint =
        if Violated settings constraint then 1 else 0) ↔
      ¬ Violated settings .retryFactor ∧
        ¬ (Violated settings .batchSize ∧ Violated settings .concurrency)) := by
  refine ⟨issues_eq_nil_iff settings, ?_, mentions_eq settings, ?_, ?_⟩
  · intro issue mem
    rw [issues_eq] at mem
    obtain ⟨constraint, -, raisedHere⟩ := List.mem_flatMap.mp mem
    obtain ⟨reported, about⟩ := reported_of_mem_raised raisedHere
    exact ⟨constraint, reported.1, about⟩
  · intro once
    constructor
    · intro factor
      have twice := mentions_eq settings .retryFactor
      have reported : Reported settings .retryFactor := ⟨factor, by simp [hiddenBehind]⟩
      rw [once, if_pos factor, if_pos reported, if_pos rfl] at twice
      omega
    · rintro ⟨batch, concurrency⟩
      have none := mentions_eq settings .concurrency
      have hidden : ¬ Reported settings .concurrency := fun reported =>
        reported.2 .batchSize (List.mem_singleton_self _) batch
      rw [once, if_pos concurrency, if_neg hidden] at none
      omega
  · rintro ⟨positive, notBoth⟩ constraint
    -- With both excluded, nothing is hidden and nothing is found twice.
    have reached (violated : Violated settings constraint) : Reported settings constraint := by
      refine ⟨violated, ?_⟩
      cases constraint with
      | concurrency =>
          intro earlier hidden batch
          rw [List.mem_singleton.mp hidden] at batch
          exact notBoth ⟨batch, violated⟩
      | _ => simp [hiddenBehind, positive]
    rw [mentions_eq]
    by_cases violated : Violated settings constraint
    · have other : constraint ≠ .retryFactor := fun same => positive (same ▸ violated)
      rw [if_pos violated, if_pos (reached violated), if_neg other]
    · rw [if_neg violated, if_neg fun reported => violated reported.1]

/-- Without batches and without concurrency, only the batches are found. -/
theorem missing_concurrency_is_hidden :
    let settings : Settings := { queue := { batchSize := 0, concurrency := 0 } }
    Violated settings .batchSize ∧ Violated settings .concurrency ∧
      settings.mentions .concurrency = 0 ∧
      settings.issues.map SettingsIssue.message =
        ["Queue: Configuration error: Queue batch_size must be at least 1"] := by
  decide +kernel

end Settings

end Telemetry
