import Mathlib.Data.List.Induction
import Telemetry.Plugin.UniqueGlobal

/-!
Contract: which global contexts are reported as repeated, and in which order.

Owns:
- `UniqueGlobal.SecondAt`, where a type and identifier stand for the second time;
- `UniqueGlobal.Noticed`, what the two lists of the loop hold after a prefix of
  the contexts;
- the theorem that each repeated pair has one report, at its second occurrence.

The loop never looks back. The pairs that it has seen and those that it has
reported stand for the pairs that the prefix holds once and twice, which is all
that the second occurrence depends on.
-/

namespace Telemetry.UniqueGlobal

/-- The type and the identifier of a context. -/
def pairOf (context : Context) : String × String :=
  (context.type, context.id)

/-- The pairs of copies of contexts, whatever their tokens. -/
def copiedPairs (copies : List ContextInstance) : List (String × String) :=
  copies.map fun copy => pairOf copy.context

/-- The pairs of an event's global contexts, in order. -/
def globalPairs (event : Event) : List (String × String) :=
  event.contexts.globalContexts.map pairOf

theorem copiedPairs_issue (contexts : List Context) :
    copiedPairs (ContextInstance.issue contexts) = contexts.map pairOf := by
  have first : contexts.zipIdx.map Prod.fst = contexts := List.zipIdx_map_fst 0 contexts
  rw [copiedPairs, ContextInstance.issue, List.map_map]
  nth_rewrite 2 [← first]
  rw [List.map_map]
  rfl

/-! ### Second occurrences -/

/-- The pair stands at the position, and once before it. -/
def SecondAt (pairs : List (String × String)) (pair : String × String) (position : Nat) : Prop :=
  pairs[position]? = some pair ∧ (pairs.take position).count pair = 1

section SecondAt

variable {pairs : List (String × String)} {pair : String × String} {position other : Nat}

/-- Up to and with its second occurrence, the pair is there twice. -/
theorem SecondAt.count_take (second : SecondAt pairs pair position) :
    (pairs.take (position + 1)).count pair = 2 := by
  rw [List.take_add_one, second.1, Option.toList_some, List.count_append, second.2,
    List.count_singleton_self]

theorem SecondAt.not_lt (second : SecondAt pairs pair position)
    (secondToo : SecondAt pairs pair other) : ¬position < other := by
  intro before
  have part : (pairs.take (position + 1)).Sublist (pairs.take other) :=
    (List.take_prefix_take_left (Nat.succ_le_of_lt before)).sublist
  have least := part.count_le pair
  rw [second.count_take, secondToo.2] at least
  omega

theorem exists_secondAt_iff :
    (∃ position, SecondAt pairs pair position) ↔ 2 ≤ pairs.count pair := by
  constructor
  · rintro ⟨position, second⟩
    have part := (List.take_sublist (position + 1) pairs).count_le pair
    rw [second.count_take] at part
    exact part
  · intro repeated
    -- The last of the pairs is the second occurrence, or there is one before it.
    induction pairs using List.reverseRecOn with
    | nil => simp at repeated
    | append_singleton before last inductionHypothesis =>
        by_cases early : 2 ≤ before.count pair
        · obtain ⟨position, found, once⟩ := inductionHypothesis early
          have inside : position < before.length := (List.getElem?_eq_some_iff.mp found).1
          refine ⟨position, ?_, ?_⟩
          · rw [List.getElem?_append_left inside]
            exact found
          · rw [List.take_append_of_le_length (Nat.le_of_lt inside)]
            exact once
        · rw [List.count_append, List.count_singleton] at repeated
          have same : last = pair := by
            by_contra different
            rw [if_neg (by simpa using different)] at repeated
            omega
          subst same
          refine ⟨before.length, List.getElem?_concat_length, ?_⟩
          rw [List.take_left]
          rw [if_pos (beq_self_eq_true _)] at repeated
          omega

end SecondAt

/-- The pairs at their second occurrences, each with its position. -/
def secondsFrom (pairs rest : List (String × String)) (start : Nat) :
    List ((String × String) × Nat) :=
  (rest.zipIdx start).filter fun (pair, position) => (pairs.take position).count pair = 1

theorem mem_secondsFrom {pairs : List (String × String)} {pair : String × String}
    {position : Nat} :
    (pair, position) ∈ secondsFrom pairs pairs 0 ↔ SecondAt pairs pair position := by
  rw [secondsFrom, List.mem_filter, List.mem_zipIdx_iff_getElem?, decide_eq_true_iff]
  exact Iff.rfl

theorem secondsFrom_pairwise (pairs : List (String × String)) :
    (secondsFrom pairs pairs 0).Pairwise fun earlier later => earlier.2 < later.2 := by
  apply List.Pairwise.filter
  apply List.pairwise_map.mp
  rw [List.zipIdx_map_snd]
  exact List.pairwise_lt_range'

/-! ### The loop -/

/-- What the loop knows after a prefix of the pairs: those that were there, and those that were
there again. -/
structure Noticed (before seen reported : List (String × String)) : Prop where
  seen_iff : ∀ pair, pair ∈ seen ↔ 1 ≤ before.count pair
  reported_iff : ∀ pair, pair ∈ reported ↔ 2 ≤ before.count pair

theorem noticed_nothing : Noticed [] [] [] :=
  ⟨fun _ => by simp, fun _ => by simp⟩

section Noticed

variable {before seen reported : List (String × String)} {pair : String × String}

/-- One more pair: it is seen now, and it is reported if it was seen before. -/
theorem Noticed.step (noticed : Noticed before seen reported)
    {seenNow reportedNow : List (String × String)}
    (seenToo : ∀ other, other ∈ seenNow ↔ other = pair ∨ other ∈ seen)
    (reportedToo : ∀ other,
      other ∈ reportedNow ↔ (other = pair ∧ other ∈ seen) ∨ other ∈ reported) :
    Noticed (before ++ [pair]) seenNow reportedNow := by
  have counted (other : String × String) : (before ++ [pair]).count other =
      before.count other + if other = pair then 1 else 0 := by
    by_cases same : other = pair
    · rw [if_pos same, List.count_append, same, List.count_singleton_self]
    · have absent : [pair].count other = 0 := List.count_eq_zero.mpr (by simpa using same)
      rw [if_neg same, List.count_append, absent]
  constructor
  · intro other
    rw [seenToo, noticed.seen_iff, counted]
    by_cases same : other = pair
    · simp [same]
    · simp [same]
  · intro other
    rw [reportedToo, noticed.seen_iff, noticed.reported_iff, counted]
    by_cases same : other = pair
    · simp only [same, true_and, if_true]
      omega
    · simp [same]

/-- A pair is reported at its second occurrence. -/
theorem Noticed.count_eq_one_iff (noticed : Noticed before seen reported)
    (pair : String × String) :
    before.count pair = 1 ↔ pair ∈ seen ∧ pair ∉ reported := by
  rw [noticed.seen_iff, noticed.reported_iff]
  omega

end Noticed

theorem secondsFrom_cons (before : List (String × String)) (pair : String × String)
    (rest : List (String × String)) :
    secondsFrom (before ++ pair :: rest) (pair :: rest) before.length =
      if before.count pair = 1 then
        (pair, before.length) ::
          secondsFrom (before ++ pair :: rest) rest (before ++ [pair]).length
      else secondsFrom (before ++ pair :: rest) rest (before ++ [pair]).length := by
  rw [secondsFrom, List.zipIdx_cons, List.filter_cons, List.length_append]
  simp only [List.take_left, decide_eq_true_eq]
  rfl

theorem repeatedFrom_cons (seen reported : List (String × String)) (copy : ContextInstance)
    (rest : List ContextInstance) :
    repeatedFrom seen reported (copy :: rest) =
      if pairOf copy.context ∉ seen then
        repeatedFrom (pairOf copy.context :: seen) reported rest
      else if pairOf copy.context ∉ reported then
        copy :: repeatedFrom seen (pairOf copy.context :: reported) rest
      else repeatedFrom seen reported rest :=
  rfl

/-- From any point on, the loop finds the second occurrences that are left. -/
theorem Noticed.repeatedFrom_eq {before seen reported : List (String × String)}
    (noticed : Noticed before seen reported) (copies : List ContextInstance) :
    copiedPairs (repeatedFrom seen reported copies) =
      (secondsFrom (before ++ copiedPairs copies) (copiedPairs copies) before.length).map
        Prod.fst := by
  induction copies generalizing before seen reported with
  | nil => rfl
  | cons copy rest inductionHypothesis =>
      have cons : copiedPairs (copy :: rest) = pairOf copy.context :: copiedPairs rest := rfl
      generalize pair : pairOf copy.context = found at cons
      have split : before ++ found :: copiedPairs rest =
          before ++ [found] ++ copiedPairs rest := by simp
      have once := noticed.count_eq_one_iff found
      rw [cons, secondsFrom_cons, split, repeatedFrom_cons, pair]
      by_cases new : found ∈ seen
      · rw [if_neg (not_not_intro new)]
        by_cases again : found ∈ reported
        · have next : Noticed (before ++ [found]) seen reported :=
            noticed.step (by grind) (by grind)
          rw [if_neg (not_not_intro again), if_neg (by grind)]
          exact inductionHypothesis next
        · have next : Noticed (before ++ [found]) seen (found :: reported) :=
            noticed.step (by grind) (by grind)
          rw [if_pos again, if_pos (once.mpr ⟨new, again⟩), List.map_cons,
            ← inductionHypothesis next, ← pair]
          rfl
      · have next : Noticed (before ++ [found]) (found :: seen) reported :=
          noticed.step (by grind) (by grind)
        rw [if_pos new, if_neg (by grind)]
        exact inductionHypothesis next

/-! ### The reports -/

/-- The pairs that are repeated, in the order of their second occurrences. -/
def repeatedPairs (pairs : List (String × String)) : List (String × String) :=
  (secondsFrom pairs pairs 0).map Prod.fst

theorem repeatedPairs_ordered (pairs : List (String × String)) :
    (repeatedPairs pairs).Pairwise fun earlier later => ∃ position behind,
      SecondAt pairs earlier position ∧ SecondAt pairs later behind ∧ position < behind := by
  rw [repeatedPairs, List.pairwise_map]
  refine (secondsFrom_pairwise pairs).imp_of_mem ?_
  intro earlier later earlierMem laterMem before
  exact ⟨earlier.2, later.2, mem_secondsFrom.mp earlierMem, mem_secondsFrom.mp laterMem, before⟩

theorem repeatedPairs_nodup (pairs : List (String × String)) : (repeatedPairs pairs).Nodup := by
  refine (repeatedPairs_ordered pairs).imp ?_
  rintro earlier later ⟨position, behind, second, secondToo, before⟩ rfl
  exact second.not_lt secondToo before

theorem mem_repeatedPairs {pairs : List (String × String)} {pair : String × String} :
    pair ∈ repeatedPairs pairs ↔ 2 ≤ pairs.count pair := by
  rw [repeatedPairs, List.mem_map, ← exists_secondAt_iff]
  constructor
  · rintro ⟨⟨same, position⟩, member, rfl⟩
    exact ⟨position, mem_secondsFrom.mp member⟩
  · rintro ⟨position, second⟩
    exact ⟨(pair, position), mem_secondsFrom.mpr second, rfl⟩

/-- The report that a pair is repeated. -/
def notice (host : PluginHost) (event : Event) (time : Nat) (pair : String × String) : Note :=
  host.observer.noteOf time (.validationIssue pluginName event.id
    ("Duplicate global context " ++ pair.1 ++ " with id '" ++ pair.2 ++ "'"))

theorem foldl_reportIssue (host : PluginHost) (event : Event) (copies : List ContextInstance)
    (scene : Scene) :
    copies.foldl
        (fun scene copy => host.reportIssue pluginName event (issue copy.context) scene) scene =
      { scene with notes :=
          scene.notes ++ (copiedPairs copies).map (notice host event scene.now) } := by
  induction copies generalizing scene with
  | nil => simp [copiedPairs]
  | cons copy rest inductionHypothesis =>
      have reported : host.reportIssue pluginName event (issue copy.context) scene =
          scene.note (notice host event scene.now (pairOf copy.context)) :=
        rfl
      rw [List.foldl_cons, reported, inductionHypothesis]
      simp [Scene.note, copiedPairs]

theorem validateCopies_eq (host : PluginHost) (event : Event) (copies : List ContextInstance)
    (scene : Scene) :
    validateCopies host event copies scene =
      { scene with notes := scene.notes ++
          (repeatedPairs (copiedPairs copies)).map (notice host event scene.now) } := by
  have found : copiedPairs (repeated copies) = repeatedPairs (copiedPairs copies) :=
    noticed_nothing.repeatedFrom_eq copies
  rw [validateCopies, foldl_reportIssue, found]

theorem validate_eq (host : PluginHost) (event : Event) (scene : Scene) :
    validate host event scene =
      { scene with notes := scene.notes ++
          (repeatedPairs (globalPairs event)).map (notice host event scene.now) } := by
  rw [validate, validateCopies_eq, copiedPairs_issue]
  rfl

/-- Validation always succeeds. It reports each pair that two or more of the event's global contexts
have, once, and no other pair, in the order of the second occurrences, and does nothing else.
Locations make no difference to it, nor do the tokens that the copies of the global contexts carry
while it looks at them. -/
theorem repeated_pairs_have_one_report_each :
    ∃ check, plugin.validate? = some check ∧ ∀ host event scene,
      (∃ found : List (String × String),
        check host event scene =
          (none, { scene with notes :=
            scene.notes ++ found.map (notice host event scene.now) }) ∧
        found.Nodup ∧
        (∀ pair, pair ∈ found ↔ 2 ≤ (globalPairs event).count pair) ∧
        found.Pairwise fun earlier later => ∃ position behind,
          SecondAt (globalPairs event) earlier position ∧
            SecondAt (globalPairs event) later behind ∧ position < behind) ∧
      ∀ (locations : List Context) (copies : List ContextInstance),
        copies.map (fun copy => pairOf copy.context) = globalPairs event →
          let elsewhere := { event with contexts :=
            { locationStack := locations, globalContexts := copies.map (·.context) } }
          check host elsewhere scene = check host event scene ∧
            (none, validateCopies host elsewhere copies scene) = check host event scene := by
  refine ⟨_, rfl, ?_⟩
  intro host event scene
  refine ⟨⟨repeatedPairs (globalPairs event), ?_, repeatedPairs_nodup _,
    fun pair => mem_repeatedPairs, repeatedPairs_ordered _⟩, ?_⟩
  · rw [validate_eq]
  · intro locations copies same elsewhere
    have samePairs : globalPairs elsewhere = globalPairs event := by
      rw [← same]
      exact List.map_map
    have sameCopies : copiedPairs copies = globalPairs event := same
    constructor
    · rw [validate_eq, validate_eq, samePairs]
      rfl
    · rw [validate_eq, validateCopies_eq, sameCopies]
      rfl

/-- Two pairs that take turns, and one that is there once. -/
def alternating : Event where
  type := "PressEvent"
  id := "e-1"
  time := 0
  contexts := {
    locationStack := [.location "PathContext" "/"]
    globalContexts := [
      .global "PathContext" "/", .global "UserContext" "7", .global "UserContext" "7",
      .global "PathContext" "/", .global "PathContext" "/home", .global "UserContext" "7",
      .global "PathContext" "/"] }

/-- Other copies of the same contexts elsewhere, all with one token, have the same two reports. -/
theorem alternating_pairs_have_two_reports :
    ∃ check, plugin.validate? = some check ∧
      let host : PluginHost := { trackerId := "t", applicationId := "app", observer := .notes }
      let copies := alternating.contexts.globalContexts.map fun context =>
        { context := context.withKind .location, token := 5 : ContextInstance }
      let elsewhere := { alternating with contexts := {
        locationStack := []
        globalContexts := copies.map (·.context) } }
      let reports : List Note := [
        .observed 0 (.validationIssue "UniqueGlobalContextPlugin" "e-1"
          "Duplicate global context UserContext with id '7'"),
        .observed 0 (.validationIssue "UniqueGlobalContextPlugin" "e-1"
          "Duplicate global context PathContext with id '/'")]
      ((check host elsewhere {}).1, (check host elsewhere {}).2.notes.toList) = (none, reports) ∧
        (validateCopies host elsewhere copies {}).notes.toList = reports := by
  obtain ⟨check, hook, reported⟩ := repeated_pairs_have_one_report_each
  refine ⟨check, hook, ?_⟩
  intro host copies elsewhere reports
  obtain ⟨-, alike⟩ := reported host alternating {}
  obtain ⟨same, sameCopies⟩ := alike [] copies rfl
  obtain rfl := Option.some.inj hook
  have copied := congrArg (fun outcome => outcome.2.notes.toList) sameCopies
  rw [same]
  exact ⟨rfl, copied⟩

end Telemetry.UniqueGlobal
