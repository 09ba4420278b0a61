import Telemetry.Proofs.Replay.Course

/-!
Contract: the counts in the summary of a replay.

Owns:
- `Replay.Accounts`, which ties the counts to the lines of the input, to one
  another and to the size of a batch;
- that they hold of every summary that a replay with accepted settings can come
  to, if it draws no identifier twice.

Does not own: the courses that a replay can take; see `Replay.Course`.
-/

namespace Telemetry

open Occurrence

namespace Replay

/-- The summary accounts for the lines of the input. -/
structure Accounts (settings : Settings) (text : String) (summary : ReplaySummary) : Prop where
  total : summary.tracked + summary.malformed + summary.rejected = (contents text).length
  tracked : summary.tracked = (contents text).countP describesEvent
  rejected : summary.rejected = 0
  pending : summary.pending ≤ summary.tracked
  drained : summary.drained = true →
    summary.pending = 0 ∧ summary.deliveredBatches ≤ summary.tracked ∧
      summary.tracked ≤ summary.deliveredBatches * settings.queue.batchSize

variable {settings : Settings} {retrying : Bool} {identifiers : List String} {text : String}
  {summary : ReplaySummary} {history : List Occurrence} {desk : Desk}

theorem Tallied.total {contents : List String} (tallied : Tallied contents summary) :
    summary.tracked + summary.malformed + summary.rejected = contents.length := by
  rw [tallied.tracked, tallied.malformed, tallied.rejected, Nat.add_zero,
    List.length_eq_countP_add_countP describesEvent]
  simp

namespace Outcome

variable (outcome : Outcome settings retrying identifiers true text summary history desk)

include outcome

theorem accounts (accepted : settings.Accepted)
    (distinct : ((List.range summary.tracked).map (namedId identifiers)).Nodup) :
    Accounts settings text summary := by
  have reached := outcome.kept.recorded.reached
  have distinctPushes : ((pushes history).map Event.id).Nodup := by
    rw [outcome.kept.drawn, if_pos rfl, outcome.counted]
    exact distinct
  have stored := (outcome.kept.faithful accepted distinctPushes).stored
  have left : summary.pending = (Occurrence.pending history).length := by
    rw [outcome.pending, ← stored]
    rfl
  constructor
  · exact outcome.tallied.total
  · exact outcome.tallied.tracked
  · exact outcome.tallied.rejected
  · rw [left, ← outcome.length_pushes]
    exact (pending_sublist_pushes history).length_le
  · intro drained
    have nothing : Occurrence.pending history = [] := stored.symm.trans (outcome.drained drained)
    have balanced := reached.balanced (make_eq accepted) distinctPushes outcome.kept.unflushed
    have everything := balanced.balance.length_eq
    rw [nothing, List.nil_append, outcome.length_pushes] at everything
    have sizes := reached.delivered_sizes (.of_make (make_eq accepted) {})
    rw [left, nothing, outcome.delivered_eq, ← everything]
    exact ⟨rfl, length_flatten_bounds sizes⟩

end Outcome

/-- A replay with accepted settings always comes to a summary, and however its lines and the
rounds of the queue fall together, the summary accounts for the lines. Only the clock has to be
able to show the end of the wait, as it always does when words hold the time and the timeout. -/
theorem replay_accounts_for_every_line (settings : Settings) (retrying : Bool)
    (identifiers : List String) (start : Nat) (text : String) (valid : settings.issues = [])
    (distinct : ((List.range ((contents text).countP describesEvent)).map
      (namedId identifiers)).Nodup) :
    Concludes (tracker settings identifiers) settings retrying start text ∧
      (Timely settings ((contents text).countP describesEvent) start → ∃ summary entries,
        run settings retrying identifiers start (.ok text) = (.ok summary, entries) ∧
          MayReturn (tracker settings identifiers) settings retrying start text summary) ∧
      ∀ summary, MayReturn (tracker settings identifiers) settings retrying start text summary →
        Accounts settings text summary := by
  have accepted := Settings.accepted_of_issues_eq_nil valid
  refine ⟨concludes retrying identifiers true accepted start text,
    runThrough_mayReturn retrying identifiers true accepted, fun summary may => ?_⟩
  obtain ⟨history, desk, outcome⟩ :=
    @MayReturn.outcome settings retrying identifiers true start text summary accepted may
  refine outcome.accounts accepted ?_
  rw [outcome.tallied.tracked]
  exact distinct

/-- Three events, a blank line and a line without an event, in batches of two, which are both
delivered. -/
theorem replay_accounts_for_three_events_of_five_lines :
    let settings : Settings := { queue := { batchSize := 2 } }
    let text :=
      "\x7b\"type\": \"A\"\x7d\n\n \x7b\"type\": \"B\"\x7d\nno event\n\x7b\"type\": \"C\"\x7d"
    let summary : ReplaySummary :=
      { tracked := 3, malformed := 1, deliveredBatches := 2, drained := true }
    settings.issues = [] ∧ ((List.range 3).map (namedId [])).Nodup ∧
      (run settings true [] 0 (.ok text)).1.toOption = some summary ∧
      MayReturn (tracker settings []) settings true 0 text summary ∧
      Accounts settings text summary := by
  intro settings text summary
  have valid : settings.issues = [] := by decide +kernel
  have events : (contents text).countP describesEvent = 3 := by decide +kernel
  have distinct : ((List.range 3).map (namedId [])).Nodup := by decide +kernel
  have timely : Timely settings ((contents text).countP describesEvent) 0 :=
    timely_of_words _ (by decide) nofun
  have delivered : (run settings true [] 0 (.ok text)).1.toOption = some summary := by
    simp only [run, runThrough]
    rw [numberedLines_eq]
    decide +kernel
  obtain ⟨-, returns, every⟩ :=
    replay_accounts_for_every_line settings true [] 0 text valid (by rw [events]; exact distinct)
  obtain ⟨_, entries, returned, may⟩ := returns timely
  rw [returned] at delivered
  cases delivered
  exact ⟨valid, distinct, by rw [returned]; rfl, may, every _ may⟩

end Replay

end Telemetry
