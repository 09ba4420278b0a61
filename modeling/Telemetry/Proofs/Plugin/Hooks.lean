import Telemetry.Plugin.Chain

/-!
Contract: what the hooks of a chain do, one plugin after the other.

Owns:
- `Hook`, one kind of hook of any plugin, with the state it works on;
- `Hook.Passes` and `Hook.Fails`: all usable hooks succeed, or one is the first
  to fail, and the state that is left;
- that enriching and validating with a chain are runs of such hooks.

The two kinds differ in their state. Enriching changes contexts and
surroundings; validating changes surroundings only, while the event stays the
same.
-/

namespace Telemetry

/-- What a plugin makes of a state when its turn comes: nothing if it has no such hook or is
not usable then, else a failure if there is one, and the state it leaves. -/
abbrev Hook (State : Type) : Type := Plugin → State → Option (Option PluginError × State)

namespace Hook

variable {State : Type} {hook : Hook State} {plugins : List Plugin} {state after : State}
  {error : PluginError}

/-- The hooks in order, up to the first failure. -/
def run (hook : Hook State) : List Plugin → State → Option PluginError × State
  | [], state => (none, state)
  | plugin :: plugins, state =>
      match hook plugin state with
      | none => hook.run plugins state
      | some (none, next) => hook.run plugins next
      | some (some error, next) => (some error, next)

/-- No hook fails. Each one that is called gets the state that the one before it left. -/
inductive Passes (hook : Hook State) : List Plugin → State → State → Prop where
  | done (state : State) : Passes hook [] state state
  | skip {plugin : Plugin} {plugins : List Plugin} {state after : State}
      (idle : hook plugin state = none) (rest : Passes hook plugins state after) :
      Passes hook (plugin :: plugins) state after
  | call {plugin : Plugin} {plugins : List Plugin} {state next after : State}
      (called : hook plugin state = some (none, next)) (rest : Passes hook plugins next after) :
      Passes hook (plugin :: plugins) state after

/-- A hook fails after those before it did not, and what it leaves is left: nothing of the
plugins behind it is called. -/
inductive Fails (hook : Hook State) (plugins : List Plugin) (state : State) (error : PluginError)
    (after : State) : Prop where
  | at (before : List Plugin) (plugin : Plugin) (behind : List Plugin) (now : State)
      (split : plugins = before ++ plugin :: behind) (passed : Passes hook before state now)
      (failed : hook plugin now = some (some error, after))

/-- A failure behind one more plugin that does not fail itself. -/
theorem Fails.behind {plugin : Plugin} {next : State}
    (fails : Fails hook plugins next error after)
    (passes : ∀ {plugins last}, Passes hook plugins next last →
      Passes hook (plugin :: plugins) state last) :
    Fails hook (plugin :: plugins) state error after := by
  obtain ⟨before, failing, behind, now, split, passed, failed⟩ := fails
  exact .at (plugin :: before) failing behind now (by simp [split]) (passes passed) failed

/-- Either the hooks pass or one of them is the first to fail, with what the run gives. -/
theorem run_cases (hook : Hook State) (plugins : List Plugin) (state : State) :
    (∃ after, hook.run plugins state = (none, after) ∧ Passes hook plugins state after) ∨
      ∃ error after, hook.run plugins state = (some error, after) ∧
        Fails hook plugins state error after := by
  induction plugins generalizing state with
  | nil => exact .inl ⟨state, rfl, .done state⟩
  | cons plugin rest inductionHypothesis =>
      match outcome : hook plugin state with
      | none =>
          have continues : hook.run (plugin :: rest) state = hook.run rest state := by
            rw [run, outcome]
          rw [continues]
          rcases inductionHypothesis state with ⟨after, ran, passes⟩ | ⟨error, after, ran, fails⟩
          · exact .inl ⟨after, ran, .skip outcome passes⟩
          · exact .inr ⟨error, after, ran, fails.behind (.skip outcome)⟩
      | some (none, next) =>
          have continues : hook.run (plugin :: rest) state = hook.run rest next := by
            rw [run, outcome]
          rw [continues]
          rcases inductionHypothesis next with ⟨after, ran, passes⟩ | ⟨error, after, ran, fails⟩
          · exact .inl ⟨after, ran, .call outcome passes⟩
          · exact .inr ⟨error, after, ran, fails.behind (.call outcome)⟩
      | some (some error, next) =>
          refine .inr ⟨error, next, ?_, .at [] plugin rest state rfl (.done state) outcome⟩
          rw [run, outcome]

theorem Passes.run_append (passes : Passes hook plugins state after) (behind : List Plugin) :
    hook.run (plugins ++ behind) state = hook.run behind after := by
  induction passes with
  | done => rfl
  | skip idle _ inductionHypothesis =>
      rw [List.cons_append, run, idle]
      exact inductionHypothesis
  | call called _ inductionHypothesis =>
      rw [List.cons_append, run, called]
      exact inductionHypothesis

theorem Passes.run_eq (passes : Passes hook plugins state after) :
    hook.run plugins state = (none, after) := by
  simpa [run] using passes.run_append []

theorem Fails.run_eq (fails : Fails hook plugins state error after) :
    hook.run plugins state = (some error, after) := by
  obtain ⟨before, plugin, behind, now, rfl, passed, failed⟩ := fails
  rw [passed.run_append, run, failed]

end Hook

namespace Plugin

/-- A plugin's turn to enrich contexts. -/
def enriching (host : PluginHost) : Hook (Contexts × Scene) := fun plugin (contexts, scene) =>
  match plugin.enrich? with
  | none => none
  | some enrich =>
      if plugin.usable scene then
        let enriched := enrich host contexts scene
        some (enriched.failure, enriched.contexts, enriched.scene)
      else none

/-- A plugin's turn to look at an event. -/
def validating (host : PluginHost) (event : Event) : Hook Scene := fun plugin scene =>
  match plugin.validate? with
  | none => none
  | some validate => if plugin.usable scene then some (validate host event scene) else none

end Plugin

namespace PluginChain

theorem enrichWith_eq_run (host : PluginHost) (plugins : List Plugin) (contexts : Contexts)
    (scene : Scene) :
    let enriched := enrichWith host plugins contexts scene
    (Plugin.enriching host).run plugins (contexts, scene) =
      (enriched.failure, enriched.contexts, enriched.scene) := by
  fun_induction enrichWith host plugins contexts scene with
  | case1 contexts scene => rfl
  | case2 contexts scene plugin plugins absent inductionHypothesis =>
      simpa [Hook.run, Plugin.enriching, absent] using inductionHypothesis
  | case3 contexts scene plugin plugins enrich present usable enriched error failed =>
      simp [Hook.run, Plugin.enriching, present, usable, enriched, failed]
  | case4 contexts scene plugin plugins enrich present usable enriched succeeded
      inductionHypothesis =>
      simpa [Hook.run, Plugin.enriching, present, usable, enriched, succeeded] using
        inductionHypothesis
  | case5 contexts scene plugin plugins enrich present unusable inductionHypothesis =>
      simpa [Hook.run, Plugin.enriching, present, unusable] using inductionHypothesis

theorem validateWith_eq_run (host : PluginHost) (event : Event) (plugins : List Plugin)
    (scene : Scene) :
    (Plugin.validating host event).run plugins scene = validateWith host event plugins scene := by
  fun_induction validateWith host event plugins scene with
  | case1 scene => rfl
  | case2 scene plugin plugins absent inductionHypothesis =>
      simpa [Hook.run, Plugin.validating, absent] using inductionHypothesis
  | case3 scene plugin plugins validate present usable error next failed =>
      simp [Hook.run, Plugin.validating, present, usable, failed]
  | case4 scene plugin plugins validate present usable next succeeded inductionHypothesis =>
      simpa [Hook.run, Plugin.validating, present, usable, succeeded] using inductionHypothesis
  | case5 scene plugin plugins validate present unusable inductionHypothesis =>
      simpa [Hook.run, Plugin.validating, present, unusable] using inductionHypothesis

/-- A chain turns an event down: an enriching hook is the first to fail, or all of them pass
and a validating hook is the first to fail on the enriched event. -/
inductive Rejects (chain : PluginChain) (event : Event) (scene : Scene) (error : PluginError)
    (after : Scene) : Prop where
  | enriching (contexts : Contexts)
      (fails : (Plugin.enriching chain.host).Fails chain.plugins (event.contexts, scene) error
        (contexts, after))
  | validating (contexts : Contexts) (now : Scene)
      (enriched : (Plugin.enriching chain.host).Passes chain.plugins (event.contexts, scene)
        (contexts, now))
      (fails : (Plugin.validating chain.host (event.derive contexts)).Fails chain.plugins now error
        after)

/-- A chain lets an event through with the contexts that it has in the end: no enriching hook
fails, and then no validating hook fails on the enriched event. -/
structure Accepts (chain : PluginChain) (event : Event) (scene : Scene) (contexts : Contexts)
    (now after : Scene) : Prop where
  enriched : (Plugin.enriching chain.host).Passes chain.plugins (event.contexts, scene)
    (contexts, now)
  validated : (Plugin.validating chain.host (event.derive contexts)).Passes chain.plugins now after

end PluginChain

end Telemetry
