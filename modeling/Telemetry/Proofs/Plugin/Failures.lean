import Telemetry.Plugin.Scripted
import Telemetry.Proofs.Plugin.Contents

/-!
Contract: what an operation on a chain leaves behind when it fails.

Owns:
- `PluginChain.Operation`: adding, removing and replacing as one kind of thing;
- `Operation.Overreaches`: replacing a plugin that is there, at a place that the
  chain does not have once the plugin is taken out;
- that every other failure leaves no trace, and what this one leaves.

Adding and removing look before they change anything. Replacing takes the old
plugin out first, and the place for the new one is checked in the chain that is
left, which is shorter by one.
-/

namespace Telemetry.PluginChain

inductive Operation where
  | add (plugin : Plugin) (index : Option Nat)
  | remove (name : String)
  | replace (plugin : Plugin) (index : Option Nat)

namespace Operation

def perform (chain : PluginChain) (scene : Scene) : Operation → Change Unit
  | .add plugin index => chain.add plugin index scene
  | .remove name =>
      let removed := chain.remove name scene
      { result := removed.result.map fun _ => (), chain := removed.chain, scene := removed.scene }
  | .replace plugin index => chain.replace plugin index scene

/-- A replacement of a plugin that is there, at a place behind all plugins but the old one. -/
def Overreaches (chain : PluginChain) : Operation → Prop
  | .replace plugin (some place) => plugin.name ∈ chain.names ∧ chain.plugins.length ≤ place
  | _ => False

/-- The name of the plugin that the operation is about. -/
def subject : Operation → String
  | .add plugin _ => plugin.name
  | .remove name => name
  | .replace plugin _ => plugin.name

end Operation

/-- Nothing is changed: the plugins are the same, and no hook has run. -/
structure Change.Traceless {α : Type} (change : Change α) (chain : PluginChain) (scene : Scene) :
    Prop where
  chain : change.chain = chain
  scene : change.scene = scene

variable {chain : PluginChain} {scene : Scene} {error : TrackerError}

theorem add_traceless {plugin : Plugin} {index : Option Nat}
    (failed : (chain.add plugin index scene).result = .error error) :
    (chain.add plugin index scene).Traceless chain scene := by
  unfold add at failed ⊢
  by_cases taken : chain.has plugin.name = true
  · rw [if_pos taken]
    exact ⟨rfl, rfl⟩
  · rw [if_neg taken] at failed ⊢
    dsimp only at failed ⊢
    by_cases beyond : chain.plugins.length < index.getD chain.plugins.length
    · rw [if_pos beyond]
      exact ⟨rfl, rfl⟩
    · rw [if_neg beyond] at failed
      cases failed

theorem remove_traceless {name : String}
    (failed : (chain.remove name scene).result = .error error) :
    (chain.remove name scene).Traceless chain scene := by
  rcases chain.found_or_absent name with ⟨front, plugin, back, found⟩ | ⟨-, absent, -⟩
  · rw [(found.remove scene).1] at failed
    cases failed
  · rw [remove, absent]
    exact ⟨rfl, rfl⟩

theorem replace_traceless_of_absent {plugin : Plugin} (index : Option Nat)
    (absent : plugin.name ∉ chain.names) :
    (chain.replace plugin index scene).Traceless chain scene := by
  rcases chain.found_or_absent plugin.name with ⟨front, old, back, found⟩ | ⟨-, nowhere, -⟩
  · exact absurd (List.mem_map.mpr ⟨old, by simp [found.split], found.named⟩) absent
  · rw [replace, nowhere]
    exact ⟨rfl, rfl⟩

theorem FoundAt.remove_scene {name : String} {front back : List Plugin} {plugin : Plugin}
    (found : chain.FoundAt name front plugin back) :
    (chain.remove name scene).scene = scene.log (removalEntry name) := by
  rw [PluginChain.remove, found.position?, found.get]

/-- Where a replacement fails although there is a plugin to replace, that plugin is gone. -/
theorem replace_failed {plugin : Plugin} {index : Option Nat} (distinct : chain.names.Nodup)
    (present : plugin.name ∈ chain.names)
    (failed : (chain.replace plugin index scene).result = .error error) :
    (∃ place, index = some place ∧ chain.plugins.length ≤ place) ∧
      (chain.replace plugin index scene).chain =
        { chain with plugins := chain.plugins.filter fun other => other.name ≠ plugin.name } ∧
      (chain.replace plugin index scene).scene = scene.log (removalEntry plugin.name) := by
  rcases chain.found_or_absent plugin.name with ⟨front, old, back, found⟩ | ⟨absent, -⟩
  · refine ⟨?_, ?_⟩
    · cases index with
      | none =>
          have succeeded := (replace_in_place_gives scene distinct plugin).1.mpr present
          rw [succeeded] at failed
          cases failed
      | some place =>
          refine ⟨place, rfl, Nat.le_of_not_lt fun inside => ?_⟩
          have succeeded := (replace_at_gives scene distinct plugin place).1.mpr ⟨present, inside⟩
          rw [succeeded] at failed
          cases failed
    · -- The addition to what is left has failed, so it shows what the removal has left.
      rw [found.replace scene] at failed ⊢
      have left := add_traceless failed
      rw [left.chain, left.scene, found.filter_eq distinct, found.remove_scene]
      exact ⟨rfl, rfl⟩
  · exact absurd present absent

/-- A chain that had the plugin is another one without it. -/
theorem filter_ne_of_present {name : String} (present : name ∈ chain.names) :
    (chain.plugins.filter fun other => other.name ≠ name) ≠ chain.plugins := by
  intro same
  obtain ⟨plugin, member, named⟩ := List.mem_map.mp present
  exact of_decide_eq_true (List.filter_eq_self.mp same plugin member) named

/-- An operation that fails on a chain leaves no trace, unless it overreaches. In that case the
plugin that it was to replace is gone, and all that happened besides is an entry in the log. No
plugin is started either way. -/
theorem failed_operations_are_traceless_iff (plugins : List Plugin) (host : PluginHost)
    (chain : PluginChain) (edited : Edited (make plugins host) chain) (operation : Operation)
    (scene : Scene) (error : TrackerError)
    (failed : (operation.perform chain scene).result = .error error) :
    let after := operation.perform chain scene
    (after.Traceless chain scene ↔ ¬operation.Overreaches chain) ∧
      (operation.Overreaches chain →
        after.chain.plugins ≠ chain.plugins ∧
          after.chain.plugins =
            (chain.plugins.filter fun other => other.name ≠ operation.subject) ∧
          after.scene = scene.log (removalEntry operation.subject)) := by
  intro after
  have distinct := edited.names_nodup (make_names_nodup plugins host)
  suffices cases : (¬operation.Overreaches chain ∧ after.Traceless chain scene) ∨
      (operation.Overreaches chain ∧ operation.subject ∈ chain.names ∧
        after.chain.plugins = (chain.plugins.filter fun other => other.name ≠ operation.subject) ∧
        after.scene = scene.log (removalEntry operation.subject)) by
    rcases cases with ⟨within, traceless⟩ | ⟨overreaches, present, left, logged⟩
    · exact ⟨iff_of_true traceless within, fun overreaches => absurd overreaches within⟩
    · have gone : after.chain.plugins ≠ chain.plugins := by
        rw [left]
        exact filter_ne_of_present present
      refine ⟨iff_of_false ?_ (not_not_intro overreaches), fun _ => ⟨gone, left, logged⟩⟩
      exact fun traceless => gone (congrArg PluginChain.plugins traceless.chain)
  cases operation with
  | add plugin index => exact .inl ⟨id, add_traceless failed⟩
  | remove name =>
      refine .inl ⟨id, ?_⟩
      cases outcome : (chain.remove name scene).result with
      | error reason =>
          have traceless := remove_traceless outcome
          exact ⟨traceless.chain, traceless.scene⟩
      | ok plugin =>
          simp only [Operation.perform, outcome] at failed
          cases failed
  | replace plugin index =>
      by_cases present : plugin.name ∈ chain.names
      · obtain ⟨⟨place, rfl, beyond⟩, left, logged⟩ := replace_failed distinct present failed
        exact .inr ⟨⟨present, beyond⟩, present, congrArg PluginChain.plugins left, logged⟩
      · refine .inl ⟨?_, replace_traceless_of_absent index present⟩
        cases index with
        | none => exact id
        | some place => exact fun overreaches => present overreaches.1

/-- A chain of three plugins, the first of which leaves a note when it is started. -/
def trio : PluginChain :=
  make [ScriptedPlugin.plugin { name := "a", switch := "a", onStart? := some [] }, { name := "b" },
    { name := "c" }] ⟨"tracker", "app", .notes⟩

/-- The replacement of an unknown plugin leaves no trace. That of a known one behind the last place
starts nothing either, but takes the known one out. -/
theorem refused_replacements_in_trio :
    let unknown := (Operation.replace { name := "d" } (some 3)).perform trio {}
    let known := (Operation.replace { name := "a" } (some 3)).perform trio {}
    unknown.result = .error (.pluginNotFound "d") ∧ unknown.Traceless trio {} ∧
      known.result = .error (.invalidPluginIndex 3 2) ∧
      known.chain.names = ["b", "c"] ∧
      known.scene = ({} : Scene).log (removalEntry "a") := by
  intro unknown known
  have unknownFailed : unknown.result = .error (.pluginNotFound "d") := rfl
  have knownFailed : known.result = .error (.invalidPluginIndex 3 2) := rfl
  have left := (failed_operations_are_traceless_iff _ _ trio .start _ {} _ knownFailed).2
    ⟨by decide, by decide⟩
  refine ⟨unknownFailed, ?_, knownFailed, ?_, left.2.2⟩
  · refine (failed_operations_are_traceless_iff _ _ trio .start _ {} _ unknownFailed).1.mpr ?_
    exact fun overreaches => absurd overreaches.1 (by decide)
  · rw [names, left.2.1]
    rfl

/-- A chain of three has a place behind its last plugin, but not for one of its own. To replace a
plugin there fails, and the plugin is lost. -/
theorem replacement_behind_the_last_loses_plugin :
    trio.names = ["a", "b", "c"] ∧
      (trio.add { name := "d" } (some 3) {}).result = .ok () ∧
      (trio.replace { name := "a" } (some 3) {}).result = .error (.invalidPluginIndex 3 2) ∧
      (trio.replace { name := "a" } (some 3) {}).chain.names = ["b", "c"] :=
  ⟨rfl, rfl, rfl, rfl⟩

end Telemetry.PluginChain
