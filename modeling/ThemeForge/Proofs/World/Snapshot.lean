import Mathlib.Data.List.Basic
import ThemeForge.Platform
import ThemeForge.Proofs.World.Configuration

/-!
# The configuration that is kept

Files and variables may change at any time, but the configuration that is kept is that of one
moment: the first since the last reload at which a load went through.

* `Surroundings`, `Surroundings.read?`, `Surroundings.load?`: what is loaded from, and what a
  world that keeps nothing loads from it;
* `ConfigurationEvent`: what happens around a configuration, step by step;
* `LoadHistory`, `LoadHistory.snapshot?`: the moments at which it was asked for, and the one that
  counts;
* `World.Recalls`: a world keeps the configuration of that moment, which each event preserves;
* **`configuration_after_events`**: what is loaded after anything that happened.
-/

namespace ThemeForge

open ThemeForge.Configuration

/-- What a configuration is loaded from. -/
structure Surroundings where
  files : FileSystem := {}
  environment : Variables := []

section Format

variable [Format]

namespace Surroundings

/-- A world with these surroundings that keeps no configuration. -/
def world (s : Surroundings) : World where
  files := s.files
  environment := s.environment

/-- The configuration that is loaded when none is kept. -/
def read? (s : Surroundings) : Except Failure Value.Mapping := (Run.configuration.result s.world).1

/-- The settings that are loaded when no configuration is kept. -/
def load? (s : Surroundings) : Except Failure Settings := (Run.settings.result s.world).1

theorem read?_eq (s : Surroundings) : s.read? = Configuration.read? s.files s.environment := by
  rw [read?, Run.result_configuration rfl]
  rfl

theorem load?_eq (s : Surroundings) : s.load? = s.read? >>= settings? := by
  rw [load?, Run.result_settings rfl, read?_eq]
  rfl

/-- The configuration can be loaded. -/
def Loads (s : Surroundings) : Bool := s.read?.isOk

theorem loads_iff {s : Surroundings} : s.Loads = true ↔ ∃ m, s.read? = .ok m := by
  unfold Loads
  cases s.read? <;> simp [Except.isOk, Except.toBool]

end Surroundings

/-! ## What happens around a configuration -/

/-- Files or variables change in any way, or the configuration is taken, checked, or reloaded. -/
inductive ConfigurationEvent
  | files (change : FileSystem → FileSystem)
  | environment (change : Variables → Variables)
  | get
  | settings
  | reload

/-- The surroundings now, and those in which a configuration was asked for since the last reload,
that one included, in their order. -/
structure LoadHistory where
  now : Surroundings
  asked : List Surroundings := []

namespace LoadHistory

/-- The history with one more event. -/
def record (h : LoadHistory) : ConfigurationEvent → LoadHistory
  | .files change => { h with now := ⟨change h.now.files, h.now.environment⟩ }
  | .environment change => { h with now := ⟨h.now.files, change h.now.environment⟩ }
  | .get => { h with asked := h.asked ++ [h.now] }
  | .settings => { h with asked := h.asked ++ [h.now] }
  | .reload => { h with asked := [h.now] }

/-- The history with more events. -/
def recordAll (h : LoadHistory) (events : List ConfigurationEvent) : LoadHistory :=
  events.foldl record h

/-- The first surroundings since the last reload whose configuration could be loaded. -/
def snapshot? (h : LoadHistory) : Option Surroundings := h.asked.find? Surroundings.Loads

/-- The surroundings that count: those of the snapshot, or those now if there is none. -/
def basis (h : LoadHistory) : Surroundings := h.snapshot?.getD h.now

theorem loads_of_snapshot? {h : LoadHistory} {s : Surroundings} (hs : h.snapshot? = some s) :
    ∃ m, s.read? = .ok m :=
  Surroundings.loads_iff.mp (List.find?_some hs)

end LoadHistory

namespace ConfigurationEvent

/-- The world after an event. -/
def perform (w : World) : ConfigurationEvent → World
  | .files change => { w with files := change w.files }
  | .environment change => { w with environment := change w.environment }
  | .get => (Run.configuration.result w).2
  | .settings => (Run.settings.result w).2
  | .reload => (Run.reloadConfiguration.result w).2

/-- The world after several events. -/
def performAll (w : World) (events : List ConfigurationEvent) : World := events.foldl perform w

end ConfigurationEvent

/-! ## What is kept -/

/-- A world is in the surroundings that a history ends in, and keeps the configuration of the
snapshot. -/
structure World.Recalls (w : World) (h : LoadHistory) : Prop where
  files : w.files = h.now.files
  environment : w.environment = h.now.environment
  configuration : w.configuration = h.snapshot?.bind fun s => s.read?.toOption

namespace World.Recalls

variable {w : World} {h : LoadHistory}

theorem configuration_eq_none_iff (hw : w.Recalls h) :
    w.configuration = none ↔ h.snapshot? = none := by
  rw [hw.configuration]
  cases hs : h.snapshot? with
  | none => simp
  | some s =>
    obtain ⟨m, hm⟩ := LoadHistory.loads_of_snapshot? hs
    simp [hm, Except.toOption]

theorem read?_now (hw : w.Recalls h) :
    Configuration.read? w.files w.environment = h.now.read? := by
  rw [Surroundings.read?_eq, hw.files, hw.environment]

/-- Taking the configuration gives that of the surroundings that count, and keeps it. -/
theorem result_configuration (hw : w.Recalls h) : Run.configuration.result w =
    (h.basis.read?, { w with configuration := h.basis.read?.toOption }) := by
  cases hs : h.snapshot? with
  | none =>
    have hbasis : h.basis = h.now := by rw [LoadHistory.basis, hs, Option.getD_none]
    rw [Run.result_configuration (hw.configuration_eq_none_iff.mpr hs), hw.read?_now, hbasis]
  | some s =>
    obtain ⟨m, hm⟩ := LoadHistory.loads_of_snapshot? hs
    have hbasis : h.basis = s := by rw [LoadHistory.basis, hs, Option.getD_some]
    have hkept : w.configuration = some m := by
      rw [hw.configuration, hs, Option.bind_some, hm]
      rfl
    rw [Run.result_configuration_kept hkept, hbasis, hm]
    change _ = (Except.ok m, { w with configuration := some m })
    rw [← hkept]

/-- Taking the settings keeps the configuration also if it is no good. -/
theorem result_settings (hw : w.Recalls h) : Run.settings.result w =
    (h.basis.load?, { w with configuration := h.basis.read?.toOption }) := by
  unfold Run.settings
  rw [Run.result_bind, hw.result_configuration, Surroundings.load?_eq]
  cases h.basis.read? with
  | error f => rfl
  | ok m =>
    simp only [Run.result_ofExcept, Except.mapError_id]
    rfl

/-- A reload forgets the snapshot. -/
theorem result_reload (hw : w.Recalls h) : Run.reloadConfiguration.result w =
    (h.now.read?, { w with configuration := h.now.read?.toOption }) := by
  rw [Run.result_reloadConfiguration, hw.read?_now]

end World.Recalls

namespace LoadHistory

variable (h : LoadHistory)

/-- Whether there was a snapshot or not, the surroundings that count are those from which the
configuration has been taken once it has been asked for. -/
theorem snapshot?_ask :
    ({ h with asked := h.asked ++ [h.now] } : LoadHistory).snapshot?.bind
      (fun s => s.read?.toOption) = h.basis.read?.toOption := by
  unfold basis snapshot?
  rw [List.find?_append]
  cases h.asked.find? Surroundings.Loads with
  | some s => rfl
  | none =>
    rw [Option.none_or, Option.getD_none, List.find?_singleton, Surroundings.Loads]
    cases hnow : h.now.read? with
    | error f => rfl
    | ok m => exact congrArg Except.toOption hnow

end LoadHistory

/-- What one event preserves. -/
theorem World.Recalls.perform {w : World} {h : LoadHistory} (hw : w.Recalls h)
    (e : ConfigurationEvent) : (e.perform w).Recalls (h.record e) := by
  cases e with
  | files change => exact ⟨congrArg change hw.files, hw.environment, hw.configuration⟩
  | environment change => exact ⟨hw.files, congrArg change hw.environment, hw.configuration⟩
  | get =>
    rw [ConfigurationEvent.perform, hw.result_configuration]
    exact ⟨hw.files, hw.environment, h.snapshot?_ask.symm⟩
  | settings =>
    rw [ConfigurationEvent.perform, hw.result_settings]
    exact ⟨hw.files, hw.environment, h.snapshot?_ask.symm⟩
  | reload =>
    rw [ConfigurationEvent.perform, hw.result_reload]
    -- a reload is the first to ask in a history in which nobody has
    exact ⟨hw.files, hw.environment,
      (LoadHistory.snapshot?_ask { h with asked := [] }).symm⟩

/-- What any number of events preserves. -/
theorem World.Recalls.performAll {w : World} {h : LoadHistory} (hw : w.Recalls h)
    (events : List ConfigurationEvent) :
    (ConfigurationEvent.performAll w events).Recalls (h.recordAll events) := by
  induction events generalizing w h with
  | nil => exact hw
  | cons e events ih => exact ih (hw.perform e)

/-- A world that keeps no configuration has no history. -/
theorem World.recalls_of_none {w : World} (h : w.configuration = none) :
    w.Recalls { now := ⟨w.files, w.environment⟩ } := ⟨rfl, rfl, h⟩

/-! ## What is loaded -/

/-- **The configuration is that of one moment.** After anything that happened, the configuration and
the settings are those that a world which keeps nothing loads in the surroundings that count; these
are the surroundings now until a load goes through, and again after a reload. A failure is that of
such a load, and leaves nothing kept; settings that only break a rule leave the configuration
kept. -/
theorem configuration_after_events {w₀ : World} (hempty : w₀.configuration = none)
    (events : List ConfigurationEvent) :
    let w := ConfigurationEvent.performAll w₀ events
    let h := LoadHistory.recordAll { now := ⟨w₀.files, w₀.environment⟩ } events
    (w.files = h.now.files ∧ w.environment = h.now.environment) ∧
    (Run.configuration.result w).1 = h.basis.read? ∧
    (Run.settings.result w).1 = h.basis.load? ∧
    (Run.reloadConfiguration.result w).1 = h.now.read? ∧
    (∀ f, (Run.configuration.result w).1 = .error f →
      h.snapshot? = none ∧ h.now.read? = .error f ∧
        (Run.configuration.result w).2.configuration = none) ∧
    (∀ f, (Run.reloadConfiguration.result w).1 = .error f →
      (Run.reloadConfiguration.result w).2.configuration = none) ∧
    ∀ f, (Run.settings.result w).1 = .error f →
      (h.snapshot? = none ∧ h.now.read? = .error f ∧
        (Run.settings.result w).2.configuration = none) ∨
      ∃ m, h.basis.read? = .ok m ∧ settings? m = .error f ∧
        (Run.settings.result w).2.configuration = some m := by
  intro w h
  have hw : w.Recalls h := (World.recalls_of_none hempty).performAll events
  -- a snapshot loads, so surroundings that fail can only be those now
  have hbasis : ∀ f, h.basis.read? = .error f → h.snapshot? = none ∧ h.now.read? = .error f := by
    intro f hf
    unfold LoadHistory.basis at hf
    cases hs : h.snapshot? with
    | none =>
      rw [hs] at hf
      exact ⟨rfl, hf⟩
    | some s =>
      obtain ⟨m, hm⟩ := LoadHistory.loads_of_snapshot? hs
      rw [hs, Option.getD_some, hm] at hf
      exact nomatch hf
  rw [hw.result_configuration, hw.result_settings, hw.result_reload]
  refine ⟨⟨hw.files, hw.environment⟩, rfl, rfl, rfl, fun f hf => ?_, fun f hf => ?_, fun f hf => ?_⟩
  · obtain ⟨hnone, hnow⟩ := hbasis f hf
    exact ⟨hnone, hnow, congrArg Except.toOption hf⟩
  · exact congrArg Except.toOption hf
  · rw [Surroundings.load?_eq] at hf
    rcases Except.bind_eq_error_iff.mp hf with hf | ⟨m, hm, hf⟩
    · obtain ⟨hnone, hnow⟩ := hbasis f hf
      exact .inl ⟨hnone, hnow, congrArg Except.toOption hf⟩
    · exact .inr ⟨m, hm, hf, congrArg Except.toOption hm⟩

end Format

/-- Writes a configuration file. -/
def ConfigurationEvent.write (t : Text) : ConfigurationEvent :=
  .files fun fs => fs.installFile Configuration.path t.bytes

/-- A file that is malformed is asked for in vain; the next one is kept although its settings are
no good, and stays when it is removed and when the environment changes. The reload finds none. -/
theorem configuration_after_mending :
    let events : List ConfigurationEvent := [.write "logging: [", .get, .write "logging: 5",
      .settings, .files (·.uninstall Configuration.path),
      .environment (Variables.set "THEMEKIT_LOG_LEVEL" "debug")]
    let w := ConfigurationEvent.performAll {} events
    let shown (x : Except Failure Value.Mapping) := x.map fun m => (Value.mapping m).plain
    shown (Run.configuration.result (ConfigurationEvent.performAll {} (events.take 2))).1 =
      .error (.configuration (.malformed [])) ∧
    shown (Run.configuration.result w).1 = .ok "\x7b'logging': 5\x7d" ∧
    shown (Run.reloadConfiguration.result w).1 =
      .ok "\x7b'logging': \x7b'level': 'debug'\x7d\x7d" := by
  intro events w shown
  have hempty : ({} : World).configuration = none := rfl
  obtain ⟨-, hfailed, -⟩ := configuration_after_events hempty (events.take 2)
  obtain ⟨-, hkept, -, hreload, -⟩ := configuration_after_events hempty events
  refine ⟨?_, ?_, ?_⟩
  · rw [hfailed]
    decide +kernel
  · rw [hkept]
    decide +kernel
  · rw [hreload]
    decide +kernel

end ThemeForge
