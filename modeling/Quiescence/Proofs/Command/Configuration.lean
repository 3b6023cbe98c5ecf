import Quiescence.Command.Run
import Quiescence.Proofs.Settings.Validity

/-! # The settings of a replay

A replay is run with valid settings only, and with all of them. Its settings come from a file, which
must be valid by itself, or are the defaults; with the time limit of the request they are judged
again.
-/

namespace Quiescence.Command

/-- What the settings of a replay start from: what its file holds, or the defaults if there is no
such file. -/
def StartsFrom (r : ReplayRequest) (s : Surroundings) (base : Settings) : Prop :=
  if (s.stored r.config).isThere then Settings.ofFile (s.stored r.config) = .ok base
  else base = {}

/-- A replay gets the settings it starts from, with the time limit of the request, if they are valid
then. If not, it fails with their first flaw. If there is nothing to start from because the file is
bad, it fails whatever the request says, and the settings are not used. -/
structure Configured (r : ReplayRequest) (s : Surroundings) : Prop where
  accepted : ∀ settings, settingsFor r s = .ok settings ↔
    settings.Valid ∧ ∃ base, StartsFrom r s base ∧ settings = base.overridden r.limit
  flawed : ∀ flaw, settingsFor r s = .error (.flawedLimit flaw) ↔
    ∃ base, StartsFrom r s base ∧ (base.overridden r.limit).FirstFlaw flaw
  refused : ∀ file, settingsFor r s = .error (.badSettings file) ↔
    file = r.config ∧ (s.stored r.config).isThere ∧
      ∃ failure, Settings.ofFile (s.stored r.config) = .error failure
  unused : ∀ style failure, settingsFor r s = .error failure →
    run style s (.replay r) = .failed false failure
  used : ∀ style settings script, settingsFor r s = .ok settings →
    LogFilter.unusable? s.logFilter settings.logging.level = none →
    Script.ofFile (s.stored r.script) = .ok script →
    (run style s (.replay r)).output =
      (Replay.run s.stamp script settings ⟨!r.noWait, r.forceClose⟩).elim "" (printed style r.json)

variable {r : ReplayRequest} {s : Surroundings} {base settings : Settings}

theorem StartsFrom.valid (starts : StartsFrom r s base) : base.Valid := by
  unfold StartsFrom at starts
  split at starts
  case isTrue => exact ((Settings.screened_ofFile _).accepted base |>.mp starts).2
  case isFalse =>
    subst starts
    exact Settings.flaw?_eq_none_iff.mp rfl

theorem StartsFrom.unique {other : Settings} (starts : StartsFrom r s base)
    (starts' : StartsFrom r s other) : base = other := by
  unfold StartsFrom at starts starts'
  split at starts
  case isTrue there =>
    rw [if_pos there, starts] at starts'
    exact Except.ok.inj starts'
  case isFalse missing => rw [starts, if_neg missing |>.mp starts']

/-- The settings it starts from are judged with the limit of the request. -/
theorem StartsFrom.settingsFor_eq (starts : StartsFrom r s base) :
    settingsFor r s = (base.overridden r.limit).flawless.mapError .flawedLimit := by
  rw [← Settings.relimit_eq_flawless starts.valid, settingsFor]
  unfold StartsFrom at starts
  split at starts
  case isTrue there => simp only [there, starts]; rfl
  case isFalse missing => simp only [missing, starts]; rfl

theorem settingsFor_of_refused {failure : Settings.Failure} (there : (s.stored r.config).isThere)
    (refused : Settings.ofFile (s.stored r.config) = .error failure) :
    settingsFor r s = .error (.badSettings r.config) := by
  simp only [settingsFor, there, refused]
  rfl

/-- There is something to start from, unless the file is bad. -/
theorem startsFrom_or_refused (r : ReplayRequest) (s : Surroundings) :
    (∃ base, StartsFrom r s base) ∨ ((s.stored r.config).isThere ∧
      ∃ failure, Settings.ofFile (s.stored r.config) = .error failure) := by
  by_cases there : (s.stored r.config).isThere
  · cases read : Settings.ofFile (s.stored r.config) with
    | ok base => exact .inl ⟨base, by rw [StartsFrom, if_pos there, read]⟩
    | error failure => exact .inr ⟨there, failure, rfl⟩
  · exact .inl ⟨{}, by rw [StartsFrom, if_neg there]⟩

theorem not_startsFrom_of_refused {failure : Settings.Failure}
    (there : (s.stored r.config).isThere)
    (refused : Settings.ofFile (s.stored r.config) = .error failure) : ¬ StartsFrom r s base := by
  rw [StartsFrom, if_pos there, refused]
  simp

theorem configured (r : ReplayRequest) (s : Surroundings) : Configured r s where
  accepted settings := by
    rcases startsFrom_or_refused r s with ⟨base, starts⟩ | ⟨there, failure, refused⟩
    · rw [starts.settingsFor_eq, Except.mapError_eq_ok_iff, Settings.flawless_eq_ok_iff]
      constructor
      · rintro ⟨rfl, valid⟩
        exact ⟨valid, base, starts, rfl⟩
      · rintro ⟨valid, other, starts', rfl⟩
        cases starts.unique starts'
        exact ⟨rfl, valid⟩
    · simp [settingsFor_of_refused there refused, not_startsFrom_of_refused there refused]
  flawed flaw := by
    rcases startsFrom_or_refused r s with ⟨base, starts⟩ | ⟨there, failure, refused⟩
    · rw [starts.settingsFor_eq, Except.mapError_eq_error_iff]
      simp only [Settings.flawless_eq_error_iff, Failure.flawedLimit.injEq]
      constructor
      · rintro ⟨_, first, rfl⟩
        exact ⟨base, starts, first⟩
      · rintro ⟨other, starts', first⟩
        cases starts.unique starts'
        exact ⟨flaw, first, rfl⟩
    · simp [settingsFor_of_refused there refused, not_startsFrom_of_refused there refused]
  refused file := by
    rcases startsFrom_or_refused r s with ⟨base, starts⟩ | ⟨there, failure, refused⟩
    · have read : (s.stored r.config).isThere →
          ∀ failure, Settings.ofFile (s.stored r.config) ≠ .error failure :=
        fun there failure refused => not_startsFrom_of_refused there refused starts
      rw [starts.settingsFor_eq, Except.mapError_eq_error_iff]
      simpa using fun _ there => read there
    · simp [settingsFor_of_refused there refused, there, refused, eq_comm]
  unused style failure failed := by simp only [run, replay, failed]
  used style settings script given logged parsed := by
    simp only [run, replay, given, logged, parsed]
    cases Replay.run s.stamp script settings ⟨!r.noWait, r.forceClose⟩ <;> rfl

/-- Whatever settings are read from, and whichever time limit replaces theirs, they get through
exactly if they are valid, with their own values. If not, the first flaw is reported. A file that a
replay cannot use is not saved by the limit of the request. -/
theorem only_valid_settings_get_through :
    (∀ text, Settings.Screened (Settings.decoded none (Toml.decode Settings.decoder text))
      (Settings.ofToml text)) ∧
    (∀ file, Settings.Screened (Settings.stored file) (Settings.ofFile file)) ∧
    (∀ limit text, Settings.Screened (Settings.decoded limit (Json.decode Settings.decoder text))
      (Settings.ofJson limit text)) ∧
    ∀ r s, Configured r s :=
  ⟨fun _ => Settings.screened_ofDecoded none _, Settings.screened_ofFile,
    fun limit _ => Settings.screened_ofDecoded limit _, configured⟩

/-- A limit does not make up for a file with a limit of zero, and it is not zero itself. -/
example :
    let s (text : String) : Surroundings :=
      ⟨fun name => .file (if name = "settings" then text else "events = []").toUTF8, none,
        fun _ => .epoch, fun _ => ""⟩
    let r (ms : Nat) : ReplayRequest := ⟨"script", "settings", some ms, false, false, false⟩
    let failure (text : String) (ms : Nat) : Option Failure :=
      (run .standard (s text) (.replay (r ms))).failure
    failure "barrier = [0]" 5 = some (.badSettings "settings") ∧
      failure "barrier = [5]" 0 = some (.flawedLimit .zeroLimit) ∧ failure "" 5 = none := by
  intro s r failure
  decide +kernel

end Quiescence.Command
