import GrammarKit.Input
import GrammarKit.Proofs.Env
import GrammarKit.Proofs.Leaves
/-!
# Settings hold up

Settings change by writes. A write puts a value of the right kind and among the accepted texts at a
path (`Settings.Write`), whether a setting is set or a document is laid over the settings, and a
setting that was there before keeps its kind and its list. So the settings that come of the standard
ones by any number of writes are fit to be read by parsers and evaluators (`Settings.Fit`).
-/

namespace GrammarKit

/-- Whether a setting holds a value of its kind that it accepts. -/
structure Setting.Sound (setting : Setting) : Prop where
  /-- The value is of the kind of the setting. -/
  typed : setting.value.kind = setting.kind
  /-- The value is accepted, unless any value is. -/
  accepted : setting.accepted ≠ [] → setting.value.text ∈ setting.accepted

/-- Whether a setting is of the same kind as another and accepts the same. -/
structure Setting.Alike (setting other : Setting) : Prop where
  /-- The kinds are the same. -/
  kind : setting.kind = other.kind
  /-- The accepted texts are the same. -/
  accepted : setting.accepted = other.accepted

namespace Settings

/-- Whether all settings are sound. -/
def Sound (settings : Settings) : Prop := ∀ entry ∈ settings.entries, entry.2.Sound

/-- Whether every setting is still there, of the same kind and with the same accepted texts. -/
def Keeps (before after : Settings) : Prop :=
  ∀ path setting, before.find? path = some setting →
    ∃ later, after.find? path = some later ∧ setting.Alike later

/-- Whether settings are sound and have the standard ones among them. -/
structure Fit (settings : Settings) : Prop where
  /-- All settings are sound. -/
  sound : settings.Sound
  /-- The standard settings are there, of the same kinds and with the same accepted texts. -/
  stocked : standard.Keeps settings

/-- Writing a value at a path of settings. -/
inductive Write (before : Settings) (path : String) (value : SettingValue) : Settings → Prop where
  /-- A sound setting with the value is put there, alike to the one that was there before. -/
  | put {setting : Setting} (held : setting.value = value) (sound : setting.Sound)
    (like : ∀ old, before.find? path = some old → old.Alike setting) :
    Write before path value (before.put path setting)

/-! ## Putting a setting at a path -/

/-- The setting that was put at a path is there, and the other paths are as before. -/
theorem find?_put (settings : Settings) (path other : String) (setting : Setting) :
    (settings.put path setting).find? other =
      if other = path then some setting else settings.find? other := by
  obtain ⟨entries⟩ := settings
  change (insertInto path setting entries).lookup other =
    if other = path then some setting else entries.lookup other
  induction entries with
  | nil => exact lookup_cons_eq_ite ..
  | cons entry others ih =>
    obtain ⟨path', setting'⟩ := entry
    rw [insertInto]
    by_cases same : path = path'
    · subst same
      rw [if_pos rfl, lookup_cons_eq_ite, lookup_cons_eq_ite]
      split <;> rfl
    · rw [if_neg same]
      split
      · exact lookup_cons_eq_ite ..
      · rw [lookup_cons_eq_ite, lookup_cons_eq_ite, ih]
        -- Only one of the two paths can be the one that is looked for.
        by_cases there : other = path
        · rw [if_neg (there ▸ same), if_pos there, if_pos there]
        · rw [if_neg there, if_neg there]

/-- Settings are put in their places as entries of documents are. -/
theorem entries_put (settings : Settings) (path : String) (setting : Setting) :
    (settings.put path setting).entries =
      Document.insertEntry compare (path, setting) settings.entries := by
  obtain ⟨entries⟩ := settings
  change insertInto path setting entries = _
  induction entries with
  | nil => rfl
  | cons first others ih =>
    obtain ⟨path', setting'⟩ := first
    rw [insertInto, Document.insertEntry, ih]
    dsimp only
    by_cases same : path = path'
    · have compared : compare path path' = .eq := Std.compare_eq_iff_eq.mpr same
      rw [if_pos same, compared]
    · by_cases before : path < path'
      · have compared : compare path path' = .lt := compareOfLessAndEq_eq_lt.mpr before
        rw [if_neg same, if_pos before, compared]
      · have after : path' < path := Std.lt_of_le_of_ne (String.not_lt.mp before) (Ne.symm same)
        have flipped : compare path' path = .lt := compareOfLessAndEq_eq_lt.mpr after
        have compared : compare path path' = .gt := Std.OrientedCmp.gt_of_lt flipped
        rw [if_neg same, if_neg before, compared]

variable {settings before after : Settings} {path : String} {value : SettingValue}

/-- A setting of sound settings is sound. -/
theorem Sound.of_find? (sound : settings.Sound) {setting : Setting}
    (found : settings.find? path = some setting) : setting.Sound :=
  sound _ (mem_of_lookup found)

/-- Settings keep themselves. -/
theorem Keeps.refl (settings : Settings) : settings.Keeps settings :=
  fun _ setting found => ⟨setting, found, rfl, rfl⟩

/-- What is kept twice over is kept. -/
theorem Keeps.trans {middle : Settings} (first : before.Keeps middle)
    (second : middle.Keeps after) : before.Keeps after := by
  intro path setting found
  obtain ⟨later, there, like⟩ := first path setting found
  obtain ⟨last, still, same⟩ := second path later there
  exact ⟨last, still, like.kind.trans same.kind, like.accepted.trans same.accepted⟩

/-! ## Writes -/

namespace Write

/-- A write leaves sound settings sound. -/
theorem sound (write : before.Write path value after) (sound : before.Sound) : after.Sound := by
  obtain @⟨setting, -, fits, -⟩ := write
  intro entry member
  rw [entries_put] at member
  obtain rfl | old := Document.eq_or_mem_of_mem_insertEntry member
  · exact fits
  · exact sound entry old

/-- A write keeps every setting. -/
theorem keeps (write : before.Write path value after) : before.Keeps after := by
  obtain @⟨setting, -, -, like⟩ := write
  intro other old found
  rw [find?_put]
  by_cases there : other = path
  · subst there
    exact ⟨setting, if_pos rfl, like old found⟩
  · exact ⟨old, (if_neg there).trans found, rfl, rfl⟩

/-- A write leaves the other paths as they are. -/
theorem find?_eq (write : before.Write path value after) {other : String} (away : other ≠ path) :
    after.find? other = before.find? other := by
  obtain @⟨setting, -⟩ := write
  rw [find?_put, if_neg away]

end Write

/-- A result whose error is renamed is what it was. -/
theorem eq_ok_of_mapError {ε ε' α : Type} {rename : ε → ε'} {result : Except ε α} {value : α}
    (given : result.mapError rename = .ok value) : result = .ok value := by
  cases result with
  | error problem => cases given
  | ok found =>
    cases given
    rfl

/-- An update that succeeds finds a setting that can hold the value, and puts it there with it. -/
theorem exists_of_update (updated : settings.update path value = .ok after) :
    ∃ setting, settings.find? path = some setting ∧ ({ setting with value } : Setting).Sound ∧
      after = settings.put path { setting with value } := by
  unfold update at updated
  split at updated
  · cases updated
  · next setting found =>
    split at updated
    · cases updated
    · next typed =>
      split at updated
      · cases updated
      · next accepted =>
        cases updated
        have fits : ({ setting with value } : Setting).Sound :=
          ⟨Decidable.not_not.mp typed, fun listed =>
            Decidable.not_not.mp fun missing => accepted ⟨listed, missing⟩⟩
        exact ⟨setting, found, fits, rfl⟩

/-- An update that succeeds is a write. -/
theorem write_of_update (updated : settings.update path value = .ok after) :
    settings.Write path value after := by
  obtain ⟨setting, found, fits, rfl⟩ := exists_of_update updated
  refine .put rfl fits ?_
  intro old there
  obtain rfl : setting = old := Option.some.inj (found.symm.trans there)
  exact ⟨rfl, rfl⟩

/-- Setting a setting is a write when it succeeds. -/
theorem write_of_set (changed : settings.set path value = .ok after) :
    settings.Write path value after := by
  unfold set at changed
  split at changed
  · next missing =>
    cases changed
    have fits : (Setting.of value []).Sound := ⟨rfl, fun listed => absurd rfl listed⟩
    refine .put rfl fits ?_
    intro old there
    exact nomatch missing.symm.trans there
  · exact write_of_update (eq_ok_of_mapError changed)

/-- Updating with a host value is a write when it succeeds. -/
theorem exists_write_of_updateWith {host : Host}
    (updated : settings.updateWith path host = .ok after) :
    ∃ value, settings.Write path value after := by
  unfold updateWith at updated
  split at updated
  · exact ⟨_, write_of_update updated⟩
  · cases updated

/-- What every write preserves, a document laid over settings preserves. -/
theorem overlay_invariant {holds : Settings → Prop}
    (step : ∀ {before path value after}, before.Write path value after → holds before → holds after)
    {document : Document} (laid : settings.overlay document = .ok after)
    (start : holds settings) : holds after := by
  rw [overlay_eq_updateAll] at laid
  generalize document.places = places at laid
  induction places generalizing settings with
  | nil =>
    cases laid
    exact start
  | cons place places ih =>
    rw [updateAll, List.foldlM_cons] at laid
    cases updated : settings.updateWith place.1 place.2 with
    | error problem =>
      rw [updated] at laid
      cases laid
    | ok next =>
      rw [updated] at laid
      obtain ⟨value, write⟩ := exists_write_of_updateWith updated
      exact ih (step write start) laid

/-- A document laid over settings keeps every setting. -/
theorem keeps_overlay {document : Document} (laid : settings.overlay document = .ok after) :
    settings.Keeps after :=
  overlay_invariant (fun write kept => kept.trans write.keeps) laid (.refl settings)

/-! ## Reading -/

/-- Whether the getter for values of its kind gives a value. -/
def Reads (settings : Settings) (path : String) : SettingValue → Prop
  | .flag truth => settings.getFlag path = .ok truth
  | .number amount => settings.getNumber path = .ok amount
  | .word content => settings.getWord path = .ok content

/-- The getter for its kind gives the value of a sound setting. -/
theorem reads_of_sound {setting : Setting} (found : settings.find? path = some setting)
    (sound : setting.Sound) : settings.Reads path setting.value := by
  have there : settings.get setting.value.kind path = .ok setting.value := by
    rw [get, found]
    dsimp only
    rw [if_neg (not_not_intro sound.typed.symm), if_neg (not_not_intro rfl)]
  generalize setting.value = value at there ⊢
  cases value with
  | flag truth =>
    rw [Reads, getFlag, ← SettingValue.kind, there]
    rfl
  | number amount =>
    rw [Reads, getNumber, ← SettingValue.kind, there]
    rfl
  | word content =>
    rw [Reads, getWord, ← SettingValue.kind, there]
    rfl

/-- What was written is what the getter for its kind gives. -/
theorem Write.reads (write : before.Write path value after) : after.Reads path value := by
  obtain @⟨setting, rfl, fits, -⟩ := write
  exact reads_of_sound ((find?_put ..).trans (if_pos rfl)) fits

namespace Fit

/-- The standard settings are fit. -/
theorem standard : Settings.standard.Fit where
  stocked := .refl _
  sound := by
    simp only [Sound, Settings.standard, List.forall_mem_cons]
    exact ⟨⟨rfl, fun _ => .head _⟩, ⟨rfl, nofun⟩, ⟨rfl, nofun⟩, ⟨rfl, nofun⟩, nofun⟩

/-- Writes leave fit settings fit. -/
theorem write (fit : before.Fit) (write : before.Write path value after) : after.Fit :=
  ⟨write.sound fit.sound, fit.stocked.trans write.keeps⟩

/-- A standard setting has a value of its kind in fit settings, which the getter for it gives. -/
theorem exists_reads (fit : settings.Fit) {first : Setting}
    (there : Settings.standard.find? path = some first) :
    ∃ value, value.kind = first.kind ∧ settings.Reads path value := by
  obtain ⟨setting, found, like⟩ := fit.stocked path first there
  have sound := fit.sound.of_find? found
  exact ⟨setting.value, sound.typed.trans like.kind.symm, reads_of_sound found sound⟩

/-- The getter for truth values gives one at a path where there is a standard one. -/
theorem exists_getFlag (fit : settings.Fit) (path : String) {first : Setting}
    (there : Settings.standard.find? path = some first) (flag : first.kind = .flag) :
    ∃ truth, settings.getFlag path = .ok truth := by
  obtain ⟨value, typed, read⟩ := fit.exists_reads there
  rw [flag] at typed
  cases value with
  | flag truth => exact ⟨truth, read⟩
  | _ => cases typed

/-- The getter for integers gives one at a path where there is a standard one. -/
theorem exists_getNumber (fit : settings.Fit) (path : String) {first : Setting}
    (there : Settings.standard.find? path = some first) (number : first.kind = .number) :
    ∃ amount, settings.getNumber path = .ok amount := by
  obtain ⟨value, typed, read⟩ := fit.exists_reads there
  rw [number] at typed
  cases value with
  | number amount => exact ⟨amount, read⟩
  | _ => cases typed

/-- The getter for texts gives one at a path where there is a standard one. -/
theorem exists_getWord (fit : settings.Fit) (path : String) {first : Setting}
    (there : Settings.standard.find? path = some first) (word : first.kind = .word) :
    ∃ content, settings.getWord path = .ok content := by
  obtain ⟨value, typed, read⟩ := fit.exists_reads there
  rw [word] at typed
  cases value with
  | word content => exact ⟨content, read⟩
  | _ => cases typed

/-- Parsers can read the settings they need. -/
theorem exists_ofSettings (fit : settings.Fit) (catalog : Catalog) :
    ∃ surroundings, Surroundings.ofSettings settings catalog = .ok surroundings := by
  obtain ⟨policy, named⟩ := fit.exists_getWord errorPolicyPath rfl rfl
  obtain ⟨trace, switched⟩ := fit.exists_getFlag parserTracePath rfl rfl
  refine ⟨⟨.ofWord policy, trace, catalog⟩, ?_⟩
  rw [Surroundings.ofSettings, named, switched]
  rfl

end Fit

end Settings

end GrammarKit
