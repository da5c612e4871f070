import GrammarKit.Proofs.Settings
/-!
# Documents laid over settings

Updating a setting changes its value and nothing else, so whether a value fits does not depend on
what was written before (`Settings.Alike`). A document therefore goes through exactly when each of
its leaves fits the settings there were at first, and otherwise the first leaf that does not is the
problem. What a document writes is at each path the value of its last leaf there
(`Settings.Written`). Since settings are in the order of their paths (`Settings.Ordered`), this
determines the settings afterwards: laying the document over them once more changes nothing, and
neither does nesting its leaves in another way, when no two of them are at one path. Nor does it
matter how wide its integers are declared to be (`Host.narrowed`).
-/

namespace GrammarKit

/-- The path that a problem is about. -/
def SettingProblem.path : SettingProblem → String
  | .unknown path | .kindMismatch path .. | .notAccepted path .. | .unsupported path _ => path

namespace Host

mutual

/-- A host value with plain integers in place of wide ones, also inside mappings from texts. -/
def narrowed : Host → Host
  | .record entries => .record (narrowedEntries entries)
  | .wide number => .int number
  | host => host
termination_by structural host => host

/-- The entries of a mapping with plain integers in place of wide ones. -/
def narrowedEntries : List (String × Host) → List (String × Host)
  | [] => []
  | (key, item) :: others => (key, item.narrowed) :: narrowedEntries others
termination_by structural entries => entries

end

end Host

/-- A setting takes a value from just those host values that are the host value of it, integers of
either width being the same. -/
theorem SettingValue.ofHost?_eq_some_iff {host : Host} {value : SettingValue} :
    SettingValue.ofHost? host = some value ↔ host.narrowed = value.toHost := by
  cases host <;> cases value <;> simp [ofHost?, Host.narrowed, toHost]

/-- Different values have different host values. -/
theorem SettingValue.toHost_injective : Function.Injective SettingValue.toHost := by
  intro value value' same
  cases value <;> cases value' <;> simp_all [toHost]

namespace Settings

variable {settings other before after : Settings} {place : String × Host}
  {places places' : List (String × Host)} {value : SettingValue} {setting : Setting}

/-! ## What fits -/

/-- Whether the host value of a place is a value that the setting at its path takes. -/
structure Takes (settings : Settings) (place : String × Host) (value : SettingValue)
    (setting : Setting) : Prop where
  /-- The host value is that of the value; an integer may be plain or wide. -/
  given : place.2.narrowed = value.toHost
  /-- The setting is there. -/
  found : settings.find? place.1 = some setting
  /-- The value is of the kind of the setting. -/
  typed : value.kind = setting.kind
  /-- The value is accepted, unless any value is. -/
  accepted : setting.accepted ≠ [] → value.text ∈ setting.accepted

/-- Whether the host value of a place fits the setting at its path. -/
def Fits (settings : Settings) (place : String × Host) : Prop :=
  ∃ value setting, settings.Takes place value setting

/-- A value that a setting takes is written into it. -/
theorem Takes.updateWith (takes : settings.Takes place value setting) :
    settings.updateWith place.1 place.2 = .ok (settings.put place.1 { setting with value }) := by
  obtain ⟨given, found, typed, accepted⟩ := takes
  have refused : ¬ (setting.accepted ≠ [] ∧ value.text ∉ setting.accepted) :=
    fun both => both.2 (accepted both.1)
  unfold Settings.updateWith update
  rw [SettingValue.ofHost?_eq_some_iff.mpr given, found]
  dsimp only
  rw [if_neg (not_not_intro typed), if_neg refused]

/-- What is written at a place fits there. -/
theorem fits_of_updateWith (updated : settings.updateWith place.1 place.2 = .ok after) :
    settings.Fits place := by
  unfold Settings.updateWith at updated
  split at updated
  · next value given =>
    obtain ⟨setting, found, sound, -⟩ := exists_of_update updated
    have given := SettingValue.ofHost?_eq_some_iff.mp given
    exact ⟨value, setting, given, found, sound.typed, sound.accepted⟩
  · cases updated

/-- A problem with a place is about its path. -/
theorem path_of_updateWith {problem : SettingProblem}
    (refused : settings.updateWith place.1 place.2 = .error problem) : problem.path = place.1 := by
  unfold Settings.updateWith update at refused
  split at refused
  · split at refused
    · cases refused
      rfl
    · split at refused
      · cases refused
        rfl
      · split at refused
        · cases refused
          rfl
        · cases refused
  · cases refused
    rfl

/-- What does not fit is a problem. -/
theorem exists_problem_of_not_fits (misfit : ¬ settings.Fits place) :
    ∃ problem, settings.updateWith place.1 place.2 = .error problem := by
  cases updated : settings.updateWith place.1 place.2 with
  | error problem => exact ⟨problem, rfl⟩
  | ok after => exact absurd (fits_of_updateWith updated) misfit

/-! ## What updates keep -/

/-- Whether settings have the same paths as others, with settings of the same kinds and with the
same accepted texts. -/
def Alike (settings other : Settings) : Prop :=
  ∀ path, Option.Rel Setting.Alike (settings.find? path) (other.find? path)

/-- Settings are alike to themselves. -/
theorem Alike.refl (settings : Settings) : settings.Alike settings := by
  intro path
  cases settings.find? path with
  | none => exact .none
  | some setting => exact .some ⟨rfl, rfl⟩

/-- Being alike goes both ways. -/
theorem Alike.symm (alike : settings.Alike other) : other.Alike settings := by
  intro path
  have like := alike path
  generalize settings.find? path = found, other.find? path = found' at like ⊢
  cases like with
  | none => exact .none
  | some like => exact .some ⟨like.kind.symm, like.accepted.symm⟩

/-- Settings that are alike take the same values, and have the same settings once these are
written. -/
theorem Alike.takes (alike : settings.Alike other) (takes : other.Takes place value setting) :
    ∃ old, settings.Takes place value old ∧
      ({ old with value } : Setting) = { setting with value } := by
  obtain ⟨given, found, typed, accepted⟩ := takes
  have there := alike place.1
  rw [found] at there
  cases here : settings.find? place.1 with
  | none =>
    rw [here] at there
    cases there
  | some old =>
    rw [here] at there
    cases there with
    | some like =>
      obtain ⟨kinds, lists⟩ := like
      refine ⟨old, ⟨given, here, typed.trans kinds.symm, ?_⟩, ?_⟩
      · rwa [lists]
      · rw [Setting.mk.injEq]
        exact ⟨kinds, rfl, lists⟩

/-- What fits settings fits those that are alike. -/
theorem Alike.fits (alike : settings.Alike other) (fits : other.Fits place) :
    settings.Fits place := by
  obtain ⟨value, setting, takes⟩ := fits
  obtain ⟨old, takes', -⟩ := alike.takes takes
  exact ⟨value, old, takes'⟩

/-- Settings that are alike have the same problems. -/
theorem Alike.updateWith_error (alike : settings.Alike other) {path : String} {host : Host}
    {problem : SettingProblem} (refused : settings.updateWith path host = .error problem) :
    other.updateWith path host = .error problem := by
  have there := alike path
  unfold Settings.updateWith update at refused ⊢
  cases given : SettingValue.ofHost? host with
  | none =>
    rw [given] at refused
    exact refused
  | some value =>
    rw [given] at refused
    dsimp only at refused ⊢
    generalize settings.find? path = found, other.find? path = found' at there refused ⊢
    cases there with
    | none => exact refused
    | some like =>
      dsimp only at refused ⊢
      rw [← like.kind, ← like.accepted]
      split at refused
      · next typed => rwa [if_pos typed]
      · next typed =>
        split at refused
        · next unlisted => rwa [if_neg typed, if_pos unlisted]
        · cases refused

/-! ## What is written -/

/-- Whether settings are others with the values of places written into them, at each path that of
the last place there. -/
structure Written (before : Settings) (places : List (String × Host)) (after : Settings) :
    Prop where
  /-- At a path of none of the places nothing changes. -/
  untouched : ∀ path, (∀ place ∈ places, place.1 ≠ path) → after.find? path = before.find? path
  /-- The setting at the path of a place takes its value, if there is no later place there. -/
  last : ∀ {earlier place later}, places = earlier ++ place :: later →
    (∀ other ∈ later, other.1 ≠ place.1) →
    ∃ value setting, before.Takes place value setting ∧
      after.find? place.1 = some { setting with value }

/-- A path is that of no place, or there is a last place at it. -/
theorem untouched_or_last (path : String) (places : List (String × Host)) :
    (∀ place ∈ places, place.1 ≠ path) ∨
      ∃ earlier place later, places = earlier ++ place :: later ∧ place.1 = path ∧
        ∀ other ∈ later, other.1 ≠ path := by
  induction places with
  | nil => exact .inl nofun
  | cons first places ih =>
    obtain none | ⟨earlier, place, later, rfl, here, behind⟩ := ih
    · by_cases same : first.1 = path
      · exact .inr ⟨[], first, places, rfl, same, none⟩
      · exact .inl (List.forall_mem_cons.mpr ⟨same, none⟩)
    · exact .inr ⟨first :: earlier, place, later, rfl, here, behind⟩

namespace Written

/-- Writing nothing changes nothing. -/
theorem nil (settings : Settings) : settings.Written [] settings where
  untouched _ _ := rfl
  last split := by simp at split

/-- Writing keeps paths, kinds and accepted texts. -/
theorem alike (written : before.Written places after) : before.Alike after := by
  intro path
  obtain none | ⟨earlier, place, later, split, rfl, behind⟩ := untouched_or_last path places
  · rw [written.untouched path none]
    exact Alike.refl before path
  · obtain ⟨value, setting, takes, found⟩ := written.last split behind
    rw [takes.found, found]
    exact .some ⟨rfl, rfl⟩

/-- What is written at one place. -/
theorem single (takes : settings.Takes place value setting) :
    settings.Written [place] (settings.put place.1 { setting with value }) where
  untouched path away := by
    rw [find?_put, if_neg fun same => away place (.head _) same.symm]
  last {earlier other later} split behind := by
    obtain rfl : place = other := by
      have member : other ∈ [place] := split ▸ by simp
      exact (List.mem_singleton.mp member).symm
    exact ⟨value, setting, takes, (find?_put ..).trans (if_pos rfl)⟩

/-- What is written at one place after others. -/
theorem cons {middle : Settings} (first : before.Written [place] middle)
    (rest : middle.Written places after) : before.Written (place :: places) after where
  untouched path away := by
    obtain ⟨here, later⟩ := List.forall_mem_cons.mp away
    rw [rest.untouched path later]
    exact first.untouched path (List.forall_mem_singleton.mpr here)
  last {earlier other later} split behind := by
    cases earlier with
    | nil =>
      obtain ⟨rfl, rfl⟩ := List.cons.inj split
      have alone : [place] = [] ++ place :: [] := rfl
      have none : ∀ other ∈ ([] : List (String × Host)), other.1 ≠ place.1 := nofun
      obtain ⟨value, setting, takes, found⟩ := first.last alone none
      exact ⟨value, setting, takes, (rest.untouched place.1 behind).trans found⟩
    | cons _ earlier =>
      obtain ⟨value, setting, takes, found⟩ := rest.last (List.cons.inj split).2 behind
      obtain ⟨old, takes', same⟩ := first.alike.takes takes
      exact ⟨value, old, takes', same ▸ found⟩

/-- Once the places are written, writing them again leaves the same. -/
theorem again (written : before.Written places after) : after.Written places after where
  untouched _ _ := rfl
  last split behind := by
    obtain ⟨value, setting, takes, found⟩ := written.last split behind
    exact ⟨value, { setting with value }, ⟨takes.given, found, takes.typed, takes.accepted⟩, found⟩

/-- Where no two places are at one path their order does not matter. -/
theorem perm (written : before.Written places after) (same : places.Perm places')
    (distinct : (places.map Prod.fst).Nodup) : before.Written places' after where
  untouched path away :=
    written.untouched path fun place member => away place (same.mem_iff.mp member)
  last {earlier place later} split behind := by
    have member : place ∈ places := same.mem_iff.mpr (split ▸ by simp)
    obtain ⟨front, back, rfl⟩ := List.append_of_mem member
    refine written.last rfl ?_
    intro other behind' equal
    rw [List.map_append, List.map_cons, List.nodup_append] at distinct
    have alone := (List.nodup_cons.mp distinct.2.1).1
    exact alone (equal ▸ List.mem_map_of_mem behind')

/-- What is written determines every setting afterwards. -/
theorem find?_eq (written : before.Written places after) (written' : before.Written places other)
    (path : String) : after.find? path = other.find? path := by
  obtain none | ⟨earlier, place, later, split, rfl, behind⟩ := untouched_or_last path places
  · rw [written.untouched path none, written'.untouched path none]
  · obtain ⟨value, setting, takes, found⟩ := written.last split behind
    obtain ⟨value', setting', takes', found'⟩ := written'.last split behind
    obtain rfl := SettingValue.toHost_injective (takes.given.symm.trans takes'.given)
    obtain rfl : setting = setting' := Option.some.inj (takes.found.symm.trans takes'.found)
    rw [found, found']

end Written

/-! ## Running through a document -/

/-- Places that all fit are written one after the other. -/
theorem updateAll_of_fits (fits : ∀ place ∈ places, settings.Fits place) :
    ∃ after, settings.updateAll places = .ok after ∧ settings.Written places after := by
  induction places generalizing settings with
  | nil => exact ⟨settings, rfl, .nil settings⟩
  | cons place places ih =>
    obtain ⟨⟨value, setting, takes⟩, others⟩ := List.forall_mem_cons.mp fits
    have first := Written.single takes
    -- The settings in between are alike to those at first, and so is what fits them.
    have fits' : ∀ other ∈ places, (settings.put place.1 { setting with value }).Fits other := by
      intro other member
      exact first.alike.symm.fits (others other member)
    obtain ⟨after, ran, rest⟩ := ih fits'
    refine ⟨after, ?_, first.cons rest⟩
    rw [updateAll, List.foldlM_cons, takes.updateWith]
    exact ran

/-- The first place that does not fit is the problem, as it would be without those before it. -/
theorem updateAll_of_misfit {earlier later : List (String × Host)}
    (fits : ∀ other ∈ earlier, settings.Fits other) {problem : SettingProblem}
    (refused : settings.updateWith place.1 place.2 = .error problem) :
    settings.updateAll (earlier ++ place :: later) = .error problem := by
  obtain ⟨middle, ran, written⟩ := updateAll_of_fits fits
  have refused' := written.alike.updateWith_error refused
  rw [updateAll] at ran
  rw [updateAll, List.foldlM_append, ran]
  change middle.updateAll (place :: later) = .error problem
  rw [updateAll, List.foldlM_cons, refused']
  rfl

/-- All places fit, or there is a first one that does not. -/
theorem fits_or_first_misfit (settings : Settings) (places : List (String × Host)) :
    (∀ place ∈ places, settings.Fits place) ∨
      ∃ earlier place later, places = earlier ++ place :: later ∧
        (∀ other ∈ earlier, settings.Fits other) ∧ ¬ settings.Fits place := by
  induction places with
  | nil => exact .inl nofun
  | cons first places ih =>
    by_cases fits : settings.Fits first
    · obtain all | ⟨earlier, place, later, rfl, before, misfit⟩ := ih
      · exact .inl (List.forall_mem_cons.mpr ⟨fits, all⟩)
      · exact .inr ⟨first :: earlier, place, later, rfl,
          List.forall_mem_cons.mpr ⟨fits, before⟩, misfit⟩
    · exact .inr ⟨[], first, places, rfl, nofun, fits⟩

/-- Places that go through all fit, and they are written. -/
theorem written_of_updateAll (ran : settings.updateAll places = .ok after) :
    (∀ place ∈ places, settings.Fits place) ∧ settings.Written places after := by
  obtain fits | ⟨earlier, place, later, rfl, before, misfit⟩ := fits_or_first_misfit settings places
  · obtain ⟨after', ran', written⟩ := updateAll_of_fits fits
    obtain rfl : after' = after := Except.ok.inj (ran'.symm.trans ran)
    exact ⟨fits, written⟩
  · obtain ⟨problem, refused⟩ := exists_problem_of_not_fits misfit
    rw [updateAll_of_misfit before refused] at ran
    cases ran

/-! ## Settings in the order of their paths -/

/-- Whether settings are in the order of their paths, each path once. -/
def Ordered (settings : Settings) : Prop :=
  settings.entries.Pairwise fun entry later => entry.1 < later.1

/-- Putting a setting in its place keeps the order. -/
theorem Ordered.put (ordered : settings.Ordered) (path : String) (setting : Setting) :
    (settings.put path setting).Ordered := by
  rw [Ordered, entries_put]
  exact Document.pairwise_insertEntry ordered

/-- Nothing is found at a path before all others. -/
theorem lookup_eq_none_of_lt {entries : List (String × Setting)} {path : String}
    (before : ∀ entry ∈ entries, path < entry.1) : entries.lookup path = none := by
  rw [List.lookup_eq_none_iff]
  intro entry member
  exact bne_iff_ne.mpr (String.ne_of_lt (before entry member))

/-- Settings in order are determined by what is found at each path. -/
theorem Ordered.eq_of_find?_eq (ordered : settings.Ordered) (ordered' : other.Ordered)
    (same : ∀ path, settings.find? path = other.find? path) : settings = other := by
  obtain ⟨entries⟩ := settings
  obtain ⟨entries'⟩ := other
  rw [Settings.mk.injEq]
  change ∀ path, entries.lookup path = entries'.lookup path at same
  change entries.Pairwise _ at ordered
  change entries'.Pairwise _ at ordered'
  induction entries generalizing entries' with
  | nil =>
    cases entries' with
    | nil => rfl
    | cons first' others' =>
      have found := same first'.1
      rw [lookup_cons_eq_ite, if_pos rfl] at found
      cases found
  | cons first others ih =>
    cases entries' with
    | nil =>
      have found := same first.1
      rw [lookup_cons_eq_ite, if_pos rfl] at found
      cases found
    | cons first' others' =>
      obtain ⟨path, setting⟩ := first
      obtain ⟨path', setting'⟩ := first'
      obtain ⟨front, behind⟩ := List.pairwise_cons.mp ordered
      obtain ⟨front', behind'⟩ := List.pairwise_cons.mp ordered'
      simp only [lookup_cons_eq_ite] at same
      have here := same path
      have there := same path'
      rw [if_pos rfl] at here there
      by_cases equal : path = path'
      · subst equal
        rw [if_pos rfl] at here
        obtain rfl : setting = setting' := Option.some.inj here
        have rest (wanted : String) : others.lookup wanted = others'.lookup wanted := by
          by_cases first : wanted = path
          · rw [first, lookup_eq_none_of_lt front, lookup_eq_none_of_lt front']
          · have found := same wanted
            rwa [if_neg first, if_neg first] at found
        rw [ih others' rest behind behind']
      · -- Each of the two first paths would be behind the other.
        rw [if_neg equal] at here
        rw [if_neg (Ne.symm equal)] at there
        have before : path' < path := front' _ (mem_of_lookup here.symm)
        exact absurd (front _ (mem_of_lookup there)) (String.lt_asymm before)

/-- The standard settings are in order. -/
theorem Ordered.standard : Settings.standard.Ordered := by
  change Settings.standard.entries.Pairwise _
  decide

/-- A write keeps the order. -/
theorem Ordered.write {path : String} (ordered : before.Ordered)
    (write : before.Write path value after) : after.Ordered := by
  obtain @⟨setting, -, -, -⟩ := write
  exact ordered.put path setting

/-! ## Documents -/

variable {document document' : Document}

/-- A document goes through just when all its leaves fit. -/
theorem exists_overlay_iff :
    (∃ after, settings.overlay document = .ok after) ↔
      ∀ place ∈ document.places, settings.Fits place := by
  rw [overlay_eq_updateAll]
  constructor
  · rintro ⟨after, ran⟩
    exact (written_of_updateAll ran).1
  · intro fits
    obtain ⟨after, ran, -⟩ := updateAll_of_fits fits
    exact ⟨after, ran⟩

/-- A document that goes through is written. -/
theorem written_of_overlay (laid : settings.overlay document = .ok after) :
    settings.Written document.places after := by
  rw [overlay_eq_updateAll] at laid
  exact (written_of_updateAll laid).2

/-- The problem with a document is the one with its first leaf that does not fit. -/
theorem exists_first_misfit {problem : SettingProblem}
    (refused : settings.overlay document = .error problem) :
    ∃ earlier place later, document.places = earlier ++ place :: later ∧
      (∀ other ∈ earlier, settings.Fits other) ∧ ¬ settings.Fits place ∧
      settings.updateWith place.1 place.2 = .error problem := by
  rw [overlay_eq_updateAll] at refused
  obtain fits | ⟨earlier, place, later, split, before, misfit⟩ :=
    fits_or_first_misfit settings document.places
  · obtain ⟨after, ran, -⟩ := updateAll_of_fits fits
    cases ran.symm.trans refused
  · obtain ⟨problem', refused'⟩ := exists_problem_of_not_fits misfit
    have ran : settings.updateAll (earlier ++ place :: later) = .error problem' :=
      updateAll_of_misfit before refused'
    rw [← split, refused] at ran
    obtain rfl : problem = problem' := Except.error.inj ran
    exact ⟨earlier, place, later, split, before, misfit, refused'⟩

/-- Laying a document over ordered settings leaves them in order. -/
theorem Ordered.overlay (ordered : settings.Ordered)
    (laid : settings.overlay document = .ok after) : after.Ordered :=
  overlay_invariant (fun write ordered => ordered.write write) laid ordered

/-- A document whose leaves fit ordered settings leaves those in which it is written. -/
theorem Ordered.overlay_eq_ok (ordered : before.Ordered) (ordered' : after.Ordered)
    (fits : ∀ place ∈ document.places, before.Fits place)
    (written : before.Written document.places after) : before.overlay document = .ok after := by
  obtain ⟨other, laid⟩ := exists_overlay_iff.mpr fits
  have same : other = after :=
    (ordered.overlay laid).eq_of_find?_eq ordered' ((written_of_overlay laid).find?_eq written)
  rw [laid, same]

/-- Laying a document over settings once more changes nothing. -/
theorem Ordered.overlay_again (ordered : settings.Ordered)
    (laid : settings.overlay document = .ok after) : after.overlay document = .ok after := by
  have written := written_of_overlay laid
  have fits : ∀ place ∈ document.places, after.Fits place := by
    intro place member
    exact written.alike.symm.fits (exists_overlay_iff.mp ⟨after, laid⟩ place member)
  have ordered' := ordered.overlay laid
  exact ordered'.overlay_eq_ok ordered' fits written.again

/-- Where no two leaves are at one path, nesting them in another way comes to the same. -/
theorem Ordered.overlay_of_perm (ordered : settings.Ordered)
    (same : document.places.Perm document'.places)
    (distinct : (document.places.map Prod.fst).Nodup)
    (laid : settings.overlay document = .ok after) : settings.overlay document' = .ok after := by
  have fits : ∀ place ∈ document'.places, settings.Fits place := by
    intro place member
    exact exists_overlay_iff.mp ⟨after, laid⟩ place (same.mem_iff.mpr member)
  exact ordered.overlay_eq_ok (ordered.overlay laid) fits
    ((written_of_overlay laid).perm same distinct)

end Settings

/-! ## Widths of integers -/

namespace Settings

mutual

/-- A host value comes to the same with plain integers in place of wide ones. -/
theorem overlayAt_narrowed (path : String) (host : Host) (settings : Settings) :
    overlayAt path host.narrowed settings = overlayAt path host settings := by
  cases host with
  | record entries => exact overlayBelow_narrowed path entries settings
  | _ => rfl
termination_by structural host

/-- The entries of a mapping come to the same with plain integers in place of wide ones. -/
theorem overlayBelow_narrowed (path : String) (entries : List (String × Host))
    (settings : Settings) :
    overlayBelow path (Host.narrowedEntries entries) settings =
      overlayBelow path entries settings := by
  cases entries with
  | nil => rfl
  | cons entry others =>
    obtain ⟨key, item⟩ := entry
    have later := overlayBelow_narrowed path others
    rw [Host.narrowedEntries, overlayBelow, overlayBelow, overlayAt_narrowed]
    exact bind_congr later
termination_by structural entries

end

/-- Documents that differ only in how wide their integers are declared come to the same. -/
theorem overlay_eq_of_narrowed {document document' : Document}
    (same : Host.narrowedEntries document.entries = Host.narrowedEntries document'.entries)
    (settings : Settings) : settings.overlay document = settings.overlay document' := by
  calc settings.overlay document
    _ = overlayBelow "" (Host.narrowedEntries document.entries) settings :=
      (overlayBelow_narrowed "" document.entries settings).symm
    _ = overlayBelow "" (Host.narrowedEntries document'.entries) settings := by rw [same]
    _ = settings.overlay document' := overlayBelow_narrowed "" document'.entries settings

end Settings

end GrammarKit
