import GrammarKit.Proofs.Run
import GrammarKit.Proofs.Settings
import GrammarKit.Session.Command
/-!
# Sessions about settings

Settings live in the slots of a workspace, where commands make, copy and change them. What a command
can do to a workspace is one of a few changes (`SettingsCommand.Change`): nothing at all when it
fails, and otherwise settings in a new slot or a write to those in the slot of a name. From this
follows what no command undoes, and by induction what holds after any number of them
(`reliable_afterAll`): all settings can be read as what they are, and inputs and evaluators can be
made with them.
-/

namespace GrammarKit.Session

namespace Workspace

/-- The slot of the settings of a name. -/
def slot? (workspace : Workspace) (name : String) : Option Nat :=
  workspace.objects.lookup name >>= fun | .settings slot => some slot | _ => none

/-- The workspace with settings in a new slot, under a name. -/
def addSettings (workspace : Workspace) (name : String) (settings : Settings) : Workspace :=
  { workspace with
    objects := (name, .settings workspace.slots.size) :: workspace.objects
    slots := workspace.slots.push settings }

/-- The workspace with other settings in a slot. -/
def putSettings (workspace : Workspace) (slot : Nat) (settings : Settings) : Workspace :=
  { workspace with slots := workspace.slots.setIfInBounds slot settings }

variable {workspace : Workspace} {slot : Nat} {settings : Settings}

/-- New settings take no other settings' slot. -/
theorem getElem?_addSettings (there : workspace.slots[slot]? = some settings) {name : String}
    {added : Settings} : (workspace.addSettings name added).slots[slot]? = some settings := by
  obtain ⟨inside, -⟩ := Array.getElem?_eq_some_iff.mp there
  exact (Array.getElem?_push_lt inside).trans (Array.getElem?_eq_getElem inside ▸ there)

/-- Settings that keep those they replace leave every slot with some that keep what was there. -/
theorem exists_getElem?_putSettings {other : Nat} {before after : Settings}
    (replaced : workspace.slots[other]? = some before) (keeps : before.Keeps after)
    (there : workspace.slots[slot]? = some settings) :
    ∃ later, (workspace.putSettings other after).slots[slot]? = some later ∧
      settings.Keeps later := by
  obtain ⟨inside, -⟩ := Array.getElem?_eq_some_iff.mp there
  change ∃ later, (workspace.slots.setIfInBounds other after)[slot]? = some later ∧ _
  by_cases same : other = slot
  · subst same
    obtain rfl : before = settings := Option.some.inj (replaced.symm.trans there)
    exact ⟨after, Array.getElem?_setIfInBounds_self_of_lt inside, keeps⟩
  · exact ⟨settings, (Array.getElem?_setIfInBounds_ne same).trans there, .refl settings⟩

/-- Whether the settings of every name are in a slot. -/
def Housed (workspace : Workspace) : Prop :=
  ∀ name slot, (name, Object.settings slot) ∈ workspace.objects → slot < workspace.slots.size

/-- New settings have a slot. -/
theorem Housed.addSettings (housed : workspace.Housed) (name : String) (settings : Settings) :
    (workspace.addSettings name settings).Housed := by
  intro other slot member
  change slot < (workspace.slots.push settings).size
  rw [Array.size_push]
  obtain same | before := List.mem_cons.mp member
  · cases same
    exact Nat.lt_succ_self _
  · exact Nat.lt_succ_of_lt (housed other slot before)

/-- Other settings in a slot take no slot away. -/
theorem Housed.putSettings (housed : workspace.Housed) (slot : Nat) (settings : Settings) :
    (workspace.putSettings slot settings).Housed := by
  intro other slot' member
  change slot' < (workspace.slots.setIfInBounds slot settings).size
  rw [Array.size_setIfInBounds]
  exact housed other slot' member

/-- The slot of the settings of a name is there. -/
theorem Housed.slot_lt (housed : workspace.Housed) {name : String}
    (named : workspace.slot? name = some slot) : slot < workspace.slots.size := by
  obtain ⟨object, looked, sort⟩ := Option.bind_eq_some_iff.mp named
  refine housed name slot ?_
  cases object with
  | settings slot' =>
    obtain rfl : slot' = slot := Option.some.inj sort
    exact mem_of_lookup looked
  | _ => cases sort

end Workspace

/-- Finding the slot of a name looks it up. -/
theorem Act.run_settingsSlot (name : String) (workspace : Workspace) :
    (Act.settingsSlot name).run.run workspace =
      match workspace.slot? name with
      | some slot => (.ok slot, workspace)
      | none => (.error (.noObject name), workspace) := by
  have read : (get : Act Workspace).run.run workspace = (.ok workspace, workspace) := rfl
  rw [Act.settingsSlot, Act.find, Run.run_bind, read, Workspace.slot?]
  dsimp only
  cases workspace.objects.lookup name with
  | none => rfl
  | some object => cases object <;> rfl

/-- A step that goes on with the settings of a name either finds no such name or goes on with the
settings in its slot. -/
theorem Act.withSettings {workspace : Workspace} (housed : workspace.Housed) {α : Type}
    (holds : Except Failure α × Workspace → Prop) {name : String}
    {next : Nat → Settings → Act α} (missing : holds (.error (.noObject name), workspace))
    (found : ∀ slot settings, workspace.slot? name = some slot →
      workspace.slots[slot]? = some settings →
        holds ((next slot settings).run.run workspace)) :
    holds ((Act.settingsSlot name >>= fun slot =>
      Act.settingsAt slot >>= next slot).run.run workspace) := by
  rw [Run.run_bind, Act.run_settingsSlot]
  cases named : workspace.slot? name with
  | none => exact missing
  | some slot =>
    have inside := Array.getElem?_eq_getElem (housed.slot_lt named)
    have given := found slot _ named inside
    change holds ((next slot (workspace.slots.getD slot .empty)).run.run workspace)
    rwa [Array.getD_eq_getD_getElem?, inside, Option.getD_some]

namespace SettingsCommand

/-- What performing a command about settings can do to a workspace, and what it answers. -/
inductive Change (before : Workspace) :
    SettingsCommand → Except Failure Answer × Workspace → Prop where
  /-- The standard settings are made. -/
  | standard (target : String) :
    Change before (.standard target) (.ok .done, before.addSettings target .standard)
  /-- Settings without any setting are made. -/
  | empty (target : String) :
    Change before (.empty target) (.ok .done, before.addSettings target .empty)
  /-- The standard settings with a document laid over them are made. -/
  | read {target : String} {format : DocumentFormat} {document : Document} {settings : Settings}
    (laid : Settings.standard.overlay document = .ok settings) :
    Change before (.read target format (.ok document))
      (.ok .done, before.addSettings target settings)
  /-- The settings in the slot of a name are made once more. -/
  | copy {target source : String} {slot : Nat} {settings : Settings}
    (named : before.slot? source = some slot) (there : before.slots[slot]? = some settings) :
    Change before (.copy target source) (.ok .done, before.addSettings target settings)
  /-- A value is written into the settings in the slot of a name. -/
  | set {name path : String} {value : SettingValue} {slot : Nat} {settings after : Settings}
    (named : before.slot? name = some slot) (there : before.slots[slot]? = some settings)
    (write : settings.Write path value after) :
    Change before (.set name path value) (.ok .done, before.putSettings slot after)
  /-- A setting is read. -/
  | get {name : String} {kind : SettingKind} {path : String} {slot : Nat} {settings : Settings}
    {value : SettingValue} (named : before.slot? name = some slot)
    (there : before.slots[slot]? = some settings) (given : settings.get kind path = .ok value) :
    Change before (.get name kind path) (.ok (.setting value), before)
  /-- The paths are listed. -/
  | paths {name : String} {slot : Nat} {settings : Settings}
    (named : before.slot? name = some slot) (there : before.slots[slot]? = some settings) :
    Change before (.paths name) (.ok (.paths settings.paths), before)
  /-- All settings are listed. -/
  | dump {name : String} {slot : Nat} {settings : Settings}
    (named : before.slot? name = some slot) (there : before.slots[slot]? = some settings) :
    Change before (.dump name) (.ok (.text settings.dump), before)
  /-- A document is laid over the settings in the slot of a name. -/
  | overlay {name : String} {document : Document} {slot : Nat} {settings after : Settings}
    (named : before.slot? name = some slot) (there : before.slots[slot]? = some settings)
    (laid : settings.overlay document = .ok after) :
    Change before (.overlay name document) (.ok .done, before.putSettings slot after)
  /-- The command fails. -/
  | fails (command : SettingsCommand) (failure : Failure) :
    Change before command (.error failure, before)

/-- The workspace after a command, whether it fails or not. -/
def after (command : SettingsCommand) (workspace : Workspace) : Workspace :=
  (command.perform.run.run workspace).2

/-- The workspace after several commands. -/
def afterAll (commands : List SettingsCommand) (workspace : Workspace) : Workspace :=
  commands.foldl (fun workspace command => command.after workspace) workspace

variable {workspace : Workspace}

/-- Performing a command is one of the changes. -/
theorem change (housed : workspace.Housed) (command : SettingsCommand) :
    Change workspace command (command.perform.run.run workspace) := by
  cases command with
  | standard target => exact .standard target
  | empty target => exact .empty target
  | read target format decoded =>
    cases decoded with
    | error trouble => exact .fails _ _
    | ok document =>
      rw [perform, Act.ofExcept, pure_bind]
      cases laid : Settings.standard.overlay document with
      | error problem => exact .fails _ _
      | ok settings => exact .read laid
  | copy target source =>
    refine Act.withSettings housed (Change workspace _) (.fails _ _) ?_
    intro slot settings named there
    exact .copy named there
  | set name path value =>
    refine Act.withSettings housed (Change workspace _) (.fails _ _) ?_
    intro slot settings named there
    cases changed : settings.set path value with
    | error fault => exact .fails _ _
    | ok after => exact .set named there (Settings.write_of_set changed)
  | get name kind path =>
    refine Act.withSettings housed (Change workspace _) (.fails _ _) ?_
    intro slot settings named there
    cases given : settings.get kind path with
    | error fault => exact .fails _ _
    | ok value => exact .get named there given
  | paths name =>
    refine Act.withSettings housed (Change workspace _) (.fails _ _) ?_
    intro slot settings named there
    exact .paths named there
  | dump name =>
    refine Act.withSettings housed (Change workspace _) (.fails _ _) ?_
    intro slot settings named there
    exact .dump named there
  | overlay name document =>
    refine Act.withSettings housed (Change workspace _) (.fails _ _) ?_
    intro slot settings named there
    cases laid : settings.overlay document with
    | error problem => exact .fails _ _
    | ok after => exact .overlay named there laid

/-! ## What no change undoes -/

/-- What holds of all settings and of those put into a slot holds of all afterwards. -/
theorem forall_mem_putSettings {holds : Settings → Prop}
    (all : ∀ settings ∈ workspace.slots, holds settings) {slot : Nat} {after : Settings}
    (new : holds after) :
    ∀ settings ∈ (workspace.putSettings slot after).slots, holds settings := by
  intro settings member
  obtain before | rfl := Array.mem_or_eq_of_mem_setIfInBounds member
  · exact all settings before
  · exact new

/-- Whether a command makes no settings without the standard ones. -/
def Usual : SettingsCommand → Prop
  | .empty _ => False
  | _ => True

namespace Change

variable {command : SettingsCommand} {ended : Except Failure Answer × Workspace}

/-- The settings of every name stay in a slot. -/
theorem housed (change : Change workspace command ended) (housed : workspace.Housed) :
    ended.2.Housed := by
  cases change with
  | standard | empty | read | copy => exact housed.addSettings _ _
  | set | overlay => exact housed.putSettings _ _
  | get | paths | dump | fails => exact housed

/-- The settings in a slot stay there and keep every setting. -/
theorem keeps (change : Change workspace command ended) {slot : Nat} {settings : Settings}
    (there : workspace.slots[slot]? = some settings) :
    ∃ later, ended.2.slots[slot]? = some later ∧ settings.Keeps later := by
  cases change with
  | standard | empty | read | copy =>
    exact ⟨settings, Workspace.getElem?_addSettings there, .refl settings⟩
  | set named before write =>
    exact Workspace.exists_getElem?_putSettings before write.keeps there
  | overlay named before laid =>
    exact Workspace.exists_getElem?_putSettings before (Settings.keeps_overlay laid) there
  | get | paths | dump | fails => exact ⟨settings, there, .refl settings⟩

/-- What holds of the standard settings and is kept by writes holds of all settings afterwards if it
did before. -/
theorem forall_slots {holds : Settings → Prop} (start : holds .standard)
    (step : ∀ {before path value after}, before.Write path value after → holds before → holds after)
    (change : Change workspace command ended) (usual : command.Usual)
    (all : ∀ settings ∈ workspace.slots, holds settings) :
    ∀ settings ∈ ended.2.slots, holds settings := by
  cases change with
  | standard target => exact Array.forall_mem_push.mpr ⟨start, all⟩
  | empty target => exact usual.elim
  | read laid => exact Array.forall_mem_push.mpr ⟨Settings.overlay_invariant step laid start, all⟩
  | copy named there =>
    exact Array.forall_mem_push.mpr ⟨all _ (Array.mem_of_getElem? there), all⟩
  | set named there write =>
    exact forall_mem_putSettings all (step write (all _ (Array.mem_of_getElem? there)))
  | overlay named there laid =>
    have before := all _ (Array.mem_of_getElem? there)
    exact forall_mem_putSettings all (Settings.overlay_invariant step laid before)
  | get | paths | dump | fails => exact all

end Change

/-! ## Whole sessions -/

/-- Whatever commands follow, the settings of every name stay in a slot. -/
theorem housed_afterAll (housed : workspace.Housed) (commands : List SettingsCommand) :
    (afterAll commands workspace).Housed := by
  induction commands generalizing workspace with
  | nil => exact housed
  | cons command commands ih => exact ih ((change housed command).housed housed)

/-- What holds of the standard settings and is kept by writes holds of all settings after usual
commands if it did before. -/
theorem forall_slots_afterAll {holds : Settings → Prop} (start : holds .standard)
    (step : ∀ {before path value after}, before.Write path value after → holds before → holds after)
    (housed : workspace.Housed) (all : ∀ settings ∈ workspace.slots, holds settings)
    {commands : List SettingsCommand} (usual : ∀ command ∈ commands, command.Usual) :
    ∀ settings ∈ (afterAll commands workspace).slots, holds settings := by
  induction commands generalizing workspace with
  | nil => exact all
  | cons command commands ih =>
    obtain ⟨first, others⟩ := List.forall_mem_cons.mp usual
    have change := change housed command
    exact ih (change.housed housed) (change.forall_slots start step first all) others

/-- Whether the settings of every name are in a slot and all settings are fit. -/
structure InOrder (workspace : Workspace) : Prop where
  /-- The settings of every name are in a slot. -/
  housed : workspace.Housed
  /-- All settings are fit. -/
  fit : ∀ settings ∈ workspace.slots, settings.Fit

/-- An empty workspace is in order. -/
theorem inOrder_empty : InOrder {} := ⟨nofun, nofun⟩

/-- Usual commands leave a workspace in order. -/
theorem InOrder.afterAll (order : InOrder workspace) {commands : List SettingsCommand}
    (usual : ∀ command ∈ commands, command.Usual) : InOrder (afterAll commands workspace) where
  housed := housed_afterAll order.housed commands
  fit := forall_slots_afterAll .standard (fun write fit => fit.write write) order.housed order.fit
    usual

/-- Whatever commands follow, the settings in a slot stay there and keep every setting. -/
theorem keeps_afterAll (housed : workspace.Housed) (commands : List SettingsCommand) {slot : Nat}
    {settings : Settings} (there : workspace.slots[slot]? = some settings) :
    ∃ later, (afterAll commands workspace).slots[slot]? = some later ∧ settings.Keeps later := by
  induction commands generalizing workspace settings with
  | nil => exact ⟨settings, there, .refl settings⟩
  | cons command commands ih =>
    have change := change housed command
    obtain ⟨next, present, kept⟩ := change.keeps there
    obtain ⟨later, still, kept'⟩ := ih (change.housed housed) present
    exact ⟨later, still, kept.trans kept'⟩

end SettingsCommand

/-- Evaluators can read the settings they need. -/
theorem exists_evaluatorWith {settings : Settings} (fit : settings.Fit) :
    ∃ evaluator, evaluatorWith settings = .ok evaluator := by
  obtain ⟨amount, limited⟩ := fit.exists_getNumber Settings.maxDepthPath rfl rfl
  obtain ⟨trace, switched⟩ := fit.exists_getFlag Settings.evalTracePath rfl rfl
  refine ⟨.new amount trace, ?_⟩
  rw [evaluatorWith, limited, switched]
  rfl

/-- What can be relied on in a workspace, about its settings and about what commands do to them. -/
structure Reliable (workspace : Workspace) : Prop where
  /-- The settings of every name are there. -/
  housed : ∀ name slot, workspace.slot? name = some slot →
    ∃ settings, workspace.slots[slot]? = some settings
  /-- Every setting holds a value of its kind that it accepts. -/
  sound : ∀ settings ∈ workspace.slots, settings.Sound
  /-- The standard settings are there, of the same kinds and with the same accepted texts. -/
  stocked : ∀ settings ∈ workspace.slots, Settings.standard.Keeps settings
  /-- Inputs can be made with the settings. -/
  parsing : ∀ settings ∈ workspace.slots, ∀ catalog,
    ∃ surroundings, Surroundings.ofSettings settings catalog = .ok surroundings
  /-- Evaluators can be made with the settings. -/
  evaluating : ∀ settings ∈ workspace.slots, ∃ evaluator, evaluatorWith settings = .ok evaluator
  /-- Whatever commands follow, every setting stays, of the same kind and with the same accepted
  texts. -/
  keeps : ∀ (commands : List SettingsCommand) (slot : Nat) settings,
    workspace.slots[slot]? = some settings →
      ∃ later, (SettingsCommand.afterAll commands workspace).slots[slot]? = some later ∧
        settings.Keeps later
  /-- A command that fails leaves everything as it was. -/
  failing : ∀ (command : SettingsCommand) failure,
    (command.perform.run.run workspace).1 = .error failure → command.after workspace = workspace
  /-- Setting a value that succeeds changes only the settings of the name: there the getter for
  values of its kind gives the value, and the other paths are as they were. -/
  setting : ∀ name path value answer,
    ((SettingsCommand.set name path value).perform.run.run workspace).1 = .ok answer →
      ∃ slot before after, workspace.slot? name = some slot ∧
        workspace.slots[slot]? = some before ∧
        (SettingsCommand.set name path value).after workspace = workspace.putSettings slot after ∧
        after.Reads path value ∧ ∀ other, other ≠ path → after.find? other = before.find? other

/-- Settings hold up through sessions. After any commands about settings, those that failed among
them, none of which made settings without the standard ones, the workspace can be relied on. -/
theorem reliable_afterAll {commands : List SettingsCommand}
    (usual : ∀ command ∈ commands, command.Usual) :
    Reliable (SettingsCommand.afterAll commands {}) := by
  have order := SettingsCommand.inOrder_empty.afterAll usual
  generalize SettingsCommand.afterAll commands {} = workspace at order
  have change := SettingsCommand.change order.housed
  exact {
    housed name slot named := ⟨_, Array.getElem?_eq_getElem (order.housed.slot_lt named)⟩
    sound settings member := (order.fit settings member).sound
    stocked settings member := (order.fit settings member).stocked
    parsing settings member := (order.fit settings member).exists_ofSettings
    evaluating settings member := exists_evaluatorWith (order.fit settings member)
    keeps commands slot settings there :=
      SettingsCommand.keeps_afterAll order.housed commands there
    failing command failure failed := by
      have change := change command
      unfold SettingsCommand.after
      generalize command.perform.run.run workspace = ended at change failed ⊢
      obtain ⟨answer, left⟩ := ended
      obtain rfl : answer = .error failure := failed
      cases change with
      | fails => rfl
    setting name path value answer given := by
      have change := change (.set name path value)
      unfold SettingsCommand.after
      generalize (SettingsCommand.set name path value).perform.run.run workspace = ended
        at change given ⊢
      obtain ⟨answer', left⟩ := ended
      obtain rfl : answer' = .ok answer := given
      cases change with
      | set named there write =>
        exact ⟨_, _, _, named, there, rfl, write.reads, fun other away => write.find?_eq away⟩ }

/-- Settings and a copy of them, a value that fits and two things that do not, and a new setting. -/
def trials : List SettingsCommand :=
  [.standard "first", .copy "second" "first",
    .set "second" "choice.error_policy" (.word "furthest"),
    .set "second" "eval.max_depth" (.word "deep"),
    .overlay "first"
      (.ofEntries [("eval", .record [("max_depth", .int 5), ("trace", .text "on")])]),
    .set "second" "own.flag" (.flag true)]

/-- The trials leave a workspace that can be relied on. -/
theorem reliable_afterAll_trials :
    (∀ command ∈ trials, command.Usual) ∧ Reliable (SettingsCommand.afterAll trials {}) ∧
      (performAll (trials.map .settings) {}).map (·.isOk) =
        [true, true, true, false, false, true] := by
  have usual : ∀ command ∈ trials, command.Usual := by
    simp only [trials, List.forall_mem_cons]
    exact ⟨trivial, trivial, trivial, trivial, trivial, trivial, nofun⟩
  exact ⟨usual, reliable_afterAll usual, rfl⟩

end GrammarKit.Session
