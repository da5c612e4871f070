import GrammarKit.Proofs.Overlay
import GrammarKit.Proofs.SettingsCommand
/-!
# What a document does to settings

Settings that come up in a session are in the order of their paths (`Settings.Reachable.ordered`).
Laying a document over them is therefore all or nothing and goes by the leaves of the document alone
(`Settings.Reachable.laidOver`). In particular every leaf of a document that goes through is at a
path where there is a setting. This path is the one that its keys spell, unless an empty key leads
to others: then the keys spell a path with a dot in front, and the setting is found without it
(`Settings.known_path_of_overlay`).
-/

namespace GrammarKit

open Session (Workspace SettingsCommand)

namespace Session.SettingsCommand

variable {workspace : Workspace} {name : String} {slot : Nat} {settings : Settings}

/-- Laying a document over the settings of a name puts what comes of it into their slot, or it fails
with the problem and leaves everything as it was. -/
theorem run_overlay (named : workspace.slot? name = some slot)
    (there : workspace.slots[slot]? = some settings) (document : Document) :
    (SettingsCommand.overlay name document).perform.run.run workspace =
      match settings.overlay document with
      | .ok after => (.ok .done, workspace.putSettings slot after)
      | .error problem => (.error (.overlay problem), workspace) := by
  have given : workspace.slots.getD slot .empty = settings := by
    rw [Array.getD_eq_getD_getElem?, there, Option.getD_some]
  rw [perform, Run.run_bind, Act.run_settingsSlot, named]
  change (Act.ofExcept Failure.overlay ((workspace.slots.getD slot .empty).overlay document) >>=
    fun after => Act.putSettings slot after >>= fun _ => pure Answer.done).run.run workspace = _
  rw [given]
  cases settings.overlay document with
  | error problem => rfl
  | ok after => rfl

end Session.SettingsCommand

namespace Settings

/-- Whether settings come up in a session that makes none without the standard ones. -/
def Reachable (settings : Settings) : Prop :=
  ∃ commands, (∀ command ∈ commands, SettingsCommand.Usual command) ∧
    settings ∈ (SettingsCommand.afterAll commands {}).slots

/-- What laying a document over settings comes to, by its leaves. -/
structure LaidOver (settings : Settings) (document : Document) : Prop where
  /-- The leaves come in the order of their keys. -/
  sorted : document.leaves.Pairwise fun leaf later => leaf.keys < later.keys
  /-- The document goes through just when every leaf fits the setting at its path. -/
  goesThrough : (∃ after, settings.overlay document = .ok after) ↔
    ∀ place ∈ document.places, settings.Fits place
  /-- Then every path has the value of the last leaf there, and all else is as it was. -/
  written : ∀ after, settings.overlay document = .ok after → settings.Written document.places after
  /-- The settings of a name are replaced by them. -/
  stored : ∀ after, settings.overlay document = .ok after →
    ∀ (workspace : Workspace) name slot, workspace.slot? name = some slot →
      workspace.slots[slot]? = some settings →
        (SettingsCommand.overlay name document).perform.run.run workspace =
          (.ok .done, workspace.putSettings slot after)
  /-- Otherwise the problem is the one with the first leaf that does not fit, about its path. -/
  refused : ∀ problem, settings.overlay document = .error problem →
    ∃ earlier place later, document.places = earlier ++ place :: later ∧
      (∀ other ∈ earlier, settings.Fits other) ∧ ¬ settings.Fits place ∧
      settings.updateWith place.1 place.2 = .error problem ∧ problem.path = place.1
  /-- The settings of a name are then what they were. -/
  kept : ∀ problem, settings.overlay document = .error problem →
    ∀ (workspace : Workspace) name slot, workspace.slot? name = some slot →
      workspace.slots[slot]? = some settings →
        (SettingsCommand.overlay name document).perform.run.run workspace =
          (.error (.overlay problem), workspace)
  /-- Laying the document over the settings once more changes nothing. -/
  again : ∀ after, settings.overlay document = .ok after → after.overlay document = .ok after
  /-- Where no two leaves are at one path, nesting them in another way comes to the same. -/
  rearranged : ∀ document', document.places.Perm document'.places →
    (document.places.map Prod.fst).Nodup →
      ∀ after, settings.overlay document = .ok after ↔ settings.overlay document' = .ok after
  /-- Declaring integers to be wide or plain makes no difference. -/
  widths : ∀ document',
    Host.narrowedEntries document.entries = Host.narrowedEntries document'.entries →
      settings.overlay document = settings.overlay document'

variable {settings after : Settings} {document : Document}

/-- Settings that come up in a session are in the order of their paths. -/
theorem Reachable.ordered (reachable : settings.Reachable) : settings.Ordered := by
  obtain ⟨commands, usual, member⟩ := reachable
  have housed := SettingsCommand.inOrder_empty.housed
  exact SettingsCommand.forall_slots_afterAll .standard (fun write ordered => ordered.write write)
    housed nofun usual settings member

/-- The standard settings come up in a session. -/
theorem Reachable.standard : Settings.standard.Reachable := by
  refine ⟨[.standard "settings"], ?_, ?_⟩
  · exact List.forall_mem_singleton.mpr trivial
  · exact Array.mem_push_self

/-- Laying a document over settings of a session is all or nothing and goes by its leaves. -/
theorem Reachable.laidOver (reachable : settings.Reachable) (document : Document) :
    settings.LaidOver document where
  sorted := document.pairwise_leaves
  goesThrough := exists_overlay_iff
  written after laid := written_of_overlay laid
  stored after laid workspace name slot named there := by
    rw [SettingsCommand.run_overlay named there, laid]
  refused problem failed := by
    obtain ⟨earlier, place, later, split, before, misfit, alone⟩ := exists_first_misfit failed
    exact ⟨earlier, place, later, split, before, misfit, alone, path_of_updateWith alone⟩
  kept problem failed workspace name slot named there := by
    rw [SettingsCommand.run_overlay named there, failed]
  again after laid := reachable.ordered.overlay_again laid
  rearranged document' same distinct after := by
    have distinct' : (document'.places.map Prod.fst).Nodup := (same.map Prod.fst).nodup distinct
    constructor
    · exact reachable.ordered.overlay_of_perm same distinct
    · exact reachable.ordered.overlay_of_perm same.symm distinct'
  widths document' same := overlay_eq_of_narrowed same settings

/-- A document that names one setting twice, inside a mapping and by its whole path. -/
def doubled : Document :=
  .ofEntries
    [("eval", .record [("max_depth", .int 3), ("trace", .bool true)]), ("eval.max_depth", .wide 4)]

/-- The standard settings with such a document laid over them have the later value. -/
theorem laidOver_doubled :
    Settings.standard.Reachable ∧ Settings.standard.LaidOver doubled ∧
      (Settings.standard.overlay doubled).toOption.bind (·.find? maxDepthPath) =
        some (.of (.number 4) []) :=
  ⟨.standard, Reachable.laidOver .standard doubled, rfl⟩

/-- A leaf of a document that goes through is at the path of a setting: its keys joined by dots,
without the empty keys in front. Unless an empty key leads to others, these are all its keys. -/
theorem known_path_of_overlay (laid : settings.overlay document = .ok after) {leaf : Leaf}
    (member : leaf ∈ document.leaves) :
    (∃ setting, settings.find? (".".intercalate (leaf.keys.dropWhile (· = ""))) = some setting) ∧
      ((leaf.keys.head? = some "" → leaf.keys = [""]) →
        ∃ setting, settings.find? (".".intercalate leaf.keys) = some setting) := by
  have among : leaf.place ∈ document.places := List.mem_map_of_mem member
  obtain ⟨value, setting, takes⟩ := exists_overlay_iff.mp ⟨after, laid⟩ leaf.place among
  have found : settings.find? leaf.path = some setting := takes.found
  constructor
  · exact ⟨setting, found⟩
  · intro begun
    exact ⟨setting, Leaf.path_eq_intercalate begun ▸ found⟩

/-- A document with a setting below an empty key, next to one that is spelled as usual. -/
def beneathEmpty : Document :=
  .ofEntries
    [("", .record [("eval", .record [("max_depth", .int 5)])]),
      ("parser", .record [("trace", .bool true)])]

/-- Such a document goes through, and the setting that is spelled as usual is there. -/
theorem known_path_of_overlay_beneathEmpty :
    ∃ after, Settings.standard.overlay beneathEmpty = .ok after ∧
      ∃ setting, Settings.standard.find? (".".intercalate ["parser", "trace"]) = some setting := by
  obtain ⟨after, laid⟩ : ∃ after, Settings.standard.overlay beneathEmpty = .ok after := ⟨_, rfl⟩
  have member : ⟨["parser", "trace"], .bool true⟩ ∈ beneathEmpty.leaves := .tail _ (.head _)
  have begun : ["parser", "trace"].head? = some "" → ["parser", "trace"] = [""] :=
    fun empty => absurd empty (by decide)
  exact ⟨after, laid, (known_path_of_overlay laid member).2 begun⟩

/-- What goes through may have leaves whose keys are together no path of a setting. -/
theorem not_known_path_of_overlay :
    ¬ ∀ (settings after : Settings) (document : Document) (leaf : Leaf),
      settings.Reachable → settings.overlay document = .ok after → leaf ∈ document.leaves →
        ∃ setting, settings.find? (".".intercalate leaf.keys) = some setting := by
  intro known
  obtain ⟨after, laid⟩ : ∃ after, Settings.standard.overlay beneathEmpty = .ok after := ⟨_, rfl⟩
  have member : ⟨["", "eval", "max_depth"], .int 5⟩ ∈ beneathEmpty.leaves := .head _
  obtain ⟨setting, found⟩ := known _ after beneathEmpty _ .standard laid member
  have missing : Settings.standard.find? (".".intercalate ["", "eval", "max_depth"]) = none := by
    decide
  cases missing.symm.trans found

end Settings

end GrammarKit
