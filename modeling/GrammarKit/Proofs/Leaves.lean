import GrammarKit.Settings
/-!
# Documents by their leaves

A document is a tree of mappings from texts. What counts in it are its leaves, each with the keys
that lead to it (`Document.leaves`): laying a document over settings, level by level, comes to
updating the settings at one leaf after the other (`Settings.overlay_eq_updateAll`). Since the
entries of a mapping are in the order of their keys, so are the leaves (`Document.pairwise_leaves`).
The path of a leaf is its keys joined by dots, except that an empty path in front of a key leaves no
trace: the empty keys that a leaf starts with are lost (`Leaf.path`). Going down key by key leads to
this path (`Leaf.pathBelow_empty`).
-/

namespace GrammarKit

/-- A value in a document that is no mapping from texts, with the keys that lead to it. -/
structure Leaf where
  /-- The keys, from the outermost mapping inwards. -/
  keys : List String
  /-- The value. -/
  value : Host

namespace Leaf

/-- The leaf in a mapping that has it below a key. -/
def under (key : String) (leaf : Leaf) : Leaf := { leaf with keys := key :: leaf.keys }

/-- The path of a leaf: its keys joined by dots, without the empty keys in front. -/
def path (leaf : Leaf) : String := ".".intercalate (leaf.keys.dropWhile (· = ""))

/-- The path of a leaf and its value. -/
def place (leaf : Leaf) : String × Host := (leaf.path, leaf.value)

/-- The path that going down key by key from another path leads to. -/
def pathBelow (path : String) (leaf : Leaf) : String := leaf.keys.foldl Settings.below path

/-- The path that going down from another path leads to, and the value of a leaf. -/
def placeBelow (path : String) (leaf : Leaf) : String × Host := (leaf.pathBelow path, leaf.value)

/-- Below a path that is not empty the keys of a leaf are joined to it by dots. -/
theorem pathBelow_eq {path : String} (nonempty : path ≠ "") (leaf : Leaf) :
    leaf.pathBelow path = ".".intercalate (path :: leaf.keys) := by
  obtain ⟨keys, value⟩ := leaf
  change keys.foldl Settings.below path = _
  induction keys generalizing path with
  | nil => exact String.intercalate_singleton.symm
  | cons key keys ih =>
    have joined : Settings.below path key = path ++ "." ++ key := if_neg nonempty
    have nonempty' : path ++ "." ++ key ≠ "" := by simp
    rw [List.foldl_cons, joined, ih nonempty', String.intercalate_cons_append,
      String.intercalate_cons_cons]

/-- Going down from the empty path leads to the path of a leaf. -/
theorem pathBelow_empty (leaf : Leaf) : leaf.pathBelow "" = leaf.path := by
  obtain ⟨keys, value⟩ := leaf
  change keys.foldl Settings.below "" = ".".intercalate (keys.dropWhile (· = ""))
  induction keys with
  | nil => rfl
  | cons key keys ih =>
    have first : Settings.below "" key = key := if_pos rfl
    rw [List.foldl_cons, first]
    by_cases empty : key = ""
    · rw [List.dropWhile_cons_of_pos (by simpa using empty), empty, ih]
    · rw [List.dropWhile_cons_of_neg (by simpa using empty)]
      exact pathBelow_eq empty ⟨keys, value⟩

/-- The path of a leaf is all its keys joined by dots, unless an empty key leads to others. -/
theorem path_eq_intercalate {leaf : Leaf} (begun : leaf.keys.head? = some "" → leaf.keys = [""]) :
    leaf.path = ".".intercalate leaf.keys := by
  obtain ⟨keys, value⟩ := leaf
  rw [path]
  cases keys with
  | nil => rfl
  | cons key keys =>
    by_cases empty : key = ""
    · have alone : key :: keys = [""] := begun (congrArg some empty)
      rw [alone]
      rfl
    · rw [List.dropWhile_cons_of_neg (by simpa using empty)]

end Leaf

namespace Host

mutual

/-- The leaves of a host value, one after the other. -/
def leaves : Host → List Leaf
  | .record entries => entryLeaves entries
  | host => [⟨[], host⟩]
termination_by structural host => host

/-- The leaves of the entries of a mapping. -/
def entryLeaves : List (String × Host) → List Leaf
  | [] => []
  | (key, item) :: others => (leaves item).map (.under key) ++ entryLeaves others
termination_by structural entries => entries

end

/-- The first key of a leaf is one of those of the mapping. -/
theorem exists_key_of_mem_entryLeaves {entries : List (String × Host)} {leaf : Leaf}
    (member : leaf ∈ entryLeaves entries) :
    ∃ entry ∈ entries, ∃ keys, leaf.keys = entry.1 :: keys := by
  induction entries with
  | nil => cases member
  | cons entry others ih =>
    obtain here | later := List.mem_append.mp member
    · obtain ⟨inner, -, rfl⟩ := List.mem_map.mp here
      exact ⟨entry, .head _, inner.keys, rfl⟩
    · obtain ⟨other, among, keys, same⟩ := ih later
      exact ⟨other, .tail _ among, keys, same⟩

mutual

/-- The leaves of a host value in order are in the order of their keys. -/
theorem pairwise_leaves (host : Host) (order : host.InOrder) :
    host.leaves.Pairwise fun leaf later => leaf.keys < later.keys := by
  cases host with
  | record entries => exact pairwise_entryLeaves entries order
  | _ => exact List.pairwise_singleton _ _
termination_by structural host

/-- The leaves of entries in order are in the order of their keys. -/
theorem pairwise_entryLeaves (entries : List (String × Host)) (order : EntriesInOrder entries) :
    (entryLeaves entries).Pairwise fun leaf later => leaf.keys < later.keys := by
  cases entries with
  | nil => exact .nil
  | cons entry others =>
    obtain ⟨key, item⟩ := entry
    obtain ⟨first, inside, behind⟩ := order
    refine List.pairwise_append.mpr ⟨?_, pairwise_entryLeaves others behind, ?_⟩
    · refine List.pairwise_map.mpr ((pairwise_leaves item inside).imp ?_)
      exact fun before => .cons before
    · intro leaf here later there
      obtain ⟨inner, -, rfl⟩ := List.mem_map.mp here
      obtain ⟨entry, among, keys, same⟩ := exists_key_of_mem_entryLeaves there
      rw [same]
      exact .rel (first entry among)
termination_by structural entries

end

end Host

namespace Document

/-- The leaves of a document, one after the other. -/
def leaves (document : Document) : List Leaf := Host.entryLeaves document.entries

/-- The paths and the values of the leaves of a document, one after the other. -/
def places (document : Document) : List (String × Host) := document.leaves.map Leaf.place

/-- The leaves of a document are in the order of their keys. -/
theorem pairwise_leaves (document : Document) :
    document.leaves.Pairwise fun leaf later => leaf.keys < later.keys :=
  Host.pairwise_entryLeaves document.entries document.inOrder

end Document

namespace Settings

open Host (leaves entryLeaves)

/-- Updates the settings with one host value after the other, each at its path. -/
def updateAll (settings : Settings) (places : List (String × Host)) :
    Except SettingProblem Settings :=
  places.foldlM (fun settings place => settings.updateWith place.1 place.2) settings

mutual

/-- Laying a host value over settings updates them at its leaves. -/
theorem overlayAt_eq_updateAll (path : String) (host : Host) (settings : Settings) :
    overlayAt path host settings =
      settings.updateAll ((leaves host).map (Leaf.placeBelow path)) := by
  cases host with
  | record entries => exact overlayBelow_eq_updateAll path entries settings
  | _ => exact (bind_pure _).symm
termination_by structural host

/-- Laying entries over settings updates them at their leaves. -/
theorem overlayBelow_eq_updateAll (path : String) (entries : List (String × Host))
    (settings : Settings) :
    overlayBelow path entries settings =
      settings.updateAll ((entryLeaves entries).map (Leaf.placeBelow path)) := by
  cases entries with
  | nil => rfl
  | cons entry others =>
    obtain ⟨key, item⟩ := entry
    have first := overlayAt_eq_updateAll (below path key) item settings
    have later := overlayBelow_eq_updateAll path others
    rw [overlayBelow, first, entryLeaves, List.map_append, List.map_map, updateAll, updateAll,
      List.foldlM_append]
    exact bind_congr later
termination_by structural entries

end

/-- Laying a document over settings updates them at its leaves, one after the other. -/
theorem overlay_eq_updateAll (settings : Settings) (document : Document) :
    settings.overlay document = settings.updateAll document.places := by
  have places : document.leaves.map (Leaf.placeBelow "") = document.places :=
    List.map_congr_left fun leaf _ => Prod.ext leaf.pathBelow_empty rfl
  rw [← places]
  exact overlayBelow_eq_updateAll "" document.entries settings

end Settings

end GrammarKit
