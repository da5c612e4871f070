import GrammarKit.Document.Entries
import GrammarKit.Host
/-!
# Documents

A document is a mapping from texts to host values, which may be mappings from texts themselves. The
entries of all these mappings are in the order of their keys, each key once, so a document can be
written down in one way only. Entries in any other order are sorted first (`Document.ofEntries`).
-/

namespace GrammarKit

namespace Host

mutual

/-- Whether a host value is no mapping from texts or one with its entries in order. -/
def InOrder : Host → Prop
  | .record entries => EntriesInOrder entries
  | _ => True
termination_by structural host => host

/-- Whether the entries of a mapping are in the order of their keys, and so are those of the
mappings in it. -/
def EntriesInOrder : List (String × Host) → Prop
  | [] => True
  | (key, item) :: others =>
    (∀ entry ∈ others, key < entry.1) ∧ item.InOrder ∧ EntriesInOrder others
termination_by structural entries => entries

end

mutual

/-- A host value with the entries of a mapping from texts, and of the mappings in it, in the order
of their keys. -/
def sorted : Host → Host
  | .record entries => .record (Document.sortEntries compare (sortedItems entries))
  | host => host
termination_by structural host => host

/-- Entries as they are, with the mappings in them in order. -/
def sortedItems : List (String × Host) → List (String × Host)
  | [] => []
  | (key, item) :: others => (key, item.sorted) :: sortedItems others
termination_by structural entries => entries

end

/-- Entries are in order when their keys are and their items are. -/
theorem entriesInOrder_iff {entries : List (String × Host)} :
    EntriesInOrder entries ↔
      (entries.Pairwise fun entry later => entry.1 < later.1) ∧
        ∀ entry ∈ entries, entry.2.InOrder := by
  induction entries with
  | nil => exact iff_of_true trivial ⟨.nil, nofun⟩
  | cons first others ih =>
    rw [EntriesInOrder, ih, List.pairwise_cons, List.forall_mem_cons]
    constructor
    · rintro ⟨front, inside, keys, items⟩
      exact ⟨⟨front, keys⟩, inside, items⟩
    · rintro ⟨⟨front, keys⟩, inside, items⟩
      exact ⟨front, inside, keys, items⟩

/-- An entry whose item is in order can be put among others. -/
theorem EntriesInOrder.insertEntry {entry : String × Host} {entries : List (String × Host)}
    (inside : entry.2.InOrder) (order : EntriesInOrder entries) :
    EntriesInOrder (Document.insertEntry compare entry entries) := by
  obtain ⟨keys, items⟩ := entriesInOrder_iff.mp order
  refine entriesInOrder_iff.mpr ⟨Document.pairwise_insertEntry keys, ?_⟩
  intro other member
  obtain rfl | before := Document.eq_or_mem_of_mem_insertEntry member
  · exact inside
  · exact items other before

/-- Entries whose items are in order can be put among others one after the other. -/
theorem EntriesInOrder.foldl_insertEntry {entries placed : List (String × Host)}
    (inside : ∀ entry ∈ entries, entry.2.InOrder) (order : EntriesInOrder placed) :
    EntriesInOrder (entries.foldl
      (fun placed entry => Document.insertEntry compare entry placed) placed) := by
  induction entries generalizing placed with
  | nil => exact order
  | cons entry others ih =>
    obtain ⟨first, later⟩ := List.forall_mem_cons.mp inside
    exact ih later (order.insertEntry first)

/-- Sorted entries are in order when their items are. -/
theorem entriesInOrder_sortEntries {entries : List (String × Host)}
    (inside : ∀ entry ∈ entries, entry.2.InOrder) :
    EntriesInOrder (Document.sortEntries compare entries) :=
  .foldl_insertEntry inside trivial

mutual

/-- A sorted host value is in order. -/
theorem inOrder_sorted (host : Host) : host.sorted.InOrder := by
  cases host with
  | record entries => exact entriesInOrder_sortEntries (inOrder_of_mem_sortedItems entries)
  | _ => trivial
termination_by structural host

/-- The items of entries with sorted items are in order. -/
theorem inOrder_of_mem_sortedItems (entries : List (String × Host)) :
    ∀ entry ∈ sortedItems entries, entry.2.InOrder := by
  cases entries with
  | nil => nofun
  | cons entry others =>
    obtain ⟨key, item⟩ := entry
    exact List.forall_mem_cons.mpr ⟨inOrder_sorted item, inOrder_of_mem_sortedItems others⟩
termination_by structural entries

end

end Host

/-- A document. -/
structure Document where
  /-- The entries. -/
  entries : List (String × Host)
  /-- All entries are in the order of their keys. -/
  inOrder : Host.EntriesInOrder entries

namespace Document

/-- Why a document cannot be told from a text. -/
inductive Trouble where
  /-- The text is unreadable. -/
  | unreadable
  /-- A collection is used where keys are told apart. -/
  | unusableKey
deriving DecidableEq, Repr

/-- The document with the given entries; of two with the same key the later one counts. -/
def ofEntries (entries : List (String × Host)) : Document where
  entries := sortEntries compare (Host.sortedItems entries)
  inOrder := Host.entriesInOrder_sortEntries (Host.inOrder_of_mem_sortedItems entries)

end Document

end GrammarKit
