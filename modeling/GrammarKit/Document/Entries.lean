/-!
# Sorted entries

The entries of a mapping in the order of their keys, each key once.
-/

namespace GrammarKit.Document

/-- Puts an entry into its place among sorted ones, instead of one with the same key. -/
def insertEntry {κ ν : Type} (order : κ → κ → Ordering) (entry : κ × ν) :
    List (κ × ν) → List (κ × ν)
  | [] => [entry]
  | first :: others =>
    match order entry.1 first.1 with
    | .lt => entry :: first :: others
    | .eq => entry :: others
    | .gt => first :: insertEntry order entry others

/-- Nothing but the new entry joins the others. -/
theorem eq_or_mem_of_mem_insertEntry {κ ν : Type} {order : κ → κ → Ordering} {entry other : κ × ν}
    {entries : List (κ × ν)} (member : other ∈ insertEntry order entry entries) :
    other = entry ∨ other ∈ entries := by
  induction entries with
  | nil => exact .inl (List.mem_singleton.mp member)
  | cons first others ih =>
    rw [insertEntry] at member
    cases compared : order entry.1 first.1 with
    | lt =>
      rw [compared] at member
      exact List.mem_cons.mp member
    | eq =>
      rw [compared] at member
      exact (List.mem_cons.mp member).imp_right (.tail _)
    | gt =>
      rw [compared] at member
      obtain rfl | later := List.mem_cons.mp member
      · exact .inr (.head _)
      · exact (ih later).imp_right (.tail _)

/-- Entries in the order of their keys stay so. -/
theorem pairwise_insertEntry {ν : Type} {entry : String × ν} {entries : List (String × ν)}
    (order : entries.Pairwise fun entry later => entry.1 < later.1) :
    (insertEntry compare entry entries).Pairwise fun entry later => entry.1 < later.1 := by
  induction entries with
  | nil => exact List.pairwise_singleton _ _
  | cons first others ih =>
    obtain ⟨front, behind⟩ := List.pairwise_cons.mp order
    rw [insertEntry]
    cases compared : compare entry.1 first.1 with
    | lt =>
      have before : entry.1 < first.1 := compareOfLessAndEq_eq_lt.mp compared
      refine List.pairwise_cons.mpr ⟨?_, order⟩
      intro other member
      obtain rfl | later := List.mem_cons.mp member
      · exact before
      · exact String.lt_trans before (front other later)
    | eq =>
      have same : entry.1 = first.1 := Std.LawfulEqOrd.eq_of_compare compared
      exact List.pairwise_cons.mpr ⟨fun other later => same ▸ front other later, behind⟩
    | gt =>
      have flipped : compare first.1 entry.1 = .lt := Std.OrientedCmp.lt_of_gt compared
      have after : first.1 < entry.1 := compareOfLessAndEq_eq_lt.mp flipped
      refine List.pairwise_cons.mpr ⟨?_, ih behind⟩
      intro other member
      obtain rfl | later := eq_or_mem_of_mem_insertEntry member
      · exact after
      · exact front other later

/-- Entries in the order of their keys; of two with the same key the later one counts. -/
def sortEntries {κ ν : Type} (order : κ → κ → Ordering) (entries : List (κ × ν)) : List (κ × ν) :=
  entries.foldl (fun sorted entry => insertEntry order entry sorted) []

end GrammarKit.Document
