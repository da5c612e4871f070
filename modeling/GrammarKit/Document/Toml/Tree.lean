import GrammarKit.Document.Entries
import GrammarKit.Host
/-!
# Trees of tables

What a document has said so far. Headers and dotted keys both make tables, and a table may be filled
from several places, but each table is defined only once: a header may go on with a table that only
served as a way to others, and dotted keys may go on with a table that dotted keys of the same
section made.
-/

namespace GrammarKit.Document.Toml

/-- How a table has come about. -/
inductive Standing where
  /-- As a way to a table below it. -/
  | implied
  /-- By a dotted key of the present section. -/
  | dotted
  /-- By its own header, or by a dotted key of an earlier section. -/
  | defined
deriving DecidableEq, Repr

/-- What a key leads to. -/
inductive Item where
  /-- A value, which is complete. -/
  | value (host : Host)
  /-- A table, which can still be filled. -/
  | table (standing : Standing) (entries : List (String × Item))
  /-- A list of tables, of which the last one can still be filled. -/
  | tables (earlier : List (List (String × Item))) (last : List (String × Item))
deriving Inhabited

namespace Item

/-- The entries of a table in the order in which they came about. -/
abbrev Entries := List (String × Item)

/-- Puts an item in place of the one with the same key, or at the end. -/
def put (key : String) (item : Item) : Entries → Entries
  | [] => [(key, item)]
  | (key', item') :: others =>
    if key = key' then (key, item) :: others else (key', item') :: put key item others

/-- Gives a value to a dotted key. The key must be new, and the tables on the way to it must be open
to dotted keys. -/
def assign? (content : Host) : List String → Entries → Option Entries
  | [], _ => none
  | [key], entries =>
    if (entries.lookup key).isNone then some (put key (.value content) entries) else none
  | key :: path, entries =>
    match entries.lookup key with
    | none => do return put key (.table .dotted (← assign? content path [])) entries
    | some (.table standing below) =>
      if standing = .defined then none
      else do return put key (.table standing (← assign? content path below)) entries
    | some _ => none

/-- Changes the entries of the table at a path. Tables that are missing on the way are implied; in a
list of tables the way goes through the last one. The last key is left to `change`. -/
def changeAt? (change : String → Entries → Option Entries) : List String → Entries → Option Entries
  | [], _ => none
  | [key], entries => change key entries
  | key :: path, entries =>
    match entries.lookup key with
    | none => do return put key (.table .implied (← changeAt? change path [])) entries
    | some (.table standing below) => do
      return put key (.table standing (← changeAt? change path below)) entries
    | some (.tables earlier last) => do
      return put key (.tables earlier (← changeAt? change path last)) entries
    | some (.value _) => none

/-- Defines a table. One that is there must not be defined yet. -/
def define? (key : String) (entries : Entries) : Option Entries :=
  match entries.lookup key with
  | none => some (put key (.table .defined []) entries)
  | some (.table standing below) =>
    if standing = .defined then none else some (put key (.table .defined below) entries)
  | some _ => none

/-- Adds a table to a list of tables. -/
def append? (key : String) (entries : Entries) : Option Entries :=
  match entries.lookup key with
  | none => some (put key (.tables [] []) entries)
  | some (.tables earlier last) => some (put key (.tables (earlier ++ [last]) []) entries)
  | some _ => none

/-- Gives a value to a dotted key below a key. -/
def assignBelow? (content : Host) (path : List String) (key : String) (entries : Entries) :
    Option Entries :=
  match entries.lookup key with
  | some (.table standing below) => do
    return put key (.table standing (← assign? content path below)) entries
  | some (.tables earlier last) => do
    return put key (.tables earlier (← assign? content path last)) entries
  | _ => none

mutual

/-- The item at the end of a section: its tables are closed to dotted keys. -/
def closed : Item → Item
  | .value host => .value host
  | .table standing entries =>
    .table (if standing = .dotted then .defined else standing) (closedEntries entries)
  | .tables earlier last => .tables earlier (closedEntries last)

/-- The entries at the end of a section. -/
def closedEntries : List (String × Item) → List (String × Item)
  | [] => []
  | (key, item) :: others => (key, closed item) :: closedEntries others

end

mutual

/-- The host value of an item. -/
def toHost : Item → Host
  | .value host => host
  | .table _ entries => .record (sortEntries compare (entriesToHost entries))
  | .tables earlier last =>
    .list (tablesToHost earlier ++ [.record (sortEntries compare (entriesToHost last))])

/-- The host values of the entries of a table. -/
def entriesToHost : List (String × Item) → List (String × Host)
  | [] => []
  | (key, item) :: others => (key, toHost item) :: entriesToHost others

/-- The host values of tables. -/
def tablesToHost : List (List (String × Item)) → List Host
  | [] => []
  | first :: others => .record (sortEntries compare (entriesToHost first)) :: tablesToHost others

end

end Item

end GrammarKit.Document.Toml
