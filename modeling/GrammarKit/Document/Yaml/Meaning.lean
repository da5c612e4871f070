import GrammarKit.Document
import GrammarKit.Document.Yaml.Node
import GrammarKit.Document.Yaml.Scalar
/-!
# What nodes stand for

The host values of nodes. A mapping whose keys are all texts is a record; a mapping with any other
key is a table. A mapping may take over the entries of other mappings, which then do not replace its
own.

Some faults make a document unreadable at once. Others, such as a key that occurs twice, are
noted, and reading goes on. References to other nodes may be followed only so often: a small
document must not stand for a huge value.
-/

namespace GrammarKit.Document.Yaml

/-- What is kept count of while nodes are read. -/
structure Tally where
  /-- How many nodes have been read. -/
  nodes : Nat := 0
  /-- How many of them were reached through references. -/
  referred : Nat := 0
  /-- How many references are being followed. -/
  depth : Nat := 0
  /-- Whether a fault has been noted. -/
  faulty : Bool := false

/-- Reading the meaning of nodes. -/
abbrev Meaning := StateT Tally (Except Trouble)

/-- Up to this number of nodes nearly all may be reached through references. -/
def easyNodes : Nat := 400000

/-- From this number of nodes on only a tenth of them may be reached through references. -/
def hardNodes : Nat := 4000000

/-- Whether too many nodes have been reached through references: more than 99 of a hundred in small
documents, more than ten in huge ones, and in between a share that falls with the number of
nodes. -/
def Tally.excessive (tally : Tally) : Bool :=
  let span := hardNodes - easyNodes
  let share :=
    if tally.nodes ≤ easyNodes then 99 * span
    else if hardNodes ≤ tally.nodes then 10 * span
    else 99 * span - 89 * (tally.nodes - easyNodes)
  100 < tally.referred && 1000 < tally.nodes && tally.nodes * share < tally.referred * (100 * span)

/-- Counts a node. -/
def countNode : Meaning Unit := do
  modify fun tally =>
    { tally with
      nodes := tally.nodes + 1,
      referred := if 0 < tally.depth then tally.referred + 1 else tally.referred }
  if (← get).excessive then throw .unreadable

/-- Notes a fault. -/
def noteFault : Meaning Unit := modify fun tally => { tally with faulty := true }

/-- Follows a reference. -/
def following {α : Type} (work : Meaning α) : Meaning α := do
  modify fun tally => { tally with depth := tally.depth + 1 }
  let result ← work
  modify fun tally => { tally with depth := tally.depth - 1 }
  return result

/-- The rank of the sort of a key among the keys of a table. -/
def keyRank : Host → Nat
  | .absent => 0
  | .bool _ => 1
  | .float _ => 2
  | .int _ => 3
  | .text _ => 4
  | .unsigned _ => 5
  | _ => 6

/-- The order of the keys of a mapping: by sort, then by content. What is not a number comes before
all numbers, and before any other that is not a number, so no two of them are the same key. -/
def keyOrder : Host → Host → Ordering
  | .bool left, .bool right => compare left.toNat right.toNat
  | .float left, .float right =>
    if left.isNaN then .lt else if right.isNaN then .gt
    else if left < right then .lt else if right < left then .gt else .eq
  | .int left, .int right => compare left.toInt right.toInt
  | .unsigned left, .unsigned right => compare left.toNat right.toNat
  | .text left, .text right => compare left right
  | .moment left, .moment right => left.keyOrder right
  | left, right => compare (keyRank left) (keyRank right)

/-- Whether two keys are the same. -/
def sameKey (left right : Host) : Bool := keyOrder left right == .eq

/-- Whether a value can be a key: no collection can. -/
def canBeKey : Host → Bool
  | .list _ | .record _ | .table _ => false
  | _ => true

namespace Node

/-- Whether a key counts as a text. -/
def isTextKey : Node → Bool
  | .scalar tag plain text =>
    if tag = "" then (scalarReading? tag plain text).any fun found =>
      found.1 == .str || found.1 == .merge
    else tag == "!!str" || tag == "!!merge"
  | .sequence tag _ => tag == "!!str" || tag == "!!merge"
  | .mapping tag _ => tag == "!!str" || tag == "!!merge"
  | .alias _ (some target) => isTextKey target
  | .alias _ none => false

/-- Whether a node says that there is nothing. -/
def isNull : Node → Bool
  | .scalar tag plain text => (scalarReading? tag plain text).any fun found => found.1 == .null
  | .sequence tag _ => tag == "!!null"
  | .mapping tag _ => tag == "!!null"
  | .alias _ (some target) => isNull target
  | .alias _ none => false

/-- Whether a key asks for the entries of other mappings. -/
def takesOver : Node → Bool
  | .scalar tag plain text => text == "<<" && (tag == "!!merge" || (tag == "" && plain))
  | _ => false

/-- What a mapping takes entries over from; the last of several keys that ask for it counts. -/
def source? : List (Node × Node) → Option Node
  | [] => none
  | (key, item) :: others => (source? others).or (if key.takesOver then some item else none)

/-- What a mapping takes entries over from is smaller than the mapping. -/
theorem sizeOf_source?_lt {entries : List (Node × Node)} {source : Node}
    (found : source? entries = some source) : sizeOf source < sizeOf entries := by
  induction entries with
  | nil => simp [source?] at found
  | cons entry others ih =>
    obtain ⟨key, item⟩ := entry
    simp only [source?, Option.or_eq_some_iff] at found
    rcases found with later | ⟨_, here⟩
    · have := ih later
      simp
      omega
    · split at here
      · cases here
        simp
        omega
      · cases here

end Node

/-- What a mapping is read into. -/
inductive MappingKind where
  /-- Texts as keys, anything as values. -/
  | record
  /-- Anything as keys and values. -/
  | table
  /-- Names of templates as keys, texts as values. -/
  | catalog
deriving DecidableEq, Repr

/-- The entries of a mapping, in the order of their keys. -/
abbrev HostEntries := List (Host × Host)

/-- A key that must not be taken over; the names of templates are never the same as other texts. -/
structure ClaimedKey where
  /-- Whether it is the name of a template. -/
  isName : Bool
  /-- The key. -/
  key : Host

/-- The host value that the entries of a mapping make up. -/
def MappingKind.toHost (kind : MappingKind) (entries : HostEntries) : Host :=
  match kind with
  | .table => .table entries
  | _ => .record (entries.map fun (key, item) => (key.render, item))

/-- Claims a key: nothing if it is claimed already. -/
def claim (kind : MappingKind) (claimed : List ClaimedKey) (key : Host) :
    Meaning (Option (List ClaimedKey)) := do
  if !canBeKey key then throw .unusableKey
  let isName := kind == .catalog
  if claimed.any fun other => other.isName == isName && sameKey key other.key then return none
  return some (⟨isName, key⟩ :: claimed)

/-- Claims a key, if keys are claimed at all: nothing if it is claimed already. -/
def claimIfAny (kind : MappingKind) (claimed : Option (List ClaimedKey)) (key : Host) :
    Meaning (Option (Option (List ClaimedKey))) := do
  match claimed with
  | none => return some none
  | some keys => return (← claim kind keys key).map some

/-- The entries with a value for a key. A template that says nothing is empty, unless there is one
already. -/
def addEntry (entries : HostEntries) (key : Host) (node : Node) (item : Option Host) :
    HostEntries :=
  match item with
  | some host => insertEntry keyOrder (key, host) entries
  | none =>
    if node.isNull ∧ !(entries.any fun entry => sameKey key entry.1) then
      insertEntry keyOrder (key, .text "") entries
    else entries

mutual

/-- The host value of a node; nothing if a fault has been noted. -/
def toHost : Node → Meaning (Option Host)
  | .alias _ none => throw .unreadable
  | .alias _ (some target) => do
    countNode
    following (toHost target)
  | .scalar tag plain text => do
    countNode
    match scalarReading? tag plain text with
    | some (_, host) => return some host
    | none => throw .unreadable
  | .sequence _ items => do
    countNode
    return some (.list (← toHosts items))
  | .mapping _ entries => do
    countNode
    if !Node.keysDiffer entries then
      noteFault
      return none
    let kind : MappingKind :=
      if entries.all fun entry => entry.1.isTextKey then .record else .table
    let (found, _) ← fillMapping kind none entries []
    return some (kind.toHost found)
termination_by node => 8 * sizeOf node
decreasing_by all_goals (simp <;> omega)

/-- The host values of the items of a sequence. -/
def toHosts : List Node → Meaning (List Host)
  | [] => return []
  | first :: others => do
    let host ← toHost first
    return host.toList ++ (← toHosts others)
termination_by nodes => 8 * sizeOf nodes
decreasing_by all_goals (simp <;> omega)

/-- The text of a node; nothing if it says that there is nothing, or if a fault has been noted. -/
def toText : Node → Meaning (Option String)
  | .alias _ none => throw .unreadable
  | .alias _ (some target) => do
    countNode
    following (toText target)
  | .scalar tag plain text => do
    countNode
    match scalarReading? tag plain text with
    | some (.null, _) => return none
    | some (.binary, host) => return some host.render
    | some _ => return some text
    | none => throw .unreadable
  | _ => do
    countNode
    noteFault
    return none
termination_by node => 8 * sizeOf node
decreasing_by all_goals (simp; omega)

/-- Reads a key. -/
def readKey (kind : MappingKind) (node : Node) : Meaning (Option Host) := do
  match kind with
  | .table => toHost node
  | _ => return (← toText node).map .text
termination_by 8 * sizeOf node + 1

/-- Reads a value. -/
def readItem (kind : MappingKind) (node : Node) : Meaning (Option Host) := do
  match kind with
  | .catalog => return (← toText node).map .text
  | _ => toHost node
termination_by 8 * sizeOf node + 1

/-- Reads one entry of a mapping. A key that is claimed is left out, and any other is claimed, if
keys are claimed at all. -/
def fillEntry (kind : MappingKind) (claimed : Option (List ClaimedKey)) (key item : Node)
    (found : HostEntries) : Meaning (HostEntries × Option (List ClaimedKey)) := do
  if key.takesOver then return (found, claimed)
  let some host ← readKey kind key | return (found, claimed)
  let some claims ← claimIfAny kind claimed host | return (found, claimed)
  if !canBeKey host then throw .unreadable
  let value ← readItem kind item
  return (addEntry found host item value, claims)
termination_by 8 * sizeOf key + 8 * sizeOf item + 2

/-- Reads the entries of a mapping itself. -/
def fillEntries (kind : MappingKind) (claimed : Option (List ClaimedKey)) :
    List (Node × Node) → HostEntries → Meaning (HostEntries × Option (List ClaimedKey))
  | [], found => return (found, claimed)
  | (key, item) :: others, found => do
    let (found, claimed) ← fillEntry kind claimed key item found
    fillEntries kind claimed others found
termination_by entries => 8 * sizeOf entries
decreasing_by all_goals (simp <;> omega)

/-- The keys of a mapping, all claimed. -/
def claimKeys (claimed : List ClaimedKey) : List (Node × Node) → Meaning (List ClaimedKey)
  | [] => return claimed
  | (key, _) :: others => do
    match ← toHost key with
    | none => claimKeys claimed others
    | some host => claimKeys ((← claim .table claimed host).getD claimed) others
termination_by entries => 8 * sizeOf entries
decreasing_by all_goals (simp <;> omega)

/-- Reads the entries of a mapping, and then those that it takes over. -/
def fillMapping (kind : MappingKind) (claimed : Option (List ClaimedKey))
    (entries : List (Node × Node)) (found : HostEntries) :
    Meaning (HostEntries × Option (List ClaimedKey)) := do
  let (found, claimed) ← fillEntries kind claimed entries found
  match _ : Node.source? entries with
  | none => return (found, claimed)
  | some source =>
    match claimed with
    | some keys =>
      let (found, keys) ← takeOver kind keys source found
      return (found, some keys)
    | none =>
      let (found, _) ← takeOver kind (← claimKeys [] entries) source found
      return (found, none)
termination_by 8 * sizeOf entries + 1
decreasing_by
  all_goals
    try have smaller := Node.sizeOf_source?_lt (by assumption)
    omega

/-- Takes over the entries of a mapping. -/
def takeOverMapping (kind : MappingKind) (claimed : List ClaimedKey)
    (entries : List (Node × Node)) (found : HostEntries) :
    Meaning (HostEntries × List ClaimedKey) := do
  countNode
  if !Node.keysDiffer entries then
    noteFault
    return (found, claimed)
  let (found, keys) ← fillMapping kind (some claimed) entries found
  return (found, keys.getD claimed)
termination_by 8 * sizeOf entries + 2

/-- Takes over the entries of a mapping or of what a reference to one stands for. -/
def takeOverOne (kind : MappingKind) (claimed : List ClaimedKey) :
    Node → HostEntries → Meaning (HostEntries × List ClaimedKey)
  | .mapping _ entries, found => takeOverMapping kind claimed entries found
  | .alias _ (some (.mapping _ entries)), found => do
    countNode
    following (takeOverMapping kind claimed entries found)
  | _, _ => throw .unreadable
termination_by node => 8 * sizeOf node
decreasing_by all_goals (simp; omega)

/-- Takes over the entries of one mapping after the other. -/
def takeOverAll (kind : MappingKind) (claimed : List ClaimedKey) :
    List Node → HostEntries → Meaning (HostEntries × List ClaimedKey)
  | [], found => return (found, claimed)
  | first :: others, found => do
    let (found, claimed) ← takeOverOne kind claimed first found
    takeOverAll kind claimed others found
termination_by nodes => 8 * sizeOf nodes
decreasing_by all_goals (simp <;> omega)

/-- Takes over the entries of a mapping, or of all mappings of a sequence. -/
def takeOver (kind : MappingKind) (claimed : List ClaimedKey) :
    Node → HostEntries → Meaning (HostEntries × List ClaimedKey)
  | .sequence _ items, found => takeOverAll kind claimed items found
  | node, found => takeOverOne kind claimed node found
termination_by node => 8 * sizeOf node + 1
decreasing_by all_goals simp +arith

end

/-- The entries of a whole document. A document that says nothing has none, and anything other than
a mapping is a fault. -/
def topEntries (kind : MappingKind) (node : Node) : Meaning HostEntries := do
  countNode
  countNode
  match node with
  | .scalar tag plain text =>
    match scalarReading? tag plain text with
    | some (.null, _) => return []
    | _ => throw .unreadable
  | .mapping _ entries =>
    if !Node.keysDiffer entries then throw .unreadable
    return (← fillMapping kind none entries []).1
  | _ => throw .unreadable

/-- The entries of a whole document, with their keys as texts. -/
def documentEntries (kind : MappingKind) (node : Node) :
    Except Trouble (List (String × Host)) := do
  let (entries, tally) ← (topEntries kind node).run {}
  if tally.faulty then throw .unreadable
  return entries.map fun (key, item) => (key.render, item)

end GrammarKit.Document.Yaml
