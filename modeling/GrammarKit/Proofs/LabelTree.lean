import GrammarKit.Host
import GrammarKit.Value
import Mathlib.Data.List.Forall2
/-!
# What the tree of a value shows

A value is printed as a tree with one node on each line, in preorder. Of a node its label is shown,
which is the name of the constructor of a composite and the text of a scalar. In front of a label
there are four columns for each level, of which the last four are a fork and the others are not, so
a line tells where its label begins, whatever the label holds (`LabelTree.Entry.line_injective`).
What is read off all the lines are the depths and labels in preorder, and they belong to one tree
only, because trees at one depth end where the nodes come back above it
(`LabelTree.preorder_injective`). As long as labels hold no line break, two values are therefore
printed alike exactly when they have the same tree of labels (`Value.tree_shows_labels`).
-/

namespace GrammarKit

/-- The texts between the line breaks of a text. -/
def linesOf (text : String) : List String := (text.split '\n').toList.map (·.copy)

/-- An ordered tree of labels. -/
inductive LabelTree where
  /-- A node with a label and the trees below it. -/
  | node (label : String) (branches : List LabelTree)

namespace LabelTree

/-- The label of the root. -/
def label : LabelTree → String
  | .node label _ => label

/-- The trees below the root. -/
def branches : LabelTree → List LabelTree
  | .node _ branches => branches

/-- What holds of no trees, and of some when it holds of the branches of the first and of the
others, holds of any trees. -/
theorem induction_trees {motive : List LabelTree → Prop} (nil : motive [])
    (cons : ∀ label branches others, motive branches → motive others →
      motive (.node label branches :: others)) (trees : List LabelTree) : motive trees :=
  match trees with
  | [] => nil
  | .node label branches :: others =>
    cons label branches others (induction_trees nil cons branches) (induction_trees nil cons others)

/-! ## Preorder -/

mutual

/-- The nodes of a tree in preorder, each with its depth and its label, when its root is at a
certain depth. -/
def preorderAt (depth : Nat) : LabelTree → List (Nat × String)
  | .node label branches => (depth, label) :: preorderAllAt (depth + 1) branches

/-- `preorderAt` tree by tree. -/
def preorderAllAt (depth : Nat) : List LabelTree → List (Nat × String)
  | [] => []
  | first :: others => preorderAt depth first ++ preorderAllAt depth others

end

/-- The nodes of a tree in preorder, each with its depth and its label. -/
def preorder (tree : LabelTree) : List (Nat × String) := tree.preorderAt 0

/-- In preorder there are the root of a first tree, the nodes on its branches, and the other
trees. -/
theorem preorderAllAt_cons (depth : Nat) (label : String) (branches others : List LabelTree) :
    preorderAllAt depth (.node label branches :: others) =
      (depth, label) :: (preorderAllAt (depth + 1) branches ++ preorderAllAt depth others) := rfl

/-- No label holds a line break. -/
def Unbroken (tree : LabelTree) : Prop := ∀ node ∈ tree.preorder, '\n' ∉ node.2.toList

/-- The first of some nodes, if there is one, is above a depth. -/
def Above (depth : Nat) (nodes : List (Nat × String)) : Prop :=
  ∀ node ∈ nodes.head?, node.1 < depth

/-- Trees at a depth are not above it. -/
theorem not_above_preorderAllAt_cons {depth : Nat} {tree : LabelTree} {others : List LabelTree}
    {rest : List (Nat × String)} :
    ¬ Above depth (preorderAllAt depth (tree :: others) ++ rest) := by
  obtain ⟨label, branches⟩ := tree
  exact fun above => Nat.lt_irrefl depth (above (depth, label) rfl)

/-- Trees at a depth, and what is above it after them, are above the next depth. -/
theorem Above.preorderAllAt_append {depth : Nat} {rest : List (Nat × String)}
    (above : Above depth rest) (trees : List LabelTree) :
    Above (depth + 1) (preorderAllAt depth trees ++ rest) := by
  intro node first
  match trees with
  | [] => exact Nat.lt_succ_of_lt (above node first)
  | .node label branches :: others =>
    obtain rfl : (depth, label) = node := Option.some.inj first
    exact Nat.lt_succ_self depth

/-- Trees at a depth end where the nodes come back above it, so what follows them is told apart. -/
theorem preorderAllAt_append_inj {trees trees' : List LabelTree} {depth : Nat}
    {rest rest' : List (Nat × String)} (above : Above depth rest) (above' : Above depth rest')
    (same : preorderAllAt depth trees ++ rest = preorderAllAt depth trees' ++ rest') :
    trees = trees' ∧ rest = rest' := by
  induction trees using induction_trees generalizing depth trees' rest rest' with
  | nil =>
    match trees' with
    | [] => exact ⟨rfl, same⟩
    | tree :: others =>
      have begins : rest = preorderAllAt depth (tree :: others) ++ rest' := same
      exact absurd (begins ▸ above) not_above_preorderAllAt_cons
  | cons label branches others ihBranches ihOthers =>
    match trees' with
    | [] =>
      have begins : preorderAllAt depth (.node label branches :: others) ++ rest = rest' := same
      exact absurd (begins ▸ above') not_above_preorderAllAt_cons
    | .node label' branches' :: others' =>
      simp only [preorderAllAt_cons, List.cons_append, List.append_assoc, List.cons.injEq,
        Prod.mk.injEq, true_and] at same
      obtain ⟨rfl, below⟩ := same
      obtain ⟨rfl, beside⟩ := ihBranches (above.preorderAllAt_append others)
        (above'.preorderAllAt_append others') below
      obtain ⟨rfl, after⟩ := ihOthers above above' beside
      exact ⟨rfl, after⟩

/-- The depths and labels in preorder belong to one tree only. -/
theorem preorder_injective : Function.Injective preorder := by
  intro tree tree' same
  have none : Above 0 [] := fun _ first => nomatch first
  have alone : [tree] = [tree'] :=
    (preorderAllAt_append_inj none none (congrArg (· ++ [] ++ []) same)).1
  exact List.head_eq_of_cons_eq alone

/-! ## Lines -/

/-- The columns below a node and in front of what is on its branches: a stroke as long as there are
nodes to come beside it. -/
def cell (last : Bool) : String := if last then "    " else "│   "

/-- The columns right in front of a label. -/
def fork (last : Bool) : String := if last then "└── " else "├── "

/-- The columns below several nodes, from the outside in. -/
def margin (around : List Bool) : String := String.join (around.map cell)

/-- One node further in, the margin is wider by the columns below that node. -/
theorem margin_append (around : List Bool) (last : Bool) :
    margin (around ++ [last]) = margin around ++ cell last := by
  simp [margin, String.join_append]

/-- A node below the root as it is printed. -/
structure Entry where
  /-- Of each node between the root and this one, whether it is a last branch. -/
  around : List Bool
  /-- Whether this one is. -/
  last : Bool
  /-- The label of the node. -/
  label : String

namespace Entry

/-- The level of a node. -/
def depth (entry : Entry) : Nat := entry.around.length + 1

/-- What stands in front of the label. -/
def rule (entry : Entry) : String := margin entry.around ++ fork entry.last

/-- The line of a node. -/
def line (entry : Entry) : String := entry.rule ++ entry.label

/-- In front of a label there are four columns for each level. -/
theorem length_rule (entry : Entry) : entry.rule.length = 4 * entry.depth := by
  obtain ⟨around, last, label⟩ := entry
  have four (last : Bool) : (cell last).length = 4 ∧ (fork last).length = 4 := by
    cases last <;> exact ⟨rfl, rfl⟩
  have wide : (margin around).length = 4 * around.length := by
    induction around with
    | nil => rfl
    | cons first around ih =>
      rw [margin] at ih ⊢
      rw [List.map_cons, String.join_cons, String.length_append, (four first).1, ih,
        List.length_cons]
      omega
  change (margin around ++ fork last).length = 4 * (around.length + 1)
  rw [String.length_append, wide, (four last).2]
  omega

/-- In front of a label there is no line break. -/
theorem unbroken_rule (entry : Entry) : '\n' ∉ entry.rule.toList := by
  have parts (last : Bool) : '\n' ∉ (cell last).toList ∧ '\n' ∉ (fork last).toList := by
    cases last <;> decide
  simp only [rule, margin, String.toList_append, String.toList_join, List.mem_append,
    List.mem_flatMap, List.mem_map, not_or]
  refine ⟨?_, (parts entry.last).2⟩
  rintro ⟨_, ⟨last, _, rfl⟩, broken⟩
  exact (parts last).1 broken

/-- A node is read off its line: a line that begins with a cell differs in the second column from
one that begins with a fork. -/
theorem line_injective : Function.Injective line := by
  rintro ⟨around, last, label⟩ ⟨around', last', label'⟩ same
  replace same := congrArg String.toList same
  simp only [line, rule, margin, String.toList_append, String.toList_join] at same
  induction around generalizing around' with
  | nil =>
    cases around' with
    | nil => cases last <;> cases last' <;> simp_all [fork, String.toList_inj]
    | cons first around' => cases last <;> cases first <;> simp [fork, cell] at same
  | cons first around ih =>
    cases around' with
    | nil => cases last' <;> cases first <;> simp [fork, cell] at same
    | cons first' around' =>
      cases first <;> cases first' <;> simp [cell] at same ⊢
      all_goals simpa using ih around' (by simpa using same)

end Entry

mutual

/-- The nodes of a tree in preorder as they are printed, with the nodes around it and whether it is
the last branch there. -/
def entries (around : List Bool) (last : Bool) : LabelTree → List Entry
  | .node label branches => ⟨around, last, label⟩ :: entriesAll (around ++ [last]) branches

/-- `entries` branch by branch. -/
def entriesAll (around : List Bool) : List LabelTree → List Entry
  | [] => []
  | first :: others => entries around others.isEmpty first ++ entriesAll around others

end

/-- The nodes are printed in preorder. -/
theorem map_entriesAll (around : List Bool) (trees : List LabelTree) :
    (entriesAll around trees).map (fun entry => (entry.depth, entry.label)) =
      preorderAllAt (around.length + 1) trees := by
  induction trees using induction_trees generalizing around with
  | nil => rfl
  | cons label branches others ihBranches ihOthers =>
    have below := ihBranches (around ++ [others.isEmpty])
    rw [List.length_append, List.length_singleton] at below
    rw [preorderAllAt_cons, entriesAll, List.map_append, ihOthers, ← below]
    rfl

/-- In preorder there are first the root and then the nodes on its branches. -/
theorem preorder_eq (tree : LabelTree) :
    tree.preorder = (0, tree.label) ::
      (entriesAll [] tree.branches).map fun entry => (entry.depth, entry.label) := by
  obtain ⟨label, branches⟩ := tree
  rw [map_entriesAll]
  rfl

/-- The lines of a tree: the label of the root, and a line for each node on its branches. -/
def lines (tree : LabelTree) : List String :=
  tree.label :: (entriesAll [] tree.branches).map Entry.line

/-- On each line there is the label of a node, after four columns for each level. -/
theorem forall₂_lines (tree : LabelTree) :
    List.Forall₂
      (fun line node => ∃ rule : String, rule.length = 4 * node.1 ∧ line = rule ++ node.2)
      tree.lines tree.preorder := by
  rw [lines, preorder_eq]
  refine .cons ⟨"", rfl, String.empty_append.symm⟩ ?_
  rw [List.forall₂_map_left_iff, List.forall₂_map_right_iff, List.forall₂_same]
  exact fun entry _ => ⟨entry.rule, entry.length_rule, rfl⟩

/-- Without line breaks in labels, there are none in lines. -/
theorem Unbroken.lines {tree : LabelTree} (unbroken : tree.Unbroken) :
    ∀ line ∈ tree.lines, '\n' ∉ line.toList := by
  rw [Unbroken, preorder_eq, List.forall_mem_cons, List.forall_mem_map] at unbroken
  rw [LabelTree.lines, List.forall_mem_cons, List.forall_mem_map]
  refine ⟨unbroken.1, fun entry among => ?_⟩
  rw [Entry.line, String.toList_append, List.mem_append, not_or]
  exact ⟨entry.unbroken_rule, unbroken.2 entry among⟩

/-- The lines belong to one tree only. -/
theorem lines_injective : Function.Injective lines := by
  intro tree tree' same
  obtain ⟨root, below⟩ := List.cons.inj same
  have alike : entriesAll [] tree.branches = entriesAll [] tree'.branches :=
    (List.map_inj_right fun _ _ alike => Entry.line_injective alike).mp below
  exact preorder_injective (by rw [preorder_eq, preorder_eq, root, alike])

end LabelTree

namespace Value

open LabelTree (Entry entries entriesAll margin cell fork)

variable {β : Type} [Payload β]

mutual

/-- The labels of a value: of a composite the name of its constructor, of a scalar its text. -/
def labelTree : Value β → LabelTree
  | .data name _ args => .node name (labelTrees args)
  | .list items => .node "list" (labelTrees items)
  | .exception raised => .node "exception" [labelTree raised]
  | scalar => .node scalar.text []

/-- `labelTree` item by item. -/
def labelTrees : List (Value β) → List LabelTree
  | [] => []
  | first :: others => labelTree first :: labelTrees others

end

/-! ## The printed tree -/

/-- The lines of nodes, each after a line break. -/
def printed (nodes : List Entry) : String := String.join (nodes.map fun node => "\n" ++ node.line)

/-- What is printed of a branch and of the branches after it. -/
theorem printed_entriesAll_cons (around : List Bool) (tree : LabelTree)
    (others : List LabelTree) :
    printed (entriesAll around (tree :: others)) =
      "\n" ++ margin around ++ fork others.isEmpty ++
        (tree.label ++ printed (entriesAll (around ++ [others.isEmpty]) tree.branches)) ++
        printed (entriesAll around others) := by
  obtain ⟨label, branches⟩ := tree
  simp [entriesAll, entries, printed, Entry.line, Entry.rule, LabelTree.label, LabelTree.branches,
    String.append_assoc]

/-- An exception is printed like a node with one branch. -/
theorem treeBelow_exception (margin : String) (raised : Value β) :
    treeBelow margin (.exception raised) = "exception" ++ branches margin [raised] := by
  have head : "exception\n" = "exception" ++ "\n" := rfl
  rw [treeBelow, branches, head]
  simp only [String.append_assoc]

/-- What is printed of a last branch, given what is printed of its value. -/
theorem branches_last {around : List Bool} {last : Value β}
    (below : last.treeBelow (margin (around ++ [true])) =
      last.labelTree.label ++ printed (entriesAll (around ++ [true]) last.labelTree.branches)) :
    branches (margin around) [last] = printed (entriesAll around [last.labelTree]) := by
  rw [LabelTree.margin_append] at below
  rw [printed_entriesAll_cons, List.isEmpty_nil, ← below, branches]
  simp [fork, cell, entriesAll, printed]

mutual

/-- Among others, a value is printed as its label and a line for each node on its branches. -/
theorem treeBelow_eq (around : List Bool) : (value : Value β) →
    value.treeBelow (margin around) =
      value.labelTree.label ++ printed (entriesAll around value.labelTree.branches)
  | .data name _ args => congrArg (name ++ ·) (branches_eq around args)
  | .list items => congrArg ("list" ++ ·) (branches_eq around items)
  | .exception raised => by
    rw [treeBelow_exception, branches_last (treeBelow_eq (around ++ [true]) raised)]
    rfl
  | .int _ | .bool _ | .char _ | .string _ | .symbol _ | .box _ => String.append_empty.symm

/-- `treeBelow_eq` branch by branch. -/
theorem branches_eq (around : List Bool) : (values : List (Value β)) →
    branches (margin around) values = printed (entriesAll around (labelTrees values))
  | [] => by simp [branches, labelTrees, entriesAll, printed]
  | [last] => branches_last (treeBelow_eq (around ++ [true]) last)
  | first :: second :: others => by
    have below := treeBelow_eq (around ++ [false]) first
    have beside := branches_eq around (second :: others)
    rw [LabelTree.margin_append] at below
    rw [labelTrees, printed_entriesAll_cons, ← beside, labelTrees, List.isEmpty_cons, ← below,
      branches]
    simp [fork, cell]

end

/-- Lines with line breaks between them are the first one and each other after a line break. -/
theorem intercalate_lines (first : String) (nodes : List Entry) :
    "\n".intercalate (first :: nodes.map Entry.line) = first ++ printed nodes := by
  induction nodes generalizing first with
  | nil => simp [printed]
  | cons node nodes ih =>
    rw [List.map_cons, String.intercalate_cons_cons, ih]
    simp [printed, String.append_assoc]

/-- A value is printed as the lines of its labels. -/
theorem tree_eq (value : Value β) : value.tree = "\n".intercalate value.labelTree.lines := by
  rw [LabelTree.lines, intercalate_lines]
  exact treeBelow_eq [] value

/-- Without line breaks in labels, the lines of the text are the lines of the labels. -/
theorem linesOf_tree {value : Value β} (unbroken : value.labelTree.Unbroken) :
    linesOf value.tree = value.labelTree.lines := by
  have split := String.toList_split_intercalate unbroken.lines
  rw [tree_eq]
  exact split.trans (if_neg (List.cons_ne_nil _ _))

/-- As long as no label holds a line break, a value is printed with one line for each node, in
preorder, and each line is the label of its node after four columns for each level. Two such values
are printed alike exactly when their labels form the same tree. -/
theorem tree_shows_labels {value : Value β} (unbroken : value.labelTree.Unbroken) :
    List.Forall₂
        (fun line node => ∃ rule : String, rule.length = 4 * node.1 ∧ line = rule ++ node.2)
        (linesOf value.tree) value.labelTree.preorder ∧
      ∀ other : Value β, other.labelTree.Unbroken →
        (value.tree = other.tree ↔ value.labelTree = other.labelTree) := by
  refine ⟨linesOf_tree unbroken ▸ value.labelTree.forall₂_lines, fun other unbroken' => ?_⟩
  constructor
  · intro same
    apply LabelTree.lines_injective
    rw [← linesOf_tree unbroken, ← linesOf_tree unbroken', same]
  · intro same
    rw [tree_eq, tree_eq, same]

/-- A raised value beside a list. -/
def raisedBesideList : Value Host :=
  .data "pair" "" [.exception (.data "at" "" [.int 7]), .list []]

/-- The same labels in the same shape, but only of data and names. -/
def namesAlone : Value Host :=
  .data "pair" "tagged" [.data "exception" "" [.data "at" "place" [.symbol "7"]], .symbol "list"]

/-- The same labels in the same order, but the list is raised with the rest. -/
def raisedWithList : Value Host :=
  .data "pair" "" [.exception (.data "at" "" [.int 7, .list []])]

/-- Different values with the same labels in the same shape are printed alike, on a line for each
label; in another shape they are printed otherwise. -/
theorem tree_shows_labels_raisedBesideList :
    raisedBesideList.labelTree.Unbroken ∧ (linesOf raisedBesideList.tree).length = 5 ∧
      raisedBesideList.tree = namesAlone.tree ∧ raisedBesideList.tree ≠ raisedWithList.tree := by
  have labels : raisedBesideList.labelTree =
      .node "pair" [.node "exception" [.node "at" [.node "7" []]], .node "list" []] := rfl
  have other : raisedWithList.labelTree =
      .node "pair" [.node "exception" [.node "at" [.node "7" [], .node "list" []]]] := rfl
  have same : raisedBesideList.labelTree = namesAlone.labelTree := rfl
  have unbroken : raisedBesideList.labelTree.Unbroken := by
    rw [labels]
    unfold LabelTree.Unbroken
    decide
  have unbroken' : raisedWithList.labelTree.Unbroken := by
    rw [other]
    unfold LabelTree.Unbroken
    decide
  obtain ⟨shown, told⟩ := tree_shows_labels unbroken
  refine ⟨unbroken, shown.length_eq, (told namesAlone (same ▸ unbroken)).mpr same, fun alike => ?_⟩
  have shapes := (told raisedWithList unbroken').mp alike
  simp [labels, other] at shapes

end Value

end GrammarKit
