import GrammarKit.Host
import GrammarKit.Proofs.Irrelevance
/-!
# Blocks as binds

A block is written for binds inside each other. Its first step is fed to the block of the others
exactly as a bind feeds it (`Evaluator.alikeThrough_block`), at every limit on nesting: the block of
the others is taken up one level below, where the value of the first step has been taken up already.
Without a limit it does not matter that steps stand lower in a block than in the binds, and the
block comes to the binds all the way down (`Evaluator.alikeThrough_nested`).
-/

namespace GrammarKit

variable {β γ : Type}

namespace Expr

/-- The binds that a block of steps stands for. The name of the last step is left out. -/
def nested (tag : String) : List (Step (Expr β)) → Expr β
  | [] => .block tag []
  | [last] => last.value
  | first :: second :: others => .bind tag first.value first.name (nested tag (second :: others))

/-- A block has a text when the values of its steps have. -/
theorem isSome_text?_block [Payload β] {steps : List (Step (Expr β))}
    (shown : ∀ step ∈ steps, step.value.text?.isSome) (tag : String) :
    (block tag steps).text?.isSome :=
  (isSome_textWith? _ _).mpr ⟨rfl, List.forall_mem_map.mpr shown⟩

end Expr

namespace Evaluator

variable {evaluator : Evaluator β}

variable [Payload β]

section Views

variable {view : Ledger → γ} (blind : evaluator.Blind view)
  (hidden : evaluator.trace = true → HidesTrace view)

include blind hidden

/-- Two forms that look up the context of a tag are evaluated alike when they go on alike with
it. -/
theorem alikeThrough_takeUp_contextFor {expression expression' : Expr β} {depth : Nat}
    (texts : evaluator.trace = true → expression.text?.isSome = expression'.text?.isSome)
    {tag : String} {next next' : Context β → Run (Value β)}
    (after : ∀ context, evaluator.context? tag = some context →
      (next context).AlikeThrough view (next' context)) :
    (evaluator.takeUp expression depth (evaluator.contextFor tag >>= next)).AlikeThrough view
      (evaluator.takeUp expression' depth (evaluator.contextFor tag >>= next')) := by
  refine (Correspondence.through view blind hidden).takeUp ⟨.rfl, texts⟩ ?_
  cases found : evaluator.context? tag with
  | none =>
    rw [contextFor_bind_of_missing found, contextFor_bind_of_missing found]
    exact .stop _
  | some context =>
    rw [contextFor_bind found, contextFor_bind found]
    exact after context found

/-- A block of several steps is a bind of the first to the block of the others. -/
theorem alikeThrough_block (tag : String) (first second : Step (Expr β))
    (others : List (Step (Expr β)))
    (shown : evaluator.trace = true →
      ∀ step ∈ first :: second :: others, step.value.text?.isSome) (env : Env β) (depth : Nat) :
    (evaluator.evalAt (.block tag (first :: second :: others)) env depth).AlikeThrough view
      (evaluator.evalAt (.bind tag first.value first.name (.block tag (second :: others))) env
        depth) := by
  rw [evalAt, evalAt]
  apply alikeThrough_takeUp_contextFor blind hidden
  · exact fun traced => Expr.isSome_text?_block (shown traced) tag
  intro context found
  rw [evalSteps]
  by_cases deeper : evaluator.Beyond (depth + 1)
  · -- The first step is cut off, and so the block of the others is not taken up.
    rw [evalAt_beyond deeper]
    exact .give _
  · apply (Correspondence.through view blind hidden).unlessRaised
    · exact alikeThrough_of_agrees blind hidden (.refl env) first.value _
    intro value _
    apply blind.contexts found
    intro item
    have shownOthers (traced : evaluator.trace = true) :=
      Expr.isSome_text?_block (List.forall_mem_cons.mp (shown traced)).2 tag
    rw [evalAt]
    refine (alikeThrough_takeUp deeper hidden shownOthers ?_).symm
    rw [contextFor_bind found]
    exact alikeThrough_evalSteps blind hidden found (second :: others) _ _

/-- A step without a name binds nothing: it may as well bind a name that the later steps do not
mention. -/
theorem alikeThrough_block_unnamed (tag : String) {name : String} (value : Expr β)
    (second : Step (Expr β)) (others : List (Step (Expr β)))
    (unread : name ∉ Expr.freeNamesSteps (second :: others)) (env : Env β) (depth : Nat) :
    (evaluator.evalAt (.block tag (⟨"", value⟩ :: second :: others)) env depth).AlikeThrough view
      (evaluator.evalAt (.block tag (⟨name, value⟩ :: second :: others)) env depth) := by
  rw [evalAt, evalAt]
  apply alikeThrough_takeUp_contextFor blind hidden
  · intro _
    rw [Bool.eq_iff_iff, Expr.text?, Expr.text?, Expr.isSome_textWith?, Expr.isSome_textWith?]
    rfl
  intro context found
  rw [evalSteps, evalSteps]
  apply (Correspondence.through view blind hidden).unlessRaised
  · exact alikeThrough_of_agrees blind hidden (.refl env) value _
  intro result _
  apply blind.contexts found
  intro item
  rw [if_pos rfl]
  split
  · exact alikeThrough_evalSteps blind hidden found (second :: others) _ _
  · exact (alikeThrough_evalSteps_bind blind hidden found unread item env _).symm

/-- Without a limit steps are evaluated like the binds they stand for. -/
theorem alikeThrough_evalSteps_nested (unlimited : ¬ 0 < evaluator.maxDepth) {tag : String}
    {context : Context β} (found : evaluator.context? tag = some context)
    (first : Step (Expr β)) (others : List (Step (Expr β))) (env : Env β) (depth depth' : Nat) :
    (evaluator.evalSteps context (first :: others) env depth).AlikeThrough view
      (evaluator.evalAt (.nested tag (first :: others)) env depth') := by
  induction others generalizing first env depth depth' with
  | nil =>
    rw [evalSteps]
    exact alikeThrough_evalAt blind hidden unlimited (.refl env) first.value depth depth'
  | cons second others ih =>
    rw [evalSteps, Expr.nested, evalAt]
    refine (alikeThrough_takeUp (not_beyond unlimited depth') hidden (fun _ => rfl) ?_).symm
    rw [contextFor_bind found]
    apply (Correspondence.through view blind hidden).unlessRaised
    · exact alikeThrough_evalAt blind hidden unlimited (.refl env) first.value _ _
    intro value _
    exact blind.contexts found value fun item => (ih second _ _ _).symm

/-- Without a limit a block is evaluated like the binds it stands for, when its tag is known or
there is a bind. -/
theorem alikeThrough_nested (unlimited : ¬ 0 < evaluator.maxDepth) (tag : String)
    (first : Step (Expr β)) (others : List (Step (Expr β)))
    (known : others = [] → (evaluator.context? tag).isSome)
    (shown : evaluator.trace = true → ∀ step ∈ first :: others, step.value.text?.isSome)
    (env : Env β) (depth : Nat) :
    (evaluator.evalAt (.block tag (first :: others)) env depth).AlikeThrough view
      (evaluator.evalAt (.nested tag (first :: others)) env depth) := by
  cases found : evaluator.context? tag with
  | some context =>
    rw [evalAt]
    refine alikeThrough_takeUp (not_beyond unlimited depth) hidden
      (fun traced => Expr.isSome_text?_block (shown traced) tag) ?_
    rw [contextFor_bind found]
    exact alikeThrough_evalSteps_nested blind hidden unlimited found first others env _ _
  | none =>
    cases others with
    | nil => exact absurd (known rfl) (by simp [found])
    | cons second others =>
      rw [Expr.nested, evalAt, evalAt]
      apply alikeThrough_takeUp_contextFor blind hidden
      · exact fun traced => Expr.isSome_text?_block (shown traced) tag
      · exact fun context there => absurd (there.symm.trans found) (Option.some_ne_none context)

end Views

/-- A block of steps has the outcome, value or fault, of the binds it stands for. At every limit on
nesting and for every tag, known or not, a block of several steps has that of a bind of the first to
the block of the others, and a first step without a name binds nothing. Without a limit a block has
that of binds inside each other all the way down, the last step being evaluated for itself; for a
single step the tag has to be known, since the block looks it up although it feeds nothing to it.
Under a trace functions and contexts must not look at it, and steps need texts. -/
theorem outcome_block (unseen : evaluator.trace = true → evaluator.Blind Ledger.untraced)
    (tag : String) {steps : List (Step (Expr β))}
    (shown : evaluator.trace = true → ∀ step ∈ steps, step.value.text?.isSome) (env : Env β)
    (depth : Nat) (ledger : Ledger) :
    (∀ first second others, steps = first :: second :: others →
      (evaluator.evalAt (.block tag steps) env depth).outcome ledger =
        (evaluator.evalAt (.bind tag first.value first.name (.block tag (second :: others))) env
          depth).outcome ledger) ∧
    (∀ value second others name, steps = ⟨"", value⟩ :: second :: others →
      name ∉ Expr.freeNamesSteps (second :: others) →
      (evaluator.evalAt (.block tag steps) env depth).outcome ledger =
        (evaluator.evalAt (.block tag (⟨name, value⟩ :: second :: others)) env depth).outcome
          ledger) ∧
    (¬ 0 < evaluator.maxDepth → steps ≠ [] →
      (steps.length = 1 → (evaluator.context? tag).isSome) →
      (evaluator.evalAt (.block tag steps) env depth).outcome ledger =
        (evaluator.evalAt (.nested tag steps) env depth).outcome ledger) := by
  refine ⟨?_, ?_, ?_⟩
  · rintro first second others rfl
    exact outcome_eq_of_alikeThrough unseen (fun view blind hidden =>
      alikeThrough_block blind hidden tag first second others shown env depth) ledger
  · rintro value second others name rfl unread
    exact outcome_eq_of_alikeThrough unseen (fun view blind hidden =>
      alikeThrough_block_unnamed blind hidden tag value second others unread env depth) ledger
  · intro unlimited nonempty known
    obtain ⟨first, others, rfl⟩ := List.exists_cons_of_ne_nil nonempty
    have knownAlone : others = [] → (evaluator.context? tag).isSome :=
      fun alone => known (by rw [alone, List.length_singleton])
    exact outcome_eq_of_alikeThrough unseen (fun view blind hidden =>
      alikeThrough_nested blind hidden unlimited tag first others knownAlone shown env depth) ledger

/-- Steps of which the first has no name and the last has one. -/
def doubling : List (Step (Expr Host)) :=
  [⟨"", .int 1⟩, ⟨"x", .call "double" [.int 2]⟩, ⟨"z", .call "plus" [.var "x", .int 1]⟩]

/-- A traced block in a context that counts is the binds it stands for. -/
theorem outcome_block_doubling :
    ((counting.limitedTo 0).trace = true → (counting.limitedTo 0).Blind Ledger.untraced) ∧
      (∀ step ∈ doubling, step.value.text?.isSome) ∧ ¬ 0 < (counting.limitedTo 0).maxDepth ∧
      "w" ∉ Expr.freeNamesSteps doubling.tail ∧
      ((counting.limitedTo 0).evalAt (.block "seen" doubling) .empty 0).outcome {} =
        ((counting.limitedTo 0).evalAt (.bind "seen" (.int 1) "" (.block "seen" doubling.tail))
          .empty 0).outcome {} ∧
      ((counting.limitedTo 0).evalAt (.block "seen" doubling) .empty 0).outcome {} =
        ((counting.limitedTo 0).evalAt (.block "seen" (⟨"w", .int 1⟩ :: doubling.tail)) .empty
          0).outcome {} ∧
      ((counting.limitedTo 0).evalAt (.block "seen" doubling) .empty 0).outcome {} =
        ((counting.limitedTo 0).evalAt (.bind "seen" (.int 1) "" (.bind "seen"
          (.call "double" [.int 2]) "x" (.call "plus" [.var "x", .int 1]))) .empty 0).outcome {} ∧
      ((counting.limitedTo 0).evalAt (.block "seen" doubling) .empty 0).outcome {} =
        .ok (.int 5) := by
  have blind : counting.Blind Ledger.untraced :=
    ((blind_new Ledger.untraced 50 true).defineRecursive "double" ["x"] _).registerCounted "seen"
      .count
  have unseen : (counting.limitedTo 0).Blind Ledger.untraced := ⟨blind.functions, blind.contexts⟩
  have shown : ∀ step ∈ doubling, step.value.text?.isSome := by
    simp only [doubling, List.forall_mem_cons, List.not_mem_nil, false_implies, implies_true]
    exact ⟨rfl, rfl, rfl, trivial⟩
  obtain ⟨bound, unnamed, nested⟩ := outcome_block (fun _ => unseen) "seen" (fun _ => shown) .empty
    0 {}
  have unread : "w" ∉ Expr.freeNamesSteps doubling.tail := by decide
  have unlimited : ¬ 0 < (counting.limitedTo 0).maxDepth := by decide
  exact ⟨fun _ => unseen, shown, unlimited, unread, bound ⟨"", .int 1⟩ _ _ rfl,
    unnamed (.int 1) _ _ "w" rfl unread, nested unlimited nofun nofun, rfl⟩

/-- Without its two conditions the law of blocks fails. A block of a single step looks up its tag
although it has no bind, and under a trace a hole keeps a block from being taken up where a bind
shows it and goes on. -/
theorem not_outcome_block_eq_binds :
    (¬ ∀ (tag : String) (step : Step (Expr Host)),
      ((new 0 false).evalAt (.block tag [step]) .empty 0).outcome {} =
        ((new 0 false).evalAt (.nested tag [step]) .empty 0).outcome {}) ∧
    (¬ ∀ (tag : String) (first second : Step (Expr Host)),
      ((new 0 true).evalAt (.block tag [first, second]) .empty 0).outcome {} =
        ((new 0 true).evalAt (.bind tag first.value first.name (.block tag [second])) .empty
          0).outcome {}) := by
  constructor
  · intro same
    have unknown : (Except.error (.unregisteredContext "state") : Except EvalFault (Value Host)) =
        .ok (.int 1) := same "state" ⟨"", .int 1⟩
    cases unknown
  · intro same
    have untraceable : (Except.error .untraceable : Except EvalFault (Value Host)) =
        .ok (.exception (.int 1)) := same "exception" ⟨"", .raise (.int 1)⟩ ⟨"", .absent⟩
    cases untraceable

end Evaluator

end GrammarKit
