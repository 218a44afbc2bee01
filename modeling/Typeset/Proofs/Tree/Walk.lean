import Mathlib.Data.List.Forall2
import Typeset.Proofs.Tree.Postorder

/-!
# Walking a tree

Rules are functions, but nothing in the rendering of a tree depends on that.  Here they may
keep a state from one call to the next, so that it matters which of them are called, in which
order and how often.  The walk goes through the tree as rendering does, and for rules without
a state it is the rendering.

Main statement: each node that needs a rule and is not below an image has its rule called
once, in post-order, with its styled form around the HTML of its children.  The first node
that cannot be built or has no rule ends the walk with its fault, and without such a node the
walk succeeds.
-/

namespace Typeset

/-- Rules that may keep a state from one call to the next, and return a text each time. -/
abbrev TextRules (σ : Type) :=
  Kind → Option (Styled → Settings → StateM σ String)

/-- A call of a rule: what it received and what it returned. -/
structure Call where
  styled : Styled
  settings : Settings
  text : String

namespace TextRules

variable {σ : Type}

/-- The same rules, where all calls are noted beside the state. -/
def noted (rules : TextRules σ) : TextRules (List Call × σ) := fun kind =>
  (rules kind).map fun rule styled settings => do
    let (calls, state) ← get
    let (text, next) := (rule styled settings).run state
    set (calls ++ [⟨styled, settings, text⟩], next)
    return text

/-- Rules without a state. -/
def ofTexts (texts : Kind → Option (Styled → Settings → String)) : TextRules σ := fun kind =>
  (texts kind).map fun rule styled settings => return rule styled settings

/-- Whether there is a rule for a kind. -/
def has (rules : TextRules σ) (kind : Kind) : Bool :=
  (rules kind).isSome

end TextRules

/-- A table of rules without a state, each of which returns a text. -/
def RuleTable.ofTexts (texts : Kind → Option (Styled → Settings → String)) : RuleTable where
  find? kind := (texts kind).map fun rule styled settings => .ok (rule styled settings)

namespace Node

variable {σ : Type}

/-! ## The walk -/

/-- Finish a node whose children are finished. -/
def visit (rules : TextRules σ) (settings : Settings) (node : Node) (inner : String) :
    ExceptT RenderError (StateM σ) String :=
  match node.styled? inner with
  | none => return node.plain inner
  | some (.error error) => throw error
  | some (.ok styled) =>
      match rules styled.kind with
      | some rule => rule styled settings
      | none => throw (.noRule styled.kind)

mutual

/-- Walk through a tree with rules that may keep a state. -/
def walk (rules : TextRules σ) (settings : Settings) :
    Node → ExceptT RenderError (StateM σ) String
  | ⟨role, tag, attributes, content, info, hidden, block, children⟩ => do
      let node : Node := ⟨role, tag, attributes, content, info, hidden, block, children⟩
      let inner ← if role = .image then pure "" else walkAll rules settings children
      visit rules settings node inner

/-- Walk through trees from left to right and join the results. -/
def walkAll (rules : TextRules σ) (settings : Settings) :
    List Node → ExceptT RenderError (StateM σ) String
  | [] => return ""
  | node :: nodes => do
      let first ← walk rules settings node
      let others ← walkAll rules settings nodes
      return first ++ others

end

section Bind

variable {α β : Type} {first : ExceptT RenderError (StateM σ) α}
  {later : α → ExceptT RenderError (StateM σ) β} {state next : σ}

/-- A later step runs in the state that the first one has left. -/
theorem run_bind_of_ok {result : α} (succeeded : first.run.run state = (.ok result, next)) :
    (first >>= later).run.run state = (later result).run.run next := by
  rw [ExceptT.run_bind, StateT.run_bind, succeeded]
  rfl

/-- A later step does not run when the first one has failed. -/
theorem run_bind_of_error {error : RenderError}
    (failed : first.run.run state = (.error error, next)) :
    (first >>= later).run.run state = (.error error, next) := by
  rw [ExceptT.run_bind, StateT.run_bind, failed]
  rfl

end Bind

theorem walk_eq (rules : TextRules σ) (settings : Settings) (tree : Node) :
    tree.walk rules settings =
      walkAll rules settings tree.renderedChildren >>= visit rules settings tree := by
  rcases tree with ⟨role, tag, attributes, content, info, hidden, block, children⟩
  by_cases image : role = .image
  · simp only [walk, renderedChildren, image, if_true, walkAll, pure_bind]
  · simp only [walk, renderedChildren, image, if_false]

/-! ## Faults -/

/-- The error with which a computation has failed. -/
def faultOf {α : Type} : Except RenderError α → Option RenderError
  | .error error => some error
  | .ok _ => none

/-- Why the styled form of a node cannot be built: the level of a heading or the number of a
list is no integer. -/
def buildFault? (node : Node) : Option RenderError :=
  match node.role with
  | .heading => faultOf (headingLevel node.tag)
  | .orderedList => faultOf (listStart node.attributes)
  | _ => none

/-- Why a node cannot be finished: it cannot be built, or there is no rule for its kind. -/
def fault? (has : Kind → Bool) (node : Node) : Option RenderError :=
  match kindOf? node.role with
  | none => none
  | some kind => node.buildFault?.or (if has kind then none else some (.noRule kind))

/-- A node has no styled form, or one that cannot be built, or one of its kind; which of these
does not depend on its children. -/
theorem styled?_outcome (node : Node) (inner : String) :
    (kindOf? node.role = none ∧ node.styled? inner = none) ∨
      ∃ kind, kindOf? node.role = some kind ∧
        ((∃ error, node.buildFault? = some error ∧ node.styled? inner = some (.error error)) ∨
          node.buildFault? = none ∧
            ∃ styled, node.styled? inner = some (.ok styled) ∧ styled.kind = kind) := by
  unfold buildFault? styled?
  cases node.role with
  | heading =>
      refine .inr ⟨.heading, rfl, ?_⟩
      cases headingLevel node.tag with
      | error error => exact .inl ⟨error, rfl, rfl⟩
      | ok level => exact .inr ⟨rfl, _, rfl, rfl⟩
  | orderedList =>
      refine .inr ⟨.list, rfl, ?_⟩
      cases listStart node.attributes with
      | error error => exact .inl ⟨error, rfl, rfl⟩
      | ok start => exact .inr ⟨rfl, _, rfl, rfl⟩
  | root | inline | text | softBreak | hardBreak | htmlBlock | htmlInline | other name =>
      exact .inl ⟨rfl, rfl⟩
  | _ => exact .inr ⟨_, rfl, .inr ⟨rfl, _, rfl, rfl⟩⟩

/-! ## Runs -/

/-- Each visited node that needs a rule has led to one call, in order: with the styled form of
the node around the HTML of its children, and with the settings of the walk. -/
def Called (settings : Settings) (visits : List (Node × String)) (calls : List Call) : Prop :=
  List.Forall₂
    (fun visit call => visit.1.styled? visit.2 = some (.ok call.styled) ∧
      call.settings = settings)
    (visits.filter fun visit => visit.1.isRuled) calls

theorem Called.append {settings : Settings} {visits others : List (Node × String)}
    {calls otherCalls : List Call} (called : Called settings visits calls)
    (othersCalled : Called settings others otherCalls) :
    Called settings (visits ++ others) (calls ++ otherCalls) := by
  unfold Called
  rw [List.filter_append]
  exact List.rel_append called othersCalled

/-- A node that needs no rule leads to no call. -/
theorem Called.of_not_isRuled {settings : Settings} {node : Node}
    (unruled : node.isRuled = false) (inner : String) : Called settings [(node, inner)] [] := by
  unfold Called
  rw [List.filter_cons_of_neg (by simp [unruled])]
  exact .nil

theorem Called.single {settings : Settings} {node : Node} {inner text : String} {styled : Styled}
    (ruled : node.isRuled = true) (styles : node.styled? inner = some (.ok styled)) :
    Called settings [(node, inner)] [⟨styled, settings, text⟩] := by
  unfold Called
  rw [List.filter_cons_of_pos (by simpa using ruled)]
  exact .cons ⟨styles, rfl⟩ .nil

/-- There are as many calls as nodes that need a rule. -/
theorem Called.length_eq {settings : Settings} {visits : List (Node × String)}
    {calls : List Call} (called : Called settings visits calls) :
    (calls.map Call.text).length = (visits.map Prod.fst).countP isRuled := by
  rw [List.length_map, List.countP_map, List.countP_eq_length_filter]
  exact (List.Forall₂.length_eq called).symm

/-- How a walk has ended that was to visit some nodes and has made some calls. -/
inductive Ended (has : Kind → Bool) (settings : Settings) (visits : List (Node × String))
    (html : String) (calls : List Call) : Except RenderError String → Prop
  /-- No node has a fault, and all have been visited. -/
  | returned (faultless : ∀ visit ∈ visits, visit.1.fault? has = none)
      (called : Called settings visits calls) : Ended has settings visits html calls (.ok html)
  /-- The first node with a fault has ended the walk, and only those before it were called. -/
  | stopped {before after : List (Node × String)} {visit : Node × String} {error : RenderError}
      (split : visits = before ++ visit :: after)
      (faultless : ∀ earlier ∈ before, earlier.1.fault? has = none)
      (fault : visit.1.fault? has = some error) (called : Called settings before calls) :
      Ended has settings visits html calls (.error error)

namespace Ended

variable {has : Kind → Bool} {settings : Settings} {visits : List (Node × String)} {html : String}
  {calls : List Call}

/-- A walk that was stopped does not come to what was to be visited later. -/
theorem stopped_append {error : RenderError}
    (ended : Ended has settings visits html calls (.error error))
    (more : List (Node × String)) (other : String) :
    Ended has settings (visits ++ more) other calls (.error error) := by
  cases ended with
  | stopped split faultless fault called =>
      have splitMore := congrArg (· ++ more) split
      rw [List.append_assoc, List.cons_append] at splitMore
      exact .stopped splitMore faultless fault called

/-- A walk that has returned is followed by another one. -/
theorem append {text : String} {others : List (Node × String)} {otherHtml : String}
    {otherCalls : List Call} {outcome : Except RenderError String}
    (ended : Ended has settings visits html calls (.ok text))
    (followed : Ended has settings others otherHtml otherCalls outcome) :
    Ended has settings (visits ++ others) (html ++ otherHtml) (calls ++ otherCalls)
      (outcome.map (text ++ ·)) := by
  cases ended with
  | returned faultless called =>
      cases followed with
      | returned othersFaultless othersCalled =>
          exact .returned (List.forall_mem_append.mpr ⟨faultless, othersFaultless⟩)
            (called.append othersCalled)
      | stopped split othersFaultless fault othersCalled =>
          have faultlessBefore := List.forall_mem_append.mpr ⟨faultless, othersFaultless⟩
          have splitAll := congrArg (visits ++ ·) split
          rw [← List.append_assoc] at splitAll
          exact .stopped splitAll faultlessBefore fault (called.append othersCalled)

end Ended

/-- A walk, with and without notes, visits some nodes and gives some HTML; both may depend on
the texts that the rules return. -/
def Walks (rules : TextRules σ) (settings : Settings)
    (noted : ExceptT RenderError (StateM (List Call × σ)) String)
    (unnoted : ExceptT RenderError (StateM σ) String)
    (visits : List String → List (Node × String)) (html : List String → String) : Prop :=
  ∀ (before : List Call) (state : σ), ∃ calls outcome last,
    noted.run.run (before, state) = (outcome, before ++ calls, last) ∧
      unnoted.run.run state = (outcome, last) ∧
      Ended rules.has settings (visits (calls.map Call.text)) (html (calls.map Call.text)) calls
        outcome

variable {rules : TextRules σ} {settings : Settings}

/-- Trees are walked one after the other. -/
theorem walks_walkAll {trees : List Node}
    (each : ∀ tree ∈ trees, Walks rules settings (tree.walk rules.noted settings)
      (tree.walk rules settings) (visits · tree) (written · tree)) :
    Walks rules settings (walkAll rules.noted settings trees) (walkAll rules settings trees)
      (allVisits · trees) (allWritten · trees) := by
  induction trees with
  | nil =>
      intro before state
      refine ⟨[], .ok "", state, ?_, rfl, .returned (List.forall_mem_nil _) .nil⟩
      rw [List.append_nil]
      rfl
  | cons first others ih =>
      obtain ⟨firstWalks, othersWalk⟩ := List.forall_mem_cons.mp each
      intro before state
      obtain ⟨calls, outcome, next, noted, unnoted, ended⟩ := firstWalks before state
      dsimp only at ended
      rw [walkAll, walkAll]
      cases outcome with
      | error error =>
          refine ⟨calls, .error error, next, run_bind_of_error noted, run_bind_of_error unnoted, ?_⟩
          -- The first tree takes all texts when it has been stopped, and none are left over.
          have short : (calls.map Call.text).length ≤ first.ruleCount := by
            cases ended with
            | stopped split _ _ called =>
                rw [ruleCount, ← map_fst_visits, split, List.map_append, List.countP_append,
                  ← called.length_eq]
                exact Nat.le_add_right _ _
          dsimp only
          rw [allVisits, List.take_of_length_le short]
          exact ended.stopped_append _ _
      | ok front =>
          obtain ⟨otherCalls, otherOutcome, last, otherNoted, otherUnnoted, otherEnded⟩ :=
            ih othersWalk (before ++ calls) next
          have exact : (calls.map Call.text).length = first.ruleCount := by
            cases ended with
            | returned _ called => rw [ruleCount, ← map_fst_visits, called.length_eq]
          rw [List.append_assoc] at otherNoted
          rw [run_bind_of_ok noted, run_bind_of_ok unnoted]
          refine ⟨calls ++ otherCalls, otherOutcome.map (front ++ ·), last, ?_, ?_, ?_⟩
          · cases otherOutcome with
            | error error => exact run_bind_of_error otherNoted
            | ok rest => exact run_bind_of_ok otherNoted
          · cases otherOutcome with
            | error error => exact run_bind_of_error otherUnnoted
            | ok rest => exact run_bind_of_ok otherUnnoted
          · dsimp only
            rw [List.map_append, allVisits_cons_append exact, allWritten_cons_append exact]
            exact ended.append otherEnded

/-- A node that needs no rule is written plainly, one with a fault fails, and every other one
gives its styled form to its rule, whose call is noted. -/
theorem visit_cases (rules : TextRules σ) (settings : Settings) (node : Node) (inner : String)
    (before : List Call) (state : σ) :
    (node.isRuled = false ∧ node.fault? rules.has = none ∧
        (visit rules.noted settings node inner).run.run (before, state) =
          (.ok (node.plain inner), before, state) ∧
        (visit rules settings node inner).run.run state = (.ok (node.plain inner), state)) ∨
      (∃ error, node.fault? rules.has = some error ∧
        (visit rules.noted settings node inner).run.run (before, state) =
          (.error error, before, state) ∧
        (visit rules settings node inner).run.run state = (.error error, state)) ∨
      ∃ styled text next, node.isRuled = true ∧ node.fault? rules.has = none ∧
        node.styled? inner = some (.ok styled) ∧
        (visit rules.noted settings node inner).run.run (before, state) =
          (.ok text, before ++ [⟨styled, settings, text⟩], next) ∧
        (visit rules settings node inner).run.run state = (.ok text, next) := by
  unfold isRuled fault? visit TextRules.has TextRules.noted
  rcases node.styled?_outcome inner with ⟨noKind, unstyled⟩ |
    ⟨kind, hasKind, ⟨error, unbuilt, failed⟩ | ⟨built, styled, styles, rfl⟩⟩
  · rw [noKind, unstyled]
    exact .inl ⟨rfl, rfl, rfl, rfl⟩
  · rw [hasKind, failed]
    simp only [unbuilt]
    exact .inr (.inl ⟨error, rfl, rfl, rfl⟩)
  · rw [hasKind, styles]
    simp only [built]
    cases rules styled.kind with
    | none => exact .inr (.inl ⟨.noRule styled.kind, rfl, rfl, rfl⟩)
    | some rule => exact .inr (.inr ⟨styled, _, _, rfl, rfl, rfl, rfl, rfl⟩)

/-- A node is visited when all its children have been: it adds its own call if it needs a
rule. -/
theorem exists_visit {tree : Node} {calls : List Call}
    (faultless : ∀ visit ∈ allVisits (calls.map Call.text) tree.renderedChildren,
      visit.1.fault? rules.has = none)
    (called : Called settings (allVisits (calls.map Call.text) tree.renderedChildren) calls)
    (before : List Call) (state : σ) :
    ∃ more outcome last,
      (visit rules.noted settings tree
        (allWritten (calls.map Call.text) tree.renderedChildren)).run.run (before, state) =
          (outcome, before ++ more, last) ∧
      (visit rules settings tree
        (allWritten (calls.map Call.text) tree.renderedChildren)).run.run state =
          (outcome, last) ∧
      Ended rules.has settings (tree.visits ((calls ++ more).map Call.text))
        (tree.written ((calls ++ more).map Call.text)) (calls ++ more) outcome := by
  generalize innerIs : allWritten (calls.map Call.text) tree.renderedChildren = inner
  have faultlessAll (noFault : tree.fault? rules.has = none) :
      ∀ visit ∈ allVisits (calls.map Call.text) tree.renderedChildren ++ [(tree, inner)],
        visit.1.fault? rules.has = none :=
    List.forall_mem_append.mpr ⟨faultless, List.forall_mem_singleton.mpr noFault⟩
  rcases visit_cases rules settings tree inner before state with
    ⟨unruled, noFault, noted, unnoted⟩ | ⟨error, fault, noted, unnoted⟩ |
    ⟨styled, text, last, ruled, noFault, styles, noted, unnoted⟩
  · refine ⟨[], _, state, by rw [List.append_nil]; exact noted, unnoted, ?_⟩
    rw [List.append_nil, written_of_not_isRuled unruled, visits_eq, innerIs]
    have uncalled := called.append (Called.of_not_isRuled unruled inner)
    rw [List.append_nil] at uncalled
    exact .returned (faultlessAll noFault) uncalled
  · refine ⟨[], _, state, by rw [List.append_nil]; exact noted, unnoted, ?_⟩
    rw [List.append_nil, visits_eq, innerIs]
    exact .stopped rfl faultless fault called
  · refine ⟨[⟨styled, settings, text⟩], _, last, noted, unnoted, ?_⟩
    -- The children have taken their texts, so that of the new call is the node's own.
    have exact : (calls.map Call.text).length =
        (allPostorder tree.renderedChildren).countP isRuled := by
      rw [called.length_eq, map_fst_allVisits]
    obtain ⟨sameWritten, sameVisits⟩ :=
      allWritten_append_and_allVisits_append (Nat.le_of_eq exact.symm) [text]
    rw [List.map_append, visits_eq]
    simp only [List.map_cons, List.map_nil]
    rw [sameWritten, sameVisits, written_of_isRuled ruled, innerIs]
    exact .returned (faultlessAll noFault) (called.append (.single ruled styles))

/-- A node is visited after its children. -/
theorem walks_walk (tree : Node) :
    Walks rules settings (tree.walk rules.noted settings) (tree.walk rules settings)
      (visits · tree) (written · tree) := by
  induction tree using Node.induction with
  | step tree ih =>
      have children : ∀ child ∈ tree.renderedChildren,
          Walks rules settings (child.walk rules.noted settings) (child.walk rules settings)
            (visits · child) (written · child) := by
        intro child member
        exact ih child (mem_children_of_mem_renderedChildren member)
      intro before state
      obtain ⟨calls, outcome, next, noted, unnoted, ended⟩ := walks_walkAll children before state
      dsimp only at ended
      rw [walk_eq, walk_eq]
      cases outcome with
      | error error =>
          refine ⟨calls, .error error, next, run_bind_of_error noted, run_bind_of_error unnoted, ?_⟩
          dsimp only
          rw [visits_eq]
          exact ended.stopped_append _ _
      | ok inner =>
          cases ended with
          | returned faultless called =>
              obtain ⟨more, outcome, last, visited, visitedUnnoted, visitEnded⟩ :=
                exists_visit faultless called (before ++ calls) next
              rw [List.append_assoc] at visited
              rw [run_bind_of_ok noted, run_bind_of_ok unnoted]
              exact ⟨calls ++ more, outcome, last, visited, visitedUnnoted, visitEnded⟩

/-! ## Tables that agree -/

/-- Rules that agree on the kind of a node treat it alike. -/
theorem visit_congr {other : TextRules σ} {node : Node}
    (agree : ∀ kind, kindOf? node.role = some kind → other kind = rules kind) (inner : String) :
    visit other settings node inner = visit rules settings node inner := by
  unfold visit
  rcases node.styled?_outcome inner with ⟨-, unstyled⟩ |
    ⟨kind, hasKind, ⟨error, -, failed⟩ | ⟨-, styled, styles, rfl⟩⟩
  · rw [unstyled]
  · rw [failed]
  · rw [styles]
    simp only [agree _ hasKind]

/-- Trees are walked alike if each of them is. -/
theorem walkAll_congr {other : TextRules σ} {trees : List Node}
    (each : ∀ tree ∈ trees, tree.walk other settings = tree.walk rules settings) :
    walkAll other settings trees = walkAll rules settings trees := by
  induction trees with
  | nil => rfl
  | cons first others ih =>
      obtain ⟨firstSame, othersSame⟩ := List.forall_mem_cons.mp each
      rw [walkAll, walkAll, firstSame, ih othersSame]

/-- Rules that agree on the kinds of all finished nodes of a tree walk through it alike. -/
theorem walk_congr {other : TextRules σ} {tree : Node}
    (agree : ∀ node ∈ tree.postorder, ∀ kind, kindOf? node.role = some kind →
      other kind = rules kind) :
    tree.walk other settings = tree.walk rules settings := by
  induction tree using Node.induction with
  | step tree ih =>
      obtain ⟨below, root⟩ := forall_mem_postorder_iff.mp agree
      have children : walkAll other settings tree.renderedChildren =
          walkAll rules settings tree.renderedChildren := by
        apply walkAll_congr
        intro child member
        exact ih child (mem_children_of_mem_renderedChildren member) (below child member)
      rw [walk_eq, walk_eq, children]
      exact congrArg _ (funext fun inner => visit_congr root inner)

/-! ## Rules without a state -/

section Stateless

variable (texts : Kind → Option (Styled → Settings → String)) (settings : Settings) (state : σ)

/-- A node is visited as it is finished. -/
theorem run_visit_ofTexts (node : Node) (inner : String) :
    (visit (.ofTexts texts) settings node inner).run.run state =
      (finish (.ofTexts texts) settings node inner, state) := by
  unfold visit finish RuleTable.render
  cases node.styled? inner with
  | none => rfl
  | some built =>
      cases built with
      | error error => rfl
      | ok styled =>
          simp only [TextRules.ofTexts, RuleTable.ofTexts]
          cases texts styled.kind with
          | none => rfl
          | some rule => rfl

/-- Trees are walked as they are rendered if each of them is. -/
theorem run_walkAll_ofTexts {trees : List Node}
    (each : ∀ tree ∈ trees, (tree.walk (.ofTexts texts) settings).run.run state =
      (tree.render (.ofTexts texts) settings, state)) :
    (walkAll (.ofTexts texts) settings trees).run.run state =
      (renderAll (.ofTexts texts) settings trees, state) := by
  induction trees with
  | nil => rfl
  | cons first others ih =>
      obtain ⟨firstRun, othersWalk⟩ := List.forall_mem_cons.mp each
      have othersRun := ih othersWalk
      rw [walkAll, renderAll]
      cases rendered : first.render (.ofTexts texts) settings with
      | error error =>
          rw [rendered] at firstRun
          exact run_bind_of_error firstRun
      | ok front =>
          rw [rendered] at firstRun
          rw [run_bind_of_ok firstRun]
          cases renderedOthers : renderAll (.ofTexts texts) settings others with
          | error error =>
              rw [renderedOthers] at othersRun
              exact run_bind_of_error othersRun
          | ok rest =>
              rw [renderedOthers] at othersRun
              exact run_bind_of_ok othersRun

/-- A walk with rules without a state is a rendering. -/
theorem run_walk_ofTexts (tree : Node) :
    (tree.walk (.ofTexts texts) settings).run.run state =
      (tree.render (.ofTexts texts) settings, state) := by
  induction tree using Node.induction with
  | step tree ih =>
      have childrenRun := run_walkAll_ofTexts texts settings state fun child member =>
        ih child (mem_children_of_mem_renderedChildren member)
      rw [walk_eq, render_eq]
      cases rendered : renderAll (.ofTexts texts) settings tree.renderedChildren with
      | error error =>
          rw [rendered] at childrenRun
          exact run_bind_of_error childrenRun
      | ok inner =>
          rw [rendered] at childrenRun
          rw [run_bind_of_ok childrenRun]
          exact run_visit_ofTexts texts settings state tree inner

end Stateless

/-! ## The order of the calls -/

/-- Whatever the rules of a table do, a walk calls them in the order in which nodes are
finished, once for each node that needs a rule and is not below an image, with the styled form
of the node around the HTML of its children.  The first node that cannot be built or has no
rule ends it with its fault; without such a node it returns the HTML of the tree.  What it does
depends on the rules for the kinds of those nodes only, and with rules without a state it is the
rendering of the tree. -/
theorem walk_in_postorder (rules : TextRules σ) (settings : Settings) (tree : Node) :
    (∀ state, ∃ calls outcome last,
      (tree.walk rules.noted settings).run.run ([], state) = (outcome, calls, last) ∧
        (tree.walk rules settings).run.run state = (outcome, last) ∧
        Ended rules.has settings (tree.visits (calls.map Call.text))
          (tree.written (calls.map Call.text)) calls outcome) ∧
      (∀ other : TextRules σ,
        (∀ node ∈ tree.postorder, ∀ kind, kindOf? node.role = some kind →
          other kind = rules kind) →
        tree.walk other settings = tree.walk rules settings) ∧
      ∀ (texts : Kind → Option (Styled → Settings → String)) (state : σ),
        (tree.walk (.ofTexts texts) settings).run.run state =
          (tree.render (.ofTexts texts) settings, state) := by
  refine ⟨?_, fun _ agree => walk_congr agree, fun texts state =>
    run_walk_ofTexts texts settings state tree⟩
  intro state
  exact walks_walk tree [] state

/-- A horizontal rule with bold text that is never seen, an image labelled with a heading, and a
quotation before a list whose number is not one. -/
def exhibition : Node where
  role := .root
  children :=
    [{ role := .horizontalRule, children := [{ role := .strong }] },
      { role := .image, children := [{ role := .heading, tag := "h1" }] },
      { role := .blockquote, children := [{ role := .paragraph }] },
      { role := .orderedList, attributes := [("start", .text "first")] }]

/-- Rules that number their calls. -/
def numbering : TextRules Nat := fun _ =>
  some fun _ _ => modifyGet fun count : Nat => (Number.intText count, count + 1)

/-- The same rules without one for headings. -/
def numberingBodies : TextRules Nat := fun kind =>
  if kind = .heading then none else numbering kind

theorem walk_in_postorder_exhibition :
    (∃ calls, (exhibition.walk numbering.noted {}).run.run ([], 0) =
        (.error (.notInteger "first"), calls, 5) ∧
      calls.map Call.styled =
        [.strong "", .horizontalRule, .image "" "" none, .paragraph "" false, .blockquote "3"]) ∧
      exhibition.walk numberingBodies {} = exhibition.walk numbering {} := by
  obtain ⟨runs, same, -⟩ := walk_in_postorder numbering {} exhibition
  have noHeading : ∀ node ∈ exhibition.postorder, kindOf? node.role ≠ some .heading := by decide
  refine ⟨?_, same numberingBodies ?_⟩
  · obtain ⟨calls, outcome, last, noted, -, -⟩ := runs 0
    refine ⟨calls, ?_, ?_⟩
    · cases noted
      rfl
    · cases noted
      rfl
  · intro node member kind hasKind
    have notHeading : kind ≠ .heading := by
      rintro rfl
      exact noHeading node member hasKind
    exact if_neg notHeading

end Node

end Typeset
