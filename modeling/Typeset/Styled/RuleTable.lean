import Typeset.Styled.Html

/-!
# Rule tables

A rule table holds at most one rule for every kind of node.  Registering a rule
replaces the one that the kind had before.
-/

namespace Typeset

/-- A styling rule. -/
abbrev Rule := Styled → Settings → Except RenderError String

/-- Rules by the kind of node that they render. -/
structure RuleTable where
  /-- The rule of a kind. -/
  find? : Kind → Option Rule

namespace RuleTable

/-- The table without rules. -/
def empty : RuleTable :=
  ⟨fun _ => none⟩

/-- Register a rule for a kind. -/
def register (table : RuleTable) (kind : Kind) (rule : Rule) : RuleTable :=
  ⟨fun other => if other = kind then some rule else table.find? other⟩

/-- The kinds that have a rule. -/
def kinds (table : RuleTable) : List Kind :=
  Kind.all.filter fun kind => (table.find? kind).isSome

/-- Whether a kind with the given name has a rule. -/
def containsName (table : RuleTable) (name : String) : Bool :=
  table.kinds.any (·.name == name)

/-- The names of the kinds that have a rule, in alphabetical order. -/
def kindNames (table : RuleTable) : List String :=
  (table.kinds.map Kind.name).mergeSort

/-- Render a node with the rule of its kind. -/
def render (table : RuleTable) (node : Styled) (settings : Settings) :
    Except RenderError String :=
  match table.find? node.kind with
  | some rule => rule node settings
  | none => .error (.noRule node.kind)

/-- The table that gives every listed kind the same rule. -/
def uniform (kinds : List Kind) (rule : Rule) : RuleTable :=
  ⟨fun kind => if kind ∈ kinds then some rule else none⟩

/-- The table of the built-in rules. -/
def builtin : RuleTable :=
  uniform Kind.all Styled.html

/-- A table answers with the rule that was registered last for a kind. -/
theorem find?_register (table : RuleTable) (kind other : Kind) (rule : Rule) :
    (table.register kind rule).find? other =
      if other = kind then some rule else table.find? other :=
  rfl

/-- A kind is listed exactly when it has a rule. -/
theorem mem_kinds_iff {table : RuleTable} {kind : Kind} :
    kind ∈ table.kinds ↔ (table.find? kind).isSome = true := by
  simp [kinds, Kind.mem_all]

@[simp]
theorem find?_builtin (kind : Kind) : builtin.find? kind = some Styled.html := by
  simp [builtin, uniform, Kind.mem_all]

end RuleTable

end Typeset
