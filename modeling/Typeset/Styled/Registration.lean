import Typeset.Styled.RuleTable

/-!
# Registrations

A program has the built-in rule table and the tables that it makes, each empty at first.  A
rule is registered on a table directly, or by decorating its function; a decorated rule goes
to the built-in table unless another one is named.  The built-in rules are decorated.
-/

namespace Typeset

/-- A rule table of a program. -/
inductive TableName where
  | builtin
  /-- A table that was made, by its number. -/
  | made (number : Nat)
  deriving DecidableEq

/-- The rule tables of a program. -/
structure Tables where
  /-- The table of a name. -/
  table : TableName → RuleTable

/-- One registration of a rule. -/
inductive Registration where
  /-- A rule is registered on a table. -/
  | direct (target : TableName) (kind : Kind) (rule : Rule)
  /-- A rule is decorated, for a table if one is named. -/
  | decorator (kind : Kind) (named : Option TableName) (rule : Rule)

namespace Registration

/-- The table that gets the rule. -/
def target : Registration → TableName
  | direct target _ _ => target
  | decorator _ named _ => named.getD .builtin

/-- The kind of node that the rule is for. -/
def kind : Registration → Kind
  | direct _ kind _ => kind
  | decorator kind _ _ => kind

/-- The rule. -/
def rule : Registration → Rule
  | direct _ _ rule => rule
  | decorator _ _ rule => rule

end Registration

namespace Tables

/-- Tables on which nothing is registered. -/
def empty : Tables :=
  ⟨fun _ => .empty⟩

/-- Register a rule on one table. -/
def register (tables : Tables) (target : TableName) (kind : Kind) (rule : Rule) : Tables :=
  ⟨fun name =>
    if name = target then (tables.table name).register kind rule else tables.table name⟩

/-- Decorate a rule: it is registered, and it is given back as it was. -/
def decorate (tables : Tables) (kind : Kind) (named : Option TableName) (rule : Rule) :
    Rule × Tables :=
  (rule, tables.register (named.getD .builtin) kind rule)

/-- Carry out a registration. -/
def apply (tables : Tables) : Registration → Tables
  | .direct target kind rule => tables.register target kind rule
  | .decorator kind named rule => (tables.decorate kind named rule).2

/-- Carry out registrations one after the other. -/
def run (tables : Tables) (registrations : List Registration) : Tables :=
  registrations.foldl apply tables

/-- The registrations of the built-in rules: those of the blocks, then those of text. -/
def builtinRegistrations : List Registration :=
  [Kind.heading, .paragraph, .blockquote, .codeBlock, .list, .listItem, .horizontalRule,
    .inlineCode, .strong, .image, .link].map fun kind => .decorator kind none Styled.html

/-- The tables when a program starts. -/
def start : Tables :=
  empty.run builtinRegistrations

end Tables

end Typeset
