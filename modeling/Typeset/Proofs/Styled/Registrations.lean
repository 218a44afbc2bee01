import Typeset.Proofs.Basic
import Typeset.Styled.Registration

/-!
# Runs of registrations

One registration changes the rule of one kind on one table.  After any number of them each kind
has, on each table, the rule that was registered last for it there.

Main statement: `registrations_decide`.
-/

namespace Typeset

variable {tables : Tables} {registration : Registration} {registrations : List Registration}
  {name : TableName} {kind : Kind} {rule : Rule}

/-! ## One registration -/

namespace Registration

/-- A registration is for a kind on a table. -/
def On (registration : Registration) (name : TableName) (kind : Kind) : Prop :=
  registration.target = name ∧ registration.kind = kind

instance : Decidable (registration.On name kind) :=
  inferInstanceAs (Decidable (_ ∧ _))

end Registration

namespace Tables

/-- Tables with the same rules are the same. -/
theorem eq_of_find?_eq {first second : Tables}
    (same : ∀ name kind, (first.table name).find? kind = (second.table name).find? kind) :
    first = second := by
  cases first
  cases second
  rw [Tables.mk.injEq]
  funext name
  rw [RuleTable.mk.injEq]
  funext kind
  exact same name kind

/-- Both ways of registering do the same. -/
theorem apply_eq_register (tables : Tables) (registration : Registration) :
    tables.apply registration =
      tables.register registration.target registration.kind registration.rule := by
  cases registration with
  | direct target kind rule => rfl
  | decorator kind named rule => rfl

/-- A registration gives its rule to its kind on its table, and changes nothing else. -/
theorem find?_apply (tables : Tables) (registration : Registration) (name : TableName)
    (kind : Kind) :
    ((tables.apply registration).table name).find? kind =
      if registration.On name kind then some registration.rule
      else (tables.table name).find? kind := by
  rw [apply_eq_register, register]
  dsimp only
  by_cases target : name = registration.target
  · subst target
    simp [Registration.On, RuleTable.find?_register, eq_comm]
  · simp [Registration.On, target, Ne.symm target]

/-- Registrations for different kinds or on different tables can change places. -/
theorem apply_comm {first second : Registration}
    (different : first.target ≠ second.target ∨ first.kind ≠ second.kind) :
    (tables.apply first).apply second = (tables.apply second).apply first := by
  apply eq_of_find?_eq
  intro name kind
  rw [find?_apply, find?_apply, find?_apply, find?_apply]
  by_cases onFirst : first.On name kind
  · by_cases onSecond : second.On name kind
    · rcases different with targets | kinds
      · exact absurd (onFirst.1.trans onSecond.1.symm) targets
      · exact absurd (onFirst.2.trans onSecond.2.symm) kinds
    · rw [if_neg onSecond, if_pos onFirst, if_pos onFirst]
  · rw [if_neg onFirst, if_neg onFirst]

theorem table_apply_of_ne (other : registration.target ≠ name) :
    (tables.apply registration).table name = tables.table name := by
  rw [apply_eq_register, register]
  exact if_neg (Ne.symm other)

/-! ## Runs -/

theorem run_cons (tables : Tables) (registration : Registration)
    (registrations : List Registration) :
    tables.run (registration :: registrations) = (tables.apply registration).run registrations :=
  rfl

theorem run_append (tables : Tables) (first second : List Registration) :
    tables.run (first ++ second) = (tables.run first).run second :=
  List.foldl_append

end Tables

/-- The rule that is registered last for a kind on a table. -/
def LastRegistered (registrations : List Registration) (name : TableName) (kind : Kind)
    (rule : Rule) : Prop :=
  ∃ before registration after, registrations = before ++ registration :: after ∧
    (registration.On name kind ∧ registration.rule = rule) ∧
    ∀ later ∈ after, ¬later.On name kind

theorem not_lastRegistered_nil : ¬LastRegistered [] name kind rule := by
  rintro ⟨before, registration, after, split, -⟩
  cases before <;> cases split

theorem lastRegistered_cons_iff :
    LastRegistered (registration :: registrations) name kind rule ↔
      LastRegistered registrations name kind rule ∨
        (registration.On name kind ∧ registration.rule = rule) ∧
          ∀ later ∈ registrations, ¬later.On name kind :=
  exists_last_cons_iff

/-- Other registrations do not matter for what is registered last. -/
theorem lastRegistered_filter_iff :
    LastRegistered (registrations.filter fun other => other.On name kind) name kind rule ↔
      LastRegistered registrations name kind rule := by
  induction registrations with
  | nil => rfl
  | cons registration registrations ih =>
      rw [lastRegistered_cons_iff]
      by_cases on : registration.On name kind
      · rw [List.filter_cons_of_pos (by simpa using on), lastRegistered_cons_iff, ih]
        simp
      · rw [List.filter_cons_of_neg (by simpa using on), ih]
        simp [on]

/-- After a run a kind has the rule that was registered last, or the one it had. -/
theorem Tables.find?_run_eq_some_iff :
    ((tables.run registrations).table name).find? kind = some rule ↔
      LastRegistered registrations name kind rule ∨
        (∀ registration ∈ registrations, ¬registration.On name kind) ∧
          (tables.table name).find? kind = some rule := by
  induction registrations generalizing tables with
  | nil => simp [Tables.run, not_lastRegistered_nil]
  | cons registration registrations ih =>
      rw [Tables.run_cons, ih, Tables.find?_apply, lastRegistered_cons_iff, List.forall_mem_cons]
      by_cases on : registration.On name kind
      · simp [on, and_comm]
      · simp [on]

namespace Tables

theorem find?_run_empty_eq_some_iff :
    ((empty.run registrations).table name).find? kind = some rule ↔
      LastRegistered registrations name kind rule := by
  have none : (empty.table name).find? kind ≠ some rule := nofun
  rw [find?_run_eq_some_iff, or_iff_left fun both => none both.2]

/-- A kind has a rule exactly when one was registered for it or it had one. -/
theorem isSome_find?_run_iff :
    (((tables.run registrations).table name).find? kind).isSome = true ↔
      (∃ registration ∈ registrations, registration.On name kind) ∨
        ((tables.table name).find? kind).isSome = true := by
  induction registrations generalizing tables with
  | nil => simp [run]
  | cons registration registrations ih =>
      rw [run_cons, ih, find?_apply]
      by_cases on : registration.On name kind
      · simp [on]
      · simp [on]

theorem isSome_find?_run_empty_iff :
    (((empty.run registrations).table name).find? kind).isSome = true ↔
      ∃ registration ∈ registrations, registration.On name kind := by
  rw [isSome_find?_run_iff, or_iff_left nofun]

/-- The rules that a run leaves depend only on which rules are registered, in which order, for
each kind on each table. -/
theorem run_eq_of_filter_eq {first second : List Registration}
    (same : ∀ name kind, first.filter (fun registration => registration.On name kind) =
      second.filter fun registration => registration.On name kind) :
    tables.run first = tables.run second := by
  apply eq_of_find?_eq
  intro name kind
  have last : ∀ rule, LastRegistered first name kind rule ↔
      LastRegistered second name kind rule := by
    intro rule
    rw [← lastRegistered_filter_iff, same, lastRegistered_filter_iff]
  have none : (∀ registration ∈ first, ¬registration.On name kind) ↔
      ∀ registration ∈ second, ¬registration.On name kind := by
    have empty := congrArg (· = []) (same name kind)
    simpa [List.filter_eq_nil_iff] using empty
  apply Option.ext
  intro rule
  rw [find?_run_eq_some_iff, find?_run_eq_some_iff, last, none]

theorem run_swap {first second : Registration} (before after : List Registration)
    (different : first.target ≠ second.target ∨ first.kind ≠ second.kind) :
    tables.run (before ++ first :: second :: after) =
      tables.run (before ++ second :: first :: after) := by
  rw [run_append, run_append, run_cons, run_cons, run_cons, run_cons, apply_comm different]

/-- Registrations on other tables do not change a table. -/
theorem table_run_of_forall_ne
    (others : ∀ registration ∈ registrations, registration.target ≠ name) :
    (tables.run registrations).table name = tables.table name := by
  induction registrations generalizing tables with
  | nil => rfl
  | cons registration registrations ih =>
      rcases List.forall_mem_cons.mp others with ⟨other, others⟩
      rw [run_cons, ih others, table_apply_of_ne other]

/-- A program starts with the built-in rules. -/
theorem table_start_builtin : start.table .builtin = RuleTable.builtin := by
  rw [RuleTable.mk.injEq]
  funext kind
  cases kind <;> rfl

end Tables

/-! ## Answers of a table -/

namespace RuleTable

variable {table : RuleTable} {node : Styled} {settings : Settings}

theorem nodup_kinds (table : RuleTable) : table.kinds.Nodup :=
  List.filter_sublist.nodup (by decide)

theorem containsName_iff {text : String} :
    table.containsName text = true ↔
      ∃ kind, kind.name = text ∧ (table.find? kind).isSome = true := by
  simp [containsName, mem_kinds_iff, and_comm]

theorem render_of_find?_eq_some (found : table.find? node.kind = some rule) :
    table.render node settings = rule node settings := by
  rw [render, found]

theorem render_of_find?_eq_none (missing : table.find? node.kind = none) :
    table.render node settings = .error (.noRule node.kind) := by
  rw [render, missing]

end RuleTable

/-- What a table answers on which rules were registered: its kinds, each once, and their names;
the rule that renders a node; and why a node does not render. -/
structure Answers (table : RuleTable) (registrations : List Registration) (name : TableName) :
    Prop where
  kinds : ∀ kind, kind ∈ table.kinds ↔
    ∃ registration ∈ registrations, registration.On name kind
  distinct : table.kinds.Nodup
  names : ∀ text, table.containsName text = true ↔
    ∃ kind, kind.name = text ∧ ∃ registration ∈ registrations, registration.On name kind
  renders : ∀ (node : Styled) (settings : Settings) (rule : Rule),
    LastRegistered registrations name node.kind rule →
    table.render node settings = rule node settings
  missing : ∀ (node : Styled) (settings : Settings),
    (∀ registration ∈ registrations, ¬registration.On name node.kind) →
    table.render node settings = .error (.noRule node.kind)
  /-- A rule that itself gives this reason is told apart. -/
  reason : ∀ (node : Styled) (settings : Settings) (kind : Kind),
    table.render node settings = .error (.noRule kind) ↔
      (kind = node.kind ∧ ∀ registration ∈ registrations, ¬registration.On name node.kind) ∨
        ∃ rule, LastRegistered registrations name node.kind rule ∧
          rule node settings = .error (.noRule kind)

theorem answers_run_empty (registrations : List Registration) (name : TableName) :
    Answers ((Tables.empty.run registrations).table name) registrations name := by
  have found := @Tables.find?_run_empty_eq_some_iff registrations name
  have registered := @Tables.isSome_find?_run_empty_iff registrations name
  have unregistered : ∀ kind, ((Tables.empty.run registrations).table name).find? kind = none ↔
      ∀ registration ∈ registrations, ¬registration.On name kind := by
    intro kind
    rw [← Option.not_isSome_iff_eq_none, registered]
    simp
  constructor
  · intro kind
    rw [RuleTable.mem_kinds_iff, registered]
  · exact RuleTable.nodup_kinds _
  · intro text
    simp only [RuleTable.containsName_iff, registered]
  · intro node settings rule last
    exact RuleTable.render_of_find?_eq_some (found.mpr last)
  · intro node settings none
    exact RuleTable.render_of_find?_eq_none ((unregistered _).mpr none)
  · intro node settings kind
    simp only [← unregistered, ← found]
    cases answer : ((Tables.empty.run registrations).table name).find? node.kind with
    | none =>
        rw [RuleTable.render_of_find?_eq_none answer]
        simp [eq_comm]
    | some rule =>
        rw [RuleTable.render_of_find?_eq_some answer]
        simp

/-- What tables answer after any registrations, made in either way.  Each kind has, on each table,
the rule that was registered last for it there.  Registrations for different kinds or on different
tables can change places, alone or in any number, and those on other tables do not change the
built-in rules, with which a program starts. -/
theorem registrations_decide :
    (∀ registrations name,
      Answers ((Tables.empty.run registrations).table name) registrations name) ∧
    (∀ (tables : Tables) before first second after,
      first.target ≠ second.target ∨ first.kind ≠ second.kind →
      tables.run (before ++ first :: second :: after) =
        tables.run (before ++ second :: first :: after)) ∧
    (∀ (tables : Tables) first second,
      (∀ name kind, first.filter (fun registration => registration.On name kind) =
        second.filter fun registration => registration.On name kind) →
      tables.run first = tables.run second) ∧
    (∀ (tables : Tables) registrations,
      (∀ registration ∈ registrations, registration.target ≠ .builtin) →
      (tables.run registrations).table .builtin = tables.table .builtin) ∧
    Tables.start.table .builtin = RuleTable.builtin := by
  refine ⟨answers_run_empty, ?_, ?_, ?_, Tables.table_start_builtin⟩
  · exact fun tables before first second after => Tables.run_swap before after
  · exact fun tables first second => Tables.run_eq_of_filter_eq
  · exact fun tables registrations => Tables.table_run_of_forall_ne

/-- A rule that renders every node alike. -/
def fixedRule (html : String) : Rule :=
  fun _ _ => .ok html

/-- A rule for a made table. -/
def oldRule : Registration :=
  .direct (.made 0) .strong (fixedRule "old")

/-- A rule that takes its place. -/
def newRule : Registration :=
  .decorator .strong (some (.made 0)) (fixedRule "new")

/-- A rule for the built-in table. -/
def linkRule : Registration :=
  .decorator .link none (fixedRule "link")

theorem registrations_decide_overriding :
    let tables := Tables.empty.run [oldRule, linkRule, newRule]
    let table := tables.table (.made 0)
    (Kind.strong ∈ table.kinds ∧ Kind.link ∉ table.kinds ∧ table.containsName "strong" = true) ∧
      table.render (.strong "x") {} = .ok "new" ∧
      table.render .horizontalRule {} = .error (.noRule .horizontalRule) ∧
      tables = Tables.empty.run [oldRule, newRule, linkRule] ∧
      tables = Tables.empty.run [linkRule, oldRule, newRule] ∧
      (Tables.start.run [oldRule, newRule]).table .builtin = RuleTable.builtin := by
  rcases registrations_decide with ⟨answers, swap, rearrange, others, start⟩
  have answers := answers [oldRule, linkRule, newRule] (.made 0)
  have strong : LastRegistered [oldRule, linkRule, newRule] (.made 0) .strong (fixedRule "new") :=
    ⟨[oldRule, linkRule], newRule, [], rfl, ⟨⟨rfl, rfl⟩, rfl⟩, nofun⟩
  refine ⟨⟨?_, ?_, ?_⟩, ?_, ?_, ?_, ?_, ?_⟩
  · rw [answers.kinds]
    decide
  · rw [answers.kinds]
    decide
  · rw [answers.names]
    exact ⟨.strong, rfl, by decide⟩
  · rw [answers.renders (.strong "x") {} _ strong]
    rfl
  · exact answers.missing .horizontalRule {} (by decide)
  · exact swap Tables.empty [oldRule] linkRule newRule [] (.inr (by decide))
  · apply rearrange
    intro name kind
    have apart : ¬(oldRule.On name kind ∧ linkRule.On name kind) := by
      rintro ⟨⟨rfl, rfl⟩, -, ⟨⟩⟩
    by_cases onLink : linkRule.On name kind
    · have offOld : ¬oldRule.On name kind := fun onOld => apart ⟨onOld, onLink⟩
      simp [List.filter_cons, onLink, offOld]
    · simp [List.filter_cons, onLink]
  · rw [others Tables.start [oldRule, newRule] (by decide), start]

end Typeset
