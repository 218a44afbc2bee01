import Typeset.Cli.Arguments
import Typeset.Proofs.Settings.Outcome

/-!
# Values of options

The command line gives a text to a colour and a double to a length, or drops the value.
It never gives an integer, and a value that is merged into settings under its field's name
cannot be refused for its size.
-/

namespace Typeset

/-! ## Entries without integers -/

/-- No value of some entries is an integer. -/
def Entries.FreeOfIntegers (entries : Entries) : Prop :=
  ∀ key n, (key, .number (.int n)) ∉ entries

/-- Only an integer is refused for its size. -/
theorem Entries.FreeOfIntegers.not_refused {entries : Entries} (free : entries.FreeOfIntegers) :
    ¬entries.Refused .tooLarge := by
  intro refused
  cases refused with
  | invalid distinct order accepted supplied refuses =>
      cases refuses with
      | @tooLarge length n large =>
          obtain ⟨key, listed, -⟩ := supplied
          exact free key n listed

namespace Cli.Arguments

variable {arguments next : Arguments} {field : Field} {value : Value}

/-- The values that the command line can give to a field; an empty list stands for one that
was dropped. -/
inductive Gives (field : Field) : Value → Prop where
  | text (colour : field.isLength = false) (text : String) : Gives field (.text text)
  | double (length : field.isLength = true) (x : Binary64) : Gives field (.number (.double x))
  | dropped : Gives field (.list [])

/-- Every value that was stored is one that the command line can give to its field. -/
def Valued (arguments : Arguments) : Prop :=
  ∀ entry ∈ arguments.fields, ∃ field value, entry = (field.name, value) ∧ Gives field value

theorem Valued.cons (valued : arguments.Valued) (gives : Gives field value) :
    Valued { arguments with fields := (field.name, value) :: arguments.fields } :=
  List.forall_mem_cons.mpr ⟨⟨field, value, rfl, gives⟩, valued⟩

/-! ## Reading -/

theorem Valued.gives (valued : arguments.Valued) (given : arguments.field? field = some value) :
    Gives field value := by
  obtain ⟨other, _, equal, gives⟩ := valued _ (mem_of_lookup_eq_some given)
  obtain ⟨named, rfl⟩ := Prod.mk.inj equal
  cases Field.name_injective named
  exact gives

theorem Valued.freeOfIntegers (valued : arguments.Valued) :
    arguments.overrides.FreeOfIntegers := by
  intro key n listed
  obtain ⟨field, -, entry⟩ := List.mem_filterMap.mp listed
  obtain ⟨value, given, equal⟩ := Option.map_eq_some_iff.mp entry
  cases equal
  cases valued.gives given

end Cli.Arguments

end Typeset
