import Typeset.Proofs.Number.Overflow
import Typeset.Settings.Merge

/-!
# Values that a field takes

Colours are texts, and lengths are finite numbers whose integers do not overflow a double.
Every other value is refused, in a way that names the field or for the size of the integer.
-/

namespace Typeset

namespace Field

/-- The values that a field takes: texts for a colour; finite doubles, and integers that do
not overflow a double, for a length. -/
inductive Accepts (field : Field) : Value → Prop where
  | text (colour : field.isLength = false) (text : String) : Accepts field (.text text)
  | double (length : field.isLength = true) (x : Binary64.Finite) :
      Accepts field (.number (.double (.finite x)))
  | int (length : field.isLength = true) {n : Int} (small : n.natAbs < Number.overflowBound) :
      Accepts field (.number (.int n))

/-- What any other value is refused with. -/
inductive Refuses (field : Field) : Value → SettingsError → Prop where
  | notText {value : Value} (colour : field.isLength = false)
      (different : ∀ text, value ≠ .text text) : Refuses field value (.notText field value)
  | notNumber {value : Value} (length : field.isLength = true)
      (notInt : ∀ n, value ≠ .number (.int n))
      (notFinite : ∀ x, value ≠ .number (.double (.finite x))) :
      Refuses field value (.notNumber field value)
  | tooLarge (length : field.isLength = true) {n : Int}
      (large : Number.overflowBound ≤ n.natAbs) : Refuses field (.number (.int n)) .tooLarge

variable {field : Field} {value : Value} {error : SettingsError}

theorem Accepts.check_eq (accepts : field.Accepts value) : field.check value = .ok () := by
  cases accepts with
  | text colour text => simp [check, colour]
  | double length x => simp [check, length, Binary64.isFinite]
  | @int length n small =>
      cases found : (Number.int n).toBinary64? with
      | some x => simp [check, length, found]
      | none => exact absurd small (Nat.not_lt.mpr (Number.toBinary64?_int_eq_none_iff.mp found))

theorem Refuses.check_eq (refuses : field.Refuses value error) :
    field.check value = .error error := by
  cases refuses with
  | notText colour different =>
      cases value with
      | text text => exact absurd rfl (different text)
      | _ => simp [check, colour]
  | notNumber length notInt notFinite =>
      cases value with
      | number number =>
          cases number with
          | int n => exact absurd rfl (notInt n)
          | double x =>
              cases x with
              | finite x => exact absurd rfl (notFinite x)
              | _ => simp [check, length, Binary64.isFinite]
      | _ => simp [check, length]
  | @tooLarge length n large =>
      simp [check, length, Number.toBinary64?_int_eq_none_iff.mpr large]

/-- A value is accepted or refused. -/
theorem accepts_or_refuses (field : Field) (value : Value) :
    field.Accepts value ∨ ∃ error, field.Refuses value error := by
  cases kind : field.isLength with
  | false =>
      cases value with
      | text text => exact .inl (.text kind text)
      | _ => exact .inr ⟨_, .notText kind (by simp)⟩
  | true =>
      cases value with
      | number number =>
          cases number with
          | int n =>
              rcases Nat.lt_or_ge n.natAbs Number.overflowBound with small | large
              · exact .inl (.int kind small)
              · exact .inr ⟨_, .tooLarge kind large⟩
          | double x =>
              cases x with
              | finite x => exact .inl (.double kind x)
              | _ => exact .inr ⟨_, .notNumber kind (by simp) (by simp)⟩
      | _ => exact .inr ⟨_, .notNumber kind (by simp) (by simp)⟩

theorem check_eq_ok_iff : field.check value = .ok () ↔ field.Accepts value := by
  constructor
  · intro checked
    rcases accepts_or_refuses field value with accepts | ⟨error, refuses⟩
    · exact accepts
    · rw [refuses.check_eq] at checked
      contradiction
  · exact Accepts.check_eq

theorem check_eq_error_iff : field.check value = .error error ↔ field.Refuses value error := by
  constructor
  · intro checked
    rcases accepts_or_refuses field value with accepts | ⟨other, refuses⟩
    · rw [accepts.check_eq] at checked
      contradiction
    · rw [refuses.check_eq] at checked
      cases checked
      exact refuses
  · exact Refuses.check_eq

/-- What is said of a value for a field names the field, if the value can be quoted. -/
def Names (field : Field) (value : Value) (message : String) : Prop :=
  if value.isWritable then ∃ rest, message = "setting '" ++ field.name ++ ("' must be " ++ rest)
  else message = Number.unwritableText

theorem names_quotedAfter (field : Field) (value : Value) (expected : String) :
    field.Names value
      (value.quotedAfter ("setting '" ++ field.name ++ ("' must be " ++ expected))) := by
  unfold Names Value.quotedAfter
  split
  · exact ⟨expected ++ value.quoted, by simp only [String.append_assoc]⟩
  · rfl

/-- A refusal names its field, unless it is for the size of an integer. -/
theorem Refuses.names (refuses : field.Refuses value error) :
    error = .tooLarge ∨ error.kind = .value ∧ field.Names value error.message := by
  cases refuses with
  | notText colour different =>
      exact .inr ⟨rfl, names_quotedAfter field value "a string, got "⟩
  | notNumber length notInt notFinite =>
      exact .inr ⟨rfl, names_quotedAfter field value "a number, got "⟩
  | tooLarge length large => exact .inl rfl

end Field

end Typeset
