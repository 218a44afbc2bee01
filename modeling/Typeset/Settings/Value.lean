import Typeset.Number.Basic
import Typeset.Text.Quoted

/-!
# Setting values

A setting arrives as a value of any shape, from a settings file, an option or a
caller, and is checked before it is stored.  Objects keep the order of their
members.
-/

namespace Typeset

/-- A value before it is checked. -/
inductive Value where
  | null
  | boolean (value : Bool)
  | number (value : Number)
  | text (value : String)
  | list (items : List Value)
  | object (members : List (String × Value))

namespace Value

mutual

/-- A value as it is quoted in messages. -/
def quoted : Value → String
  | null => "None"
  | boolean true => "True"
  | boolean false => "False"
  | number value => value.text
  | text value => Text.Quoted.quoted value
  | list items => "[" ++ ", ".intercalate (quotedItems items) ++ "]"
  | object members => "\x7b" ++ ", ".intercalate (quotedMembers members) ++ "\x7d"

/-- The items of a list, quoted. -/
def quotedItems : List Value → List String
  | [] => []
  | item :: items => quoted item :: quotedItems items

/-- The members of an object, quoted. -/
def quotedMembers : List (String × Value) → List String
  | [] => []
  | (name, value) :: members =>
      (Text.Quoted.quoted name ++ ": " ++ quoted value) :: quotedMembers members

end

mutual

/-- Whether a value can be quoted: the integers in it must not have too many digits. -/
def isWritable : Value → Bool
  | null | boolean _ | text _ => true
  | number value => value.isWritable
  | list items => areWritable items
  | object members => membersAreWritable members

/-- Whether the items of a list can be quoted. -/
def areWritable : List Value → Bool
  | [] => true
  | item :: items => isWritable item && areWritable items

/-- Whether the members of an object can be quoted. -/
def membersAreWritable : List (String × Value) → Bool
  | [] => true
  | (_, value) :: members => isWritable value && membersAreWritable members

end

/-- A message that ends in a value, if the value can be quoted. -/
def quotedAfter (start : String) (value : Value) : String :=
  if value.isWritable then start ++ value.quoted else Number.unwritableText

/-- The name of a value's kind in messages. -/
def kindName : Value → String
  | null => "NoneType"
  | boolean _ => "bool"
  | number (.int _) => "int"
  | number (.double _) => "float"
  | text _ => "str"
  | list _ => "list"
  | object _ => "dict"

end Value

end Typeset
