import Typeset.Json.Scan
import Typeset.Settings.Value

/-!
# Reading JSON texts

A JSON text is one value with white space around it.  `NaN`, `Infinity` and
`-Infinity` are values too.  When an object names a member twice, the last
value counts, in the place of the first.
-/

namespace Typeset.Json

/-- Put a member into an object: in its old place, or at the end. -/
def putMember (members : List (String × Value)) (name : String) (value : Value) :
    List (String × Value) :=
  match members with
  | [] => [(name, value)]
  | (oldName, oldValue) :: rest =>
      if oldName == name then (name, value) :: rest
      else (oldName, oldValue) :: putMember rest name value

/-- The words that are values. -/
def words : List (String × Value) :=
  [("null", .null), ("true", .boolean true), ("false", .boolean false),
    ("NaN", .number (.double .nan)),
    ("Infinity", .number (.double (.infinite false))),
    ("-Infinity", .number (.double (.infinite true)))]

/-- Read a word that is a value. -/
def scanWord? (cursor : Cursor) : Option (Value × Cursor) :=
  words.findSome? fun (word, value) => (cursor.expect? word).map fun next => (value, next)

/-- Read a string at its opening quote. -/
def scanQuoted (cursor : Cursor) : Except Fault (String × Cursor) := do
  let (chars, next) ← scanText cursor.position (cursor.rest.length + 1) (cursor.skip 1)
  return (String.ofList chars, next)

mutual

/-- Read one value; `fuel` bounds the number of values and separators. -/
def readValue : Nat → Cursor → Except Fault (Value × Cursor)
  | 0, cursor => cursor.fail .noValue
  | fuel + 1, cursor =>
      match cursor.rest with
      | '\x22' :: _ => do
          let (text, next) ← scanQuoted cursor
          return (.text text, next)
      | '\x7b' :: _ =>
          let inner := (cursor.skip 1).skipSpace
          match inner.rest with
          | '\x7d' :: _ => return (.object [], inner.skip 1)
          | _ => readMembers fuel [] inner
      | '[' :: _ =>
          let inner := (cursor.skip 1).skipSpace
          match inner.rest with
          | ']' :: _ => return (.list [], inner.skip 1)
          | _ => readItems fuel [] inner
      | _ =>
          match scanWord? cursor with
          | some result => return result
          | none =>
              match scanNumber? cursor with
              | some scanned => do
                  let (number, next) ← scanned
                  return (.number number, next)
              | none => cursor.fail .noValue

/-- Read the items of a list from the first one on. -/
def readItems : Nat → List Value → Cursor → Except Fault (Value × Cursor)
  | 0, _, cursor => cursor.fail .noValue
  | fuel + 1, items, cursor => do
      let (item, next) ← readValue fuel cursor
      let after := next.skipSpace
      match after.rest with
      | ']' :: _ => return (.list (item :: items).reverse, after.skip 1)
      | ',' :: _ => readItems fuel (item :: items) (after.skip 1).skipSpace
      | _ => after.fail .noComma

/-- Read the members of an object from the first one on. -/
def readMembers : Nat → List (String × Value) → Cursor → Except Fault (Value × Cursor)
  | 0, _, cursor => cursor.fail .noPropertyName
  | fuel + 1, members, cursor =>
      match cursor.rest with
      | '\x22' :: _ => do
          let (name, afterName) ← scanQuoted cursor
          let colon := afterName.skipSpace
          match colon.rest with
          | ':' :: _ => do
              let (value, next) ← readValue fuel (colon.skip 1).skipSpace
              let merged := putMember members name value
              let after := next.skipSpace
              match after.rest with
              | '\x7d' :: _ => return (.object merged, after.skip 1)
              | ',' :: _ => readMembers fuel merged (after.skip 1).skipSpace
              | _ => after.fail .noComma
          | _ => colon.fail .noColon
      | _ => cursor.fail .noPropertyName

end

/-- Read a whole text. -/
def parse (text : List Char) : Except Fault Value :=
  match text with
  | '\ufeff' :: _ => .error ⟨.byteOrderMark, 0⟩
  | _ => do
      let (value, next) ← readValue (text.length + 1) (Cursor.skipSpace ⟨0, text⟩)
      let final := next.skipSpace
      if final.rest.isEmpty then return value else final.fail .extraData

end Typeset.Json
