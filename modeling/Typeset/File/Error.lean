import Typeset.Number.Basic
import Typeset.Text.Quoted
import Typeset.Text.Utf8

/-!
# File errors

A file is missing, is a directory, lies below a file, does not hold text, or has a
name with a null character.
-/

namespace Typeset

/-- Why a file could not be used. -/
inductive FileError where
  | missing (name : String)
  | directory (name : String)
  | belowFile (name : String)
  | notText (fault : Text.Utf8.Fault)
  | nullByte

namespace FileError

/-- The wording of a reason. -/
def reasonText : Text.Utf8.Reason → String
  | .badStart => "invalid start byte"
  | .badContinuation => "invalid continuation byte"
  | .truncated => "unexpected end of data"

/-- A natural number in messages. -/
def count (n : Nat) : String :=
  Number.intText n

/-- The wording of bytes that are not text. -/
def faultText (fault : Text.Utf8.Fault) : String :=
  let place :=
    if fault.first = fault.last then
      "byte 0x" ++ String.ofList (Text.Quoted.hex 2 fault.byte.toNat) ++ " in position " ++
        count fault.first
    else
      "bytes in position " ++ count fault.first ++ "-" ++ count fault.last
  "'utf-8' codec can't decode " ++ place ++ ": " ++ reasonText fault.reason

/-- The wording of a file error. -/
def message : FileError → String
  | missing name => "[Errno 2] No such file or directory: " ++ Text.Quoted.quoted name
  | directory name => "[Errno 21] Is a directory: " ++ Text.Quoted.quoted name
  | belowFile name => "[Errno 20] Not a directory: " ++ Text.Quoted.quoted name
  | notText fault => faultText fault
  | nullByte => "embedded null byte"

end FileError

end Typeset
