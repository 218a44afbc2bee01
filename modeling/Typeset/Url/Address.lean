import Typeset.Text.Blank
import Typeset.Url.Percent
import Typeset.Url.Punycode

/-!
# Addresses

An address is taken apart to reach its host name, which is written in its own
way, and put together again.  Parts that are empty are dropped on the way: an
empty user before `@` and an empty port.
-/

namespace Typeset.Url

open Typeset.Text

/-- The parts of an address.  `path` holds all that follows the host. -/
structure Address where
  scheme : List Char
  slashes : Bool
  user : List Char
  host : List Char
  port : List Char
  path : List Char

/-- Characters of a scheme: letters, digits and three signs.  Four letters
beyond ASCII count because they are case variants of ASCII letters. -/
def isSchemeChar (c : Char) : Bool :=
  c.isAlphanum || c == '.' || c == '+' || c == '-' ||
    [0x130, 0x131, 0x17F, 0x212A].contains c.toNat

/-- The scheme at the start of an address, with its colon. -/
def takeScheme (text : List Char) : List Char × List Char :=
  let name := text.takeWhile isSchemeChar
  match name, text.drop name.length with
  | _ :: _, ':' :: rest => (name ++ [':'], rest)
  | _, _ => ([], text)

/-- Schemes whose addresses have a host only after two slashes. -/
def slashSchemes : List String :=
  ["http:", "https:", "ftp:", "gopher:", "file:"]

/-- Characters that end the part in which a user may be named. -/
def endsAuthority (c : Char) : Bool :=
  c == '/' || c == '?' || c == '#'

/-- Characters that end a host name. -/
def endsHost (c : Char) : Bool :=
  endsAuthority c || "%;'\x7b\x7d|\\^`<>\" \r\n\t".toList.contains c

/-- Characters of a label of a host name. -/
def isLabelChar (c : Char) : Bool :=
  c.isAlphanum || c == '+' || c == '_' || c == '-'

/-- A label has at most 63 characters; characters beyond ASCII count as
letters. -/
def isLabel (label : List Char) : Bool :=
  label.length ≤ 63 && label.all fun c => isLabelChar c || 0x80 ≤ c.toNat

/-- The valid beginning of a label that is not valid as a whole. -/
def labelStart (label : List Char) : List Char :=
  (label.takeWhile isLabelChar).take 63

/-- Cut a host name at its first label that is not valid: the valid part, and
what has to go back in front of the path. -/
def cutHost (seen : List (List Char)) : List (List Char) → List Char × List Char
  | [] => (['.'].intercalate seen.reverse, [])
  | label :: labels =>
      if isLabel label then cutHost (label :: seen) labels
      else
        let good := labelStart label
        (['.'].intercalate (good :: seen).reverse,
          ['.'].intercalate (label.drop good.length :: labels))

/-- A port at the end of a host: the host without it and its digits. -/
def takePort (host : List Char) : List Char × List Char :=
  let digits := (host.reverse.takeWhile Char.isDigit).reverse
  match host.reverse.drop digits.length with
  | ':' :: before => (before.reverse, digits)
  | _ => (host, [])

/-- A user before the last `@` of the part that ends at the first slash, question
mark or number sign: the user and the text after the `@`. -/
def takeUser (text : List Char) : List Char × List Char :=
  let authority := text.takeWhile fun c => !endsAuthority c
  if authority.contains '@' then
    let host := (authority.reverse.takeWhile (· != '@')).reverse
    let user := authority.take (authority.length - host.length - 1)
    (user, text.drop (user.length + 1))
  else
    ([], text)

/-- Where the host ends: before the first character that it may not have, and
before a colon at that place. -/
def hostLength (text : List Char) : Nat :=
  let host := text.takeWhile fun c => !endsHost c
  if host.getLast? = some ':' then host.length - 1 else host.length

/-- The parts of an address that has a host. -/
def withHost (scheme : List Char) (slashes : Bool) (text : List Char) : Address :=
  let (user, afterUser) := takeUser text
  let length := hostLength afterUser
  let (name, port) := takePort (afterUser.take length)
  let rest := afterUser.drop length
  let literal := name.head? = some '[' ∧ name.getLast? = some ']'
  let (host, cut) := if literal then (name, []) else cutHost [] (splitAt '.' name)
  let short := if 255 < host.length then [] else host
  let bare := if literal then (short.drop 1).dropLast else short
  ⟨scheme, slashes, user, bare, port, cut ++ rest⟩

/-- Take an address apart. -/
def Address.parse (text : List Char) : Address :=
  let (scheme, rest) := takeScheme (trim separatesWords text)
  let name := String.ofList scheme
  let hostless := name == "javascript:"
  match hostless, rest with
  | false, '/' :: '/' :: after => withHost scheme true after
  | _, _ =>
      if !hostless && !scheme.isEmpty && !slashSchemes.contains name then
        withHost scheme false rest
      else
        ⟨scheme, false, [], [], [], rest⟩

/-- Put an address together. -/
def Address.text (address : Address) : List Char :=
  address.scheme ++ (if address.slashes then ['/', '/'] else []) ++
    (if address.user.isEmpty then [] else address.user ++ ['@']) ++
    (if address.host.contains ':' then '[' :: (address.host ++ [']']) else address.host) ++
    (if address.port.isEmpty then [] else ':' :: address.port) ++ address.path

/-! ## Host names -/

/-- The schemes whose hosts are rewritten. -/
def rewritesHost (address : Address) : Bool :=
  !address.host.isEmpty &&
    (address.scheme.isEmpty ||
      ["http:", "https:", "mailto:"].contains (String.ofList address.scheme))

/-- The full stops that separate labels. -/
def isLabelStop (c : Char) : Bool :=
  c == '.' || c.toNat == 0x3002 || c.toNat == 0xFF0E || c.toNat == 0xFF61

/-- The labels of a host name. -/
def labels (host : List Char) : List (List Char) :=
  splitAt '.' (host.map fun c => if isLabelStop c then '.' else c)

/-- A host name in ASCII. -/
def asciiHost (host : List Char) : List Char :=
  ['.'].intercalate ((labels host).map fun label =>
    if label.any fun c => 0x7E < c.toNat then "xn--".toList ++ Punycode.encode label
    else label)

/-- A host name for display; it stays as it is when a label cannot be read. -/
def displayHost (host : List Char) : List Char :=
  let mark := "xn--".toList
  let shown := (labels host).mapM fun label =>
    if mark.isPrefixOf label then
      Punycode.decode ((label.drop mark.length).map Char.toLower)
    else
      some label
  match shown with
  | some names => ['.'].intercalate names
  | none => host

/-- The written form of an address. -/
def normalize (text : List Char) : List Char :=
  let address := Address.parse text
  let rewritten :=
    if rewritesHost address then { address with host := asciiHost address.host } else address
  encode rewritten.text

/-- The form of an address that is shown to a reader. -/
def display (text : List Char) : List Char :=
  let address := Address.parse text
  let rewritten :=
    if rewritesHost address then { address with host := displayHost address.host } else address
  decode rewritten.text

/-! ## Refused schemes -/

/-- The schemes of links that are not made. -/
def refusedSchemes : List (List Char) :=
  ["vbscript:", "javascript:", "file:", "data:"].map String.toList

/-- The kinds of embedded data that are accepted. -/
def acceptedData : List (List Char) :=
  ["data:image/gif;", "data:image/png;", "data:image/jpeg;", "data:image/webp;"].map
    String.toList

/-- Whether a link to a written address may be made. -/
def isSafe (text : List Char) : Bool :=
  let lower := text.map Char.toLower
  !(refusedSchemes.any fun scheme => scheme.isPrefixOf lower) ||
    acceptedData.any fun start => start.isPrefixOf lower

end Typeset.Url
