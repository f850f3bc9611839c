import MonitorSync.Encoding.Base64
set_option autoImplicit false

/-!
# Addresses

## Main definitions

* `formEncode` — named values as one text
* `Address` — where a request goes
* `Address.read?` — the address that a text writes
* `Address.target` — what a request asks the server for
-/

namespace MonitorSync

/-- A hex digit in upper case. -/
def upperHexDigit (n : Nat) : Char := if n < 10 then Char.ofNat (48 + n) else Char.ofNat (55 + n)

/-- The escape of a byte. -/
def escapeByte (b : UInt8) : List Char :=
  ['%', upperHexDigit (b.toNat / 16), upperHexDigit (b.toNat % 16)]

/-- Escapes the bytes of the characters that are not ASCII or satisfy `p`. -/
def escapeChars (p : Char → Bool) (cs : List Char) : List Char :=
  cs.flatMap fun c =>
    if c.toNat < 0x20 || 0x7E < c.toNat || p c then
      (utf8Bytes (String.ofList [c])).flatMap escapeByte
    else [c]

/-- Encodes a name or value of a form. -/
def formEscape (s : String) : String :=
  String.ofList <| (utf8Bytes s).flatMap fun b =>
    let c := Char.ofNat b.toNat
    if b.toNat < 128 && (c.isAlphanum || c = '*' || c = '-' || c = '.' || c = '_') then [c]
    else if c = ' ' then ['+']
    else escapeByte b

/-- Named values as one text. -/
def formEncode (values : List (String × String)) : String :=
  String.intercalate "&" (values.map fun v => formEscape v.1 ++ "=" ++ formEscape v.2)

/-- Where a request goes. -/
structure Address where
  /-- The server, as it is written. -/
  authority : String
  /-- The path in its encoded form. -/
  path : String
  /-- The query in its encoded form. -/
  query : Option String
deriving DecidableEq, Repr, Inhabited

namespace Address

/-- Whether a character separates the parts of a path. -/
def isSlash (c : Char) : Bool := c = '/' || c = '\\'

/-- The parts of a path, without the slash in front. -/
def segments (part : List Char) : List Char → List (List Char)
  | [] => [part.reverse]
  | c :: rest => if isSlash c then part.reverse :: segments [] rest else segments (c :: part) rest

/-- A part of a path with its escaped dots as dots, in lower case. -/
def plainDots : List Char → List Char
  | '%' :: '2' :: e :: rest =>
    if e = 'e' || e = 'E' then '.' :: plainDots rest else '%' :: '2' :: plainDots (e :: rest)
  | c :: rest => c :: plainDots rest
  | [] => []

/-- Resolves the parts that stand for this place and the one above. `done` is in reverse. -/
def resolveDots (done : List (List Char)) : List (List Char) → List (List Char)
  | [] => done.reverse
  | s :: rest =>
    let upward := plainDots s = ['.', '.']
    let here := plainDots s = ['.']
    let done := if upward then done.drop 1 else if here then done else s :: done
    resolveDots (if (upward || here) && rest.isEmpty then [] :: done else done) rest

/-- Whether a character of a path is escaped. -/
def isPathEscaped (c : Char) : Bool :=
  [' ', '"', '#', '<', '>', '?', '\x60', '\x7b', '\x7d'].contains c

/-- Whether a character of a query is escaped. -/
def isQueryEscaped (c : Char) : Bool := [' ', '"', '#', '<', '>', '\''].contains c

/-- The encoded form of a path, which starts with a slash if it is not empty. -/
def encodePath (cs : List Char) : String :=
  let parts := resolveDots [] (segments [] (cs.drop 1))
  String.join (parts.map fun s => "/" ++ String.ofList (escapeChars isPathEscaped s))

/-- What follows the scheme of an address. -/
def afterScheme? (cs : List Char) : Option (List Char) :=
  let lower := cs.map Char.toLower
  if "http:".toList.isPrefixOf lower then some (cs.drop 5)
  else if "https:".toList.isPrefixOf lower then some (cs.drop 6)
  else none

/-- Whether a character ends the name of a server. -/
def endsAuthority (c : Char) : Bool := isSlash c || c = '?' || c = '#'

/-- The address that a text writes. -/
def read? (text : String) : Option Address := do
  let cs := text.toList.filter fun c => c ≠ '\t' && c ≠ '\n' && c ≠ '\r'
  let edge (c : Char) : Bool := c.toNat ≤ 0x20
  let cs := (((cs.dropWhile edge).reverse).dropWhile edge).reverse
  let rest := (← afterScheme? cs).dropWhile isSlash
  let authority := rest.takeWhile fun c => !endsAuthority c
  if authority.isEmpty then none
  let rest := (rest.dropWhile fun c => !endsAuthority c).takeWhile (· ≠ '#')
  let path := rest.takeWhile (· ≠ '?')
  let query := match rest.dropWhile (· ≠ '?') with
    | [] => none
    | _ :: q => some (String.ofList (escapeChars isQueryEscaped q))
  return ⟨String.ofList authority, encodePath path, query⟩

/-- What a request asks the server for, with further named values. -/
def target (a : Address) (values : List (String × String)) : String :=
  let present := a.query.getD ""
  a.path ++ "?" ++ (if present.isEmpty then "" else present ++ "&") ++ formEncode values

end Address

end MonitorSync
