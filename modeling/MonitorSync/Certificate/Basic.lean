import MonitorSync.Certificate.Der
import MonitorSync.Certificate.Pem
import MonitorSync.Time.Instant
set_option autoImplicit false

/-!
# Certificates

## Main definitions

* `Certificate` — what a template may use of a certificate
* `Certificate.ofDer?` — reading a certificate in its binary form
* `Certificate.parseAll` — the certificates of a bundle
-/

namespace MonitorSync

/-- What a template may use of a certificate. -/
structure Certificate where
  subject : String
  issuer : String
  serialNumber : String
  notBefore : String
  notAfter : String
  dnsNames : List String
deriving DecidableEq, Repr

namespace Certificate

/-- A hexadecimal digit. -/
def hexDigit (upper : Bool) (n : Nat) : Char :=
  if n < 10 then Char.ofNat (48 + n) else Char.ofNat ((if upper then 55 else 87) + n)

/-- The two hexadecimal digits of a byte. -/
def hexByte (upper : Bool) (b : UInt8) : List Char :=
  [hexDigit upper (b.toNat / 16), hexDigit upper (b.toNat % 16)]

/-- The bytes of a serial number, with colons between them. -/
def serialText (bytes : List UInt8) : String :=
  String.intercalate ":" (bytes.map fun b => String.ofList (hexByte false b))

/-- The names of attributes by their identifiers. -/
def attributeNames : List (List Nat × String) :=
  [([2, 5, 4, 3], "CN"), ([2, 5, 4, 4], "surname"), ([2, 5, 4, 5], "serialNumber"),
    ([2, 5, 4, 6], "C"), ([2, 5, 4, 7], "L"), ([2, 5, 4, 8], "ST"),
    ([2, 5, 4, 9], "streetAddress"), ([2, 5, 4, 10], "O"), ([2, 5, 4, 11], "OU"),
    ([2, 5, 4, 12], "title"), ([2, 5, 4, 13], "description"),
    ([2, 5, 4, 15], "businessCategory"), ([2, 5, 4, 16], "postalAddress"),
    ([2, 5, 4, 17], "postalCode"), ([2, 5, 4, 41], "name"), ([2, 5, 4, 42], "givenName"),
    ([2, 5, 4, 43], "initials"), ([2, 5, 4, 44], "generationQualifier"),
    ([2, 5, 4, 45], "uniqueIdentifier"), ([2, 5, 4, 46], "dnQualifier"),
    ([0, 9, 2342, 19200300, 100, 1, 1], "UID"),
    ([0, 9, 2342, 19200300, 100, 1, 25], "DC"),
    ([1, 2, 840, 113549, 1, 9, 1], "Email")]

/-- An identifier in its dotted form. -/
def dotted (id : List Nat) : String := String.intercalate "." (id.map toString)

/-- The name of an attribute. -/
def attributeName (id : List Nat) : String :=
  match attributeNames.find? fun e => e.1 = id with
  | some (_, name) => name
  | none => "OID(" ++ dotted id ++ ")"

/-- The text of code units of 16 bits. -/
def textOfUnits? : List Nat → Option (List Char)
  | [] => some []
  | u :: rest =>
    if 0xD800 ≤ u && u < 0xDC00 then
      match rest with
      | v :: rest =>
        if 0xDC00 ≤ v && v < 0xE000 then
          (textOfUnits? rest).map
            (Char.ofNat (0x10000 + (u - 0xD800) * 0x400 + (v - 0xDC00)) :: ·)
        else none
      | [] => none
    else if 0xDC00 ≤ u && u < 0xE000 then none
    else (textOfUnits? rest).map (Char.ofNat u :: ·)

/-- Big-endian numbers of two bytes. -/
def pairs? : List UInt8 → Option (List Nat)
  | [] => some []
  | a :: b :: rest => (pairs? rest).map ((a.toNat * 256 + b.toNat) :: ·)
  | [_] => none

/-- Big-endian numbers of four bytes. -/
def quads? : List UInt8 → Option (List Nat)
  | [] => some []
  | a :: b :: c :: d :: rest => (quads? rest).map (Der.bigEndian [a, b, c, d] :: ·)
  | _ => none

/-- The tags of texts with one byte or a UTF-8 sequence for a character. -/
def byteTextTags : List Nat := [12, 18, 19, 20, 21, 22, 25, 26, 27, 7]

/-- The text of an attribute's value; a value that is not a text is shown in hexadecimal. -/
def attributeText? (v : Der.Value) : Option String :=
  if byteTextTags.contains v.tag then utf8Text? v.content
  else if v.tag = 30 then (pairs? v.content).bind textOfUnits? |>.map String.ofList
  else if v.tag = 28 then do
    let codes ← quads? v.content
    if codes.all fun n => n.isValidChar then some (String.ofList (codes.map Char.ofNat)) else none
  else some (String.ofList (v.content.flatMap (hexByte true)))

/-- An attribute: its identifier and value. -/
def readAttribute? (v : Der.Value) : Option (List Nat × Der.Value) := do
  if !v.is Der.sequenceTag then none
  let (id, rest) ← Der.expect? 6 v.content
  let (value, _) ← Der.read? rest
  some (← Der.identifier? id, value)

/-- The parts of a name, each with its attributes. -/
def readName? (content : List UInt8) : Option (List (List (List Nat × Der.Value))) := do
  let parts ← Der.readAll? content
  parts.mapM fun p => do
    if !p.is Der.setTag then none
    let attributes ← Der.readAll? p.content
    if attributes.isEmpty then none
    attributes.mapM readAttribute?

/-- The text of a name: its parts with commas, and the attributes of a part with plus signs between
them. -/
def nameText (parts : List (List (List Nat × Der.Value))) : String :=
  let texts : Option (List String) := parts.mapM fun attributes => do
    let texts ← attributes.mapM fun (id, v) => do
      return attributeName id ++ "=" ++ (← attributeText? v)
    return String.intercalate " + " texts
  match texts with
  | some texts => String.intercalate ", " texts
  | none => "<X509Error: Invalid X.509 name>"

/-- Two decimal digits. -/
def twoDigits? : List Char → Option (Nat × List Char)
  | a :: b :: rest =>
    if a.isDigit && b.isDigit then some (10 * (a.toNat - 48) + (b.toNat - 48), rest) else none
  | _ => none

/-- The distance from universal time at the end of a time, in seconds. -/
def readZone? (cs : List Char) : Option Int :=
  match cs with
  | ['Z'] => some 0
  | c :: rest => do
    let (hours, rest) ← twoDigits? rest
    let (minutes, rest) ← twoDigits? rest
    let n : Int := (hours * 3600 + minutes * 60 : Nat)
    if !rest.isEmpty then none
    else if c = '+' then some n
    else if c = '-' then some (-n)
    else none
  | [] => none

/-- The instant of a time from its month on. -/
def readInstant? (year : Int) (cs : List Char) : Option Instant := do
  let (month, cs) ← twoDigits? cs
  let (day, cs) ← twoDigits? cs
  let (hour, cs) ← twoDigits? cs
  let (minute, cs) ← twoDigits? cs
  let (second, cs) := (twoDigits? cs).getD (0, cs)
  if 59 < second then none
  let cs := match cs with
    | '.' :: rest => rest.dropWhile Char.isDigit
    | cs => cs
  let offset ← readZone? cs
  let t ← Instant.ofParts? year month day hour minute second 0
  return { t with seconds := t.seconds - offset }

/-- Reads a time, with a year of two or four digits. Two digits below fifty lie in this century. -/
def readTime? (v : Der.Value) : Option Instant := do
  let cs := (← utf8Text? v.content).toList
  if v.is 23 then
    let (year, rest) ← twoDigits? cs
    readInstant? (if year < 50 then 2000 + year else 1900 + year) rest
  else if v.is 24 then
    let (century, rest) ← twoDigits? cs
    let (year, rest) ← twoDigits? rest
    readInstant? (100 * century + year) rest
  else none

/-- An instant as a template sees it. -/
def timeText (t : Instant) : String := t.localText ++ "+00:00"

/-- The DNS names among alternative names; none if one of them is malformed. -/
def readDnsNames? (content : List UInt8) : Option (List String) := do
  let (names, _) ← Der.expect? Der.sequenceTag content
  let names ← Der.readAll? names
  let texts ← names.mapM fun v => do
    if v.tagClass ≠ .context || 8 < v.tag then none
    if v.tag = 2 then some [← utf8Text? v.content]
    else if v.tag = 1 || v.tag = 6 then do
      let _ ← utf8Text? v.content
      some []
    else if v.tag = 4 then do
      let (name, _) ← Der.expect? Der.sequenceTag v.content
      let _ ← readName? name
      some []
    else some []
  return texts.flatten

/-- An extension: its identifier and content. -/
def readExtension? (v : Der.Value) : Option (List UInt8 × List UInt8) := do
  if !v.is Der.sequenceTag then none
  let (id, rest) ← Der.expect? 6 v.content
  let rest := match Der.expect? 1 rest with
    | some (_, r) => r
    | none => rest
  let (content, _) ← Der.expect? 4 rest
  some (id, content)

/-- The identifier of the extension with alternative names. -/
def alternativeNames : List UInt8 := [0x55, 0x1D, 0x11]

/-- The DNS names of a certificate's extensions. -/
def dnsNamesOf (extensions : List (List UInt8 × List UInt8)) : List String :=
  match extensions.filter fun e => e.1 = alternativeNames with
  | [(_, content)] => (readDnsNames? content).getD []
  | _ => []

/-- Skips an optional value with a context tag. -/
def skipContext (tag : Nat) (bytes : List UInt8) : List UInt8 :=
  match Der.read? bytes with
  | some (v, rest) => if v.tagClass = .context && v.tag = tag then rest else bytes
  | none => bytes

/-- The extensions at the end of a certificate's data. -/
def readExtensions? (bytes : List UInt8) : Option (List (List UInt8 × List UInt8)) := do
  if bytes.isEmpty then return []
  let (v, _) ← Der.read? bytes
  if v.tagClass ≠ .context || v.tag ≠ 3 then none
  let (content, _) ← Der.expect? Der.sequenceTag v.content
  (← Der.readAll? content).mapM readExtension?

/-- Reads an algorithm and what follows it. -/
def skipAlgorithm? (bytes : List UInt8) : Option (List UInt8) := do
  let (content, rest) ← Der.expect? Der.sequenceTag bytes
  let (id, _) ← Der.expect? 6 content
  let _ ← Der.identifier? id
  some rest

/-- Reads a certificate in its binary form. -/
def ofDer? (bytes : List UInt8) : Option Certificate := do
  let (outer, _) ← Der.expect? Der.sequenceTag bytes
  let (body, signed) ← Der.expect? Der.sequenceTag outer
  let signature ← skipAlgorithm? signed
  let (_, _) ← Der.expect? 3 signature
  let (serial, rest) ← Der.expect? 2 (skipContext 0 body)
  let rest ← skipAlgorithm? rest
  let (issuer, rest) ← Der.expect? Der.sequenceTag rest
  let issuer ← readName? issuer
  let (validity, rest) ← Der.expect? Der.sequenceTag rest
  let (start, ending) ← Der.read? validity
  let notBefore ← readTime? start
  let (ending, _) ← Der.read? ending
  let notAfter ← readTime? ending
  let (subject, rest) ← Der.expect? Der.sequenceTag rest
  let subject ← readName? subject
  let (key, rest) ← Der.expect? Der.sequenceTag rest
  let keyBits ← skipAlgorithm? key
  let (_, _) ← Der.expect? 3 keyBits
  let extensions ← readExtensions? (skipContext 2 (skipContext 1 rest))
  return {
    subject := nameText subject
    issuer := nameText issuer
    serialNumber := serialText serial
    notBefore := timeText notBefore
    notAfter := timeText notAfter
    dnsNames := dnsNamesOf extensions }

/-- The certificates of a bundle, in order; blocks that hold none are skipped. -/
def parseAll (bundle : List UInt8) : List Certificate := (Pem.blocks bundle).filterMap ofDer?

end Certificate

end MonitorSync
