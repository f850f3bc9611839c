import MonitorSync.Digest.Sha256
import MonitorSync.Text.Blank
set_option autoImplicit false

/-!
# References and their labels

A reference names an object by namespace and name. Children of a source carry the reference of the
source in a label, whose values are short and made of few characters, so that a long or unusual
reference is replaced by a readable start and a digest.

## Main definitions

* `Reference` — a namespace, empty for objects outside of any, and a name
* `Reference.display` — `namespace/name`
* `Reference.label` — the value of a label that stands for the reference
* `isLabelValue` — the texts that may be the value of a label
-/

namespace MonitorSync

/-- The name of an object and its namespace, which is empty for an object outside of any. -/
structure Reference where
  ns : String
  name : String
deriving DecidableEq, Repr, Inhabited

/-- An ASCII letter or digit. -/
def isLabelEdge (c : Char) : Bool := c.isAlphanum

/-- A character that may stand inside a label value. -/
def isLabelChar (c : Char) : Bool := c.isAlphanum || c = '-' || c = '_' || c = '.'

/-- Whether the characters form the value of a label, up to its length: there is one at least, and
the first and last are letters or digits. -/
def isLabelValue (cs : List Char) : Bool :=
  cs.all isLabelChar && cs.head?.elim false isLabelEdge && cs.getLast?.elim false isLabelEdge

/-- The greatest length of a label value, in bytes. -/
def maxLabelLength : Nat := 63

/-- The number of digits of a digest that a label keeps. -/
def labelDigestLength : Nat := 12

namespace Reference

/-- The reference as shown to a user. -/
def display (r : Reference) : String := if r.ns.isEmpty then r.name else r.ns ++ "/" ++ r.name

/-- The reference with a dot in place of the slash. -/
def dotted (r : Reference) : String := if r.ns.isEmpty then r.name else r.ns ++ "." ++ r.name

/-- The readable part of a shortened label: the label characters of a text, cut where the digest
and its dash find place, from the first to the last letter or digit of them. -/
def readablePart (cs : List Char) : List Char :=
  trimWhile (fun c => !isLabelEdge c)
    ((cs.filter isLabelChar).take (maxLabelLength - labelDigestLength - 1))

/-- The value of a label that stands for the reference: the dotted reference where that is short
enough and a label value, else its readable part and the start of its digest. -/
def label (r : Reference) : String :=
  let raw := r.dotted
  if raw.utf8ByteSize ≤ maxLabelLength && isLabelValue raw.toList then raw
  else
    let digest := (sha256Text raw).toList.take labelDigestLength
    let readable := readablePart raw.toList
    if readable.isEmpty then String.ofList digest
    else String.ofList (readable ++ '-' :: digest)

end Reference

end MonitorSync
