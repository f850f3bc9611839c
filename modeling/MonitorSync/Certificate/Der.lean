set_option autoImplicit false

/-!
# Tagged binary values

Certificates are written as nested values, each with a tag, a length and its content.

## Main definitions

* `Der.Value` — a tag and content
* `Der.read?` — the first value of a list of bytes, and the bytes after it
* `Der.readAll?` — the values that a list of bytes consists of
* `Der.identifier?` — the numbers of an object identifier
-/

namespace MonitorSync

namespace Der

/-- The four classes of tags. -/
inductive TagClass where
  | universal
  | application
  | context
  | own
deriving DecidableEq, Repr

/-- A value with its tag. -/
structure Value where
  tagClass : TagClass
  constructed : Bool
  tag : Nat
  content : List UInt8
deriving DecidableEq, Repr

/-- The number of big-endian bytes. -/
def bigEndian (bytes : List UInt8) : Nat := bytes.foldl (fun n b => 256 * n + b.toNat) 0

/-- The class of a tag byte. -/
def tagClassOf (b : Nat) : TagClass :=
  if b < 64 then .universal
  else if b < 128 then .application
  else if b < 192 then .context
  else .own

/-- Reads a number in groups of seven bits, the last group without its highest bit. -/
def readGroups? : Nat → List UInt8 → Option (Nat × List UInt8)
  | _, [] => none
  | n, b :: rest =>
    let n := 128 * n + b.toNat % 128
    if b.toNat < 128 then some (n, rest) else readGroups? n rest

/-- Reads a length, which must be given in advance. -/
def readLength? : List UInt8 → Option (Nat × List UInt8)
  | [] => none
  | b :: rest =>
    if b.toNat < 128 then some (b.toNat, rest)
    else
      let count := b.toNat - 128
      if count = 0 || 8 < count || rest.length < count then none
      else some (bigEndian (rest.take count), rest.drop count)

/-- The first value of a list of bytes, and the bytes after it. -/
def read? (bytes : List UInt8) : Option (Value × List UInt8) := do
  let (first, rest) ← match bytes with
    | b :: rest => some (b.toNat, rest)
    | [] => none
  let (tag, rest) ←
    if first % 32 = 31 then readGroups? 0 rest else some (first % 32, rest)
  let (length, rest) ← readLength? rest
  if rest.length < length then none
  else some (⟨tagClassOf first, first / 32 % 2 = 1, tag, rest.take length⟩, rest.drop length)

/-- The values that a list of bytes consists of; every value takes a byte at least. -/
def readMany? : Nat → List UInt8 → Option (List Value)
  | _, [] => some []
  | 0, _ => none
  | fuel + 1, bytes => do
    let (v, rest) ← read? bytes
    let others ← readMany? fuel rest
    some (v :: others)

/-- The values that a list of bytes consists of. -/
def readAll? (bytes : List UInt8) : Option (List Value) := readMany? bytes.length bytes

/-- Whether a value has a universal tag. -/
def Value.is (v : Value) (tag : Nat) : Bool := v.tagClass = .universal && v.tag = tag

/-- Reads a value with a universal tag. -/
def expect? (tag : Nat) (bytes : List UInt8) : Option (List UInt8 × List UInt8) := do
  let (v, rest) ← read? bytes
  if v.is tag then some (v.content, rest) else none

/-- The tag of a sequence. -/
def sequenceTag : Nat := 16

/-- The tag of a set. -/
def setTag : Nat := 17

/-- The numbers of an object identifier, in groups of seven bits; the first group holds two. -/
def identifier? (bytes : List UInt8) : Option (List Nat) := do
  let numbers ← groups bytes.length bytes
  match numbers with
  | [] => none
  | first :: rest =>
    let root := min (first / 40) 2
    some (root :: (first - 40 * root) :: rest)
where
  /-- The numbers of all groups. -/
  groups : Nat → List UInt8 → Option (List Nat)
    | _, [] => some []
    | 0, _ => none
    | fuel + 1, bytes => do
      let (n, rest) ← readGroups? 0 bytes
      let others ← groups fuel rest
      some (n :: others)

end Der

end MonitorSync
