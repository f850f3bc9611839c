import MonitorSync.Json.Parser
set_option autoImplicit false

/-!
# Skipping the fields that nobody reads

A list of records is read without the fields that are not asked for. What stands in such a field
only has to be written correctly: its numbers may be too large, its texts may have half a pair, and
it may be nested as deeply as it likes.

## Main definitions

* `Json.Token.skippable` — a token as it counts in a field that is skipped
* `Json.Walk` — the place in a list of records
* `Json.readRecords?` — reading a list of records, with null for every field that is skipped
-/

namespace MonitorSync

namespace Json

/-- A token as it counts in a field that is skipped. -/
def Token.skippable : Token → Token
  | .unread v => .scalar v
  | t => t

/-- The place in a list of records. -/
inductive Walk where
  /-- Inside some lists and objects, after a text or another token. -/
  | reading (depth : Nat) (last : Option String)
  /-- In a field that is skipped. -/
  | skipping (stack : List Frame) (expected : Expected)

namespace Walk

/-- The number of lists and objects that are open in a record of a list. -/
def recordDepth : Nat := 2

/-- The place after a token that is read. -/
def afterToken (names : List String) (depth : Nat) (last : Option String) : Token → Walk
  | .openList | .openObject => .reading (depth + 1) none
  | .closeList | .closeObject => .reading (depth - 1) none
  | .scalar (.str s) => .reading depth (some s)
  | .colon =>
    if depth = recordDepth && last.any (!names.contains ·) then .skipping [] .value
    else .reading depth none
  | _ => .reading depth none

/-- Moves over one token and keeps it, unless it belongs to a field that is skipped; of all such
tokens a null is kept. -/
def step (names : List String) (state : Walk × List Token) (t : Token) :
    Option (Walk × List Token) := do
  let (place, kept) := state
  match place with
  | .reading depth last => return (afterToken names depth last t, t :: kept)
  | .skipping stack expected =>
    match ← assemble none (stack, expected) t.skippable with
    | (_, .finished _) => return (.reading recordDepth none, .scalar .null :: kept)
    | (stack, expected) => return (.skipping stack expected, kept)

end Walk

/-- Reads a list of records. Their fields of other names than the given ones are skipped, which
leaves a null. -/
def readRecords? (names : List String) (text : String) : Option Json := do
  let (_, kept) ← (← Token.scan text).foldlM (Walk.step names) (.reading 0 none, [])
  readTokens kept.reverse

/-- A field of another name may hold what cannot be read, and a field that is read may not. -/
example :
    (readRecords? ["name"] "[\x7b\"x\": [1e999, \"\\ud800\"], \"name\": \"a\"\x7d]").isSome ∧
      (readRecords? ["name"] "[\x7b\"x\": [1e999 1], \"name\": \"a\"\x7d]").isNone ∧
      (readRecords? ["name"] "[\x7b\"name\": \"\\ud800\"\x7d]").isNone := by
  decide +kernel

end Json

end MonitorSync
