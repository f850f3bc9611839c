set_option autoImplicit false

/-!
# Replacing a part of a text

## Main definitions

* `splitAtPattern` — the parts of a text between the occurrences of a pattern, from left to right
* `replaceAll` — every occurrence of a pattern replaced
-/

namespace MonitorSync

/-- The parts between the occurrences of a pattern that is not empty. `skip` characters still
belong to an occurrence, and `part` is the part so far in reverse. -/
def splitFrom (pattern : List Char) : Nat → List Char → List Char → List (List Char)
  | _, part, [] => [part.reverse]
  | skip + 1, part, _ :: cs => splitFrom pattern skip part cs
  | 0, part, c :: cs =>
    if pattern.isPrefixOf (c :: cs) then
      part.reverse :: splitFrom pattern (pattern.length - 1) [] cs
    else splitFrom pattern 0 (c :: part) cs

/-- The parts of a text between the occurrences of a pattern. The empty pattern occurs before and
after every character. -/
def splitAtPattern (pattern cs : List Char) : List (List Char) :=
  if pattern.isEmpty then [] :: cs.map (fun c => [c]) ++ [[]] else splitFrom pattern 0 [] cs

/-- Replaces every occurrence of a pattern. -/
def replaceAll (pattern replacement text : String) : String :=
  String.ofList <|
    List.intercalate replacement.toList (splitAtPattern pattern.toList text.toList)

end MonitorSync
