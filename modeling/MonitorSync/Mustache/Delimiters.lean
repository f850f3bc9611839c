import MonitorSync.Text.Replace
set_option autoImplicit false

/-!
# Delimiters of tags

A template may use delimiters of its own in place of the double braces. It is brought to double
braces before it is read, with the double braces of its text made text by a backslash.

## Main definitions

* `Mustache.Delimiters` — the delimiters of a template
* `Mustache.normalize` — a template with double braces
-/

namespace MonitorSync

namespace Mustache

/-- The delimiters of the tags of a template. -/
structure Delimiters where
  left : String
  right : String
deriving DecidableEq, Repr

/-- The double braces. -/
def Delimiters.braces : Delimiters := ⟨"\x7b\x7b", "\x7d\x7d"⟩

instance : Inhabited Delimiters := ⟨.braces⟩

/-- A template with double braces in place of its delimiters. An empty delimiter changes nothing. -/
def normalize (d : Delimiters) (body : String) : String :=
  if d.left.isEmpty || d.right.isEmpty || d = .braces then body
  else
    let escaped := replaceAll Delimiters.braces.left ("\\" ++ Delimiters.braces.left) body
    replaceAll d.right Delimiters.braces.right
      (replaceAll d.left Delimiters.braces.left escaped)

end Mustache

end MonitorSync
