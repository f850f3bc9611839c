import MonitorSync.Text.Letters
set_option autoImplicit false

/-!
# The words of a text

A text is cut into words at whatever is no letter or number, after a small letter that a capital one
follows, and before a capital letter that starts a small word behind other capitals. The words can
be put together again in another way.

## Main definitions

* `wordsOf` — the words of a text
* `WordStyle` — a way to put words together
* `WordStyle.write` — the words of a text, put together
-/

namespace MonitorSync

namespace Words

/-- What is known of the letters of a word so far. -/
inductive Mode where
  /-- No letter was capital or small yet. -/
  | undecided
  | small
  | capital
deriving DecidableEq

/-- What is known after one more character. -/
def Mode.after (mode : Mode) (c : Char) : Mode :=
  if isSmall c then .small else if isCapital c then .capital else mode

/-- The words of a part that has only letters and numbers. `word` is the present word in reverse. -/
def splitFrom (mode : Mode) (word : List Char) : List Char → List (List Char)
  | [] => if word.isEmpty then [] else [word.reverse]
  | [c] => [(c :: word).reverse]
  | c :: next :: rest =>
    if mode.after c = .small && isCapital next then
      (c :: word).reverse :: splitFrom .undecided [] (next :: rest)
    else if mode = .capital && isCapital c && isSmall next then
      word.reverse :: splitFrom .undecided [c] (next :: rest)
    else splitFrom (mode.after c) (c :: word) (next :: rest)

end Words

/-- The words of a text. -/
def wordsOf (s : String) : List (List Char) :=
  (s.toList.splitOnP fun c => !isLetterOrNumber c).flatMap (Words.splitFrom .undecided [])

/-- A way to put words together: how the first word is written, how the others are, and what stands
between them. -/
structure WordStyle where
  first : List Char → List Char
  others : List Char → List Char
  separator : List Char

namespace WordStyle

open LetterCase

/-- A word in small letters; a sigma at its end has a shape of its own. -/
def small : List Char → List Char
  | [] => []
  | [c] => if c = 'Σ' then ['ς'] else lower c
  | c :: rest => lower c ++ small rest

/-- A word in capital letters. -/
def capital (word : List Char) : List Char := word.flatMap upper

/-- A word with a capital letter in front. -/
def initial : List Char → List Char
  | [] => []
  | c :: rest => upper c ++ small rest

/-- The words of a text, put together. -/
def write (style : WordStyle) (s : String) : String :=
  match wordsOf s with
  | [] => ""
  | word :: words =>
    String.ofList (List.intercalate style.separator (style.first word :: words.map style.others))

/-- The style of a name, if it is known. -/
def ofName? : String → Option WordStyle
  | "lowerCamelCase" => some ⟨small, initial, []⟩
  | "upperCamelCase" => some ⟨initial, initial, []⟩
  | "snakeCase" => some ⟨small, small, ['_']⟩
  | "kebabCase" => some ⟨small, small, ['-']⟩
  | "shoutySnakeCase" => some ⟨capital, capital, ['_']⟩
  | "shoutyKebabCase" => some ⟨capital, capital, ['-']⟩
  | "titleCase" => some ⟨initial, initial, [' ']⟩
  | "trainCase" => some ⟨initial, initial, ['-']⟩
  | _ => none

end WordStyle

/-- Capitals in a row are one word, up to the one that starts the next word. -/
example : wordsOf "XMLHttpRequest2 of-Ping" =
    ["XML", "Http", "Request2", "of", "Ping"].map String.toList := by decide +kernel

end MonitorSync
