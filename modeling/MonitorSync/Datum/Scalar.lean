import MonitorSync.Json.Basic
set_option autoImplicit false

/-!
# Unquoted words of a document

An unquoted word of a document may stand for nothing, a flag, an integer or a decimal; any other
word is a text.

## Main definitions

* `Word.isNull`, `Word.flag?` — the words for nothing and for flags
* `Word.integer?` — integers in decimal, or with the prefix `0x`, `0o` or `0b`
* `Word.decimal?` — decimals, also infinite ones and the one that is no number
* `Word.toJson?` — the value that a word stands for
-/

namespace MonitorSync

namespace Word

/-- Whether a word stands for nothing. -/
def isNull (s : String) : Bool := s = "null" || s = "Null" || s = "NULL" || s = "~"

/-- The flag that a word stands for. -/
def flag? (s : String) : Option Bool :=
  if s = "true" || s = "True" || s = "TRUE" then some true
  else if s = "false" || s = "False" || s = "FALSE" then some false
  else none

/-- The value of a digit, letters in either case standing for ten and more. -/
def digit? (radix : Nat) (c : Char) : Option Nat :=
  let n :=
    if '0' ≤ c && c ≤ '9' then c.toNat - 48
    else if 'a' ≤ c && c ≤ 'z' then c.toNat - 87
    else if 'A' ≤ c && c ≤ 'Z' then c.toNat - 55
    else radix
  if n < radix then some n else none

/-- The number that digits write. -/
def natural? (radix : Nat) (digits : List Char) : Option Nat :=
  if digits.isEmpty then none
  else digits.foldlM (fun n c => (digit? radix c).map fun d => radix * n + d) 0

/-- Whether a word is digits after a zero in front, which makes it a text. -/
def isPaddedDigits (cs : List Char) : Bool :=
  let cs := match cs with
    | '-' :: rest | '+' :: rest => rest
    | cs => cs
  match cs with
  | '0' :: rest => !rest.isEmpty && rest.all Char.isDigit
  | _ => false

/-- The integer that a word writes: a sign, a prefix for its radix, and digits. -/
def integer? (s : String) : Option Int :=
  let cs := s.toList
  let (negative, body) := match cs with
    | '-' :: rest => (true, rest)
    | '+' :: rest => (false, rest)
    | cs => (false, cs)
  let magnitude := match body with
    | '0' :: 'x' :: rest => natural? 16 rest
    | '0' :: 'o' :: rest => natural? 8 rest
    | '0' :: 'b' :: rest => natural? 2 rest
    | digits => if isPaddedDigits cs then none else natural? 10 digits
  magnitude.map fun n => if negative then -(n : Int) else n

/-- A decimal: a finite double, or one that is not. -/
inductive Decimal where
  | finite (value : Binary64)
  | notFinite

/-- The finite double nearest to `digits * 10^exponent`. -/
def nearest? (negative : Bool) (digits : Nat) (exponent : Int) : Option Binary64 :=
  let size : Int := (Nat.toDigits 10 digits).length
  if digits = 0 || size + exponent < -400 then some (Binary64.zero negative)
  else if 400 < size + exponent then none
  else if 0 ≤ exponent then Binary64.round negative (digits * tenPow exponent.toNat) 1
  else Binary64.round negative digits (tenPow (-exponent).toNat)

/-- The decimal that a word writes. -/
def decimal? (s : String) : Option Decimal := do
  let cs := s.toList
  if isPaddedDigits cs then none
  let (sign, body) := match cs with
    | '-' :: rest => (some '-', rest)
    | '+' :: rest => (some '+', rest)
    | cs => (none, cs)
  if [".inf", ".Inf", ".INF"].contains (String.ofList body) then return .notFinite
  if [".nan", ".NaN", ".NAN"].contains s then return .notFinite
  let whole := body.takeWhile Char.isDigit
  let rest := body.dropWhile Char.isDigit
  let (fraction, rest) := match rest with
    | '.' :: r => (r.takeWhile Char.isDigit, r.dropWhile Char.isDigit)
    | r => ([], r)
  if whole.isEmpty && fraction.isEmpty then none
  let exponent ← match rest with
    | [] => some (0 : Int)
    | c :: r =>
      if c = 'e' || c = 'E' then
        match r with
        | '-' :: d => (natural? 10 d).map fun n => -(n : Int)
        | '+' :: d => (natural? 10 d).map Int.ofNat
        | d => (natural? 10 d).map Int.ofNat
      else none
  let digits ← natural? 10 (whole ++ fraction)
  let x ← nearest? (sign = some '-') digits (exponent - fraction.length)
  return .finite x

/-- The value that a word stands for. An integer must fit into 64 bits. -/
def toJson? (s : String) : Option Json :=
  if s.isEmpty || isNull s then some .null
  else match flag? s with
  | some b => some (.bool b)
  | none => match integer? s with
    | some n =>
      if Number.minInteger ≤ n && n ≤ Number.maxInteger then some (.int n)
      else if -(twoPow 127 : Int) ≤ n && n < (twoPow 128 : Int) then none
      else match decimal? s with
        | some (.finite x) => some (.num (.float x))
        | some .notFinite => some .null
        | none => some (.str s)
    | none => match decimal? s with
      | some (.finite x) => some (.num (.float x))
      | some .notFinite => some .null
      | none => some (.str s)

end Word

end MonitorSync
