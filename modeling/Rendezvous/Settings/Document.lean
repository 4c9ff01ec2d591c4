/-!
Settings documents: the part of TOML in which every line is empty, a comment, or a key with an
integer or a string. Settings have no other values, so a document that uses more of TOML (tables,
dotted keys, arrays, fractions, dates, truth values) is no settings document.
-/
namespace Rendezvous.Settings

inductive Value
  | integer (n : Int)
  | string (s : String)
  deriving DecidableEq, Repr

structure Entry where
  key : String
  value : Value
  deriving DecidableEq, Repr

namespace Document

/-- What a reader finds at the start of the text, and the rest of the text. -/
abbrev Found (α : Type) := α × List Char

def Found.push (c : Char) (found : Found (List Char)) : Found (List Char) :=
  (c :: found.1, found.2)

def isBlank (c : Char) : Bool :=
  c == ' ' || c == '\t'

def skipBlanks (text : List Char) : List Char :=
  text.dropWhile isBlank

/-- Comments and one-line strings hold tabs and every character that is no control character of
ASCII. -/
def isPlain (c : Char) : Bool :=
  c == '\t' || (0x20 ≤ c.toNat && c.toNat != 0x7F)

def hexValue? (digits : List Char) : Option Nat :=
  digits.foldlM (fun n c =>
    if '0' ≤ c ∧ c ≤ '9' then some (16 * n + (c.toNat - '0'.toNat))
    else if 'a' ≤ c ∧ c ≤ 'f' then some (16 * n + (c.toNat - 'a'.toNat + 10))
    else if 'A' ≤ c ∧ c ≤ 'F' then some (16 * n + (c.toNat - 'A'.toNat + 10))
    else none) 0

/-- The character with this code point, which must not be a surrogate. -/
def scalar? (digits : List Char) : Option Char := do
  let n ← hexValue? digits
  if n.isValidChar then some (Char.ofNat n) else none

def escaped? (c : Char) : Option Char :=
  match c with
  | 'b' => some '\x08'
  | 't' => some '\t'
  | 'n' => some '\n'
  | 'f' => some '\x0c'
  | 'r' => some '\r'
  | '"' => some '"'
  | '\\' => some '\\'
  | _ => none

/-- The rest of a string between quotes. -/
def basicTail : List Char → Option (Found (List Char))
  | [] => none
  | '"' :: rest => some ([], rest)
  | '\\' :: 'u' :: a :: b :: c :: d :: rest => do
    let value ← scalar? [a, b, c, d]
    (basicTail rest).map (.push value)
  | '\\' :: 'U' :: a :: b :: c :: d :: e :: f :: g :: h :: rest => do
    let value ← scalar? [a, b, c, d, e, f, g, h]
    (basicTail rest).map (.push value)
  | '\\' :: c :: rest => do
    let value ← escaped? c
    (basicTail rest).map (.push value)
  | c :: rest =>
    if c != '\\' && isPlain c then (basicTail rest).map (.push c)
    else none

/-- The rest of a string between apostrophes. -/
def literalTail : List Char → Option (Found (List Char))
  | [] => none
  | '\'' :: rest => some ([], rest)
  | c :: rest =>
    if isPlain c then (literalTail rest).map (.push c)
    else none

/-- Where a reader is in a string of several lines. -/
inductive Place
  | text
  /-- After a backslash and blanks, before the line break that must come. -/
  | lineEnd
  /-- After that line break, among the blanks and line breaks that do not count. -/
  | lineStart
  deriving DecidableEq, Repr

/-- The rest of a string between three quotes. It ends at the last three of up to five quotes. -/
def longBasicTail : Place → List Char → Option (Found (List Char))
  | _, [] => none
  | .lineEnd, '\r' :: '\n' :: rest => longBasicTail .lineStart rest
  | .lineEnd, '\n' :: rest => longBasicTail .lineStart rest
  | .lineEnd, c :: rest => if isBlank c then longBasicTail .lineEnd rest else none
  | .lineStart, ' ' :: rest => longBasicTail .lineStart rest
  | .lineStart, '\t' :: rest => longBasicTail .lineStart rest
  | .lineStart, '\n' :: rest => longBasicTail .lineStart rest
  | .lineStart, '\r' :: '\n' :: rest => longBasicTail .lineStart rest
  | _, '"' :: '"' :: '"' :: '"' :: '"' :: rest => some (['"', '"'], rest)
  | _, '"' :: '"' :: '"' :: '"' :: rest => some (['"'], rest)
  | _, '"' :: '"' :: '"' :: rest => some ([], rest)
  | _, '\r' :: '\n' :: rest => (longBasicTail .text rest).map (.push '\n')
  | _, '\\' :: ' ' :: rest => longBasicTail .lineEnd rest
  | _, '\\' :: '\t' :: rest => longBasicTail .lineEnd rest
  | _, '\\' :: '\n' :: rest => longBasicTail .lineStart rest
  | _, '\\' :: '\r' :: '\n' :: rest => longBasicTail .lineStart rest
  | _, '\\' :: 'u' :: a :: b :: c :: d :: rest => do
    let value ← scalar? [a, b, c, d]
    (longBasicTail .text rest).map (.push value)
  | _, '\\' :: 'U' :: a :: b :: c :: d :: e :: f :: g :: h :: rest => do
    let value ← scalar? [a, b, c, d, e, f, g, h]
    (longBasicTail .text rest).map (.push value)
  | _, '\\' :: c :: rest => do
    let value ← escaped? c
    (longBasicTail .text rest).map (.push value)
  | _, c :: rest =>
    if c == '\n' || (c != '\\' && isPlain c) then (longBasicTail .text rest).map (.push c)
    else none

/-- The rest of a string between three apostrophes. -/
def longLiteralTail : List Char → Option (Found (List Char))
  | [] => none
  | '\'' :: '\'' :: '\'' :: '\'' :: '\'' :: rest => some (['\'', '\''], rest)
  | '\'' :: '\'' :: '\'' :: '\'' :: rest => some (['\''], rest)
  | '\'' :: '\'' :: '\'' :: rest => some ([], rest)
  | '\r' :: '\n' :: rest => (longLiteralTail rest).map (.push '\n')
  | c :: rest =>
    if c == '\n' || isPlain c then (longLiteralTail rest).map (.push c)
    else none

/-- A line break right after the opening of a long string does not count. -/
def dropLineBreak : List Char → List Char
  | '\n' :: rest => rest
  | '\r' :: '\n' :: rest => rest
  | text => text

def string : List Char → Option (Found String)
  | '"' :: '"' :: '"' :: rest => (longBasicTail .text (dropLineBreak rest)).map found
  | '"' :: rest => (basicTail rest).map found
  | '\'' :: '\'' :: '\'' :: rest => (longLiteralTail (dropLineBreak rest)).map found
  | '\'' :: rest => (literalTail rest).map found
  | _ => none
where
  found : List Char × List Char → String × List Char := fun (chars, rest) =>
    (String.ofList chars, rest)

def digit? (radix : Nat) (c : Char) : Option Nat :=
  (hexValue? [c]).filter (· < radix)

/-- Digits after the first, each with at most one underscore before it. -/
def moreDigits (radix : Nat) (n : Nat) : List Char → Option Nat
  | [] => some n
  | '_' :: c :: rest => do moreDigits radix (radix * n + (← digit? radix c)) rest
  | c :: rest => do moreDigits radix (radix * n + (← digit? radix c)) rest

def digits (radix : Nat) : List Char → Option Nat
  | [] => none
  | c :: rest => do moreDigits radix (← digit? radix c) rest

/-- A decimal number of several digits does not begin with a zero. -/
def decimal (text : List Char) : Option Nat :=
  if text.head? == some '0' && text != ['0'] then none else digits 10 text

def integerOf : List Char → Option Int
  | '0' :: 'x' :: rest => (digits 16 rest).map Int.ofNat
  | '0' :: 'o' :: rest => (digits 8 rest).map Int.ofNat
  | '0' :: 'b' :: rest => (digits 2 rest).map Int.ofNat
  | '+' :: rest => (decimal rest).map Int.ofNat
  | '-' :: rest => (decimal rest).map fun n => -Int.ofNat n
  | text => (decimal text).map Int.ofNat

def isWordChar (c : Char) : Bool :=
  c.isAlphanum || c == '_' || c == '-' || c == '+'

/-- An integer of 64 bits. -/
def integer (text : List Char) : Option (Found Int) := do
  let n ← integerOf (text.takeWhile isWordChar)
  if -0x8000000000000000 ≤ n ∧ n < 0x8000000000000000 then some (n, text.dropWhile isWordChar) else none

def value (text : List Char) : Option (Found Value) :=
  match text with
  | '"' :: _ | '\'' :: _ => (string text).map fun (s, rest) => (.string s, rest)
  | _ => (integer text).map fun (n, rest) => (.integer n, rest)

def isKeyChar (c : Char) : Bool :=
  c.isAlphanum || c == '_' || c == '-'

def key (text : List Char) : Option (Found String) :=
  match text with
  | '"' :: rest => (basicTail rest).map fun (chars, rest) => (String.ofList chars, rest)
  | '\'' :: rest => (literalTail rest).map fun (chars, rest) => (String.ofList chars, rest)
  | _ =>
    let name := text.takeWhile isKeyChar
    if name.isEmpty then none else some (String.ofList name, text.dropWhile isKeyChar)

/-- The rest of a line after its key and value: blanks, perhaps a comment, the line break. -/
def lineEnd (text : List Char) : Option (List Char) :=
  let rest := match skipBlanks text with
    | '#' :: rest => rest.dropWhile isPlain
    | rest => rest
  match rest with
  | [] => some []
  | '\n' :: rest => some rest
  | '\r' :: '\n' :: rest => some rest
  | _ => none

def entry (text : List Char) : Option (Found Entry) := do
  let (key, text) ← key text
  match skipBlanks text with
  | '=' :: text =>
    let (value, text) ← value (skipBlanks text)
    return (⟨key, value⟩, text)
  | _ => none

/-- One line, with the entry it holds if it holds one. -/
def line (text : List Char) : Option (Found (Option Entry)) :=
  match skipBlanks text with
  | [] | '#' :: _ | '\n' :: _ | '\r' :: _ => (lineEnd text).map fun rest => (none, rest)
  | text => do
    let (entry, text) ← entry text
    let rest ← lineEnd text
    return (some entry, rest)

/-- All lines; each takes at least one character. -/
def lines (text : List Char) : Option (List Entry) :=
  if text.isEmpty then some []
  else match line text with
    | none => none
    | some (entry, rest) =>
      if rest.length < text.length then (lines rest).map (entry.toList ++ ·) else none
termination_by text.length

/-- A byte order mark may come first. -/
def entries? (text : List Char) : Option (List Entry) :=
  match text with
  | '\uFEFF' :: rest => lines rest
  | _ => lines text

end Document

end Rendezvous.Settings
