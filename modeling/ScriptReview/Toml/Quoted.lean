import ScriptReview.Json.Document

/-!
# TOML strings

A string is basic or literal, and it stands in one line or in several. Basic strings have escapes;
literal strings stand for themselves. A line feed at the beginning of a string of several lines does
not belong to it, and every line end in it is a line feed.

Main definitions:

* `Toml.isPlain` is the set of characters that may stand in a line.
* `Toml.string?` reads a string of any of the four forms.
-/

namespace ScriptReview
namespace Toml

/-! ## Characters and lines -/

/-- The characters that may stand in a line: all but the controls of ASCII, among which the tab is
allowed. -/
def isPlain (c : Char) : Bool :=
  c == '\t' || (0x20 ≤ c.toNat && c.toNat != 0x7F)

/-- The blanks inside a line. -/
def isBlank (c : Char) : Bool :=
  c == ' ' || c == '\t'

/-- The text after the blanks at its beginning. -/
def skipBlanks (cs : List Char) : List Char :=
  cs.dropWhile isBlank

/-- The text after the line end at its beginning, if it begins with one. -/
def afterNewline? : List Char → Option (List Char)
  | '\n' :: rest => some rest
  | '\r' :: '\n' :: rest => some rest
  | _ => none

/-! ## Strings in one line -/

/-- The character that a letter after a backslash stands for. -/
def escaped? : Char → Option Char
  | 'b' => some '\x08'
  | 't' => some '\t'
  | 'n' => some '\n'
  | 'f' => some '\x0c'
  | 'r' => some '\r'
  | '"' => some '"'
  | '\\' => some '\\'
  | _ => none

/-- The character whose code point is written in hexadecimal digits. -/
def codePoint? (digits : List Char) : Option Char := do
  let values ← digits.mapM Json.Document.hexDigit?
  let n := values.foldl (fun n d => 16 * n + d) 0
  if n.isValidChar then some (Char.ofNat n) else none

/-- Puts a character in front of the text of a string. -/
def consTo (c : Option Char) (read : Option (List Char × List Char)) :
    Option (List Char × List Char) := do
  let c ← c
  let (text, rest) ← read
  some (c :: text, rest)

/-- Reads a basic string in one line up to its closing quote. -/
def basic? : List Char → Option (List Char × List Char)
  | [] => none
  | '"' :: rest => some ([], rest)
  | '\\' :: 'u' :: a :: b :: c :: d :: rest => consTo (codePoint? [a, b, c, d]) (basic? rest)
  | '\\' :: 'U' :: a :: b :: c :: d :: e :: f :: g :: h :: rest =>
    consTo (codePoint? [a, b, c, d, e, f, g, h]) (basic? rest)
  | '\\' :: e :: rest => consTo (escaped? e) (basic? rest)
  | c :: rest => if isPlain c && c != '\\' then consTo (some c) (basic? rest) else none

/-- Reads a literal string in one line up to its closing quote. -/
def literal? : List Char → Option (List Char × List Char)
  | [] => none
  | c :: rest =>
    if c = '\'' then some ([], rest)
    else if isPlain c then consTo (some c) (literal? rest)
    else none

/-! ## Strings in several lines -/

/-- Reads the end of a string of several lines: three quotes. Up to two more quotes belong to the
string. -/
def closing? (quote : Char) (cs : List Char) : Option (List Char × List Char) :=
  if List.isPrefixOf [quote, quote, quote] cs then
    let more := ((cs.drop 3).take 2).takeWhile (· == quote)
    some (more, cs.drop (3 + more.length))
  else none

/-- Whether a line ends after some blanks. -/
def endsLine (cs : List Char) : Bool :=
  (afterNewline? (skipBlanks cs)).isSome

/-- Reads a basic string of several lines up to its closing quotes. The flag says that blanks and
line ends are skipped, which a backslash at the end of a line asks for. -/
def basicLines? : Bool → List Char → Option (List Char × List Char)
  | _, [] => none
  | skipping, '\n' :: rest =>
    if skipping then basicLines? true rest else consTo (some '\n') (basicLines? false rest)
  | skipping, '\r' :: '\n' :: rest =>
    if skipping then basicLines? true rest else consTo (some '\n') (basicLines? false rest)
  | _, '\\' :: 'u' :: a :: b :: c :: d :: rest =>
    consTo (codePoint? [a, b, c, d]) (basicLines? false rest)
  | _, '\\' :: 'U' :: a :: b :: c :: d :: e :: f :: g :: h :: rest =>
    consTo (codePoint? [a, b, c, d, e, f, g, h]) (basicLines? false rest)
  | _, '\\' :: e :: rest =>
    if endsLine (e :: rest) then basicLines? true (e :: rest)
    else consTo (escaped? e) (basicLines? false rest)
  | skipping, c :: rest =>
    match closing? '"' (c :: rest) with
    | some r => some r
    | none =>
      if skipping && isBlank c then basicLines? true rest
      else if isPlain c && c != '\\' then consTo (some c) (basicLines? false rest)
      else none

/-- Reads a literal string of several lines up to its closing quotes. -/
def literalLines? : List Char → Option (List Char × List Char)
  | [] => none
  | '\n' :: rest => consTo (some '\n') (literalLines? rest)
  | '\r' :: '\n' :: rest => consTo (some '\n') (literalLines? rest)
  | c :: rest =>
    match closing? '\'' (c :: rest) with
    | some r => some r
    | none => if isPlain c then consTo (some c) (literalLines? rest) else none

/-! ## All strings -/

/-- The text after a line end that it may begin with. -/
def skipNewline (cs : List Char) : List Char :=
  (afterNewline? cs).getD cs

/-- Reads the characters of a string in any of the four forms. -/
def quoted? : List Char → Option (List Char × List Char)
  | '"' :: '"' :: '"' :: rest => basicLines? false (skipNewline rest)
  | '\'' :: '\'' :: '\'' :: rest => literalLines? (skipNewline rest)
  | '"' :: rest => basic? rest
  | '\'' :: rest => literal? rest
  | _ => none

/-- Reads a string in any of the four forms. -/
def string? (cs : List Char) : Option (String × List Char) :=
  (quoted? cs).map fun (text, rest) => (String.ofList text, rest)

end Toml
end ScriptReview
