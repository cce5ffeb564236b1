import ScriptReview.Numeric.Natural
import ScriptReview.Regex.Expr
import ScriptReview.Text.Blank
import ScriptReview.Unicode.Category
import ScriptReview.Unicode.Property
import ScriptReview.Regex.CharSet

/-!
# Reading regular expressions

A pattern is read from left to right with a stack of the groups that are open. Inside brackets a
second stack holds the classes that are open. Where blanks are ignored, a comment runs from `#` to
the end of its line.

Every function takes the characters that remain and answers with the characters that it leaves. A
step of the main loops leaves fewer characters than it found, so the number of characters bounds the
number of steps.

Main definition: `Expr.read?` reads a whole pattern.
-/

namespace ScriptReview
namespace Regex
namespace Reader

/-! ## Blanks, digits and names -/

/-- Drops blanks and comments. The flag says whether a comment is open. -/
def dropBlanks : Bool → List Char → List Char
  | _, [] => []
  | true, c :: cs => dropBlanks (c ≠ '\n') cs
  | false, c :: cs =>
    if Text.isWhiteSpace c then dropBlanks false cs
    else if c = '#' then dropBlanks true cs
    else c :: cs

/-- Drops blanks and comments where they are ignored. -/
def skip (ignoreSpace : Bool) (cs : List Char) : List Char :=
  if ignoreSpace then dropBlanks false cs else cs

/-- The text after an expected beginning. -/
def after? : List Char → List Char → Option (List Char)
  | [], cs => some cs
  | _ :: _, [] => none
  | p :: ps, c :: cs => if p = c then after? ps cs else none

/-- The value of a hexadecimal digit in either case. -/
def hexDigit? (c : Char) : Option Nat :=
  if c.isDigit then some (c.toNat - '0'.toNat)
  else if 'a' ≤ c ∧ c ≤ 'f' then some (c.toNat - 'a'.toNat + 10)
  else if 'A' ≤ c ∧ c ≤ 'F' then some (c.toNat - 'A'.toNat + 10)
  else none

/-- The character with a code point, unless the code point is a surrogate or too large. -/
def charOf? (n : Nat) : Option Char :=
  if h : n.isValidChar then some (Char.ofNatAux n h) else none

/-- The value of decimal digits, or nothing when there are none or it does not fit 32 bits. -/
def decimalOf? (digits : List Char) : Option Nat :=
  if digits = [] then none
  else
    let n := digits.foldl (fun n c => 10 * n + (c.toNat - '0'.toNat)) 0
    if n < powerOfTwo 32 then some n else none

/-- Takes decimal digits, between which blanks can be ignored. -/
def takeDigits (ignoreSpace : Bool) : Nat → List Char → List Char × List Char
  | 0, cs => ([], cs)
  | fuel + 1, cs =>
    match cs with
    | [] => ([], [])
    | c :: rest =>
      if c.isDigit then
        let (digits, left) := takeDigits ignoreSpace fuel (skip ignoreSpace rest)
        (c :: digits, left)
      else ([], cs)

/-- Reads a decimal number with blanks around it. -/
def decimal? (ignoreSpace : Bool) (cs : List Char) : Option Nat × List Char :=
  let cs := cs.dropWhile Text.isWhiteSpace
  let (digits, rest) := takeDigits ignoreSpace (cs.length + 1) cs
  let rest := rest.dropWhile Text.isWhiteSpace
  (decimalOf? digits, skip ignoreSpace rest)

/-! ## Escapes -/

/-- What one character or escape stands for. -/
inductive Atom where
  | literal (l : Literal)
  | dot
  | assertion (a : Assertion)
  | short (c : ShortClass) (negated : Bool)
  | property (q : PropertyQuery) (negated : Bool)

/-- The characters with a meaning of their own in patterns. -/
def isMeta (c : Char) : Bool :=
  "\\.+*?()|[]\x7b\x7d^$#&-~".toList.contains c

/-- Whether a backslash before the character makes it stand for itself. -/
def isEscapable (c : Char) : Bool :=
  isMeta c || (c.toNat < 0x80 && !c.isAlphanum && c != '<' && c != '>')

/-- Reads exactly `n` hexadecimal digits, given the value of the digits before them. -/
def hexDigits? (ignoreSpace : Bool) : Nat → Nat → List Char → Option (Nat × List Char)
  | 0, value, cs => some (value, cs)
  | _ + 1, _, [] => none
  | n + 1, value, c :: cs => do
    let d ← hexDigit? c
    hexDigits? ignoreSpace n (16 * value + d) (skip ignoreSpace cs)

/-- Reads hexadecimal digits up to a closing brace, given the value of the digits before them. -/
def hexBraced? (ignoreSpace : Bool) : Nat → Option Nat → List Char → Option (Nat × List Char)
  | 0, _, _ => none
  | _ + 1, _, [] => none
  | fuel + 1, value, c :: cs =>
    if c = '\x7d' then value.map fun v => (v, skip ignoreSpace cs)
    else do
      let d ← hexDigit? c
      hexBraced? ignoreSpace fuel (some (16 * value.getD 0 + d)) (skip ignoreSpace cs)

/-- Reads the code point after `\x`, `\u` or `\U`, which take two, four or eight digits unless the
digits stand in braces. -/
def hexEscape? (ignoreSpace : Bool) (digits : Nat) (cs : List Char) :
    Option (Atom × List Char) := do
  match skip ignoreSpace cs with
  | [] => none
  | '\x7b' :: rest =>
    let rest := skip ignoreSpace rest
    let (value, rest) ← hexBraced? ignoreSpace (rest.length + 1) none rest
    let c ← charOf? value
    some (.literal ⟨c, false⟩, rest)
  | rest =>
    let (value, rest) ← hexDigits? ignoreSpace digits 0 rest
    let c ← charOf? value
    some (.literal ⟨c, digits = 2⟩, rest)

/-- Splits a text at the first place where a separator stands. -/
def splitAtFirst? (separator : List Char) : List Char → Option (List Char × List Char)
  | [] => none
  | c :: cs =>
    match after? separator (c :: cs) with
    | some rest => some ([], rest)
    | none => (splitAtFirst? separator cs).map fun (before, rest) => (c :: before, rest)

/-- The question that the text between the braces of a property asks. -/
def propertyQuery (name : List Char) : PropertyQuery :=
  match splitAtFirst? ['!', '='] name with
  | some (n, v) => .value (String.ofList n) (String.ofList v)
  | none =>
    match splitAtFirst? [':'] name with
    | some (n, v) => .value (String.ofList n) (String.ofList v)
    | none =>
      match splitAtFirst? ['='] name with
      | some (n, v) => .value (String.ofList n) (String.ofList v)
      | none => .name (String.ofList name)

/-- Takes the characters up to a closing brace. -/
def takeBraced? (ignoreSpace : Bool) : Nat → List Char → Option (List Char × List Char)
  | 0, _ => none
  | _ + 1, [] => none
  | fuel + 1, c :: cs =>
    if c = '\x7d' then some ([], cs)
    else
      (takeBraced? ignoreSpace fuel (skip ignoreSpace cs)).map fun (name, rest) => (c :: name, rest)

/-- Reads a property after `\p` or `\P`: one letter, or a name in braces. -/
def property? (ignoreSpace negated : Bool) (cs : List Char) : Option (Atom × List Char) :=
  match skip ignoreSpace cs with
  | [] => none
  | '\x7b' :: rest =>
    let rest := skip ignoreSpace rest
    (takeBraced? ignoreSpace (rest.length + 1) rest).map fun (name, rest) =>
      (.property (propertyQuery name) negated, rest)
  | c :: rest =>
    if c = '\\' then none
    else some (.property (.name (String.singleton c)) negated, skip ignoreSpace rest)

/-- The word edges that are named in braces after `\b`. -/
def wordEdge? (name : List Char) : Option Assertion :=
  if name = "start".toList then some .wordStart
  else if name = "end".toList then some .wordEnd
  else if name = "start-half".toList then some .wordStartHalf
  else if name = "end-half".toList then some .wordEndHalf
  else none

/-- The characters of the names of word edges. -/
def isEdgeChar (c : Char) : Bool :=
  c.isAlpha || c == '-'

/-- Takes the characters of the name of a word edge. -/
def takeEdgeName (ignoreSpace : Bool) : Nat → List Char → List Char × List Char
  | 0, cs => ([], cs)
  | fuel + 1, cs =>
    match cs with
    | [] => ([], [])
    | c :: rest =>
      if isEdgeChar c then
        let (name, left) := takeEdgeName ignoreSpace fuel (skip ignoreSpace rest)
        (c :: name, left)
      else ([], cs)

/-- Reads what follows `\b`. Braces name a special edge when a letter or a hyphen comes first in
them; otherwise they are left to be read as a repetition. -/
def afterWordEdge? (ignoreSpace : Bool) (cs : List Char) : Option (Assertion × List Char) :=
  match cs with
  | '\x7b' :: rest =>
    match skip ignoreSpace rest with
    | [] => none
    | c :: inside =>
      if isEdgeChar c then
        match takeEdgeName ignoreSpace (inside.length + 2) (c :: inside) with
        | (name, '\x7d' :: rest) => (wordEdge? name).map (·, rest)
        | _ => none
      else some (.wordEdge, cs)
  | _ => some (.wordEdge, cs)

/-- The characters that a letter after a backslash stands for. -/
def specialChar? : Char → Option Char
  | 'a' => some '\x07'
  | 'f' => some '\x0c'
  | 't' => some '\t'
  | 'n' => some '\n'
  | 'r' => some '\r'
  | 'v' => some '\x0b'
  | _ => none

/-- Reads what follows a backslash. Digits would refer back to a group, which is not supported. -/
def escape? (ignoreSpace : Bool) : List Char → Option (Atom × List Char)
  | [] => none
  | c :: cs =>
    match c with
    | 'x' => hexEscape? ignoreSpace 2 cs
    | 'u' => hexEscape? ignoreSpace 4 cs
    | 'U' => hexEscape? ignoreSpace 8 cs
    | 'p' => property? ignoreSpace false cs
    | 'P' => property? ignoreSpace true cs
    | 'd' => some (.short .digit false, cs)
    | 'D' => some (.short .digit true, cs)
    | 's' => some (.short .space false, cs)
    | 'S' => some (.short .space true, cs)
    | 'w' => some (.short .word false, cs)
    | 'W' => some (.short .word true, cs)
    | 'A' => some (.assertion .startText, cs)
    | 'z' => some (.assertion .endText, cs)
    | 'b' => (afterWordEdge? ignoreSpace cs).map fun (a, rest) => (.assertion a, rest)
    | 'B' => some (.assertion .notWordEdge, cs)
    | '<' => some (.assertion .wordStart, cs)
    | '>' => some (.assertion .wordEnd, cs)
    | _ =>
      if isEscapable c then some (.literal ⟨c, false⟩, cs)
      else (specialChar? c).map fun c => (.literal ⟨c, false⟩, cs)

/-! ## Classes in brackets -/

/-- The classes that are named between colons. -/
def namedClass? (name : List Char) : Option NamedClass :=
  [("alnum", NamedClass.alnum), ("alpha", .alpha), ("ascii", .ascii), ("blank", .blank),
    ("cntrl", .cntrl), ("digit", .digit), ("graph", .graph), ("lower", .lower), ("print", .print),
    ("punct", .punct), ("space", .space), ("upper", .upper), ("word", .word),
    ("xdigit", .xdigit)].lookup (String.ofList name)

/-- Reads a class such as `[:alpha:]`, given the characters after the bracket. Anything else is left
to be read as a class in brackets. -/
def colonClass? (cs : List Char) : Option (ClassItem × List Char) := do
  let cs ← after? [':'] cs
  let (negated, cs) := match cs with
    | '^' :: rest => (true, rest)
    | _ => (false, cs)
  let rest ← after? [':', ']'] (cs.dropWhile (· ≠ ':'))
  let named ← namedClass? (cs.takeWhile (· ≠ ':'))
  some (.named named negated, rest)

/-- A class whose closing bracket or right half is still to come. The members that were read before
it are held in reverse. -/
inductive OpenClass where
  | bracket (before : List ClassItem) (negated : Bool)
  | operator (o : ClassOp) (left : ClassSet)

/-- The contents of a class that ends here, with the operator that waits for them. -/
def closeOperator (set : ClassSet) : List OpenClass → ClassSet × List OpenClass
  | .operator o left :: stack => (.op o left set, stack)
  | stack => (set, stack)

/-- The members read so far, held in reverse, as the contents of a class. -/
def contents (items : List ClassItem) : ClassSet :=
  .item (ClassItem.ofList items.reverse)

/-- Takes the hyphens at the beginning of a class, which stand for themselves. -/
def leadingHyphens (ignoreSpace : Bool) : Nat → List Char → List ClassItem × List Char
  | 0, cs => ([], cs)
  | fuel + 1, cs =>
    match cs with
    | '-' :: rest =>
      let (items, left) := leadingHyphens ignoreSpace fuel (skip ignoreSpace rest)
      (.literal ⟨'-', false⟩ :: items, left)
    | _ => ([], cs)

/-- Reads the beginning of a class after its bracket: a caret that negates it, then hyphens or one
closing bracket that stand for themselves. -/
def openBracket? (ignoreSpace : Bool) (cs : List Char) :
    Option (Bool × List ClassItem × List Char) :=
  let cs := skip ignoreSpace cs
  let (negated, cs) := match cs with
    | '^' :: rest => (true, skip ignoreSpace rest)
    | _ => (false, cs)
  let (items, cs) := leadingHyphens ignoreSpace (cs.length + 1) cs
  match items, cs with
  | _, [] => none
  | [], ']' :: rest =>
    match skip ignoreSpace rest with
    | [] => none
    | rest => some (negated, [.literal ⟨']', false⟩], rest)
  | items, cs => some (negated, items, cs)

/-- Reads one character or escape of a class. -/
def classAtom? (ignoreSpace : Bool) : List Char → Option (Atom × List Char)
  | [] => none
  | '\\' :: rest => escape? ignoreSpace rest
  | c :: rest => some (.literal ⟨c, false⟩, rest)

/-- What an atom stands for as a member of a class. -/
def Atom.asItem? : Atom → Option ClassItem
  | .literal l => some (.literal l)
  | .short c negated => some (.short c negated)
  | .property q negated => some (.property q negated)
  | .dot => none
  | .assertion _ => none

/-- What an atom stands for as an end of a range. -/
def Atom.asLiteral? : Atom → Option Literal
  | .literal l => some l
  | _ => none

/-- The first character after blanks and comment signs, with which a look past a hyphen is
content. -/
def peekPast : Bool → List Char → Option Char
  | _, [] => none
  | inComment, c :: cs =>
    if Text.isWhiteSpace c then peekPast inComment cs
    else if !inComment && c == '#' then peekPast true cs
    else some c

/-- The character after the one that is being read. -/
def peek (ignoreSpace : Bool) (rest : List Char) : Option Char :=
  if ignoreSpace then peekPast false rest else rest.head?

/-- Reads a member of a class: one atom, or two atoms with a hyphen between them. A hyphen before
the closing bracket or before another hyphen makes no range. -/
def classRange? (ignoreSpace : Bool) (cs : List Char) : Option (ClassItem × List Char) := do
  let (first, rest) ← classAtom? ignoreSpace cs
  match skip ignoreSpace rest with
  | [] => none
  | '-' :: rest' =>
    if peek ignoreSpace rest' = some ']' ∨ peek ignoreSpace rest' = some '-' then
      let item ← first.asItem?
      some (item, '-' :: rest')
    else
      let (last, rest) ← classAtom? ignoreSpace (skip ignoreSpace rest')
      let lo ← first.asLiteral?
      let hi ← last.asLiteral?
      if lo.char ≤ hi.char then some (.range lo hi, rest) else none
  | rest => do
    let item ← first.asItem?
    some (item, rest)

/-- The operator that two equal characters stand for between the halves of a class. -/
def classOp? : List Char → Option (ClassOp × List Char)
  | '&' :: '&' :: rest => some (.inter, rest)
  | '-' :: '-' :: rest => some (.diff, rest)
  | '~' :: '~' :: rest => some (.symmDiff, rest)
  | _ => none

/-- Reads the rest of a class, given the classes that are open and the members read so far in
reverse. The last open class is the outermost one. -/
def classLoop? (ignoreSpace : Bool) :
    Nat → List OpenClass → List ClassItem → List Char → Option (Expr × List Char)
  | 0, _, _, _ => none
  | fuel + 1, stack, items, cs =>
    match skip ignoreSpace cs with
    | [] => none
    | '[' :: rest =>
      match (if stack.isEmpty then none else colonClass? rest) with
      | some (item, rest) => classLoop? ignoreSpace fuel stack (item :: items) rest
      | none => do
        let (negated, inner, rest) ← openBracket? ignoreSpace rest
        classLoop? ignoreSpace fuel (.bracket items negated :: stack) inner.reverse rest
    | ']' :: rest =>
      match closeOperator (contents items) stack with
      | (set, [.bracket _ negated]) => some (.bracketed negated set, rest)
      | (set, .bracket before negated :: stack) =>
        classLoop? ignoreSpace fuel stack (.bracketed negated set :: before) rest
      | _ => none
    | cs =>
      match classOp? cs with
      | some (o, rest) =>
        let (set, stack) := closeOperator (contents items) stack
        classLoop? ignoreSpace fuel (.operator o set :: stack) [] rest
      | none => do
        let (item, rest) ← classRange? ignoreSpace cs
        classLoop? ignoreSpace fuel stack (item :: items) rest

/-! ## Groups and flags -/

/-- The flag that a letter stands for. -/
def flag? : Char → Option Flag
  | 'i' => some .ignoreCase
  | 'm' => some .multiLine
  | 's' => some .dotAll
  | 'U' => some .swapGreed
  | 'u' => some .unicode
  | 'R' => some .carriageReturn
  | 'x' => some .ignoreSpace
  | _ => none

/-- Reads flags up to the colon or the bracket that ends them. No flag is named twice, one hyphen at
most switches the flags after it off, and a flag follows it. -/
def flags? : Bool → FlagChanges → List Char → Option (FlagChanges × Bool × List Char)
  | _, _, [] => none
  | negated, seen, c :: cs =>
    if c = ':' ∨ c = ')' then
      if negated && seen.all (·.2) then none else some (seen, c = ':', cs)
    else if c = '-' then
      if negated then none else flags? true seen cs
    else
      match flag? c with
      | none => none
      | some f => if seen.any (·.1 == f) then none else flags? negated (seen ++ [(f, !negated)]) cs

/-- The state that a flag is switched to, if any. -/
def switched (changes : FlagChanges) (f : Flag) : Option Bool :=
  changes.lookup f

/-- Whether a character can stand in the name of a group. -/
def isNameChar (first : Bool) (c : Char) : Bool :=
  let within := fun ranges => (CharSet.ofRanges ranges).contains c.toNat
  let alphabetic := within ((Unicode.Property.named? "alphabetic").getD [])
  if first then c == '_' || alphabetic
  else c == '_' || c == '.' || c == '[' || c == ']' || alphabetic ||
    within ((Unicode.Category.named? "n").getD [])

/-- Reads the name of a group up to its closing angle. -/
def groupName? (first : Bool) : List Char → Option (List Char × List Char)
  | [] => none
  | c :: cs =>
    if c = '>' then some ([], cs)
    else if isNameChar first c then
      (groupName? false cs).map fun (name, rest) => (c :: name, rest)
    else none

/-- What an opening bracket begins. -/
inductive Opening where
  | flags (changes : FlagChanges)
  | group (changes : FlagChanges) (captures : Bool) (name : Option (List Char))

/-- Whether the text after a bracket looks around, which is not supported. -/
def looksAround (cs : List Char) : Bool :=
  ["?=", "?!", "?<=", "?<!"].any fun p => (after? p.toList cs).isSome

/-- Reads what follows an opening bracket. -/
def opening? (ignoreSpace : Bool) (cs : List Char) : Option (Opening × List Char) :=
  let cs := skip ignoreSpace cs
  if looksAround cs then none
  else
    let named := (after? "?P<".toList cs).orElse fun _ => after? "?<".toList cs
    match named with
    | some rest => do
      let (name, rest) ← groupName? true rest
      if name = [] then none else some (.group [] true (some name), rest)
    | none =>
      match cs with
      | '?' :: rest => do
        let (changes, opensGroup, rest) ← flags? false [] rest
        if opensGroup then some (.group changes false none, rest)
        else if changes = [] then none
        else some (.flags changes, rest)
      | _ => some (.group [] true none, cs)

/-! ## Whole patterns -/

/-- A group that is open, or the branches that were read before the present one. What was read
before is held in reverse. -/
inductive Frame where
  | group (before : List Expr) (changes : FlagChanges) (captures ignoreSpace : Bool)
  | branches (before : List Expr)

/-- How far the reading of a pattern has come: the frames that are open, the present sequence in
reverse, whether blanks are ignored, and the names of groups. -/
structure State where
  frames : List Frame
  items : List Expr
  ignoreSpace : Bool
  names : List (List Char)

/-- The present sequence. -/
def State.sequence (s : State) : Expr :=
  Expr.ofSequence s.items.reverse

/-- The present sequence with the branches before it, and the frames that remain. -/
def State.closeBranches (s : State) : Expr × List Frame :=
  match s.frames with
  | .branches before :: frames => (.alternation (s.sequence :: before).reverse, frames)
  | frames => (s.sequence, frames)

/-- Ends the present branch. -/
def State.nextBranch (s : State) : State :=
  match s.frames with
  | .branches before :: frames =>
    { s with frames := .branches (s.sequence :: before) :: frames, items := [] }
  | frames => { s with frames := .branches [s.sequence] :: frames, items := [] }

/-- Ends the innermost group. -/
def State.closeGroup? (s : State) : Option State :=
  match s.closeBranches with
  | (e, .group before changes captures ignoreSpace :: frames) =>
    some { s with frames, items := .group changes captures e :: before, ignoreSpace }
  | _ => none

/-- Reads the beginning of a group or a change of flags. -/
def State.open? (s : State) (cs : List Char) : Option (State × List Char) := do
  match ← opening? s.ignoreSpace cs with
  | (.flags changes, rest) =>
    some ({ s with
      items := .flags changes :: s.items
      ignoreSpace := (switched changes .ignoreSpace).getD s.ignoreSpace }, rest)
  | (.group changes captures name, rest) =>
    let names := name.toList ++ s.names
    if name.any s.names.contains then none
    else some ({
      frames := .group s.items changes captures s.ignoreSpace :: s.frames
      items := []
      ignoreSpace := (switched changes .ignoreSpace).getD s.ignoreSpace
      names }, rest)

/-- Repeats the last expression of the present sequence. -/
def State.repeatLast? (s : State) (min : Nat) (max : Option Nat) : Option State :=
  match s.items with
  | e :: before =>
    if e.isRepeatable then some { s with items := .repeated min max e :: before } else none
  | [] => none

/-- Drops the question mark that makes a repetition reluctant. -/
def dropReluctance : List Char → List Char
  | '?' :: cs => cs
  | cs => cs

/-- Reads the counts of a repetition after the opening brace. A first number is required. -/
def counts? (ignoreSpace : Bool) (cs : List Char) : Option (Nat × Option Nat × List Char) :=
  match skip ignoreSpace cs with
  | [] => none
  | cs =>
    match decimal? ignoreSpace cs with
    | (some min, ',' :: rest) =>
      match skip ignoreSpace rest with
      | '\x7d' :: rest => some (min, none, rest)
      | rest =>
        match decimal? ignoreSpace rest with
        | (some max, '\x7d' :: rest) => if min ≤ max then some (min, some max, rest) else none
        | _ => none
    | (some n, '\x7d' :: rest) => some (n, some n, rest)
    | _ => none

/-- Reads one token of a pattern. -/
def State.step? (s : State) (c : Char) (cs : List Char) : Option (State × List Char) :=
  match c with
  | '(' => s.open? cs
  | ')' => s.closeGroup?.map (·, cs)
  | '|' => some (s.nextBranch, cs)
  | '[' => do
    let (negated, inner, rest) ← openBracket? s.ignoreSpace cs
    let (e, rest) ←
      classLoop? s.ignoreSpace (rest.length + 1) [.bracket [] negated] inner.reverse rest
    some ({ s with items := e :: s.items }, rest)
  | '?' => (s.repeatLast? 0 (some 1)).map (·, dropReluctance cs)
  | '*' => (s.repeatLast? 0 none).map (·, dropReluctance cs)
  | '+' => (s.repeatLast? 1 none).map (·, dropReluctance cs)
  | '\x7b' => do
    let (min, max, rest) ← counts? s.ignoreSpace cs
    let s' ← s.repeatLast? min max
    some (s', dropReluctance (skip s.ignoreSpace rest))
  | '\\' => do
    let (atom, rest) ← escape? s.ignoreSpace cs
    let e := match atom with
      | .literal l => Expr.literal l
      | .dot => .dot
      | .assertion a => .assertion a
      | .short c negated => .short c negated
      | .property q negated => .property q negated
    some ({ s with items := e :: s.items }, rest)
  | '.' => some ({ s with items := .dot :: s.items }, cs)
  | '^' => some ({ s with items := .assertion .startLine :: s.items }, cs)
  | '$' => some ({ s with items := .assertion .endLine :: s.items }, cs)
  | c => some ({ s with items := .literal ⟨c, false⟩ :: s.items }, cs)

/-- Reads the rest of a pattern. Every group has to be closed at its end. -/
def loop? : Nat → State → List Char → Option Expr
  | 0, _, _ => none
  | fuel + 1, s, cs =>
    match skip s.ignoreSpace cs with
    | [] =>
      match s.closeBranches with
      | (e, []) => some e
      | _ => none
    | c :: rest => do
      let (s, rest) ← s.step? c rest
      loop? fuel s rest

end Reader

/-- Reads a whole pattern. -/
def Expr.read? (pattern : List Char) : Option Expr :=
  Reader.loop? (pattern.length + 1) ⟨[], [], false, []⟩ pattern

end Regex
end ScriptReview
