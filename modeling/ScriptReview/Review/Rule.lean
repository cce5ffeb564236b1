import ScriptReview.Regex.Basic
import ScriptReview.Review.Report
import ScriptReview.Text.Search

/-!
# Rules

A rule looks at one line and at the line after it, both without the blanks at their ends, and
finds at most one issue. Five rules are built in; others look for an occurrence of a regular
expression.

Main definitions:

* `PatternRule.compile` makes a rule from the text of a pattern.
* `Rule.fires` says whether a rule finds something.
* `Rule.issueAt` is what it finds, and `Rule.check` joins the two.
-/

namespace ScriptReview

/-- A rule that looks for an occurrence of a regular expression. -/
structure PatternRule where
  id : String
  pattern : Regex
  kind : IssueKind
  severity : Severity
  message : String
  deriving Inhabited

namespace PatternRule

/-- A rule for a pattern text, unless the pattern is refused. -/
def compile (id pattern : String) (kind : IssueKind) (severity : Severity) (message : String) :
    Except Regex.Fault PatternRule :=
  (Regex.compile pattern).map fun r => ⟨id, r, kind, severity, message⟩

end PatternRule

/-- What a rule looks for in a line. -/
inductive Rule where
  | debugPrint
  | looseDeclaration
  | looseEquality
  | missingTerminator
  | emptyCatch
  | pattern (rule : PatternRule)
  deriving Inhabited

/-- What a rule sees: a line with its number, counted from one, and the line after it, if any. -/
structure LineView where
  number : Nat
  line : List Char
  next : Option (List Char)
  deriving DecidableEq, Repr

namespace Rule

/-- The built-in rules in the order in which they fire. -/
def builtin : List Rule :=
  [.debugPrint, .looseDeclaration, .looseEquality, .missingTerminator, .emptyCatch]

/-- The name of a rule. -/
def id : Rule → String
  | .debugPrint => "debug-print"
  | .looseDeclaration => "loose-declaration"
  | .looseEquality => "loose-equality"
  | .missingTerminator => "missing-terminator"
  | .emptyCatch => "empty-catch"
  | .pattern rule => rule.id

/-- What a rule looks for, in one line. -/
def summary : Rule → String
  | .debugPrint => "line calls console.log"
  | .looseDeclaration => "line declares with \x60var \x60"
  | .looseEquality => "line uses == without ==="
  | .missingTerminator => "statement line lacks a trailing ; \x7b or \x7d"
  | .emptyCatch => "catch line is followed directly by \x7d"
  | .pattern rule => rule.pattern.text

/-- The words that keep a line from lacking a terminator wherever they stand in it, even inside
another word. -/
def controlWords : List String :=
  ["if", "else", "for", "while", "function"]

/-- Whether a line ends like a statement that was not terminated. -/
def lacksTerminator (line : List Char) : Bool :=
  !line.isEmpty && !Text.endsWith [';'] line && !Text.endsWith ['\x7b'] line &&
    !Text.endsWith ['\x7d'] line && !Text.startsWith ['/', '/'] line &&
    !Text.startsWith ['*'] line && !controlWords.any fun w => Text.contains w.toList line

/-- Whether a rule finds something in a line that is followed by another. -/
def fires (line : List Char) (next : Option (List Char)) : Rule → Bool
  | .debugPrint => Text.contains "console.log".toList line
  | .looseDeclaration => Text.contains "var ".toList line
  | .looseEquality => Text.contains "==".toList line && !Text.contains "===".toList line
  | .missingTerminator => lacksTerminator line
  | .emptyCatch => Text.contains "catch".toList line && next == some ['\x7d']
  | .pattern rule => rule.pattern.occursIn line

/-- The kind of the issues that a rule finds. -/
def kind : Rule → IssueKind
  | .debugPrint => .warning
  | .looseDeclaration => .suggestion
  | .looseEquality => .warning
  | .missingTerminator => .info
  | .emptyCatch => .error
  | .pattern rule => rule.kind

/-- The severity of the issues that a rule finds. -/
def severity : Rule → Severity
  | .debugPrint => .low
  | .looseDeclaration => .medium
  | .looseEquality => .medium
  | .missingTerminator => .low
  | .emptyCatch => .high
  | .pattern rule => rule.severity

/-- The message of the issues that a rule finds. -/
def message : Rule → String
  | .debugPrint => "Console.log statement found - consider removing for production"
  | .looseDeclaration => "Consider using \"let\" or \"const\" instead of \"var\""
  | .looseEquality => "Use strict equality (===) instead of loose equality (==)"
  | .missingTerminator => "Missing semicolon"
  | .emptyCatch => "Empty catch block - handle errors properly"
  | .pattern rule => rule.message

/-- The issue that a rule finds in a line. -/
def issueAt (r : Rule) (number : Nat) : Issue :=
  ⟨r.kind, r.message, some number, r.severity⟩

/-- The issue that a rule finds in what it sees, if any. -/
def check (r : Rule) (view : LineView) : Option Issue :=
  if r.fires view.line view.next then some (r.issueAt view.number) else none

/-- A rule finds its issue exactly where it fires. -/
theorem check_eq_some_iff (r : Rule) (view : LineView) (i : Issue) :
    r.check view = some i ↔ r.fires view.line view.next = true ∧ i = r.issueAt view.number := by
  by_cases h : r.fires view.line view.next = true
  · simp [check, h, eq_comm (a := i)]
  · simp [check, h]

end Rule
end ScriptReview
