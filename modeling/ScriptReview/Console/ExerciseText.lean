import ScriptReview.Console.Painted
import ScriptReview.Exercise.Basic
import ScriptReview.Text.Search

/-!
# Exercises on the console

Main definition: `Exercise.painted` shows an exercise with its template, test cases and hints.
-/

namespace ScriptReview
namespace Exercise

/-- A line without the carriage return at its end. -/
def dropReturn (line : List Char) : List Char :=
  if Text.endsWith ['\r'] line then line.dropLast else line

/-- The lines of a template. Line feeds end them, with or without a carriage return before; nothing
after the last line feed is no line. -/
def templateLines (stub : String) : List String :=
  let pieces := Text.splitAt '\n' stub.toList
  let ended := pieces.dropLast.map dropReturn
  let last := (pieces.getLast?.filter fun piece => !piece.isEmpty).toList
  (ended ++ last).map String.ofList

/-- The lines of a test case with its number. -/
def casePainted (number : Nat) (c : TestCase) : Painted :=
  Painted.line [.plain ("  " ++ toString number ++ ". " ++ c.description)] ++
    Painted.line [.plain ("     input:    " ++ String.ofList (Json.Value.array c.input).compact)] ++
    Painted.line [.plain ("     expected: " ++ String.ofList c.expected.compact)]

/-- The lines of test cases, the first of which has the given number. -/
def casesFrom (number : Nat) : List TestCase → Painted
  | [] => []
  | c :: cs => casePainted number c ++ casesFrom (number + 1) cs

/-- An exercise with its template, test cases and hints. -/
def painted (e : Exercise) : Painted :=
  Painted.line [.styled (.weight .bold) e.title, .plain " [",
      .styled (.color .cyan) e.difficulty.label, .plain "]"] ++
    Painted.line [.plain e.description] ++ Painted.line [] ++
    Painted.line [.styled (.weight .underlined) "Function Template"] ++
    ((templateLines e.stub).flatMap fun l => Painted.line [.plain ("    " ++ l)]) ++
    Painted.line [] ++ Painted.line [.styled (.weight .underlined) "Test Cases"] ++
    casesFrom 1 e.testCases ++ Painted.line [] ++
    Painted.line [.styled (.weight .underlined) "Hints"] ++
    e.hints.flatMap fun h => Painted.line [.plain ("  - " ++ h)]

end Exercise
end ScriptReview
