import ScriptReview.Config.Basic
import ScriptReview.Review.Analyzer

/-!
# Sessions

A rule book can grow while it is in use. In a session rules are registered, lines are scanned and
texts are reviewed in any order, and every request is answered with the rules that are in the book
at that moment. A registration that is refused leaves the book as it was.

Main definitions:

* `Registration` is a rule to register, and `Registration.compile` gives the rule or its fault.
* `Request` and `Answer` are what goes into a session and what comes out of it.
* `RuleBook.step` answers one request, `RuleBook.run` a whole session.
-/

namespace ScriptReview

/-- A rule to register: one that is at hand, or the settings of one whose pattern may be refused. -/
inductive Registration where
  | rule (rule : Rule)
  | settings (settings : RuleSettings)
  deriving Inhabited

/-- The rule to register, unless its pattern is refused. -/
def Registration.compile : Registration → Except Fault Rule
  | .rule r => .ok r
  | .settings s => s.compile

/-- What can be asked of a rule book in a session. -/
inductive Request where
  | register (registration : Registration)
  | scan (lines : List (List Char))
  | review (source : String)
  | rules
  deriving Inhabited

/-- What a rule book answers: how many rules it holds after a registration, or why the registration
was refused, the issues of lines, the report of a text, or the names and summaries of its rules. -/
inductive Answer where
  | registered (count : Nat)
  | refused (fault : Fault)
  | issues (issues : List Issue)
  | report (report : Report)
  | rules (rules : List (String × String))
  deriving DecidableEq, Repr, Inhabited

namespace RuleBook

/-- Answers a request, and gives the book for the next one. -/
def step (book : RuleBook) : Request → RuleBook × Answer
  | .register registration =>
    match registration.compile with
    | .ok rule => (book.add rule, .registered (book.add rule).rules.length)
    | .error fault => (book, .refused fault)
  | .scan lines => (book, .issues (book.scan lines))
  | .review source => (book, .report (book.review source))
  | .rules => (book, .rules (book.rules.map fun r => (r.id, r.summary)))

/-- Answers the requests of a session in their order. -/
def run (book : RuleBook) : List Request → RuleBook × List Answer
  | [] => (book, [])
  | request :: requests =>
    let (next, answer) := book.step request
    let (last, answers) := next.run requests
    (last, answer :: answers)

@[simp]
theorem run_nil (book : RuleBook) : book.run [] = (book, []) :=
  rfl

/-- The first request is answered first. -/
theorem run_cons (book : RuleBook) (request : Request) (requests : List Request) :
    book.run (request :: requests) =
      (((book.step request).1.run requests).1,
        (book.step request).2 :: ((book.step request).1.run requests).2) :=
  rfl

end RuleBook
end ScriptReview
