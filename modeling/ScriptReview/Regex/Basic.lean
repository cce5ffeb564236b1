import ScriptReview.Regex.Footprint
import ScriptReview.Regex.Machine
import ScriptReview.Regex.Reader
import ScriptReview.Regex.Resolve

/-!
# Regular expressions

A regular expression is compiled once and then asked whether it occurs in texts.

Main definitions:

* `Regex.compile` reads, checks and compiles a pattern text.
* `Regex.occursIn` asks for an occurrence.
-/

namespace ScriptReview

/-- A compiled regular expression, together with its text. -/
structure Regex where
  text : String
  machine : Regex.Machine
  deriving Inhabited

namespace Regex

/-- How deeply a pattern may be nested. -/
def depthLimit : Nat := 250

/-- Reads, checks and compiles a pattern text. -/
def compile (text : String) : Except Fault Regex :=
  match Expr.read? text.toList with
  | none => .error .malformed
  | some e =>
    if e.depth > depthLimit then .error .tooDeep
    else
      match e.resolve with
      | .error f => .error f
      | .ok p => if p.fits then .ok ⟨text, p.compile⟩ else .error .tooLarge

/-- Whether the expression occurs anywhere in a text. -/
def occursIn (r : Regex) (text : List Char) : Bool :=
  r.machine.matchesIn text

/-- A compiled expression keeps its text. -/
theorem text_of_compile {text : String} {r : Regex} (h : compile text = .ok r) : r.text = text := by
  unfold compile at h
  split at h
  · simp at h
  · split at h
    · simp at h
    · split at h
      · simp at h
      · split at h
        · simp only [Except.ok.injEq] at h
          rw [← h]
        · simp at h

end Regex
end ScriptReview
