import ScriptReview.Regex.Expr
import ScriptReview.Regex.Pattern
import ScriptReview.Regex.Property

/-!
# Resolving expressions

The flags in force at each place of an expression decide what it matches there. A change of flags
lasts until the end of its group, also across branches. Where the `u` flag is off, characters are
bytes, and an expression that could match a part of a character is refused.

Main definitions:

* `Fault` lists the reasons for which an expression is refused.
* `Expr.resolve` turns an expression into a pattern.
-/

namespace ScriptReview
namespace Regex

/-- The reasons for which a pattern text is refused. -/
inductive Fault where
  | malformed
  | tooDeep
  | tooLarge
  | unknownProperty
  | needsUnicode
  | splitsCharacters
  deriving DecidableEq, Repr, Inhabited

/-- The text of a reason. -/
def Fault.message : Fault → String
  | .malformed => "the pattern is malformed"
  | .tooDeep => "the pattern is nested too deeply"
  | .tooLarge => "the compiled pattern is too large"
  | .unknownProperty => "no such character property"
  | .needsUnicode => "characters beyond a byte need the u flag"
  | .splitsCharacters => "the pattern could match a part of a character"

/-- The flags that decide what an expression matches. -/
structure Modes where
  ignoreCase : Bool
  multiLine : Bool
  dotAll : Bool
  carriageReturn : Bool
  unicode : Bool
  deriving DecidableEq, Repr, Inhabited

namespace Modes

/-- The flags in force at the beginning of a pattern. -/
def initial : Modes := ⟨false, false, false, false, true⟩

/-- The flags after one of them is switched. -/
def switch (m : Modes) : Flag × Bool → Modes
  | (.ignoreCase, b) => { m with ignoreCase := b }
  | (.multiLine, b) => { m with multiLine := b }
  | (.dotAll, b) => { m with dotAll := b }
  | (.carriageReturn, b) => { m with carriageReturn := b }
  | (.unicode, b) => { m with unicode := b }
  | (.swapGreed, _) => m
  | (.ignoreSpace, _) => m

/-- The flags after a change. -/
def change (m : Modes) (changes : FlagChanges) : Modes :=
  changes.foldl switch m

/-- Adds the other cases of a set where case is ignored. -/
def fold (m : Modes) (s : CharSet) : CharSet :=
  if m.ignoreCase then if m.unicode then s.foldCase else s.foldAscii else s

/-- Refuses a set of bytes with a member that is only a part of a character. -/
def wholeCharacters (m : Modes) (s : CharSet) : Except Fault CharSet :=
  if m.unicode || s.isAscii then .ok s else .error .splitsCharacters

/-- The characters outside a set, or the bytes outside it. -/
def compl (m : Modes) (s : CharSet) : CharSet :=
  if m.unicode then s.compl else s.complUpTo 0xFF

/-- Ignores case where it is ignored, then negates where that is asked for. -/
def foldAndNegate (m : Modes) (negated : Bool) (s : CharSet) : Except Fault CharSet :=
  let folded := m.fold s
  m.wholeCharacters (if negated then m.compl folded else folded)

/-- The character of a literal as a member of a class. -/
def classLiteral (m : Modes) (l : Literal) : Except Fault Nat :=
  let n := l.char.toNat
  if m.unicode || n ≤ 0x7F then .ok n
  else if l.twoDigits && n ≤ 0xFF then .error .splitsCharacters
  else .error .needsUnicode

/-- The set of a class with a letter of its own. -/
def shortSet (m : Modes) (c : ShortClass) (negated : Bool) : Except Fault CharSet :=
  let s := if m.unicode then c.set else c.asciiSet
  m.wholeCharacters (if negated then m.compl s else s)

/-- The set of a property. -/
def propertySet (m : Modes) (q : PropertyQuery) (negated : Bool) : Except Fault CharSet :=
  if !m.unicode then .error .needsUnicode
  else
    match q.find? with
    | none => .error .unknownProperty
    | some s => m.foldAndNegate negated s

/-- The set of an operator between two halves of a class. -/
def operate (m : Modes) (o : ClassOp) (left right : CharSet) : CharSet :=
  match o with
  | .inter => (m.fold left).inter (m.fold right)
  | .diff => (m.fold left).diff (m.fold right)
  | .symmDiff => (m.fold left).symmDiff (m.fold right)

end Modes

mutual

/-- The set of a member of a class. -/
def ClassItem.set (m : Modes) : ClassItem → Except Fault CharSet
  | .empty => .ok .empty
  | .literal l => (m.classLiteral l).map CharSet.singleton
  | .range first last => do
    let lo ← m.classLiteral first
    let hi ← m.classLiteral last
    .ok (.range lo hi)
  | .named c negated => m.foldAndNegate negated c.set
  | .short c negated => m.shortSet c negated
  | .property q negated => m.propertySet q negated
  | .bracketed negated set => do m.foldAndNegate negated (← set.set m)
  | .union items => ClassItem.unionSet m items

/-- The set of all members of a class. -/
def ClassItem.unionSet (m : Modes) : List ClassItem → Except Fault CharSet
  | [] => .ok .empty
  | i :: is => do
    let s ← i.set m
    let rest ← ClassItem.unionSet m is
    .ok (s.union rest)

/-- The set of the contents of a class. -/
def ClassSet.set (m : Modes) : ClassSet → Except Fault CharSet
  | .item i => i.set m
  | .op o left right => do
    let l ← left.set m
    let r ← right.set m
    .ok (m.operate o l r)

end

namespace Modes

/-- What a literal matches. -/
def literal (m : Modes) (l : Literal) : Except Fault Pattern :=
  let n := l.char.toNat
  if !m.unicode && l.twoDigits && 0x7F < n && n ≤ 0xFF then .error .splitsCharacters
  else .ok (.chars (m.fold (.singleton n)))

/-- What a dot matches: any character, except those that end a line unless `s` is on. -/
def dot (m : Modes) : Except Fault Pattern :=
  if !m.unicode then .error .splitsCharacters
  else if m.dotAll then .ok (.chars .all)
  else if m.carriageReturn then .ok (.chars (CharSet.compl ⟨[(0x0A, 0x0A), (0x0D, 0x0D)]⟩))
  else .ok (.chars (CharSet.compl (.singleton 0x0A)))

/-- The word characters that word edges are seen with. -/
def wordMembers (m : Modes) : CharSet :=
  if m.unicode then ShortClass.word.set else ShortClass.word.asciiSet

/-- The condition that an assertion stands for. -/
def look (m : Modes) : Assertion → Look
  | .startLine =>
    if m.multiLine then if m.carriageReturn then .crlfStart else .lineStart else .textStart
  | .endLine => if m.multiLine then if m.carriageReturn then .crlfEnd else .lineEnd else .textEnd
  | .startText => .textStart
  | .endText => .textEnd
  | .wordEdge => .word .edge m.wordMembers
  | .notWordEdge => .word .notEdge m.wordMembers
  | .wordStart => .word .start m.wordMembers
  | .wordEnd => .word .finish m.wordMembers
  | .wordStartHalf => .word .startHalf m.wordMembers
  | .wordEndHalf => .word .finishHalf m.wordMembers

end Modes

mutual

/-- Resolves an expression under the flags in force, and gives the flags in force after it. -/
def Expr.resolveIn (m : Modes) : Expr → Except Fault (Pattern × Modes)
  | .empty => .ok (.empty, m)
  | .flags changes => .ok (.empty, m.change changes)
  | .literal l => (m.literal l).map (·, m)
  | .dot => m.dot.map (·, m)
  | .assertion a => .ok (.look (m.look a), m)
  | .short c negated => (m.shortSet c negated).map fun s => (.chars s, m)
  | .property q negated => (m.propertySet q negated).map fun s => (.chars s, m)
  | .bracketed negated set => do
    let s ← set.set m
    let s ← m.foldAndNegate negated s
    .ok (.chars s, m)
  | .repeated min max e => do
    let (p, m) ← e.resolveIn m
    .ok (.repeated min max p, m)
  | .group changes captures e => do
    let (p, _) ← e.resolveIn (m.change changes)
    .ok (if captures then .group p else p, m)
  | .alternation es => do
    let (ps, m) ← Expr.resolveList m es
    .ok (.choice ps, m)
  | .sequence es => do
    let (ps, m) ← Expr.resolveList m es
    .ok (.sequence ps, m)

/-- Resolves expressions in turn, each under the flags that the one before it leaves in force. -/
def Expr.resolveList (m : Modes) : List Expr → Except Fault (List Pattern × Modes)
  | [] => .ok ([], m)
  | e :: es => do
    let (p, m) ← e.resolveIn m
    let (ps, m) ← Expr.resolveList m es
    .ok (p :: ps, m)

end

/-- Turns an expression into a pattern. -/
def Expr.resolve (e : Expr) : Except Fault Pattern :=
  (e.resolveIn .initial).map (·.1)

end Regex
end ScriptReview
