import ScriptReview.Regex.Pattern

/-!
# Matching with a machine

A pattern is compiled to the states of a machine, and the machine is run over a text with all the
states that it could be in at once. A state is entered at most once between two characters, so
that a run takes time in proportion to the text and the machine.

Main definitions:

* `Instr` is what a state does, and `Pattern.emit` writes the states of a pattern.
* `Machine.closure` finds the states that are reached between two characters.
* `Machine.matchesIn` says whether the pattern occurs anywhere in a text.
-/

namespace ScriptReview
namespace Regex

/-- What a state of the machine does before it goes on. -/
inductive Instr where
  | accept
  | take (set : CharSet) (next : Nat)
  | check (l : Look) (next : Nat)
  | fork (left right : Nat)
  deriving Inhabited

/-- The states of a machine and the one that it begins in. -/
structure Machine where
  code : Array Instr
  start : Nat
  deriving Inhabited

/-- Applies a function a number of times. -/
def times {α : Type} (f : α → α) : Nat → α → α
  | 0, a => a
  | n + 1, a => times f n (f a)

namespace Pattern

mutual

/-- Writes the states of a pattern that goes on at state `next`, and gives the state it begins in.
-/
def emit : Pattern → Nat → Array Instr → Nat × Array Instr
  | .empty, next, code => (next, code)
  | .chars s, next, code => (code.size, code.push (.take s next))
  | .look l, next, code => (code.size, code.push (.check l next))
  | .sequence ps, next, code => emitAll ps next code
  | .choice ps, next, code => emitAny ps next code
  | .group p, next, code => p.emit next code
  | .repetition min max p, next, code =>
    let again := fun (at' : Nat × Array Instr) => p.emit at'.1 at'.2
    match max with
    | some max =>
      let option := fun (at' : Nat × Array Instr) =>
        let (body, code) := again at'
        (code.size, code.push (.fork body next))
      times again min (times option (max - min) (next, code))
    | none =>
      let loop := code.size
      let (body, code) := p.emit loop (code.push (.fork loop next))
      times again min (loop, code.set! loop (.fork body next))

/-- Writes the states of patterns that are matched one after the other. -/
def emitAll : List Pattern → Nat → Array Instr → Nat × Array Instr
  | [], next, code => (next, code)
  | p :: ps, next, code =>
    let (rest, code) := emitAll ps next code
    p.emit rest code

/-- Writes the states of patterns of which one is matched. -/
def emitAny : List Pattern → Nat → Array Instr → Nat × Array Instr
  | [], _, code => (code.size, code.push (.take .empty code.size))
  | [p], next, code => p.emit next code
  | p :: ps, next, code =>
    let (others, code) := emitAny ps next code
    let (first, code) := p.emit next code
    (code.size, code.push (.fork first others))

end

/-- The machine of a pattern. -/
def compile (p : Pattern) : Machine :=
  let (start, code) := p.emit 0 #[.accept]
  ⟨code, start⟩

end Pattern

namespace Machine

/-- The states that wait for a character, with what has to be known to extend them: the last
moment at which each state was entered, and whether the machine has accepted. -/
structure Frontier where
  waiting : List Nat
  entered : Array Nat
  accepted : Bool
  deriving Inhabited

/-- Enters the states of a worklist and all that they lead to without a character. Entering a
state for the first time adds two to the worklist at most, so that `2 * code.size` steps beyond
the length of the worklist are enough. -/
def closure (m : Machine) (moment : Nat) (before after : Option Char) :
    Nat → List Nat → Frontier → Frontier
  | 0, _, f => f
  | _ + 1, [], f => f
  | fuel + 1, pc :: work, f =>
    if f.entered[pc]? = some moment then closure m moment before after fuel work f
    else
      let f := { f with entered := f.entered.set! pc moment }
      match m.code[pc]? with
      | none => closure m moment before after fuel work f
      | some .accept => closure m moment before after fuel work { f with accepted := true }
      | some (.take _ _) =>
        closure m moment before after fuel work { f with waiting := pc :: f.waiting }
      | some (.check l next) =>
        closure m moment before after fuel
          (if l.holds before after then next :: work else work) f
      | some (.fork left right) =>
        closure m moment before after fuel (left :: right :: work) f

/-- The state that a waiting state leads to over a character. -/
def stepOver (m : Machine) (c : Char) (pc : Nat) : Option Nat :=
  match m.code[pc]? with
  | some (.take s next) => if s.contains c.toNat then some next else none
  | _ => none

/-- Whether the pattern occurs in the text that remains, given the states carried over the character
before it. A match may begin at every place. -/
def search (m : Machine) (moment : Nat) (before : Option Char) (entered : Array Nat)
    (carried : List Nat) : List Char → Bool
  | [] =>
    (m.closure moment before none (carried.length + 1 + 2 * m.code.size) (m.start :: carried)
      ⟨[], entered, false⟩).accepted
  | c :: cs =>
    let f := m.closure moment before (some c) (carried.length + 1 + 2 * m.code.size)
      (m.start :: carried) ⟨[], entered, false⟩
    if f.accepted then true
    else m.search (moment + 1) (some c) f.entered (f.waiting.filterMap (m.stepOver c)) cs

/-- Whether the pattern occurs anywhere in a text. -/
def matchesIn (m : Machine) (text : List Char) : Bool :=
  m.search 1 none (Array.replicate m.code.size 0) [] text

end Machine
end Regex
end ScriptReview
