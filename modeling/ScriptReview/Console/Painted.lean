/-!
# Painted text

Text for a console is a list of spans, some of which have a style. With colors, a styled span
stands between a sequence that switches its style on and one that switches all styles off; without
colors it is plain text.

Main definitions:

* `Style` is a style, and `Style.opening` the sequence that switches it on.
* `Span` is a piece of text with a style, and `Painted` a list of them.
* `Painted.render` writes painted text with or without colors.

Main results:

* `Painted.render_append` says that texts are rendered one after the other.
-/

namespace ScriptReview

/-- The colors in use. -/
inductive Color where
  | red
  | green
  | yellow
  | blue
  | cyan
  deriving DecidableEq, Repr, Inhabited

/-- The code of a color. -/
def Color.code : Color → List Char
  | .red => ['3', '1']
  | .green => ['3', '2']
  | .yellow => ['3', '3']
  | .blue => ['3', '4']
  | .cyan => ['3', '6']

/-- The weights of text. -/
inductive Weight where
  | bold
  | dimmed
  | underlined
  deriving DecidableEq, Repr, Inhabited

/-- The code of a weight. -/
def Weight.code : Weight → List Char
  | .bold => ['1']
  | .dimmed => ['2']
  | .underlined => ['4']

/-- A style: a weight, a color, or both. -/
inductive Style where
  | weight (w : Weight)
  | color (c : Color)
  | both (w : Weight) (c : Color)
  deriving DecidableEq, Repr, Inhabited

namespace Style

/-- The codes of a style. The weight comes before the color. -/
def codes : Style → List Char
  | .weight w => w.code
  | .color c => c.code
  | .both w c => w.code ++ ';' :: c.code

/-- The sequence that switches a style on. -/
def opening (s : Style) : List Char :=
  '\x1b' :: '[' :: s.codes ++ ['m']

/-- The sequence that switches all styles off. -/
def closing : List Char :=
  ['\x1b', '[', '0', 'm']

/-- A text in which a style is switched on again wherever the text itself switches it off. -/
def reopen (s : Style) : List Char → List Char
  | '\x1b' :: '[' :: '0' :: 'm' :: rest => closing ++ s.opening ++ s.reopen rest
  | c :: rest => c :: s.reopen rest
  | [] => []

end Style

/-- A text with blanks at its end up to a width. -/
def padTo (width : Nat) (cs : List Char) : List Char :=
  cs ++ List.replicate (width - cs.length) ' '

/-- A piece of text, which may have a style and a least width. -/
structure Span where
  style : Option Style
  width : Nat
  text : List Char
  deriving DecidableEq, Repr, Inhabited

namespace Span

/-- A piece of text without a style. -/
def plain (text : String) : Span := ⟨none, 0, text.toList⟩

/-- A piece of text with a style. -/
def styled (s : Style) (text : String) : Span := ⟨some s, 0, text.toList⟩

/-- A span as text. The width counts what stands between the sequences of the style. -/
def render (colors : Bool) (s : Span) : List Char :=
  match s.style with
  | none => padTo s.width s.text
  | some style =>
    if colors then style.opening ++ padTo s.width (style.reopen s.text) ++ Style.closing
    else padTo s.width s.text

end Span

/-- Text in which some pieces have a style. -/
abbrev Painted := List Span

namespace Painted

/-- Painted text as text. -/
def render (colors : Bool) (p : Painted) : List Char :=
  p.flatMap (Span.render colors)

/-- Painted text as a string. -/
def toText (colors : Bool) (p : Painted) : String :=
  String.ofList (p.render colors)

@[simp]
theorem render_nil (colors : Bool) : render colors [] = [] :=
  rfl

/-- Painted texts are rendered one after the other. -/
@[simp]
theorem render_append (colors : Bool) (p q : Painted) :
    render colors (p ++ q) = render colors p ++ render colors q := by
  simp [render]

/-- Painted text that ends its line. -/
def line (p : Painted) : Painted := p ++ [.plain "\n"]

end Painted
end ScriptReview
