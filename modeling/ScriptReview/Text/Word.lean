/-!
# ASCII words

A word is a run of ASCII letters, digits and underscores that no such character continues on either
side. Other letters separate words.

Main definitions:

* `isWordChar` is the set of word characters.
* `occurrences` counts the places where a text stands as a word.
* `sameIgnoringCase` compares texts up to the case of ASCII letters.
-/

namespace ScriptReview
namespace Text

/-- The characters of words. -/
def isWordChar (c : Char) : Bool :=
  c.isAlphanum || c == '_'

/-- Whether a text begins with a word character. -/
def beginsInWord (cs : List Char) : Bool :=
  cs.head?.any isWordChar

/-- Whether a text begins with a word: the word stands there, and no word character follows it. -/
def beginsWithWord (word cs : List Char) : Bool :=
  word.isPrefixOf cs && !beginsInWord (cs.drop word.length)

/-- Adds the occurrences of a word in the text that remains to a number. The search for the next one
goes on after the end of the last: the first number says how many characters are passed over as they
belong to that one. The flag says whether a word character comes before the text. -/
def occurrencesFrom (word : List Char) : Nat → Bool → Nat → List Char → Nat
  | _, _, n, [] => n
  | passed + 1, _, n, c :: cs => occurrencesFrom word passed (isWordChar c) n cs
  | 0, inWord, n, c :: cs =>
    if !inWord && beginsWithWord word (c :: cs) then
      occurrencesFrom word (word.length - 1) (isWordChar c) (n + 1) cs
    else occurrencesFrom word 0 (isWordChar c) n cs

/-- The number of places where a text stands as a whole word, searched from left to right. -/
def occurrences (word cs : List Char) : Nat :=
  occurrencesFrom word 0 false 0 cs

/-- Whether two texts are equal up to the case of ASCII letters. -/
def sameIgnoringCase (a b : List Char) : Bool :=
  a.map Char.toLower == b.map Char.toLower

end Text
end ScriptReview
