import ScriptReview.Unicode.Runs

/-!
# Segmentation classes of characters

Text is cut into graphemes, words and sentences by the classes of its characters. Each of the three
divisions has its own classes.

Main definition: `Segmentation.named?` finds the ranges of a class by its loosely spelled name.
-/

namespace ScriptReview
namespace Unicode
namespace Segmentation

/-- The classes of characters that decide where user-perceived characters end, as run lengths. -/
def grapheme : List (String × List String) := [
  ("cr",
    ["d 1"]),
  ("control",
    ["0 a 1 2 1 12 5f 21 d 1 56e 1 11f1 1 7fc 1 2 2 18 7 31 10 de8f 1 f0 c 3434 10 8860 4 14cf",
     "8 c2e85 20 60 80 f0 e10"]),
  ("extend",
    ["300 70 113 7 107 2d 1 1 1 2 1 2 1 1 48 b 30 15 10 1 65 7 2 6 2 2 1 4 23 1 1e 1b 5b b 3a 9",
     "9 1 18 4 1 9 1 3 1 5 2b 3 3c 8 2a 18 1 20 37 1 1 1 4 8 4 1 3 7 a 2 1d 1 3a 1 1 1 2 4 8 1",
     "9 1 a 2 1a 1 2 2 39 1 4 2 4 2 2 3 3 1 1e 2 3 1 b 2 39 1 4 5 1 2 4 1 14 2 16 6 1 1 3a 1 1",
     "2 1 4 8 1 7 3 a 2 1e 1 3b 1 1 1 c 1 9 1 28 1 3 1 37 1 1 3 5 3 1 4 7 2 b 2 1d 1 3a 1 2 1 2",
     "1 3 1 5 2 7 2 b 2 1c 2 39 2 1 1 2 4 8 1 9 1 a 2 1d 1 48 1 4 1 2 3 1 1 8 1 51 1 2 7 c 8 62",
     "1 2 9 b 7 49 2 1b 1 1 1 1 1 37 e 1 5 1 2 5 b 1 24 9 1 66 4 1 6 1 2 2 2 19 2 4 3 10 4 d 1",
     "2 2 6 1 f 1 2bf 3 3b2 3 1d 2 1e 2 1e 2 40 2 1 7 8 1 2 b 9 1 2d 3 1 1 75 2 22 1 76 3 4 2 9",
     "1 6 3 db 2 2 1 3a 1 1 7 1 1 1 1 2 8 6 a 2 1 30 1f 31 4 30 7 1 1 5 1 28 9 c 2 20 4 2 2 1 3",
     "38 1 1 2 3 1 1 3 3a 8 2 2 98 3 1 d 1 7 4 1 6 1 3 2 c6 40 20c 1 c3 21 bfe 3 8d 1 60 20 22a",
     "6 69 2 75d4 4 1 a 20 2 50 2 110 1 3 1 4 1 19 2 5 1 97 2 1a 12 d 1 26 8 19 b 2e 3 30 1 2 4",
     "2 2 27 1 43 6 2 2 2 2 c 1 8 1 2f 1 33 1 1 3 2 2 5 2 1 1 2a 2 8 1 ee 1 2 1 4 1 4f30 1 2e1",
     "10 10 10 16e 2 25d 1 e2 1 95 5 686 3 1 2 5 4 28 3 4 1 a5 2 23d 4 183 2 50 3 46 b 31 4 7b",
     "1 36 f 29 1 2 2 a 3 31 4 2 2 7 1 3d 3 24 5 1 8 3e 1 c 2 34 9 a 4 2 1 5f 3 2 1 1 2 6 1 2 1",
     "9d 1 3 8 15 2 39 2 1 1 1 1 16 1 e 7 3 5 c3 8 2 3 1 1 17 1 51 1 2 6 1 1 2 1 1 2 1 2 eb 1 2",
     "4 6 2 1 2 1b 2 55 8 2 1 1 2 6a 1 1 1 2 6 1 1 65 3 2 4 1 5 103 9 1 2 f5 1 a 2 1 1 4 1 90 4",
     "2 2 4 1 20 a 28 6 2 4 8 1 9 6 2 3 2e d 1 2 196 7 1 6 1 1 52 16 2 7 1 2 1 2 7a 6 3 1 1 2 1",
     "7 1 1 48 2 3 1 1 1 15b 2 b 2 34 5 5 1 1 1 14fd 1 6 f 369a 5 3b 7 418 1 3f 4 51 1 4cb8 2",
     "1261 2e 2 17 21e 1 1 3 4 5 8 8 2 7 1e 4 94 3 7bb 37 4 32 8 1 e 1 16 5 1 f 550 7 1 11 2 7",
     "1 2 1 5 64 1 a0 7 177 1 3d 4 1fc 4 3e0 7 6d 7 ab0 5 c0c20 60 80 f0"]),
  ("l",
    ["1100 60 9800 1d"]),
  ("lf",
    ["a 1"]),
  ("lv",
    ["ac00 1 1b 1 1b 1 1b 1 1b 1 1b 1 1b 1 1b 1 1b 1 1b 1 1b 1 1b 1 1b 1 1b 1 1b 1 1b 1 1b 1 1b",
     "1 1b 1 1b 1 1b 1 1b 1 1b 1 1b 1 1b 1 1b 1 1b 1 1b 1 1b 1 1b 1 1b 1 1b 1 1b 1 1b 1 1b 1 1b",
     "1 1b 1 1b 1 1b 1 1b 1 1b 1 1b 1 1b 1 1b 1 1b 1 1b 1 1b 1 1b 1 1b 1 1b 1 1b 1 1b 1 1b 1 1b",
     "1 1b 1 1b 1 1b 1 1b 1 1b 1 1b 1 1b 1 1b 1 1b 1 1b 1 1b 1 1b 1 1b 1 1b 1 1b 1 1b 1 1b 1 1b",
     "1 1b 1 1b 1 1b 1 1b 1 1b 1 1b 1 1b 1 1b 1 1b 1 1b 1 1b 1 1b 1 1b 1 1b 1 1b 1 1b 1 1b 1 1b",
     "1 1b 1 1b 1 1b 1 1b 1 1b 1 1b 1 1b 1 1b 1 1b 1 1b 1 1b 1 1b 1 1b 1 1b 1 1b 1 1b 1 1b 1 1b",
     "1 1b 1 1b 1 1b 1 1b 1 1b 1 1b 1 1b 1 1b 1 1b 1 1b 1 1b 1 1b 1 1b 1 1b 1 1b 1 1b 1 1b 1 1b",
     "1 1b 1 1b 1 1b 1 1b 1 1b 1 1b 1 1b 1 1b 1 1b 1 1b 1 1b 1 1b 1 1b 1 1b 1 1b 1 1b 1 1b 1 1b",
     "1 1b 1 1b 1 1b 1 1b 1 1b 1 1b 1 1b 1 1b 1 1b 1 1b 1 1b 1 1b 1 1b 1 1b 1 1b 1 1b 1 1b 1 1b",
     "1 1b 1 1b 1 1b 1 1b 1 1b 1 1b 1 1b 1 1b 1 1b 1 1b 1 1b 1 1b 1 1b 1 1b 1 1b 1 1b 1 1b 1 1b",
     "1 1b 1 1b 1 1b 1 1b 1 1b 1 1b 1 1b 1 1b 1 1b 1 1b 1 1b 1 1b 1 1b 1 1b 1 1b 1 1b 1 1b 1 1b",
     "1 1b 1 1b 1 1b 1 1b 1 1b 1 1b 1 1b 1 1b 1 1b 1 1b 1 1b 1 1b 1 1b 1 1b 1 1b 1 1b 1 1b 1 1b",
     "1 1b 1 1b 1 1b 1 1b 1 1b 1 1b 1 1b 1 1b 1 1b 1 1b 1 1b 1 1b 1 1b 1 1b 1 1b 1 1b 1 1b 1 1b",
     "1 1b 1 1b 1 1b 1 1b 1 1b 1 1b 1 1b 1 1b 1 1b 1 1b 1 1b 1 1b 1 1b 1 1b 1 1b 1 1b 1 1b 1 1b",
     "1 1b 1 1b 1 1b 1 1b 1 1b 1 1b 1 1b 1 1b 1 1b 1 1b 1 1b 1 1b 1 1b 1 1b 1 1b 1 1b 1 1b 1 1b",
     "1 1b 1 1b 1 1b 1 1b 1 1b 1 1b 1 1b 1 1b 1 1b 1 1b 1 1b 1 1b 1 1b 1 1b 1 1b 1 1b 1 1b 1 1b",
     "1 1b 1 1b 1 1b 1 1b 1 1b 1 1b 1 1b 1 1b 1 1b 1 1b 1 1b 1 1b 1 1b 1 1b 1 1b 1 1b 1 1b 1 1b",
     "1 1b 1 1b 1 1b 1 1b 1 1b 1 1b 1 1b 1 1b 1 1b 1 1b 1 1b 1 1b 1 1b 1 1b 1 1b 1 1b 1 1b 1 1b",
     "1 1b 1 1b 1 1b 1 1b 1 1b 1 1b 1 1b 1 1b 1 1b 1 1b 1 1b 1 1b 1 1b 1 1b 1 1b 1 1b 1 1b 1 1b",
     "1 1b 1 1b 1 1b 1 1b 1 1b 1 1b 1 1b 1 1b 1 1b 1 1b 1 1b 1 1b 1 1b 1 1b 1 1b 1 1b 1 1b 1 1b",
     "1 1b 1 1b 1 1b 1 1b 1 1b 1 1b 1 1b 1 1b 1 1b 1 1b 1 1b 1 1b 1 1b 1 1b 1 1b 1 1b 1 1b 1 1b",
     "1 1b 1 1b 1 1b 1 1b 1 1b 1 1b 1 1b 1 1b 1 1b 1 1b 1 1b 1 1b 1 1b 1 1b 1 1b 1 1b 1 1b 1 1b",
     "1 1b 1 1b 1 1b 1"]),
  ("lvt",
    ["ac01 1b 1 1b 1 1b 1 1b 1 1b 1 1b 1 1b 1 1b 1 1b 1 1b 1 1b 1 1b 1 1b 1 1b 1 1b 1 1b 1 1b 1",
     "1b 1 1b 1 1b 1 1b 1 1b 1 1b 1 1b 1 1b 1 1b 1 1b 1 1b 1 1b 1 1b 1 1b 1 1b 1 1b 1 1b 1 1b 1",
     "1b 1 1b 1 1b 1 1b 1 1b 1 1b 1 1b 1 1b 1 1b 1 1b 1 1b 1 1b 1 1b 1 1b 1 1b 1 1b 1 1b 1 1b 1",
     "1b 1 1b 1 1b 1 1b 1 1b 1 1b 1 1b 1 1b 1 1b 1 1b 1 1b 1 1b 1 1b 1 1b 1 1b 1 1b 1 1b 1 1b 1",
     "1b 1 1b 1 1b 1 1b 1 1b 1 1b 1 1b 1 1b 1 1b 1 1b 1 1b 1 1b 1 1b 1 1b 1 1b 1 1b 1 1b 1 1b 1",
     "1b 1 1b 1 1b 1 1b 1 1b 1 1b 1 1b 1 1b 1 1b 1 1b 1 1b 1 1b 1 1b 1 1b 1 1b 1 1b 1 1b 1 1b 1",
     "1b 1 1b 1 1b 1 1b 1 1b 1 1b 1 1b 1 1b 1 1b 1 1b 1 1b 1 1b 1 1b 1 1b 1 1b 1 1b 1 1b 1 1b 1",
     "1b 1 1b 1 1b 1 1b 1 1b 1 1b 1 1b 1 1b 1 1b 1 1b 1 1b 1 1b 1 1b 1 1b 1 1b 1 1b 1 1b 1 1b 1",
     "1b 1 1b 1 1b 1 1b 1 1b 1 1b 1 1b 1 1b 1 1b 1 1b 1 1b 1 1b 1 1b 1 1b 1 1b 1 1b 1 1b 1 1b 1",
     "1b 1 1b 1 1b 1 1b 1 1b 1 1b 1 1b 1 1b 1 1b 1 1b 1 1b 1 1b 1 1b 1 1b 1 1b 1 1b 1 1b 1 1b 1",
     "1b 1 1b 1 1b 1 1b 1 1b 1 1b 1 1b 1 1b 1 1b 1 1b 1 1b 1 1b 1 1b 1 1b 1 1b 1 1b 1 1b 1 1b 1",
     "1b 1 1b 1 1b 1 1b 1 1b 1 1b 1 1b 1 1b 1 1b 1 1b 1 1b 1 1b 1 1b 1 1b 1 1b 1 1b 1 1b 1 1b 1",
     "1b 1 1b 1 1b 1 1b 1 1b 1 1b 1 1b 1 1b 1 1b 1 1b 1 1b 1 1b 1 1b 1 1b 1 1b 1 1b 1 1b 1 1b 1",
     "1b 1 1b 1 1b 1 1b 1 1b 1 1b 1 1b 1 1b 1 1b 1 1b 1 1b 1 1b 1 1b 1 1b 1 1b 1 1b 1 1b 1 1b 1",
     "1b 1 1b 1 1b 1 1b 1 1b 1 1b 1 1b 1 1b 1 1b 1 1b 1 1b 1 1b 1 1b 1 1b 1 1b 1 1b 1 1b 1 1b 1",
     "1b 1 1b 1 1b 1 1b 1 1b 1 1b 1 1b 1 1b 1 1b 1 1b 1 1b 1 1b 1 1b 1 1b 1 1b 1 1b 1 1b 1 1b 1",
     "1b 1 1b 1 1b 1 1b 1 1b 1 1b 1 1b 1 1b 1 1b 1 1b 1 1b 1 1b 1 1b 1 1b 1 1b 1 1b 1 1b 1 1b 1",
     "1b 1 1b 1 1b 1 1b 1 1b 1 1b 1 1b 1 1b 1 1b 1 1b 1 1b 1 1b 1 1b 1 1b 1 1b 1 1b 1 1b 1 1b 1",
     "1b 1 1b 1 1b 1 1b 1 1b 1 1b 1 1b 1 1b 1 1b 1 1b 1 1b 1 1b 1 1b 1 1b 1 1b 1 1b 1 1b 1 1b 1",
     "1b 1 1b 1 1b 1 1b 1 1b 1 1b 1 1b 1 1b 1 1b 1 1b 1 1b 1 1b 1 1b 1 1b 1 1b 1 1b 1 1b 1 1b 1",
     "1b 1 1b 1 1b 1 1b 1 1b 1 1b 1 1b 1 1b 1 1b 1 1b 1 1b 1 1b 1 1b 1 1b 1 1b 1 1b 1 1b 1 1b 1",
     "1b 1 1b 1 1b 1 1b 1 1b 1 1b 1 1b 1 1b 1 1b 1 1b 1 1b 1 1b 1 1b 1 1b 1 1b 1 1b 1 1b 1 1b 1",
     "1b 1 1b 1 1b 1 1b"]),
  ("prepend",
    ["600 6 d7 1 31 1 180 2 50 1 46b 1 1036e 1 f 1 f4 2 77b 1 1 1 f8 1 49 6 2bc 1 1bb 1"]),
  ("regionalindicator",
    ["1f1e6 1a"]),
  ("spacingmark",
    ["903 1 37 1 2 3 8 4 1 2 32 2 3b 2 6 2 2 2 36 1 3a 3 42 1 3a 3 8 1 1 2 35 2 3c 1 6 2 2 2 72",
     "1 1 2 3 3 1 3 34 3 3d 4 3d 2 3a 1 1 2 1 2 2 2 1 2 27 1 e 2 3b 2 5 3 1 3 35 2 4c 2 6 7 13",
     "2 3f 1 7f 1 8a 2 3f 1 b1 1 9 2 19 2 2c 1 690 1 1e 1 81 1 7 8 1 2 15a 4 2 3 4 2 1 6 e0 2",
     "3a 1 1 1 15 6 91 1 36 1 1 5 1 2 3d 1 1e 1 4 2 2 1 3c 1 2 3 1 1 3 2 30 8 8 2 ab 1 15 1",
     "8b2b 2 2 1 58 2 32 10 8e 2 2f 1 30 2 4 2 2 3 6e 2 2 2 18 1 9d 1 2 2 5 1 ed 2 1 2 1 2 1 1",
     "6413 1 1 1 7f 1 2d 3 4 2 73 1 18 2 3b 1 30 3 9 2 d 1 5d 3 3 2 1 1 aa 3 1f 2 3b 1 1 4 2 2",
     "2 3 14 2 d1 3 8 2 3 1 6b 2 6 1 1 2 1 1 2 1 ee 2 6 4 2 1 71 3 8 2 1 1 6d 1 1 2 6 1 6f 1",
     "105 3 9 1 f8 5 1 2 4 1 2 1 1 1 8e 3 8 4 4 1 54 1 1d 2 3e 1 197 1 e 1 6a 1 7 1 2 1 d5 5 4",
     "2 1 1 15e 2 c 1 30 2 8 2 1 1 500f 37 68 2 6174 1 6 1"]),
  ("t",
    ["11a8 58 c5cb 31"]),
  ("v",
    ["1160 48 c608 17"]),
  ("zwj",
    ["200d 1"])]

/-- The short names of the classes of `grapheme`. -/
def graphemeShort : List (String × String) := [
  ("cn", "control"),
  ("ex", "extend"),
  ("pp", "prepend"),
  ("ri", "regionalindicator"),
  ("sm", "spacingmark")]

/-- The classes of characters that decide where words end, as run lengths. -/
def word : List (String × List String) := [
  ("aletter",
    ["41 1a 6 1a 2f 1 a 1 4 1 5 17 1 1f 1 1e0 6 22 70 5 1 2 2 4 1 1 6 1 1 3 1 1 1 14 1 53 1 8b",
     "8 a6 1 26 2 4 1 1 1 29 1 1 68 1 2c 2b 23 2 1 63 1 1 f 2 7 2 a 3 2 1 10 1 1 1e 1d 59 b 1",
     "18 21 9 2 4 1 5 16 4 1 9 1 3 1 17 19 7 b 5 18 1 6 11 2a 3a 36 3 1 12 1 7 a f 10 4 8 2 2 2",
     "16 1 7 1 1 3 4 3 1 10 1 d 2 1 3 e 2 a 1 8 6 4 2 2 16 1 7 1 2 1 2 1 2 1f 4 1 1 13 3 10 9 1",
     "3 1 16 1 7 1 2 1 5 3 1 12 1 f 2 17 1 b 8 2 2 2 16 1 7 1 2 1 5 3 1 1e 2 1 3 f 1 11 1 1 6 3",
     "3 1 4 3 2 1 1 1 2 3 2 3 3 3 c 16 1 34 8 1 3 1 17 1 10 3 1 1a 3 2 1 2 2 1e 1 4 8 1 3 1 17",
     "1 a 1 5 3 1 1f 2 1 2 f 2 11 9 1 3 1 29 2 1 10 1 5 3 8 3 18 6 5 12 3 18 1 9 1 1 2 7 139 1",
     "3f 8 1 24 1b 5 113 26 1 1 5 1 2 2b 1 14d 1 4 2 7 1 1 1 4 2 29 1 4 2 21 1 4 2 7 1 1 1 4 2",
     "f 1 39 1 4 2 43 25 10 10 56 2 6 3 26c 2 11 1 1a 5 4b 3 b 7 12 d 13 e 12 e d 1 3 af 59 7 5",
     "2 22 1 1 5 46 a 1f e1 17 ee 2f 11 8 36 1e d 2 a 2c 1a 24 29 3 a 24 2 9 7 2b 2 3 29 4 1 6",
     "1 2 3 1 5 c0 40 116 2 6 2 26 2 6 2 8 1 1 1 1 1 1 1 1f 2 35 1 7 1 1 3 3 1 7 3 4 2 6 4 d 5",
     "3 1 7 74 1 d 1 10 d 65 1 4 1 2 a 1 1 3 5 6 1 1 1 1 1 1 4 1 b 2 4 5 5 4 1 11 29 32d 34 716",
     "e5 6 4 3 2 c 26 1 1 5 1 2 38 7 1 10 17 9 7 1 7 1 7 1 7 1 7 1 7 1 7 1 7 50 1 1d5 1 35 2 c8",
     "2b 1 5e 11 20 6e40 48d 43 2e 2 10d 3 10 a 2 14 2f 10 1f 2 50 18 c3 5 2 1 1 1 5 18 10 1 3",
     "1 4 1 17 1d 34 e 32 3e 6 3 1 1 2 b 1c a 17 19 1d 7 2f 1c 1 30 29 17 3 1 8 94 b 7 3 c 6 2",
     "6 2 6 9 7 1 7 1 3a 6 73 1d 2ba4 c 17 4 31 2304 7 c 5 38 62 21 16b 12 40 2 36 28 c 74 5 1",
     "87 24 1a 6 1a 45 1f 3 6 2 6 2 6 2 3 23 c 1 1a 1 13 1 2 1 f 2 e 22 7b 45 35 10b 1d 3 31 2f",
     "20 d 1e 5 26 a 1e 2 24 4 8 1 5 2a 9e 12 24 4 24 4 28 8 34 c b 1 f 1 7 1 2 1 b 1 f 1 7 1 2",
     "43 137 9 16 a 8 18 6 1 2a 1 9 45 6 2 1 1 2c 1 2 3 1 2 17 a 17 9 1f 41 13 1 2 a 16 a 1a 46",
     "38 6 2 40 1 f 4 1 3 1 1d 2a 1d 3 1d 23 8 1 1c 1b 36 a 16 a 13 d 12 6e 49 37 33 d 33 d 24",
     "15c 2a 6 2 4e 1d a 1 8 16 2a 12 2e 15 1b 17 c 35 39 2 2 1 d 2d 20 19 1a 24 1d 1 2 1 8 23",
     "3 1 c 30 e 4 15 1 1 1 23 12 1 19 13 2 3f 7 1 1 1 4 1 f 1 a 7 2f 26 8 2 2 2 16 1 7 1 2 1 5",
     "3 1 12 1 c 5 9e 35 12 4 14 3 1e 30 14 2 1 1 b8 2f 29 4 24 30 14 1 3b 2b d 1 147 2c 74 40",
     "1f 8 2 1 2 8 1 2 1 18 f 1 1 1 5e 8 2 27 10 1 1 1 1c 1 a 28 7 1 15 1 b 2e 13 1 12 49 107 9",
     "1 25 11 1 31 1e 70 7 1 2 1 26 15 1 19 6 1 2 1 20 e 1 147 13 f 1 1 d 1 22 7c 1 4f 39a 66",
     "6f 11 c4 a4c 61 f 430 11 6 fb9 247 21b9 239 7 1f 11 4f 11 1e 12 30 10 4 1f 15 5 13 2b0 40",
     "80 4b 5 1 42 d 40 2 1 1 4c1c 6b 5 d 3 9 7 a 1766 55 1 47 1 2 2 1 2 2 2 4 1 c 1 1 1 7 1 41",
     "1 4 2 8 1 7 1 1c 1 4 1 5 1 1 3 7 1 154 2 19 1 19 1 1f 1 19 1 1f 1 19 1 1f 1 19 1 1f 1 19",
     "1 8 734 1f 6 6 105 3e 92 2d a 7 10 1 141 1e 12 2c 1e4 1c 2f4 7 1 4 1 2 1 f 1 c5 3b 44 7 1",
     "4b4 4 1 1b 1 2 1 1 2 1 1 a 1 4 1 1 1 1 6 1 4 1 1 1 1 1 1 3 1 2 1 1 2 1 1 1 1 1 1 1 1 1 1",
     "2 1 1 2 4 1 7 1 4 1 4 1 1 1 a 1 11 5 3 1 5 1 11 274 1a 6 1a 6 1a"]),
  ("cr",
    ["d 1"]),
  ("doublequote",
    ["22 1"]),
  ("extend",
    ["300 70 113 7 107 2d 1 1 1 2 1 2 1 1 48 b 30 15 10 1 65 7 2 6 2 2 1 4 23 1 1e 1b 5b b 3a 9",
     "9 1 18 4 1 9 1 3 1 5 2b 3 3c 8 2a 18 1 21 36 3 1 12 1 7 a 2 1d 3 38 1 1 7 2 2 2 3 9 1 a 2",
     "1a 1 2 3 38 1 1 5 4 2 2 3 3 1 1e 2 3 1 b 3 38 1 1 8 1 3 1 3 14 2 16 6 1 3 38 1 1 7 2 2 2",
     "3 7 3 a 2 1e 1 3b 5 3 3 1 4 9 1 28 5 37 1 1 7 1 3 1 4 7 2 b 2 1d 3 38 1 1 7 1 3 1 4 7 2 b",
     "2 f 1 c 4 37 2 1 7 1 3 1 4 9 1 a 2 1d 3 46 1 4 6 1 1 1 8 12 2 3d 1 2 7 c 8 62 1 2 9 b 7",
     "49 2 1b 1 1 1 1 1 4 2 31 14 1 2 5 b 1 24 9 1 64 14 17 4 4 3 1 3 2 7 3 4 d c 1 1 a 4 2bf 3",
     "3b2 4 1c 3 1d 2 1e 2 40 20 9 1 2d 3 1 1 75 2 22 1 76 c 4 c db 5 39 a 1 1d 2 1 30 1f 31 5",
     "2f 11 26 9 c 3 1e d 38 e 30 14 98 3 1 15 4 1 6 1 2 3 c6 40 20c 1 c3 21 bfe 3 8d 1 60 20",
     "22a 6 69 2 75d4 4 1 a 20 2 50 2 110 1 3 1 4 1 17 5 4 1 53 2 32 12 1a 12 d 1 26 8 19 d 2c",
     "4 2f e 24 1 43 e c 1 8 2 2d 3 32 1 1 3 2 2 5 2 1 1 29 5 5 2 ec 8 1 2 4f30 1 2e1 10 10 10",
     "16e 2 25d 1 e2 1 95 5 686 3 1 2 5 4 28 3 4 1 a5 2 23d 4 183 2 50 3 46 b 31 4 7a 3 35 f 29",
     "1 2 2 a 4 2d b 7 1 3d 3 24 e 10 2 2c 1 c 3 30 e 8 4 1 2 5c c 6 1 2 1 9d c 15 4 37 2 1 7 2",
     "2 2 3 9 1 a 2 2 7 3 5 c0 12 17 1 51 14 eb 7 2 9 1b 2 52 11 6a d 65 f 100 f f5 6 1 2 2 4 1",
     "1 1 2 8d 7 2 7 3 1 1c a 28 7 1 4 8 1 9 b 2e 10 195 8 1 8 52 16 1 e 7a 6 3 1 1 2 1 7 1 1",
     "42 5 1 2 1 5 15b 4 9 2 1 1 30 7 3 5 14fd 1 6 f 369a 5 3b 7 418 1 1 37 7 4 51 1 b 2 4cab 2",
     "1261 2e 2 17 21e 5 3 6 8 8 2 7 1e 4 94 3 7bb 37 4 32 8 1 e 1 16 5 1 f 550 7 1 11 2 7 1 2",
     "1 5 64 1 a0 7 177 1 3d 4 1fc 4 3e0 7 6d 7 ab0 5 c0c20 60 80 f0"]),
  ("extendnumlet",
    ["5f 1 1fcf 1 f 2 13 1 ddde 2 18 3 ef 1"]),
  ("format",
    ["ad 1 552 6 16 1 c0 1 31 1 180 2 50 1 f2b 1 7ff 2 1a 5 31 5 1 a de8f 1 f9 3 10c1 1 f 1",
     "2362 10 8860 4 14cf 8 c2e86 1"]),
  ("hebrewletter",
    ["5d0 1b 4 4 f52a 1 1 a 1 d 1 5 1 1 1 2 1 2 1 a"]),
  ("katakana",
    ["3031 5 65 2 3 5b 1 4 f0 10 d0 2f 1 58 cc0e 38 b052 4 1 7 1 2 1 1 11f 3 32 1 e 4"]),
  ("lf",
    ["a 1"]),
  ("midletter",
    ["3a 1 7c 1 2cf 1 1d7 1 94 1 1a32 1 ddeb 1 41 1 c4 1"]),
  ("midnum",
    ["2c 1 e 1 342 1 20a 1 82 2 5e 1 18b 1 184b 1 ddcb 1 3 1 3b 1 3 1 b7 1 e 1"]),
  ("midnumlet",
    ["2e 1 1fe9 2 a 1 de2d 1 b4 1 6 1"]),
  ("newline",
    ["b 2 78 1 1fa2 2"]),
  ("numeric",
    ["30 a 626 a 1 1 84 a c6 a 19c a 76 a 76 a 76 a 76 a 76 a 76 a 76 a 76 a 76 a 60 a 76 a 46",
     "a 116 a 46 a 746 a 26 a 12c a 80 a a6 a 6 a b6 a 56 a 86 a 6 a 89c6 a 2a6 a 26 a c6 a 16",
     "a 56 a 196 a 5316 a 586 a 886 a 32c a 80 a 3c a 90 a 116 a 156 a 76 a 176 a 66 a 66 a 1a6",
     "a 66 a 2f6 a f6 a 46 a 1a6 a 4b06 a 56 a 86 a 6c74 32 940 a 1a6 a 1f6 a 456 a 1296 a"]),
  ("regionalindicator",
    ["1f1e6 1a"]),
  ("singlequote",
    ["27 1"]),
  ("wsegspace",
    ["20 1 165f 1 97f 7 1 3 54 1 fa0 1"]),
  ("zwj",
    ["200d 1"])]

/-- The short names of the classes of `word`. -/
def wordShort : List (String × String) := [
  ("le", "aletter"),
  ("dq", "doublequote"),
  ("ex", "extendnumlet"),
  ("fo", "format"),
  ("hl", "hebrewletter"),
  ("ka", "katakana"),
  ("ml", "midletter"),
  ("mn", "midnum"),
  ("mb", "midnumlet"),
  ("nl", "newline"),
  ("nu", "numeric"),
  ("ri", "regionalindicator"),
  ("sq", "singlequote")]

/-- The classes of characters that decide where sentences end, as run lengths. -/
def sentence : List (String × List String) := [
  ("aterm",
    ["2e 1 1ff5 1 de2d 1 bb 1"]),
  ("cr",
    ["d 1"]),
  ("close",
    ["22 1 4 3 31 1 1 1 1d 1 1 1 2d 1 f 1 e7e 4 75d 2 97b 8 19 2 a 2 36 2 e 2 279 4 1d 2 430 6",
     "7 e 4f 2 1f a 193 16 3f 4 20 2 402 e e 2 2 a 18 1 12 8 1ab a 2 8 1 3 cd1e 2 d7 2 1c 10 2",
     "2 10 6 a9 2 31 1 1 1 1d 1 1 1 1 2 1 2 f712 3"]),
  ("extend",
    ["300 70 113 7 107 2d 1 1 1 2 1 2 1 1 48 b 30 15 10 1 65 7 2 6 2 2 1 4 23 1 1e 1b 5b b 3a 9",
     "9 1 18 4 1 9 1 3 1 5 2b 3 3c 8 2a 18 1 21 36 3 1 12 1 7 a 2 1d 3 38 1 1 7 2 2 2 3 9 1 a 2",
     "1a 1 2 3 38 1 1 5 4 2 2 3 3 1 1e 2 3 1 b 3 38 1 1 8 1 3 1 3 14 2 16 6 1 3 38 1 1 7 2 2 2",
     "3 7 3 a 2 1e 1 3b 5 3 3 1 4 9 1 28 5 37 1 1 7 1 3 1 4 7 2 b 2 1d 3 38 1 1 7 1 3 1 4 7 2 b",
     "2 f 1 c 4 37 2 1 7 1 3 1 4 9 1 a 2 1d 3 46 1 4 6 1 1 1 8 12 2 3d 1 2 7 c 8 62 1 2 9 b 7",
     "49 2 1b 1 1 1 1 1 4 2 31 14 1 2 5 b 1 24 9 1 64 14 17 4 4 3 1 3 2 7 3 4 d c 1 1 a 4 2bf 3",
     "3b2 4 1c 3 1d 2 1e 2 40 20 9 1 2d 3 1 1 75 2 22 1 76 c 4 c db 5 39 a 1 1d 2 1 30 1f 31 5",
     "2f 11 26 9 c 3 1e d 38 e 30 14 98 3 1 15 4 1 6 1 2 3 c6 40 20c 2 c2 21 bfe 3 8d 1 60 20",
     "22a 6 69 2 75d4 4 1 a 20 2 50 2 110 1 3 1 4 1 17 5 4 1 53 2 32 12 1a 12 d 1 26 8 19 d 2c",
     "4 2f e 24 1 43 e c 1 8 2 2d 3 32 1 1 3 2 2 5 2 1 1 29 5 5 2 ec 8 1 2 4f30 1 2e1 10 10 10",
     "16e 2 25d 1 e2 1 95 5 686 3 1 2 5 4 28 3 4 1 a5 2 23d 4 183 2 50 3 46 b 31 4 7a 3 35 f 29",
     "1 2 2 a 4 2d b 7 1 3d 3 24 e 10 2 2c 1 c 3 30 e 8 4 1 2 5c c 6 1 2 1 9d c 15 4 37 2 1 7 2",
     "2 2 3 9 1 a 2 2 7 3 5 c0 12 17 1 51 14 eb 7 2 9 1b 2 52 11 6a d 65 f 100 f f5 6 1 2 2 4 1",
     "1 1 2 8d 7 2 7 3 1 1c a 28 7 1 4 8 1 9 b 2e 10 195 8 1 8 52 16 1 e 7a 6 3 1 1 2 1 7 1 1",
     "42 5 1 2 1 5 15b 4 9 2 1 1 30 7 3 5 14fd 1 6 f 369a 5 3b 7 418 1 1 37 7 4 51 1 b 2 4cab 2",
     "1261 2e 2 17 21e 5 3 6 8 8 2 7 1e 4 94 3 7bb 37 4 32 8 1 e 1 16 5 1 f 550 7 1 11 2 7 1 2",
     "1 5 64 1 a0 7 177 1 3d 4 1fc 4 3e0 7 6d 7 c16d5 60 80 f0"]),
  ("format",
    ["ad 1 552 6 16 1 c0 1 31 1 180 2 50 1 f2b 1 7fc 1 2 2 1a 5 31 5 1 a de8f 1 f9 3 10c1 1 f 1",
     "2362 10 8860 4 14cf 8 c2e86 1"]),
  ("lf",
    ["a 1"]),
  ("lower",
    ["61 1a 2f 1 a 1 4 1 24 18 1 8 1 1 1 1 1 1 1 1 1 1 1 1 1 1 1 1 1 1 1 1 1 1 1 1 1 1 1 1 1 1",
     "1 1 1 1 1 1 1 1 1 1 1 1 1 1 1 1 1 1 1 1 1 1 1 1 1 2 1 1 1 1 1 1 1 1 1 1 1 1 1 1 1 2 1 1 1",
     "1 1 1 1 1 1 1 1 1 1 1 1 1 1 1 1 1 1 1 1 1 1 1 1 1 1 1 1 1 1 1 1 1 1 1 1 1 1 1 1 1 1 1 2 1",
     "1 1 1 3 2 1 1 1 2 1 3 2 4 1 2 1 3 3 2 1 2 1 1 1 1 1 2 1 1 2 1 1 2 1 3 1 1 1 2 2 2 3 6 1 2",
     "1 2 1 1 1 1 1 1 1 1 1 1 1 1 1 1 1 1 2 1 1 1 1 1 1 1 1 1 1 1 1 1 1 1 1 1 2 2 1 1 1 3 1 1 1",
     "1 1 1 1 1 1 1 1 1 1 1 1 1 1 1 1 1 1 1 1 1 1 1 1 1 1 1 1 1 1 1 1 1 1 1 1 1 1 1 1 1 1 1 1 1",
     "1 1 1 1 1 1 1 1 1 1 7 2 1 2 2 1 1 4 1 1 1 1 1 1 1 1 45 1 24 7 2 1e 5 8c 1 1 1 3 1 2 4 12",
     "1 1b 23 1 2 3 3 1 1 1 1 1 1 1 1 1 1 1 1 1 1 1 1 1 1 1 1 1 1 1 5 1 1 2 1 2 2 33 30 1 1 1 1",
     "1 1 1 1 1 1 1 1 1 1 1 1 1 1 1 1 1 1 1 1 1 1 1 1 1 1 1 1 1 1 9 1 1 1 1 1 1 1 1 1 1 1 1 1 1",
     "1 1 1 1 1 1 1 1 1 1 1 1 1 1 1 1 1 1 1 1 1 1 1 1 1 1 1 1 1 1 1 1 1 1 1 1 1 1 1 2 1 1 1 1 1",
     "1 1 1 1 1 1 1 2 1 1 1 1 1 1 1 1 1 1 1 1 1 1 1 1 1 1 1 1 1 1 1 1 1 1 1 1 1 1 1 1 1 1 1 1 1",
     "1 1 1 1 1 1 1 1 1 1 1 1 1 1 1 1 1 1 1 1 1 1 1 1 1 1 1 1 1 1 1 1 1 1 1 1 1 1 1 1 1 1 1 1 1",
     "1 1 1 1 1 1 1 1 1 1 1 1 1 1 30 29 b73 1 2fb 6 882 9 77 c0 41 1 1 1 1 1 1 1 1 1 1 1 1 1 1",
     "1 1 1 1 1 1 1 1 1 1 1 1 1 1 1 1 1 1 1 1 1 1 1 1 1 1 1 1 1 1 1 1 1 1 1 1 1 1 1 1 1 1 1 1 1",
     "1 1 1 1 1 1 1 1 1 1 1 1 1 1 1 1 1 1 1 1 1 1 1 1 1 1 1 1 1 1 1 1 1 1 1 1 1 1 1 1 1 1 1 1 1",
     "1 1 1 1 1 1 1 1 1 1 1 1 1 1 1 1 1 1 1 1 1 1 1 1 1 1 1 1 1 1 1 1 1 1 1 1 1 1 1 1 1 1 1 1 9",
     "1 1 1 1 1 1 1 1 1 1 1 1 1 1 1 1 1 1 1 1 1 1 1 1 1 1 1 1 1 1 1 1 1 1 1 1 1 1 1 1 1 1 1 1 1",
     "1 1 1 1 1 1 1 1 1 1 1 1 1 1 1 1 1 1 1 1 1 1 1 1 1 1 1 1 1 1 1 1 1 1 1 1 1 1 1 1 1 1 1 1 1",
     "1 1 1 1 1 1 1 9 8 6 a 8 8 8 8 6 a 8 8 8 8 e 2 8 8 8 8 8 8 5 1 2 6 1 3 3 1 2 8 4 2 2 8 8 a",
     "3 1 2 79 1 d 1 10 d 6d 1 3 2 3 1 1b 1 4 1 4 1 2 2 8 4 4 1 21 10 4 1 34b 1a 746 30 1 1 3 2",
     "1 1 1 1 1 1 4 1 1 2 1 8 3 1 1 1 1 1 1 1 1 1 1 1 1 1 1 1 1 1 1 1 1 1 1 1 1 1 1 1 1 1 1 1 1",
     "1 1 1 1 1 1 1 1 1 1 1 1 1 1 1 1 1 1 1 1 1 1 1 1 1 1 1 1 1 1 1 1 1 1 1 1 1 1 1 1 1 1 1 1 1",
     "1 1 1 1 1 1 1 1 1 1 1 1 1 1 1 1 1 1 1 1 1 2 7 1 1 1 4 1 c 26 1 1 5 1 7913 1 1 1 1 1 1 1 1",
     "1 1 1 1 1 1 1 1 1 1 1 1 1 1 1 1 1 1 1 1 1 1 1 1 1 1 1 1 1 1 1 1 1 1 1 1 1 13 1 1 1 1 1 1",
     "1 1 1 1 1 1 1 1 1 1 1 1 1 1 1 1 1 1 1 1 3 85 1 1 1 1 1 1 1 1 1 1 1 1 3 1 1 1 1 1 1 1 1 1",
     "1 1 1 1 1 1 1 1 1 1 1 1 1 1 1 1 1 1 1 1 1 1 1 1 1 1 1 1 1 1 1 1 1 1 1 1 1 1 1 1 1 1 1 1 1",
     "1 1 1 1 1 1 1 a 1 1 1 1 2 1 1 1 1 1 1 1 1 1 4 1 1 1 2 1 1 3 1 1 1 1 1 1 1 1 1 1 1 1 1 1 1",
     "1 1 1 1 1 5 1 5 1 1 1 1 1 1 1 1 1 1 1 1 1 1 1 4 1 1 1 6 1 1 1 1 1 1 1 1 1 18 3 1 1 1 3",
     "335 2b 1 e 6 50 4f40 7 c 5 429 1a 4cd 28 88 24 9b b 1 f 1 7 1 2 1c3 1 2 3 1 2a 1 9 505 33",
     "bcd 20 5580 20 659a 1a 1a 7 1 12 1a 1a 1a 4 1 1 1 7 1 b 1a 1a 1a 1a 1a 1a 1a 1a 1a 1a 1a",
     "1a 1a 1a 1a 1a 1a 1c 1c 19 1 6 1a 19 1 6 1a 19 1 6 1a 19 1 6 1a 19 1 6 1 1 734 a 1 14 6 6",
     "105 3e 8b4 22"]),
  ("numeric",
    ["30 a 626 a 1 2 83 a c6 a 19c a 76 a 76 a 76 a 76 a 76 a 76 a 76 a 76 a 76 a 60 a 76 a 46",
     "a 116 a 46 a 746 a 26 a 12c a 80 a a6 a 6 a b6 a 56 a 86 a 6 a 89c6 a 2a6 a 26 a c6 a 16",
     "a 56 a 196 a 5316 a 586 a 886 a 32c a 80 a 3c a 90 a 116 a 156 a 76 a 176 a 66 a 66 a 1a6",
     "a 66 a 2f6 a f6 a 46 a 1a6 a 4b06 a 56 a 86 a 6c74 32 940 a 1a6 a 1f6 a 456 a 1296 a"]),
  ("oletter",
    ["1bb 1 4 4 d0 1 24 7 6 c 1a 1 1 1 85 1 1e4 1 76 1b 4 5 2c 2b 23 2 1 63 1 1 f 2 7 2 a 3 2 1",
     "10 1 1 1e 1d 59 b 1 18 21 9 2 4 1 5 16 4 1 9 1 3 1 17 19 7 b 5 18 1 6 11 2a 3a 36 3 1 12",
     "1 7 a f 10 4 8 2 2 2 16 1 7 1 1 3 4 3 1 10 1 d 2 1 3 e 2 a 1 8 6 4 2 2 16 1 7 1 2 1 2 1 2",
     "1f 4 1 1 13 3 10 9 1 3 1 16 1 7 1 2 1 5 3 1 12 1 f 2 17 1 b 8 2 2 2 16 1 7 1 2 1 5 3 1 1e",
     "2 1 3 f 1 11 1 1 6 3 3 1 4 3 2 1 1 1 2 3 2 3 3 3 c 16 1 34 8 1 3 1 17 1 10 3 1 1a 3 2 1 2",
     "2 1e 1 4 8 1 3 1 17 1 a 1 5 3 1 1f 2 1 2 f 2 11 9 1 3 1 29 2 1 10 1 5 3 8 3 18 6 5 12 3",
     "18 1 9 1 1 2 7 3a 30 1 2 c 7 3a 2 1 1 1 5 1 18 1 1 1 a 1 2 9 1 2 5 1 1 15 4 20 1 3f 8 1",
     "24 1b 5 73 2b 14 1 10 6 4 4 3 1 3 2 7 3 4 d c 1 41 2b 2 14c 1 4 2 7 1 1 1 4 2 29 1 4 2 21",
     "1 4 2 7 1 1 1 4 2 f 1 39 1 4 2 43 25 10 71 26c 2 11 1 1a 5 4b 3 b 7 12 d 13 e 12 e d 1 3",
     "f 34 23 1 4 1 43 59 7 5 2 22 1 1 5 46 a 1f 31 1e 2 5 b 2c 4 1a 36 17 9 35 52 1 5d 2f 11 8",
     "36 1e d 2 a 2c 1a 24 29 3 a 24 12 2b 2 3 29 4 1 6 1 2 3 1 43a 4 47 3 2 4 ba7 38 7 1 10 17",
     "9 7 1 7 1 7 1 7 1 7 1 7 1 7 1 7 50 1 1d5 3 19 9 7 5 2 5 4 56 6 3 1 5a 1 4 5 2b 1 5e 11 20",
     "30 10 200 19c0 40 568d 43 2e 2 10d 3 10 a 2 42 1 10 1 20 50 27 9 68 1 6 1 67 1 3 7 1 3 1",
     "4 1 17 1d 34 e 32 3e 6 3 1 1 2 b 1c a 17 19 1d 7 2f 1c 1 10 5 1 a a 5 1 29 17 3 1 8 14 17",
     "3 1 3 32 1 1 3 2 2 5 2 1 1 1 18 3 2 b 7 3 c 6 2 6 2 6 9 7 1 7 91 23 1d 2ba4 c 17 4 31",
     "2104 16e 2 6a 43 1 1 a 1 d 1 5 1 1 1 2 1 2 1 6c 21 16b 12 40 2 36 28 c 74 5 1 87 69 38 2",
     "1f 3 6 2 6 2 6 2 3 23 c 1 1a 1 13 1 2 1 f 2 e 22 7b 45 35 10b 1d 3 31 2f 20 d 1e 5 26 a",
     "1e 2 24 4 8 1 5 7a 4e 62 28 8 34 9c 137 9 16 a 8 19 2 7d 6 2 1 1 2c 1 2 3 1 2 17 a 17 9",
     "1f 41 13 1 2 a 16 a 1a 46 38 6 2 40 1 f 4 1 3 1 1d 2a 1d 3 1d 23 8 1 1c 1b 36 a 16 a 13 d",
     "12 6e 49 b7 24 15c 2a 6 2 4e 1d a 1 8 16 2a 12 2e 15 1b 17 c 35 39 2 2 1 d 2d 20 19 1a 24",
     "1d 1 2 1 8 23 3 1 c 30 e 4 15 1 1 1 23 12 1 19 13 2 3f 7 1 1 1 4 1 f 1 a 7 2f 26 8 2 2 2",
     "16 1 7 1 2 1 5 3 1 12 1 c 5 9e 35 12 4 14 3 1e 30 14 2 1 1 b8 2f 29 4 24 30 14 1 3b 2b d",
     "1 47 1b 25 7 b9 2c d3 8 2 1 2 8 1 2 1 18 f 1 1 1 5e 8 2 27 10 1 1 1 1c 1 a 28 7 1 15 1 b",
     "2e 13 1 12 49 107 9 1 25 11 1 31 1e 70 7 1 2 1 26 15 1 19 6 1 2 1 20 e 1 147 13 f 1 1 d 1",
     "22 7c 1 4f 39a 66 6f 11 c4 a4c 61 f 430 11 6 fb9 247 21b9 239 7 1f 11 4f 11 1e 12 30 10 4",
     "1f 15 5 13 370 4b 5 1 42 d 40 2 1 1 1c 17f8 8 4d6 2a 9 22e7 4 1 7 1 2 1 123 f 1 1d 3 2 1",
     "e 4 8 18c 904 6b 5 d 3 9 7 a 2270 1 1f5 2d a 7 10 1 141 1e 12 2c 1e4 1c 2f4 7 1 4 1 2 1 f",
     "1 c5 86 1 4b4 4 1 1b 1 2 1 1 2 1 1 a 1 4 1 1 1 1 6 1 4 1 1 1 1 1 1 3 1 2 1 1 2 1 1 1 1 1",
     "1 1 1 1 1 2 1 1 2 4 1 7 1 4 1 4 1 1 1 a 1 11 5 3 1 5 1 11 1144 a6e0 20 103a 6 de 2 1682 e",
     "1d31 c1f 21e 5e2 134b 5 1060"]),
  ("scontinue",
    ["2c 2 c 1 522 1 ae 2 1ea 1 1009 1 5 1 80a 2 fec 1 ce0e 2 1 1 1d 2 1d 2 3 1 2 1 a 1 a8 2 c",
     "1 49 1"]),
  ("sterm",
    ["21 1 1d 1 549 1 93 3 b4 1 2b 3 f6 1 3d 1 1 1 3 2 125 2 6e4 2 316 1 4 2 305 1 c6 2 cc 1 5",
     "1 13a 2 162 4 ae 2 2 2 1d 2 bc 2 41 2 3bc 2 9 3 de4 1 d 1 16 2 1ad 1 74fc 1 10e 2 e3 1 3",
     "1 17e 2 56 2 5f 1 98 2 93 3 90 2 f9 1 526a 2 a9 1 1d 1 41 1 af4 2 4fd 5 2c 4 bd 2 75 4 7f",
     "3 81 2 6 1 10 2 58 2 1 2 6c 1 1a1 2 175 2 5 f 69 2 f9 3 205 1 1 1 fb 2 57 2 1a4 2 2b4 2",
     "4a 2 4b29 2 85 1 41 2 b 1 353 1 4e06 1 1de8 1"]),
  ("sep",
    ["85 1 1fa2 2"]),
  ("sp",
    ["9 1 1 2 13 1 7f 1 15df 1 97f b 24 1 2f 1 fa0 1"]),
  ("upper",
    ["41 1a 65 17 1 7 21 1 1 1 1 1 1 1 1 1 1 1 1 1 1 1 1 1 1 1 1 1 1 1 1 1 1 1 1 1 1 1 1 1 1 1",
     "1 1 1 1 1 1 1 1 1 1 1 1 1 1 1 1 1 1 1 1 2 1 1 1 1 1 1 1 1 1 1 1 1 1 1 1 2 1 1 1 1 1 1 1 1",
     "1 1 1 1 1 1 1 1 1 1 1 1 1 1 1 1 1 1 1 1 1 1 1 1 1 1 1 1 1 1 1 1 1 1 1 1 1 1 2 1 1 1 1 3 2",
     "1 1 1 2 1 3 2 4 1 2 1 3 3 2 1 2 1 1 1 1 1 2 1 1 2 1 1 2 1 3 1 1 1 2 3 1 7 2 1 2 1 2 1 1 1",
     "1 1 1 1 1 1 1 1 1 1 1 1 1 2 1 1 1 1 1 1 1 1 1 1 1 1 1 1 1 1 1 2 2 1 1 1 3 1 1 1 1 1 1 1 1",
     "1 1 1 1 1 1 1 1 1 1 1 1 1 1 1 1 1 1 1 1 1 1 1 1 1 1 1 1 1 1 1 1 1 1 1 1 1 1 1 1 1 1 1 1 1",
     "1 1 1 1 1 7 2 1 2 2 1 1 4 1 1 1 1 1 1 1 1 121 1 1 1 3 1 8 1 6 1 1 3 1 1 1 2 1 11 1 9 23 1",
     "2 3 3 1 1 1 1 1 1 1 1 1 1 1 1 1 1 1 1 1 1 1 1 1 1 1 5 1 2 1 1 2 2 33 30 1 1 1 1 1 1 1 1 1",
     "1 1 1 1 1 1 1 1 1 1 1 1 1 1 1 1 1 1 1 1 1 1 1 1 9 1 1 1 1 1 1 1 1 1 1 1 1 1 1 1 1 1 1 1 1",
     "1 1 1 1 1 1 1 1 1 1 1 1 1 1 1 1 1 1 1 1 1 1 1 1 1 1 1 1 1 1 1 1 1 1 2 1 1 1 1 1 1 1 1 1 1",
     "1 1 2 1 1 1 1 1 1 1 1 1 1 1 1 1 1 1 1 1 1 1 1 1 1 1 1 1 1 1 1 1 1 1 1 1 1 1 1 1 1 1 1 1 1",
     "1 1 1 1 1 1 1 1 1 1 1 1 1 1 1 1 1 1 1 1 1 1 1 1 1 1 1 1 1 1 1 1 1 1 1 1 1 1 1 1 1 1 1 1 1",
     "1 1 1 1 1 1 1 1 2 26 b49 26 1 1 5 1 2d2 56 a0a 1 1 1 1 1 1 1 1 1 1 1 1 1 1 1 1 1 1 1 1 1",
     "1 1 1 1 1 1 1 1 1 1 1 1 1 1 1 1 1 1 1 1 1 1 1 1 1 1 1 1 1 1 1 1 1 1 1 1 1 1 1 1 1 1 1 1 1",
     "1 1 1 1 1 1 1 1 1 1 1 1 1 1 1 1 1 1 1 1 1 1 1 1 1 1 1 1 1 1 1 1 1 1 1 1 1 1 1 1 1 1 1 1 1",
     "1 1 1 1 1 1 1 1 1 1 1 1 1 1 1 1 1 1 1 1 1 1 1 1 1 1 1 1 1 1 1 1 1 1 1 1 1 1 9 1 1 1 1 1 1",
     "1 1 1 1 1 1 1 1 1 1 1 1 1 1 1 1 1 1 1 1 1 1 1 1 1 1 1 1 1 1 1 1 1 1 1 1 1 1 1 1 1 1 1 1 1",
     "1 1 1 1 1 1 1 1 1 1 1 1 1 1 1 1 1 1 1 1 1 1 1 1 1 1 1 1 1 1 1 1 1 1 1 1 1 1 1 1 1 1 1 1 1",
     "1 9 8 8 6 a 8 8 8 8 6 b 1 1 1 1 1 1 1 8 8 18 8 8 8 8 8 8 5 b 5 b 4 c 5 b 5 105 1 4 1 3 3",
     "2 3 2 1 3 5 6 1 1 1 1 1 1 4 2 4 a 2 5 1 1a 10 13 1 332 1a 730 30 30 1 1 3 2 1 1 1 1 1 1 4",
     "1 1 2 1 8 3 1 1 1 1 1 1 1 1 1 1 1 1 1 1 1 1 1 1 1 1 1 1 1 1 1 1 1 1 1 1 1 1 1 1 1 1 1 1 1",
     "1 1 1 1 1 1 1 1 1 1 1 1 1 1 1 1 1 1 1 1 1 1 1 1 1 1 1 1 1 1 1 1 1 1 1 1 1 1 1 1 1 1 1 1 1",
     "1 1 1 1 1 1 1 1 1 1 1 1 1 1 8 1 1 1 4 1 794d 1 1 1 1 1 1 1 1 1 1 1 1 1 1 1 1 1 1 1 1 1 1",
     "1 1 1 1 1 1 1 1 1 1 1 1 1 1 1 1 1 1 1 1 1 1 1 13 1 1 1 1 1 1 1 1 1 1 1 1 1 1 1 1 1 1 1 1",
     "1 1 1 1 1 1 1 87 1 1 1 1 1 1 1 1 1 1 1 1 1 3 1 1 1 1 1 1 1 1 1 1 1 1 1 1 1 1 1 1 1 1 1 1",
     "1 1 1 1 1 1 1 1 1 1 1 1 1 1 1 1 1 1 1 1 1 1 1 1 1 1 1 1 1 1 1 1 1 1 1 1 1 1 1 a 1 1 1 1 2",
     "1 1 1 1 1 1 1 1 4 1 1 1 2 1 1 1 3 1 1 1 1 1 1 1 1 1 1 1 1 1 1 1 1 1 1 1 1 5 1 5 1 1 1 1 1",
     "1 1 1 1 1 1 1 1 1 1 4 1 1 6 1 5 1 1 1 1c 1 572b 1a 4c5 28 88 24 9c b 1 f 1 7 1 2 6ea 33",
     "bed 20 5580 20 65a0 1a 1a 1a 1a 1a 1a 1 1 2 2 1 2 2 2 4 1 8 1a 1a 1a 2 1 4 2 8 1 7 1b 2 1",
     "4 1 5 1 1 3 7 1b 1a 1a 1a 1a 1a 1a 1a 1a 1a 1a 1a 1e 19 21 19 21 19 21 19 21 19 21 1 1135",
     "22 80e 1a 6 1a 6 1a"])]

/-- The short names of the classes of `sentence`. -/
def sentenceShort : List (String × String) := [
  ("at", "aterm"),
  ("cl", "close"),
  ("ex", "extend"),
  ("fo", "format"),
  ("lo", "lower"),
  ("nu", "numeric"),
  ("le", "oletter"),
  ("sc", "scontinue"),
  ("st", "sterm"),
  ("se", "sep"),
  ("sp", "sp"),
  ("up", "upper")]

/-- The ranges of a class in one of the three divisions, by its loosely spelled name. -/
def named? (table : List (String × List String)) (short : List (String × String)) (name : String) :
    Option (List (Nat × Nat)) :=
  (table.lookup ((short.lookup name).getD name)).map Runs.decode

end Segmentation
end Unicode
end ScriptReview
