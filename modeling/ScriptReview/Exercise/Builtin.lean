import ScriptReview.Exercise.Catalog

/-!
# The built-in catalog

Six exercises are built in, two for each difficulty.

Main definition: `Catalog.builtin` is the built-in catalog.
-/

namespace ScriptReview
namespace Builtin

/-- Sum of Two Numbers. -/
def sumOfTwoNumbers : Exercise where
  title := "Sum of Two Numbers"
  description :=
    "Write a function that takes two numbers and returns their sum."
  difficulty := .easy
  stub :=
    "function sum(a, b) \x7b\n  // Your code here\n  return 0;\n\x7d"
  testCases := [
    { input := [.int 2, .int 3]
      expected := .int 5
      description := "Adding two positive numbers" },
    { input := [.int (-1), .int 1]
      expected := .int 0
      description := "Adding negative and positive" },
    { input := [.int 0, .int 0]
      expected := .int 0
      description := "Adding zeros" }]
  hints := [
    "Use the + operator to add two numbers",
    "Return the result of a + b"]

/-- Find Maximum. -/
def findMaximum : Exercise where
  title := "Find Maximum"
  description :=
    "Write a function that finds the maximum number in an array."
  difficulty := .easy
  stub :=
    "function findMax(numbers) \x7b\n  // Your code here\n  return 0;\n\x7d"
  testCases := [
    { input := [.array [.int 1, .int 5, .int 3, .int 9, .int 2]]
      expected := .int 9
      description := "Find max in mixed numbers" },
    { input := [.array [.int (-1), .int (-5), .int (-3)]]
      expected := .int (-1)
      description := "Find max in negative numbers" }]
  hints := [
    "Use Math.max() with spread operator",
    "Or use a loop to compare each number"]

/-- Palindrome Checker. -/
def palindromeChecker : Exercise where
  title := "Palindrome Checker"
  description :=
    "Write a function that checks if a string is a palindrome (reads the same forwards and " ++
      "backwards)."
  difficulty := .medium
  stub :=
    "function isPalindrome(str) \x7b\n  // Your code here\n  return false;\n\x7d"
  testCases := [
    { input := [.string "racecar"]
      expected := .bool true
      description := "Simple palindrome" },
    { input := [.string "hello"]
      expected := .bool false
      description := "Not a palindrome" },
    { input := [.string "A man a plan a canal Panama"]
      expected := .bool true
      description := "Palindrome with spaces and caps" }]
  hints := [
    "Remove spaces and convert to lowercase first",
    "Compare the string with its reverse",
    "Use split(), reverse(), and join() methods"]

/-- FizzBuzz. -/
def fizzBuzz : Exercise where
  title := "FizzBuzz"
  description :=
    "Return an array where numbers divisible by 3 are \"Fizz\", by 5 are \"Buzz\", by both " ++
      "are \"FizzBuzz\"."
  difficulty := .medium
  stub :=
    "function fizzBuzz(n) \x7b\n  // Return array for numbers 1 to n\n  return [];\n\x7d"
  testCases := [
    { input := [.int 15]
      expected := .array [.int 1, .int 2, .string "Fizz", .int 4, .string "Buzz", .string "Fizz",
                    .int 7, .int 8, .string "Fizz", .string "Buzz", .int 11, .string "Fizz",
                    .int 13, .int 14, .string "FizzBuzz"]
      description := "FizzBuzz up to 15" }]
  hints := [
    "Use the modulo operator (%) to check divisibility",
    "Check for divisibility by both 3 and 5 first",
    "Use a loop from 1 to n"]

/-- Binary Tree Traversal. -/
def binaryTreeTraversal : Exercise where
  title := "Binary Tree Traversal"
  description :=
    "Implement in-order traversal of a binary tree."
  difficulty := .hard
  stub :=
    "function inorderTraversal(root) \x7b\n  // root = \x7b val: number, left: TreeNode, " ++
      "right: TreeNode \x7d\n  // Return array of values in in-order\n  return [];\n\x7d"
  testCases := [
    { input := [.object [("left", .object [("left", .null), ("right", .null), ("val", .int 1)]),
                 ("right", .object [("left", .null), ("right", .null), ("val", .int 3)]), ("val",
                 .int 2)]]
      expected := .array [.int 1, .int 2, .int 3]
      description := "Simple binary tree" }]
  hints := [
    "In-order: left subtree, root, right subtree",
    "Use recursion or a stack for iteration",
    "Base case: if node is null, return"]

/-- Longest Common Subsequence. -/
def longestCommonSubsequence : Exercise where
  title := "Longest Common Subsequence"
  description :=
    "Find the length of the longest common subsequence between two strings."
  difficulty := .hard
  stub :=
    "function longestCommonSubsequence(text1, text2) \x7b\n  // Your code here\n  return " ++
      "0;\n\x7d"
  testCases := [
    { input := [.string "abcde", .string "ace"]
      expected := .int 3
      description := "LCS of \"abcde\" and \"ace\"" },
    { input := [.string "abc", .string "abc"]
      expected := .int 3
      description := "Identical strings" }]
  hints := [
    "Use dynamic programming with a 2D array",
    "If characters match, add 1 to diagonal value",
    "Otherwise, take max of left or top cell"]

end Builtin

/-- The built-in catalog. -/
def Catalog.builtin : Catalog where
  easy := [Builtin.sumOfTwoNumbers, Builtin.findMaximum]
  medium := [Builtin.palindromeChecker, Builtin.fizzBuzz]
  hard := [Builtin.binaryTreeTraversal, Builtin.longestCommonSubsequence]

end ScriptReview
