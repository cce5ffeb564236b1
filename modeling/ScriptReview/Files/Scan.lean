import ScriptReview.Files.Reading
import ScriptReview.Review.Analyzer

/-!
# Reviewing files

Main definitions:

* `RuleBook.reviewBytes` reviews bytes that have to be text.
* `RuleBook.reviewFile`, `RuleBook.reviewFiles` and `RuleBook.reviewStream` review what is read
  from one file, from several files, and from the standard input.
-/

namespace ScriptReview
namespace RuleBook

/-- The report of bytes, which have to be text in UTF-8. Nothing is dropped from them. -/
def reviewBytes (book : RuleBook) (path : RawText) (content : ByteArray) :
    Except Fault FileReport :=
  match String.fromUTF8? content with
  | some source => .ok ⟨path, book.review source⟩
  | none => .error (.notText path)

/-- The report of a file. -/
def reviewFile (book : RuleBook) (fs : FileSystem) (path : RawText) : Except Fault FileReport := do
  book.reviewBytes path (← fs.read path)

/-- The reports of several files in order, or the fault of the first one that has no report. -/
def reviewFiles (book : RuleBook) (fs : FileSystem) (paths : List RawText) :
    Except Fault ScanReport :=
  (paths.mapM (book.reviewFile fs)).map .ofFiles

/-- The report of the standard input. -/
def reviewStream (book : RuleBook) (s : Stream) : Except Fault ScanReport := do
  let report ← book.reviewBytes Stream.label (← s.read)
  .ok (.ofFiles [report])

end RuleBook
end ScriptReview
