import Mathlib.Data.List.Perm.Basic
import ScriptReview.Proofs.Command.Stages
import ScriptReview.Proofs.Text.Utf8

/-!
# The same report from every input

Whether bytes come from a file or from the standard input, they are reviewed in the same way if they
are text, and refused in the same way if they are not.  Several files are reviewed as if each one
were alone.

Main results:

* `RuleBook.reviewBytes_eq_ok_iff` and `RuleBook.reviewBytes_eq_error_iff` say what the review of
  some bytes gives.
* `RuleBook.reviewFiles_eq_ok_iff` says that the report of several files has the reports of each.
* `RuleBook.inputs_agree` says that all inputs give the reports of their bytes.
-/

namespace ScriptReview

/-- Numbers in another order have the same total. -/
theorem total_eq_of_perm {numbers numbers' : List Nat} (h : numbers.Perm numbers') :
    total numbers = total numbers' := by
  induction h with
  | nil => rfl
  | cons n _ ih => rw [total_cons, total_cons, ih]
  | swap n m numbers =>
      simp only [total_cons]
      omega
  | trans _ _ ih ih' => exact ih.trans ih'

namespace RuleBook

variable (book : RuleBook) (fs : FileSystem)

/-! ## Bytes -/

/-- The report of bytes is the review of the text that they stand for. -/
theorem reviewBytes_eq_ok_iff (path : RawText) (content : ByteArray) (report : FileReport) :
    book.reviewBytes path content = .ok report ↔
      ∃ cs, Utf8.Decodes content.data.toList cs ∧ report = ⟨path, book.review (.ofList cs)⟩ := by
  unfold reviewBytes
  constructor
  · intro h
    split at h
    · rename_i text htext
      refine ⟨text.toList, (Utf8.fromUTF8?_eq_some_iff content text).mp htext, ?_⟩
      rw [String.ofList_toList]
      exact (Except.ok.inj h).symm
    · contradiction
  · rintro ⟨cs, hcs, rfl⟩
    have htext : String.fromUTF8? content = some (.ofList cs) := by
      rw [Utf8.fromUTF8?_eq_some_iff, String.toList_ofList]
      exact hcs
    rw [htext]

/-- Bytes are refused exactly when they are no text. -/
theorem reviewBytes_eq_error_iff (path : RawText) (content : ByteArray) (fault : Fault) :
    book.reviewBytes path content = .error fault ↔
      ¬ Utf8.WellFormed content.data.toList ∧ fault = .notText path := by
  rw [← Utf8.fromUTF8?_eq_none_iff]
  unfold reviewBytes
  cases String.fromUTF8? content <;> simp [eq_comm]

/-! ## Files -/

/-- The report of a file is that of its bytes. -/
theorem reviewFile_eq {path : RawText} {content : ByteArray}
    (h : fs.find path = .ok (.file content)) :
    book.reviewFile fs path = book.reviewBytes path content := by
  have hread : fs.read path = .ok content := (fs.read_eq_ok_iff path content).mpr h
  rw [reviewFile, hread]
  rfl

/-- A file has a report exactly when it can be read and is text. -/
theorem exists_reviewFile_eq_ok_iff (path : RawText) :
    (∃ report, book.reviewFile fs path = .ok report) ↔
      ∃ content, fs.find path = .ok (.file content) ∧ Utf8.WellFormed content.data.toList := by
  simp only [reviewFile, bind_eq_ok_iff, FileSystem.read_eq_ok_iff, reviewBytes_eq_ok_iff,
    Utf8.wellFormed_iff]
  constructor
  · rintro ⟨_, content, hcontent, cs, hcs, -⟩
    exact ⟨content, hcontent, cs, hcs⟩
  · rintro ⟨content, hcontent, cs, hcs⟩
    exact ⟨_, content, hcontent, cs, hcs, rfl⟩

/-- The report of a file names the file. -/
theorem path_of_reviewFile {path : RawText} {report : FileReport}
    (h : book.reviewFile fs path = .ok report) : report.path = path := by
  rcases bind_eq_ok_iff.mp h with ⟨content, -, hreport⟩
  rcases (book.reviewBytes_eq_ok_iff path content report).mp hreport with ⟨cs, -, rfl⟩
  rfl

/-- The report of several files has the reports of the files one by one. -/
theorem reviewFiles_eq_ok_iff (paths : List RawText) (report : ScanReport) :
    book.reviewFiles fs paths = .ok report ↔
      List.Forall₂ (fun path entry => book.reviewFile fs path = .ok entry) paths report.files ∧
        report.totalIssues = total (report.files.map (·.report.issues.length)) := by
  rw [reviewFiles, map_eq_ok_iff]
  simp only [mapM_eq_ok_iff_forall₂]
  constructor
  · rintro ⟨files, hfiles, rfl⟩
    exact ⟨hfiles, rfl⟩
  · rintro ⟨hfiles, htotal⟩
    refine ⟨report.files, hfiles, ?_⟩
    rw [ScanReport.ofFiles, ← htotal]

/-- Several files have a report exactly when each of them has one. -/
theorem exists_reviewFiles_eq_ok_iff (paths : List RawText) :
    (∃ report, book.reviewFiles fs paths = .ok report) ↔
      ∀ path ∈ paths, ∃ content, fs.find path = .ok (.file content) ∧
        Utf8.WellFormed content.data.toList := by
  simp only [← exists_reviewFile_eq_ok_iff book fs, ← exists_mapM_eq_ok_iff, reviewFiles,
    map_eq_ok_iff]
  constructor
  · rintro ⟨_, files, hfiles, -⟩
    exact ⟨files, hfiles⟩
  · rintro ⟨files, hfiles⟩
    exact ⟨_, files, hfiles, rfl⟩

/-- Files in another order have the same reports in that order. -/
theorem reviewFiles_perm {paths paths' : List RawText} (hperm : paths.Perm paths')
    {report : ScanReport} (h : book.reviewFiles fs paths = .ok report) :
    ∃ report', book.reviewFiles fs paths' = .ok report' ∧
      (paths.zip report.files).Perm (paths'.zip report'.files) ∧
        report'.totalIssues = report.totalIssues := by
  rcases (book.reviewFiles_eq_ok_iff fs paths report).mp h with ⟨hfiles, htotal⟩
  -- Every path takes its report along into the other order.
  rcases List.perm_comp_forall₂ hperm.symm (forall₂_zip_right hfiles) with ⟨pairs, hpairs, hsame⟩
  have hpaths : pairs.map Prod.fst = paths' :=
    map_fst_eq_of_forall₂ (hpairs.imp fun path pair hpair => hpair.1)
  have hzip : pairs = paths'.zip (pairs.map Prod.snd) := List.zip_of_prod hpaths rfl
  have hentries : List.Forall₂ (fun path entry => book.reviewFile fs path = .ok entry) paths'
      (pairs.map Prod.snd) := by
    rw [List.forall₂_map_right_iff]
    exact hpairs.imp fun path pair hpair => hpair.2
  have hreports : (pairs.map Prod.snd).Perm report.files := by
    have hmap := hsame.map Prod.snd
    rwa [List.map_snd_zip (Nat.le_of_eq hfiles.length_eq.symm)] at hmap
  refine ⟨.ofFiles (pairs.map Prod.snd), ?_, ?_, ?_⟩
  · exact (book.reviewFiles_eq_ok_iff fs paths' _).mpr ⟨hentries, rfl⟩
  · rw [ScanReport.files_ofFiles, ← hzip]
    exact hsame.symm
  · rw [htotal, ScanReport.ofFiles]
    exact total_eq_of_perm (hreports.map _)

/-- The report of the standard input is that of its bytes. -/
theorem reviewStream_eq_of_end (content : ByteArray) :
    book.reviewStream ⟨content, none⟩ =
      (book.reviewBytes Stream.label content).map fun report => .ofFiles [report] := by
  change (book.reviewBytes Stream.label content >>= _) = _
  cases book.reviewBytes Stream.label content <;> rfl

/--
A file and a standard input that ends hold bytes.  Both are refused exactly when the bytes are not
made of sequences, with the name of the one or the other; otherwise both give the review of the
characters that the bytes stand for, all of them.  Several files have a report exactly when each of
them has one; then the report has an entry for every path in order, which is the report of that file
alone, and the number of all issues, and in another order the files have the same entries.  A
standard input that fails is refused for that, whatever it has given before.
-/
theorem inputs_agree :
    (∀ path content, fs.find path = .ok (.file content) →
      (book.reviewFile fs path = .error (.notText path) ↔
        ¬ Utf8.WellFormed content.data.toList) ∧
      (book.reviewStream ⟨content, none⟩ = .error (.notText "<stdin>") ↔
        ¬ Utf8.WellFormed content.data.toList) ∧
      (Utf8.WellFormed content.data.toList → ∃ cs, Utf8.Decodes content.data.toList cs ∧
        book.reviewFile fs path = .ok ⟨path, book.review (.ofList cs)⟩ ∧
        book.reviewStream ⟨content, none⟩ =
          .ok (.ofFiles [⟨"<stdin>", book.review (.ofList cs)⟩]))) ∧
    (∀ paths, (∃ report, book.reviewFiles fs paths = .ok report) ↔
      ∀ path ∈ paths, ∃ content, fs.find path = .ok (.file content) ∧
        Utf8.WellFormed content.data.toList) ∧
    (∀ paths report, book.reviewFiles fs paths = .ok report →
      List.Forall₂ (fun path entry => entry.path = path ∧ book.reviewFile fs path = .ok entry)
        paths report.files ∧
      report.totalIssues = total (report.files.map (·.report.issues.length)) ∧
      ∀ paths', paths.Perm paths' → ∃ report', book.reviewFiles fs paths' = .ok report' ∧
        (paths.zip report.files).Perm (paths'.zip report'.files) ∧
          report'.totalIssues = report.totalIssues) ∧
    ∀ data source, book.reviewStream ⟨data, some source⟩ = .error (.io source "<stdin>") := by
  refine ⟨?_, ?_, ?_, ?_⟩
  · intro path content hcontent
    rw [book.reviewFile_eq fs hcontent, reviewStream_eq_of_end, map_eq_error_iff,
      reviewBytes_eq_error_iff, reviewBytes_eq_error_iff]
    refine ⟨by simp, by simp [Stream.label], ?_⟩
    intro htext
    rcases (Utf8.wellFormed_iff _).mp htext with ⟨cs, hcs⟩
    refine ⟨cs, hcs, (book.reviewBytes_eq_ok_iff _ _ _).mpr ⟨cs, hcs, rfl⟩, ?_⟩
    exact map_eq_ok_iff.mpr ⟨_, (book.reviewBytes_eq_ok_iff _ _ _).mpr ⟨cs, hcs, rfl⟩, rfl⟩
  · exact book.exists_reviewFiles_eq_ok_iff fs
  · intro paths report h
    rcases (book.reviewFiles_eq_ok_iff fs paths report).mp h with ⟨hfiles, htotal⟩
    refine ⟨hfiles.imp fun path entry hentry => ?_, htotal, fun paths' hperm => ?_⟩
    · exact ⟨book.path_of_reviewFile fs hentry, hentry⟩
    · exact book.reviewFiles_perm fs hperm h
  · intro data source
    rfl

/-- Two files, one of which begins with a byte order mark and ends with a carriage return. The other
one holds a sequence for a number that is too large. -/
def markedFiles : FileSystem where
  root := [("marked.js", .file ⟨#[0xEF, 0xBB, 0xBF, 0x78, 0x0D]⟩),
    ("broken.js", .file ⟨#[0xF4, 0x90, 0x80, 0x80]⟩)]
  workingDirectory := []

/-- The mark and the carriage return belong to the text that is reviewed, and the other file has no
report, neither alone nor with the first one. -/
theorem inputs_agree_of_marked :
    builtin.reviewFile markedFiles "marked.js" =
      .ok ⟨"marked.js", builtin.review "\uFEFFx\r"⟩ ∧
    builtin.reviewFile markedFiles "broken.js" = .error (.notText "broken.js") ∧
    ¬ ∃ report, builtin.reviewFiles markedFiles ["marked.js", "broken.js"] = .ok report := by
  rcases builtin.inputs_agree markedFiles with ⟨hbytes, hfiles, -, -⟩
  have hmarked : markedFiles.find "marked.js" =
      .ok (.file ⟨#[0xEF, 0xBB, 0xBF, 0x78, 0x0D]⟩) := by
    rw [FileSystem.find_name (by decide)]
    exact FileSystem.follow_file (by decide) (by decide) (by simp) (by simp) rfl
  have hbroken : markedFiles.find "broken.js" = .ok (.file ⟨#[0xF4, 0x90, 0x80, 0x80]⟩) := by
    rw [FileSystem.find_name (by decide)]
    exact FileSystem.follow_file (by decide) (by decide) (by simp) (by simp) rfl
  have htext : String.fromUTF8? ⟨#[0xEF, 0xBB, 0xBF, 0x78, 0x0D]⟩ = some "\uFEFFx\r" :=
    (Utf8.fromUTF8?_eq_some_iff_toByteArray _ _).mpr rfl
  have hnone : ¬ Utf8.WellFormed [0xF4, 0x90, 0x80, 0x80] :=
    (Utf8.fromUTF8?_eq_none_iff ⟨#[0xF4, 0x90, 0x80, 0x80]⟩).mp (by cbv)
  refine ⟨?_, ((hbytes _ _ hbroken).1).mpr hnone, ?_⟩
  · have hwell : Utf8.WellFormed [0xEF, 0xBB, 0xBF, 0x78, 0x0D] :=
      (Utf8.wellFormed_iff _).mpr ⟨_, (Utf8.fromUTF8?_eq_some_iff _ _).mp htext⟩
    rcases (hbytes _ _ hmarked).2.2 hwell with ⟨cs, hcs, hreport, -⟩
    have hsame : String.fromUTF8? ⟨#[0xEF, 0xBB, 0xBF, 0x78, 0x0D]⟩ = some (.ofList cs) := by
      rw [Utf8.fromUTF8?_eq_some_iff, String.toList_ofList]
      exact hcs
    rw [hreport, Option.some.inj (hsame.symm.trans htext)]
  · rw [hfiles]
    intro h
    rcases h "broken.js" (by simp) with ⟨content, hcontent, hwell⟩
    have hsame := hbroken.symm.trans hcontent
    simp only [Except.ok.injEq, Node.file.injEq] at hsame
    subst hsame
    exact hnone hwell

end RuleBook
end ScriptReview
