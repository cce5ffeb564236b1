import ScriptReview.Proofs.Review.Lines
import ScriptReview.Proofs.Traversal
import ScriptReview.Review.Session

/-!
# Rules in a session

Registrations, scans and reviews may come in any order.  A session never does more to a rule book
than to add the rules that it accepts, one after the other, and every answer is the answer of the
book as it is at that moment.  Rules do not disturb each other either: what the rules of a book
report for a line does not depend on the rules that were added later.

Main definitions:

* `Request.rule?` is the rule that a request adds to a book, if any.
* `registered` gives the rules that the requests of a session add, in their order.

Main results:

* `RuleBook.run_fst` gives the book after a session, `RuleBook.getElem?_run_snd` every answer.
* `RuleBook.issuesOn_review_addAll` splits the issues of a line by the rules that report them.
* `Config.ruleBook_eq_ok_iff` and `Config.ruleBook_eq_error_iff` say when the rules of a
  configuration make a book, and which pattern is to blame when they do not.
* `RuleBook.run_only_adds_rules` puts all of this together.
-/

namespace ScriptReview

/-- The rule that a request adds to a book, if any. -/
def Request.rule? : Request → Option Rule
  | .register registration => registration.compile.toOption
  | .scan _ => none
  | .review _ => none
  | .rules => none

/-- The rules that some requests add to a book, in their order. -/
def registered (requests : List Request) : List Rule :=
  requests.filterMap Request.rule?

namespace RuleBook

/-! ## Books as lists of rules -/

/-- A book is the list of its rules. -/
theorem eq_of_rules_eq {book book' : RuleBook} (h : book.rules = book'.rules) : book = book' := by
  cases book
  cases book'
  exact congrArg RuleBook.mk h

/-- Rules that are added in two goes are added in one. -/
theorem addAll_append (book : RuleBook) (rules rules' : List Rule) :
    book.addAll (rules ++ rules') = (book.addAll rules).addAll rules' := by
  apply eq_of_rules_eq
  simp only [rules_addAll, List.append_assoc]

/-! ## Runs -/

/-- A request adds its rule and leaves the book alone when it has none. -/
theorem step_fst (book : RuleBook) (request : Request) :
    (book.step request).1 = book.addAll request.rule?.toList := by
  cases request with
  | register registration =>
      cases h : registration.compile with
      | ok rule =>
          simp only [step, Request.rule?, h]
          rfl
      | error fault =>
          simp only [step, Request.rule?, h]
          rfl
  | scan lines => rfl
  | review source => rfl
  | rules => rfl

/-- After a session the book has the rules that were registered, and no others. -/
theorem run_fst (book : RuleBook) (requests : List Request) :
    (book.run requests).1 = book.addAll (registered requests) := by
  induction requests generalizing book with
  | nil => rfl
  | cons request requests ih =>
      have hsplit : registered (request :: requests) =
          request.rule?.toList ++ registered requests := by
        unfold registered
        rw [List.filterMap_cons]
        cases request.rule? <;> rfl
      rw [run_cons, ih, step_fst, ← addAll_append, hsplit]

/-- Every answer is that of the book with the rules that were registered before. -/
theorem getElem?_run_snd (book : RuleBook) (requests : List Request) (i : Nat) :
    (book.run requests).2[i]? =
      requests[i]?.map fun request =>
        ((book.addAll (registered (requests.take i))).step request).2 := by
  induction requests generalizing book i with
  | nil => rfl
  | cons request requests ih =>
      rw [run_cons]
      cases i with
      | zero => rfl
      | succ i =>
          have hnext : book.addAll (registered ((request :: requests).take (i + 1))) =
              (book.step request).1.addAll (registered (requests.take i)) := by
            rw [← run_fst, ← run_fst, List.take_succ_cons, run_cons]
          rw [List.getElem?_cons_succ, List.getElem?_cons_succ, ih, hnext]

/-- A registration that is refused leaves the book as it was. -/
theorem step_register_refused (book : RuleBook) {registration : Registration} {fault : Fault}
    (h : registration.compile = .error fault) :
    book.step (.register registration) = (book, .refused fault) := by
  simp only [step, h]

/-- Rules that are at hand are all registered. -/
theorem registered_map_rule (rules : List Rule) :
    registered (rules.map fun rule => .register (.rule rule)) = rules := by
  unfold registered
  rw [List.filterMap_map]
  exact List.filterMap_some

/-- Settings whose patterns are all valid are all registered. -/
theorem registered_map_settings {settings : List RuleSettings} {rules : List Rule}
    (h : settings.map RuleSettings.compile = rules.map .ok) :
    registered (settings.map fun s => .register (.settings s)) = rules := by
  calc
    registered (settings.map fun s => .register (.settings s))
        = (settings.map RuleSettings.compile).filterMap Except.toOption := by
      unfold registered
      rw [List.filterMap_map, List.filterMap_map]
      rfl
    _ = (rules.map .ok).filterMap Except.toOption := by rw [h]
    _ = rules := by
      rw [List.filterMap_map]
      exact List.filterMap_some

/-! ## Independence of rules -/

/-- What a line is reported for by the rules of a book comes first, then what it is reported for by
the rules that were added. -/
theorem issuesOn_review_addAll (book : RuleBook) (rules : List Rule) (source : String) (n : Nat) :
    issuesOn n ((book.addAll rules).review source).issues =
      issuesOn n (book.review source).issues ++
        issuesOn n ((empty.addAll rules).review source).issues := by
  simp only [review_issues, issuesOn_scan, rules_addAll, List.filterMap_append]
  rfl

end RuleBook

/-! ## Configured rules -/

/-- A rule is refused exactly with the fault of its pattern. -/
theorem RuleSettings.compile_eq_error_iff (s : RuleSettings) (fault : Fault) :
    s.compile = .error fault ↔ ∃ cause, Regex.compile s.pattern = .error cause ∧
      fault = .pattern cause := by
  unfold RuleSettings.compile PatternRule.compile
  cases Regex.compile s.pattern with
  | ok regex => simp [Except.map]
  | error cause => simp [Except.map, eq_comm]

namespace Config

/-- The rules of a configuration make a book exactly when each of them can be compiled. -/
theorem ruleBook_eq_ok_iff (config : Config) (book : RuleBook) :
    config.ruleBook = .ok book ↔ ∃ rules : List Rule,
      config.review.rules.map RuleSettings.compile = rules.map .ok ∧
        book = RuleBook.builtin.addAll rules := by
  rw [ruleBook, map_eq_ok_iff]
  exact exists_congr fun rules => and_congr mapM_eq_ok_iff eq_comm

/-- The rules of a configuration make no book exactly when a pattern is refused, and the first such
pattern is to blame. -/
theorem ruleBook_eq_error_iff (config : Config) (fault : Fault) :
    config.ruleBook = .error fault ↔ ∃ before s after cause,
      config.review.rules = before ++ s :: after ∧
        (∃ rules : List Rule, before.map RuleSettings.compile = rules.map .ok) ∧
          Regex.compile s.pattern = .error cause ∧ fault = .pattern cause := by
  rw [ruleBook, map_eq_error_iff, customRules, mapM_eq_error_iff]
  simp only [mapM_eq_ok_iff, RuleSettings.compile_eq_error_iff]
  constructor
  · rintro ⟨before, s, after, hrules, hbefore, cause, hcause, hfault⟩
    exact ⟨before, s, after, cause, hrules, hbefore, hcause, hfault⟩
  · rintro ⟨before, s, after, cause, hrules, hbefore, hcause, hfault⟩
    exact ⟨before, s, after, hrules, hbefore, cause, hcause, hfault⟩

/-- A single pattern that is refused is enough for the rules of a configuration to make no book. -/
theorem exists_ruleBook_eq_error_iff (config : Config) :
    (∃ cause, config.ruleBook = .error (.pattern cause)) ↔
      ∃ s ∈ config.review.rules, ∃ cause, Regex.compile s.pattern = .error cause := by
  constructor
  · rintro ⟨cause, h⟩
    obtain ⟨before, s, after, cause', hrules, -, hcause, -⟩ := (ruleBook_eq_error_iff _ _).mp h
    exact ⟨s, by simp [hrules], cause', hcause⟩
  · rintro ⟨s, hs, cause, hcause⟩
    cases hbook : config.ruleBook with
    | ok book =>
        obtain ⟨rules, hrules, -⟩ := (ruleBook_eq_ok_iff _ _).mp hbook
        have hrefused : s.compile = .error (.pattern cause) :=
          (s.compile_eq_error_iff _).mpr ⟨cause, hcause, rfl⟩
        have hmem : s.compile ∈ rules.map .ok := hrules ▸ List.mem_map_of_mem hs
        obtain ⟨rule, -, hrule⟩ := List.mem_map.mp hmem
        rw [hrefused] at hrule
        contradiction
    | error fault =>
        obtain ⟨-, -, -, cause', -, -, -, rfl⟩ := (ruleBook_eq_error_iff _ _).mp hbook
        exact ⟨cause', rfl⟩

/-- The book of a configuration is the one that a session makes of its rules. -/
theorem ruleBook_eq_run {config : Config} {book : RuleBook} (h : config.ruleBook = .ok book) :
    book = (RuleBook.builtin.run
      (config.review.rules.map fun s => .register (.settings s))).1 := by
  obtain ⟨rules, hrules, rfl⟩ := (ruleBook_eq_ok_iff _ _).mp h
  rw [RuleBook.run_fst, RuleBook.registered_map_settings hrules]

end Config

namespace RuleBook

/--
Sessions only add rules, and rules do not disturb each other.  The book after a session has the
rules that were registered and no others, and every answer is given by the rules that are in the
book by then.  Added rules change neither metrics nor suggestions, and for a line they report their
own issues after those of the others.  Adding rules at once, registering them one by one and
configuring them are three ways to the same book; a configuration has no book exactly when one of
its patterns is refused, and the first such pattern is to blame.
-/
theorem run_only_adds_rules (book : RuleBook) (requests : List Request) (extra : List Rule)
    (source : String) (config : Config) :
    ((book.run requests).1.rules = book.rules ++ registered requests ∧
      (∀ registration fault, registration.compile = .error fault →
        book.step (.register registration) = (book, .refused fault)) ∧
      ∀ i : Nat, (book.run requests).2[i]? = requests[i]?.map fun request =>
        ((book.addAll (registered (requests.take i))).step request).2) ∧
    (((book.addAll extra).review source).metrics = (book.review source).metrics ∧
      ((book.addAll extra).review source).suggestions = (book.review source).suggestions ∧
      ∀ n, issuesOn n ((book.addAll extra).review source).issues =
        issuesOn n (book.review source).issues ++
          issuesOn n ((empty.addAll extra).review source).issues) ∧
    ((builtin.addAll extra).rules = Rule.builtin ++ extra ∧
      (builtin.run (extra.map fun rule => .register (.rule rule))).1 = builtin.addAll extra ∧
      (∀ configured, config.ruleBook = .ok configured ↔ ∃ rules : List Rule,
        config.review.rules.map RuleSettings.compile = rules.map .ok ∧
          configured = builtin.addAll rules) ∧
      ∀ configured, config.ruleBook = .ok configured →
        configured = (builtin.run
          (config.review.rules.map fun s => .register (.settings s))).1) ∧
    ((∃ cause, config.ruleBook = .error (.pattern cause)) ↔
      ∃ s ∈ config.review.rules, ∃ cause, Regex.compile s.pattern = .error cause) ∧
    ∀ fault, config.ruleBook = .error fault ↔ ∃ before s after cause,
      config.review.rules = before ++ s :: after ∧
        (∃ rules : List Rule, before.map RuleSettings.compile = rules.map .ok) ∧
          Regex.compile s.pattern = .error cause ∧ fault = .pattern cause := by
  have hrun : (book.run requests).1.rules = book.rules ++ registered requests := by
    rw [run_fst, rules_addAll]
  have hregistered : (builtin.run (extra.map fun rule => .register (.rule rule))).1 =
      builtin.addAll extra := by
    rw [run_fst, registered_map_rule]
  refine ⟨⟨hrun, ?_, book.getElem?_run_snd requests⟩, ⟨rfl, rfl, ?_⟩,
    ⟨rules_addAll _ _, hregistered, config.ruleBook_eq_ok_iff, ?_⟩,
    config.exists_ruleBook_eq_error_iff, config.ruleBook_eq_error_iff⟩
  · intro registration fault h
    exact step_register_refused book h
  · exact book.issuesOn_review_addAll extra source
  · intro configured h
    exact Config.ruleBook_eq_run h

/-- A rule with an unclosed group is refused, and an empty book stays empty. -/
theorem run_only_adds_rules_of_unclosed_group :
    Regex.compile "(" = .error .malformed ∧
      empty.step (.register (.settings ⟨"group", "(", .warning, .medium, ""⟩)) =
        (empty, .refused (.pattern .malformed)) :=
  ⟨rfl, (run_only_adds_rules empty [] [] "" .standard).1.2.1 _ _ rfl⟩

end RuleBook
end ScriptReview
