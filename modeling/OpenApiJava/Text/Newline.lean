/-!
# Line breaks

A carriage return, alone or before a line feed, ends a line as a line feed does.
-/

namespace OpenApiJava.Text

/-- The text with a line feed at the end of each line. -/
def withLineFeeds : List Char → List Char
  | [] => []
  | '\r' :: '\n' :: rest => '\n' :: withLineFeeds rest
  | '\r' :: rest => '\n' :: withLineFeeds rest
  | character :: rest => character :: withLineFeeds rest

theorem return_not_mem_withLineFeeds (text : List Char) : '\r' ∉ withLineFeeds text := by
  fun_induction withLineFeeds text with
  | case1 => simp
  | case2 rest inductionHypothesis => simp [inductionHypothesis]
  | case3 rest _ inductionHypothesis => simp [inductionHypothesis]
  | case4 character rest _ single inductionHypothesis =>
      simp only [List.mem_cons, inductionHypothesis, or_false]
      exact fun same => single same.symm

end OpenApiJava.Text
