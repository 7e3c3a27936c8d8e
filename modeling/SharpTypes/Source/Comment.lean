/-
Removing comments from source text. A line comment goes up to the line end, which stays; a block
comment goes with its delimiters, and an unclosed one takes the rest of the text. String literals
are not recognised, so a delimiter inside one opens a comment all the same.
-/

namespace SharpTypes.Source.Comment

/-- The text after the first `*/`, or nothing if there is none. -/
def afterBlock : List Char → List Char
  | [] => []
  | '*' :: '/' :: rest => rest
  | _ :: rest => afterBlock rest

theorem length_afterBlock_le (text : List Char) : (afterBlock text).length ≤ text.length := by
  fun_induction afterBlock text with
  | case1 => simp
  | case2 rest => simp only [List.length_cons]; omega
  | case3 c rest _ inductionHypothesis => simp only [List.length_cons]; omega

/-- The text from the first line end on. -/
def afterLine (text : List Char) : List Char :=
  text.dropWhile (· ≠ '\n')

theorem length_afterLine_le (text : List Char) : (afterLine text).length ≤ text.length :=
  (List.dropWhile_sublist _).length_le

/-- The text without its comments. -/
def strip : List Char → List Char
  | [] => []
  | '/' :: '/' :: rest => strip (afterLine rest)
  | '/' :: '*' :: rest => strip (afterBlock rest)
  | c :: rest => c :: strip rest
termination_by text => text.length
decreasing_by
  · have := length_afterLine_le rest
    simp only [List.length_cons]; omega
  · have := length_afterBlock_le rest
    simp only [List.length_cons]; omega
  · simp

end SharpTypes.Source.Comment
