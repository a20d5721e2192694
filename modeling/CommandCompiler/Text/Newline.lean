/-!
# CommandCompiler.Text.Newline

Line ends of text files. A carriage return, alone or before a line feed, ends a
line just as a line feed does; text read from a file holds line feeds only.
-/

namespace CommandCompiler.Text

/-- The same lines, each ended by a line feed. -/
def normalizeNewlines : List Char → List Char
  | [] => []
  | '\r' :: '\n' :: cs => '\n' :: normalizeNewlines cs
  | '\r' :: cs => '\n' :: normalizeNewlines cs
  | c :: cs => c :: normalizeNewlines cs

/-- No carriage return is left. -/
theorem not_mem_normalizeNewlines (cs : List Char) : '\r' ∉ normalizeNewlines cs := by
  fun_induction normalizeNewlines cs with
  | case1 => simp
  | case2 cs ih => simp [ih]
  | case3 cs _ ih => simp [ih]
  | case4 c cs _ h ih => simp [ih]; exact fun e => h e.symm

end CommandCompiler.Text
