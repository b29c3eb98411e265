/-!
# Gaps between tokens

Spaces, tabs and carriage returns may stand between two tokens, and so may comments, which begin
with `#` and reach to the end of their line. The `\n` that ends the line is a token of its own and
belongs to no gap.
-/

namespace Offside.Gap

/-- A character that may stand between two tokens outside of comments. -/
def isBlank (c : Char) : Bool := c == ' ' || c == '\t' || c == '\r'

/-- The longest gap at the front of a text, and what follows it. The flag tells whether the text
begins inside a comment. -/
def splitFrom (inComment : Bool) : List Char → List Char × List Char
  | [] => ([], [])
  | c :: text =>
    if c = '\n' then ([], c :: text)
    else if inComment || isBlank c || c = '#' then
      let (gap, rest) := splitFrom (inComment || c = '#') text
      (c :: gap, rest)
    else ([], c :: text)

/-- The longest gap at the front of a text, and what follows it. -/
def split (text : List Char) : List Char × List Char := splitFrom false text

theorem splitFrom_append (inComment : Bool) (text : List Char) :
    (splitFrom inComment text).1 ++ (splitFrom inComment text).2 = text := by
  fun_induction splitFrom inComment text <;> simp_all

/-- A gap is cut off and nothing is lost. -/
theorem split_append (text : List Char) : (split text).1 ++ (split text).2 = text :=
  splitFrom_append false text

end Offside.Gap
