import Offside.Scheme.Demand
import Offside.Target

/-!
# What is still to come

A program is recognised and compiled in one pass. What is still to come is a sequence of symbols,
in the order in which they will be dealt with: tokens that have to follow, names that have to be
declared, phrases that have yet to be told apart by the token at hand, and between them what is to
be written for them. A production of the grammar thus says in one place which tokens it consists of,
which code stands for them, and in which order tokens are taken and code is written. The order shows
when a run ends with an error and the code written so far is looked at.
-/

namespace Offside

/-- The phrases of the language. Repetitions are phrases of their own, named for what they add to
the phrase before them. -/
inductive Phrase where
  /-- Line ends, as many as there are. -/
  | blankLines
  /-- Statements up to the end of the input. -/
  | statements
  | statement
  | block (block : Block)
  /-- The statements of a block, none of which has been seen yet. -/
  | blockBody (block : Block)
  /-- Further statements of a block. -/
  | moreStatements (block : Block)
  /-- What is to be printed. -/
  | printed
  | elseBranch
  | parameters
  | moreParameters
  | condition
  | moreConjunctions
  | conjunction
  | moreConjuncts
  | conjunct
  | comparison
  /-- The operator and the right side of a comparison. -/
  | rightSide
  | moreRightSides
  | expression
  | moreTerms
  | term
  | moreFactors
  | factor
  | primary
  | call
  | arguments
  | moreArguments
deriving Repr, DecidableEq

/-- What is still to come. -/
inductive Symbol where
  /-- A token that is asked for. -/
  | expect (terminal : Terminal)
  /-- An identifier that is declared and written. -/
  | declare (role : Role)
  | phrase (phrase : Phrase)
  | write (fragment : Fragment)
  | writeLine (fragment : Fragment)
  /-- A text to write that is the same in all target languages. -/
  | writeText (text : String)
  /-- The end of the line that is being written. -/
  | endLine
  | indent
  | dedent
  /-- From here on, whether statements belong to a function. -/
  | setInFunction (inFunction : Bool)
  /-- The end of a statement but for its line end. -/
  | countStatement
  /-- Tell that a block begins. -/
  | noteBlock
  /-- Tell that a variable is called. -/
  | noteVariableCall (name : String)
deriving Repr, DecidableEq

/-- How to go on with a phrase. -/
inductive Prediction where
  /-- The phrase consists of these symbols. -/
  | derive (symbols : List Symbol)
  /-- The phrase consists of the token at hand and these symbols. -/
  | take (symbols : List Symbol)
  /-- The same, and the token is written before it is taken. -/
  | copy (symbols : List Symbol)
  /-- There is no such phrase that begins with the token at hand. -/
  | refuse (fault : GrammarFault)
deriving Repr, DecidableEq

/-- The prediction for a phrase that is followed by further symbols. -/
def Prediction.followedBy (prediction : Prediction) (more : List Symbol) : Prediction :=
  match prediction with
  | .derive symbols => .derive (symbols ++ more)
  | .take symbols => .take (symbols ++ more)
  | .copy symbols => .copy (symbols ++ more)
  | .refuse fault => .refuse fault

end Offside
