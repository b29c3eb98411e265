import Offside.Draft
import Offside.Proofs.Grammar.Tree
import Offside.Target

/-!
# What a tree does to a draft

Code is written while a program is recognised, piece by piece and in the order
of its words, and the depth of the margin is changed in between. `Tree.draw`
says that for whole trees: it is what a run writes for a tree, in the order in
which the run writes it, and nothing else of the run is left in it.
-/

namespace Offside.Tree

/-- The draft after the code for a tree has been written. -/
def draw (target : Target) : {category : Category} → Tree category → Draft → Draft
  | _, .program _ statements, draft => statements.draw target draft
  | _, .blankLines _, draft => draft
  | _, .noStatement, draft => draft
  | _, .nextStatement first others, draft => others.draw target (first.draw target draft)
  | _, .statement command _, draft => command.draw target draft
  | _, .body .noStatement, draft => draft.writeLine (target.spelling .emptyBody)
  | _, .body (.nextStatement first others), draft =>
    others.draw target (first.draw target draft)
  | _, .print printed, draft =>
    (printed.draw target (draft.write (target.spelling .printOpen))).writeLine
      (target.spelling .printClose)
  | _, .branch test _ consequent alternative, draft =>
    (alternative.draw target (consequent.draw target
      ((test.draw target (draft.write (target.spelling .ifOpen))).writeLine
        (target.spelling .blockOpen)).indent)).dedent
  | _, .loop test _ inner, draft =>
    (inner.draw target ((test.draw target (draft.write (target.spelling .whileOpen))).writeLine
      (target.spelling .blockOpen)).indent).dedent
  | _, .function name names _ inner, draft =>
    (inner.draw target (((names.draw target
      (((draft.write (target.spelling .functionOpen)).write name).write "(")).write ")").writeLine
        (target.spelling .blockOpen)).indent).dedent
  | _, .assign name value, draft =>
    (value.draw target ((draft.write name).write (target.spelling .assign))).writeLine ""
  | _, .input name, draft =>
    ((draft.write name).write (target.spelling .assign)).writeLine (target.spelling .readNumber)
  | _, .giveBack value, draft =>
    (value.draw target (draft.write (target.spelling .returnOpen))).writeLine ""
  | _, .literal text, draft => draft.write (target.quote text)
  | _, .printedValue value, draft => value.draw target draft
  | _, .noElse, draft => draft
  | _, .otherwise _ inner, draft =>
    inner.draw target (draft.dedent.writeLine (target.spelling .elseLine)).indent
  | _, .noParameters, draft => draft
  | _, .parameters first others, draft => others.draw target (draft.write first)
  | _, .lastParameter, draft => draft
  | _, .nextParameter name others, draft => others.draw target ((draft.write ", ").write name)
  | _, .condition first others, draft => others.draw target (first.draw target draft)
  | _, .lastConjunction, draft => draft
  | _, .nextConjunction next others, draft =>
    others.draw target (next.draw target (draft.write (target.spelling .or)))
  | _, .conjunction first others, draft => others.draw target (first.draw target draft)
  | _, .lastConjunct, draft => draft
  | _, .nextConjunct next others, draft =>
    others.draw target (next.draw target (draft.write (target.spelling .and)))
  | _, .not negated, draft => negated.draw target (draft.write (target.spelling .not))
  | _, .group test, draft => (test.draw target (draft.write "(")).write ")"
  | _, .compared relation, draft => relation.draw target draft
  | _, .comparison left right, draft => right.draw target (left.draw target draft)
  | _, .rightSide operator _ right others, draft =>
    others.draw target (right.draw target (draft.write operator.spelling))
  | _, .lastRightSide, draft => draft
  | _, .nextRightSide next, draft => next.draw target draft
  | _, .expression first others, draft => others.draw target (first.draw target draft)
  | _, .lastTerm, draft => draft
  | _, .nextTerm sign _ next others, draft =>
    others.draw target (next.draw target (draft.write sign.spelling))
  | _, .term first others, draft => others.draw target (first.draw target draft)
  | _, .lastFactor, draft => draft
  | _, .nextFactor operator _ next others, draft =>
    others.draw target (next.draw target (draft.write operator.spelling))
  | _, .plain operand, draft => operand.draw target draft
  | _, .signed sign _ operand, draft => operand.draw target (draft.write sign.spelling)
  | _, .number text, draft => draft.write text
  | _, .read name, draft => draft.write name
  | _, .called application, draft => application.draw target draft
  | _, .call name values, draft =>
    (values.draw target ((draft.write name).write "(")).write ")"
  | _, .noArguments, draft => draft
  | _, .arguments first others, draft => others.draw target (first.draw target draft)
  | _, .lastArgument, draft => draft
  | _, .nextArgument next others, draft =>
    others.draw target (next.draw target (draft.write ", "))

end Offside.Tree
