import Schemata.Record.Grammar.TypeRule
import Schemata.Record.Grammar.StatementRule

/-!
# Reading types

The rules of all forms together. Forms nest, and each takes a token before it comes back to itself, so
that their nesting is bounded by the number of tokens.
-/

namespace Schemata.Record

/-- The rule of a form. -/
def rule (sub : Forms) : Form → Reader
  | .type sums => typeRule sub sums
  | .bounds sums => boundsRule sub sums
  | .pattern bars => patternRule sub bars
  | .expression braces => expressionRule sub braces
  | .operand braces => operandRule sub braces
  | .blocklike => blocklikeRule sub
  | .member => memberRule sub
  | .statements => statementsRule sub

/-- Reads forms that nest less than `depth` times. -/
def readForm : Nat → Forms
  | 0, _ => ⟨fun _ => none⟩
  | depth + 1, form => ⟨fun ts => (rule (readForm depth) form).run ts⟩

/-- The number of forms that can be open without a token between them. -/
def openForms : Nat := 8

/-- The form at the front of some tokens, as it is written, and the tokens behind it. -/
def readWhole (form : Form) (ts : List Token) : Option (List Token × List Token) :=
  (readForm (openForms * (ts.length + 1)) form).run ts

def readType : List Token → Option (List Token × List Token) :=
  readWhole (.type true)

def readExpression : List Token → Option (List Token × List Token) :=
  readWhole (.expression true)

end Schemata.Record
