import DocChain.FieldPath
import DocChain.Wire

/-!
# Clauses

A clause is one entry of a query or an update. In a query its key is a field or a connective, in
an update it is the wire operator, over a document from the field to the operand.
-/

namespace DocChain

structure Clause where
  key : String
  value : Wire

namespace Clause

/-- An operand for a field under an update operator. -/
def update (operator : String) (path : FieldPath) (operand : Wire) : Clause :=
  ⟨operator, .single path.dotted operand⟩

theorem update_inj {operator : String} {path : FieldPath} {operand operand' : Wire} :
    update operator path operand = update operator path operand' ↔ operand = operand' := by
  simp [update, Wire.single]

def document (c : Clause) : Document :=
  [(c.key, c.value)]

/-- What the clause adds to the operands of a connective: its own operands if it is of that
connective, and otherwise itself. -/
def operands (key : String) (c : Clause) : List Wire :=
  match c.value with
  | .array nested => if c.key = key then nested else [.object c.document]
  | _ => [.object c.document]

end Clause

end DocChain
