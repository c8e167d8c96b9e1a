import GameEffects.Yaml.Draft
import GameEffects.Yaml.Evaluation

/-!
# Reading documents

The document in the bytes of a file: its tokens make nodes, and what the nodes stand for makes the
document.
-/

namespace GameEffects.Yaml

/-- The read fault of a text that is no document. -/
def TextFault.readFault : TextFault → ReadFault
  | .malformed cause => .malformed cause.message
  | .bytes fault => .stopped "UnicodeDecodeError".toList fault.message
  | .codePoint n =>
    .stopped (if isShort n then "ValueError" else "OverflowError").toList (codePointMessage n)
  | .digits count => .stopped "ValueError".toList (digitsMessage count)

/-- What the fault of a value is called. -/
def ValueFault.sort : ValueFault → String
  | .integer .. | .integerLength _ | .real _ => "ValueError"
  | .bool _ => "KeyError"
  | .noNumber => "IndexError"
  | .outOfRange => "OverflowError"
  | .timestamp .form => "AttributeError"
  | .timestamp .noText => "TypeError"
  | .timestamp _ => "ValueError"

/-- The read fault of a document without a value. -/
def DocumentFault.readFault : DocumentFault → ReadFault
  | .text fault => fault.readFault
  | .value fault => .stopped fault.sort.toList fault.message
  | .endless => .stopped "RecursionError".toList "maximum recursion depth exceeded".toList

namespace Document

/-- The document of a node among others. -/
def ofGraph (graph : Graph) (id : NodeId) : Except DocumentFault Document := do
  let e ← Evaluation.ofNode graph id
  return ⟨e.items, id⟩

/-- The document in a source. A source without a document has the null document. -/
def ofSource (source : Source) : Except DocumentFault Document :=
  match Graph.ofTokens? (Token.ofSource source) with
  | .error fault => .error (.text fault)
  | .ok none => .ok ⟨#[], 0⟩
  | .ok (some (graph, id)) => ofGraph graph id

end Document

/-- Finds the document in the bytes of a file. -/
def readDocument : Reader := fun bytes =>
  (Document.ofSource (.ofBytes bytes)).mapError DocumentFault.readFault

end GameEffects.Yaml
