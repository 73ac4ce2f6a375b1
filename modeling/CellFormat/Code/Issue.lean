import CellFormat.Code.Scan
import CellFormat.Code.Tag

/-!
Advice about a format code: faults, unknown tags, concatenation and arithmetic. Nothing is refused, and
what scans is still looked at when the rest does not.
-/

namespace CellFormat

inductive IssueKind
  | unknownTag (content : String)
  | concatenation
  | arithmetic
  | malformed (error : ScanError)
  deriving DecidableEq, Repr

def IssueKind.message : IssueKind → String
  | unknownTag content =>
    "Invalid tag \"[" ++ content ++ "]\". Only standard 8 colors (e.g. [Red]) or time units (e.g. [h]) are allowed."
  | concatenation => "Character \"&\" detected. Custom formats cannot perform concatenation."
  | arithmetic => "Calculations (like *24) are not supported in Custom Formats."
  | malformed error => "Malformed format code: " ++ error.message

structure Issue where
  kind : IssueKind
  span : Span
  deriving DecidableEq, Repr

def Issue.message (issue : Issue) : String := issue.kind.message

def unknownTag? (located : LocatedToken) : Option Issue :=
  match located.token with
  | .bracket content =>
    if (Tag.ofContent content).isKnown then none else some ⟨.unknownTag content, located.span⟩
  | _ => none

/-- The first ampersand that stands for itself. -/
def concatenation? (tokens : List LocatedToken) : Option Issue :=
  (tokens.find? fun located => located.token = .literal '&').map fun located =>
    ⟨.concatenation, located.span⟩

/-- The first digit followed by a multiplication by twenty-four, all standing for themselves. -/
def arithmetic? : List LocatedToken → Option Issue
  | first :: rest =>
    match first.token, rest with
    | .literal digit, ⟨.literal '*', _⟩ :: ⟨.literal '2', _⟩ :: ⟨.literal '4', last⟩ :: _ =>
      if digit.isDigit then some ⟨.arithmetic, ⟨first.span.start, last.stop⟩⟩ else arithmetic? rest
    | _, _ => arithmetic? rest
  | [] => none

/-- Every issue of a code: faults, unknown tags, then at most one of each other kind. A fault is taken
to spoil the code up to its end. -/
def validate (code : String) : List Issue :=
  let (tokens, errors) := recover code
  errors.map (fun error => ⟨.malformed error, ⟨error.position, code.utf8ByteSize⟩⟩) ++
    tokens.filterMap unknownTag? ++ (concatenation? tokens).toList ++ (arithmetic? tokens).toList

end CellFormat
