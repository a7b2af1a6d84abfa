import TableCopy.Text.Blank

/-!
# Service endpoints

An endpoint is a URL or a bare host; a bare host is reached over https. The
region is read off hosts of the form `dynamodb.<region>.amazonaws…`. A region can
be used if it can stand in the name of a host.
-/

namespace TableCopy
namespace Endpoint

/-- Split a text at the first `://`; both sides exclude the mark. -/
def splitScheme : List Char → Option (List Char × List Char)
  | [] => none
  | ':' :: '/' :: '/' :: rest => some ([], rest)
  | c :: rest => (splitScheme rest).map fun (scheme, tail) => (c :: scheme, tail)

/-- The endpoint without blanks around it, with a scheme. -/
def normalize (endpoint : String) : String :=
  let trimmed := Text.trim endpoint
  match splitScheme trimmed.toList with
  | some _ => trimmed
  | none => "https://" ++ trimmed

/-- The host of an endpoint: what follows the scheme, up to a slash or a colon. -/
def host (endpoint : List Char) : List Char :=
  (((splitScheme endpoint).map Prod.snd).getD endpoint).takeWhile fun c => c != '/' && c != ':'

/-- The labels of a host, which dots separate. -/
def labels : List Char → List (List Char)
  | [] => [[]]
  | c :: rest =>
    if c = '.' then [] :: labels rest
    else
      match labels rest with
      | [] => [[c]]
      | label :: more => (c :: label) :: more

/-- The region named by an endpoint. -/
def region? (endpoint : String) : Option String :=
  match labels (host endpoint.toList) with
  | service :: region :: provider :: _ =>
    if service = "dynamodb".toList ∧ provider = "amazonaws".toList then
      some (String.ofList region)
    else none
  | _ => none

/-- Whether a label may stand in the name of a host: it consists of one to 63
letters, digits and hyphens, and starts with no hyphen. -/
def isLabel (label : List Char) : Bool :=
  !label.isEmpty && label.length ≤ 63 && label.head? != some '-' &&
    label.all fun c => c.isAlphanum || c = '-'

/-- Whether a region may stand in the name of a host. -/
def isRegion (region : String) : Bool := (labels region.toList).all isLabel

theorem labels_ne_nil (text : List Char) : labels text ≠ [] := by
  cases text with
  | nil => simp [labels]
  | cons c rest =>
    unfold labels
    split
    · simp
    · split <;> simp

end Endpoint
end TableCopy
