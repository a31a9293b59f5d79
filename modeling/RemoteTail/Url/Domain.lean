import RemoteTail.Url.Domain.Label

/-!
# Domain names

A domain name is looked up in ASCII.  It is prepared, so that names that should
count as the same become the same, and each of its labels that is not ASCII is
written as one that is.
-/

namespace RemoteTail.Domain

/-- Whether labels may stand together in a name: if one of them runs from right to left, each of
them has to run one way. -/
def fit (labels : List Label) : Bool :=
  !labels.any Label.runsLeftward || labels.all Label.runsOneWay

/-- The name in ASCII by which a domain name is looked up, if it is valid.  Its labels may be empty
and of any length. -/
def ascii? (name : List Char) : Option (List Char) := do
  let prepared ← prepare? name
  let labels ← (Separated.parts '.' prepared).mapM Label.ofText?
  if labels.all Label.isValid && fit labels then
    some (Separated.join '.' (labels.map Label.ascii))
  else none

end RemoteTail.Domain
