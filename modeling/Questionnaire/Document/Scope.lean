import Questionnaire.Document.Slug
import Questionnaire.Entries

/-! Scopes: the names, different for every slide of a document, that the ids of its fields start
with. A slide takes the slug of its title; where that is taken, a number from 2 on is appended. For
every slug the last number given out is remembered, and the search goes on behind it. -/

namespace Questionnaire

def numberedSlug (slug : String) (n : Nat) : String := slug ++ "-" ++ toString n

structure Scopes where
  used : List String := []
  /-- The last number given out for a slug. -/
  lastNumbers : Entries String Nat := []
deriving DecidableEq, Repr

namespace Scopes

/-- The first number from `n` on whose name is free, after at most `tries` names that are not. Of
`used.length + 1` names one is free. -/
def seekNumber (used : List String) (slug : String) : (tries n : Nat) → Nat
  | 0, n => n
  | tries + 1, n =>
    if used.contains (numberedSlug slug n) then seekNumber used slug tries (n + 1) else n

def allot (scopes : Scopes) (title : String) : String × Scopes :=
  let slug := slugify title
  if scopes.used.contains slug then
    let last := (scopes.lastNumbers.lookup slug).getD 1
    let n := seekNumber scopes.used slug scopes.used.length (last + 1)
    let scope := numberedSlug slug n
    (scope, ⟨scope :: scopes.used, scopes.lastNumbers.put slug n⟩)
  else (slug, { scopes with used := slug :: scopes.used })

end Scopes
end Questionnaire
