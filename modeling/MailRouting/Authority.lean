import MailRouting.DomainList
import MailRouting.Mapping.Table
import MailRouting.Users

/-!
# The authorities behind local delivery

Three authorities are asked where mail belongs. When one of them gives no answer, the question is
open: that is an error of its own, never a no.

* `Authority` — the three;
* `ResolutionError` — the error of one of them, with `authority` naming it and `message` in words.
-/

namespace MailRouting

/-- The sources of answers about local delivery. -/
inductive Authority where
  | domains
  | users
  | mappings
  deriving DecidableEq, Repr

/-- The name of an authority. -/
def Authority.name : Authority → String
  | .domains => "domain list"
  | .users => "users repository"
  | .mappings => "rewrite table"

/-- An authority gave no answer. -/
inductive ResolutionError where
  | domains (cause : DomainListError)
  | users (cause : UsersError)
  | mappings (cause : MappingError)
  deriving DecidableEq, Repr

namespace ResolutionError

/-- The authority that gave no answer. -/
def authority : ResolutionError → Authority
  | .domains _ => .domains
  | .users _ => .users
  | .mappings _ => .mappings

/-- The error in words. -/
def message : ResolutionError → String
  | .domains cause => "Local resolution failed: " ++ cause.message
  | .users cause => "Local resolution failed: " ++ cause.message
  | .mappings cause => "Local resolution failed: " ++ cause.message

end ResolutionError

end MailRouting
