import MailRouting.Address
import MailRouting.Text.Lowercase

/-!
# Local users

* `Principal` — the name that a user is known by: a whole mailbox where every domain has users of
  its own (virtual hosting), a bare local part where all domains share their users;
* `Users` — the known users, with `Users.add`, `Users.remove` and `Users.principalFor`.
-/

namespace MailRouting

/-- The name that a user is known by. -/
structure Principal where
  text : String
  deriving DecidableEq, Repr

namespace Principal

/-- The principal of a name: the name in lower case. -/
def ofName (name : String) : Principal :=
  ⟨String.ofList (Text.lowercase name.toList)⟩

/-- The principal of a mailbox where every domain has users of its own. -/
def ofAddress (a : Address) : Principal :=
  ofName a.text

/-- The principal of a mailbox where all domains share their users. -/
def ofLocalPart (a : Address) : Principal :=
  ofName a.localPart

end Principal

/-- Why a name is not a user name. -/
inductive UsernameFault where
  /-- It is no mailbox, where users are mailboxes. -/
  | notAddress (cause : AddressError)
  /-- It has a domain, where users are local parts. -/
  | hasDomain
  | blank
  deriving DecidableEq, Repr

/-- The fault in words. -/
def UsernameFault.message : UsernameFault → String
  | .notAddress cause => cause.message
  | .hasDomain => "domain part given without virtual hosting"
  | .blank => "empty username"

/-- Why the users give no answer or refuse a change. -/
inductive UsersError where
  /-- The users cannot be read. -/
  | lookup (reason : String)
  | alreadyExists (principal : Principal)
  | notFound (principal : Principal)
  | invalidUsername (name : String) (fault : UsernameFault)
  deriving DecidableEq, Repr

/-- The error in words. -/
def UsersError.message : UsersError → String
  | .lookup reason => "Users repository lookup failed: " ++ reason
  | .alreadyExists principal => "User already exists: " ++ principal.text
  | .notFound principal => "User not found: " ++ principal.text
  | .invalidUsername name fault => s!"Invalid username {name}: {fault.message}"

/-- The known users, each once. -/
structure Users where
  virtualHosting : Bool := true
  principals : List Principal := []
  deriving DecidableEq, Repr

namespace Users

/-- Whether the principal is a known user. -/
def contains (u : Users) (p : Principal) : Bool :=
  p ∈ u.principals

/-- The principal of a mailbox. -/
def principalFor (u : Users) (a : Address) : Principal :=
  if u.virtualHosting then .ofAddress a else .ofLocalPart a

/-- The principal that a user name stands for. -/
def principalOfName (u : Users) (name : String) : Except UsersError Principal :=
  if u.virtualHosting then
    match Address.parse name with
    | .ok a => .ok (.ofAddress a)
    | .error e => .error (.invalidUsername name (.notAddress e))
  else if '@' ∈ name.toList then .error (.invalidUsername name .hasDomain)
  else
    let trimmed := Text.trim name.toList
    if trimmed.isEmpty then .error (.invalidUsername name .blank)
    else .ok (.ofName (String.ofList trimmed))

/-- Adds a user. -/
def add (u : Users) (name : String) : Except UsersError Users := do
  let p ← u.principalOfName name
  if u.contains p then .error (.alreadyExists p)
  else .ok { u with principals := u.principals ++ [p] }

/-- Removes a user. -/
def remove (u : Users) (name : String) : Except UsersError Users := do
  let p ← u.principalOfName name
  if u.contains p then .ok { u with principals := u.principals.erase p }
  else .error (.notFound p)

/-- How many users are known. -/
def size (u : Users) : Nat :=
  u.principals.length

end Users

end MailRouting
