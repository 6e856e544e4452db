import MailRouting.Proofs.Address.Lowered
import MailRouting.Proofs.LocalDelivery.BareName

/-!
# User names with a domain

A user name with an `@` is lowered as a text and read as a mailbox after that, while a mailbox that
is asked for is read as it stands and lowered where it is looked up. Both come to the same.

* `Directory.isLocalUser_of_parse_ok`, `Directory.isLocalUser_of_parse_error` — what a user name of
  ASCII with an `@` is answered that names a mailbox, and one that names none;
* `Site.fullName_answered_as_mailbox` — it is answered like the mailbox that it names, and with no
  if it names none.
-/

namespace MailRouting

open LocalDelivery (isLocalEmail isLocalUser)
open Text (asciiLower)

namespace Directory

variable {v : Directory} {user : String} {a : Address}

/-- A user name of ASCII with an `@` is answered like the folded form of the mailbox that it
names. -/
theorem isLocalUser_of_parse_ok (hascii : ∀ c ∈ user.toList, c.toNat < 128)
    (hat : '@' ∈ user.toList) (hparse : Address.parse user = .ok a) :
    v.isLocalUser user = v.isLocalEmail a.folded := by
  have hlowered : Address.parse (String.ofList (asciiLower user.toList)) = .ok a.folded :=
    Address.parse_asciiLower_iff.2 ⟨a, hparse, rfl⟩
  rw [isLocalUser_of_at hat, Text.lowercase_of_ascii hascii, hlowered]

/-- It is answered with no if it names none. -/
theorem isLocalUser_of_parse_error {e : AddressError}
    (hascii : ∀ c ∈ user.toList, c.toNat < 128) (hat : '@' ∈ user.toList)
    (hparse : Address.parse user = .error e) : v.isLocalUser user = .ok false := by
  rw [isLocalUser_of_at hat, Text.lowercase_of_ascii hascii]
  split
  · rename_i b hb
    obtain ⟨a, ha, _⟩ := Address.parse_asciiLower_iff.1 hb
    rw [hparse] at ha
    cases ha
  · rfl

end Directory

namespace Site

/-- **User names with a domain.** At every site, a user name of ASCII with an `@` is answered like
the mailbox that it names, whether it stands alone, in brackets, behind a source route or between
blanks, and with no if it names none. For reading and lowering go together: in lower case every text
is read as the folded form of the mailbox that it names, and names none if it names none. -/
theorem fullName_answered_as_mailbox (s : Site) {user : String}
    (hascii : ∀ c ∈ user.toList, c.toNat < 128) (hat : '@' ∈ user.toList) :
    (∀ e, Address.parse user = .error e →
      (s.perform (isLocalUser (some user)).run).1 = .ok false) ∧
    (∀ a, Address.parse user = .ok a →
      SameAnswer (s.perform (isLocalUser (some user)).run).1
        (s.perform (isLocalEmail (some a)).run).1) ∧
    ∀ (input : String) (b : Address),
      Address.parse (String.ofList (asciiLower input.toList)) = .ok b ↔
        ∃ a, Address.parse input = .ok a ∧ b = a.folded := by
  have hanswer : (s.perform (isLocalUser (some user)).run).1 = s.directory.isLocalUser user :=
    (s.answers_isLocalUser (ne_empty_of_mem hat)).result_eq
  refine ⟨?_, ?_, fun input b => Address.parse_asciiLower_iff⟩
  · intro e hparse
    rw [hanswer, Directory.isLocalUser_of_parse_error hascii hat hparse]
  · intro a hparse
    rw [hanswer, (s.answers_isLocalEmail a).result_eq,
      Directory.isLocalUser_of_parse_ok hascii hat hparse]
    exact s.directory.isLocalEmail_alike a.folded_eqUpToCase

/-- A mailbox in an address literal. -/
def literalErin : Address :=
  ⟨"erin", ⟨"[ipv6:2001:db8::1]", by rfl, by rfl⟩, by rfl⟩

/-- The mailbox is found behind a source route and under other capitals, where nothing else is. -/
theorem fullName_answered_as_mailbox_literalErin :
    (∀ c ∈ " <@Relay:ERIN@[IPv6:2001:DB8::1]>\t".toList, c.toNat < 128) ∧
      '@' ∈ " <@Relay:ERIN@[IPv6:2001:DB8::1]>\t".toList ∧
      Address.parse " <@Relay:ERIN@[IPv6:2001:DB8::1]>\t" =
        .ok ⟨"ERIN", literalErin.domain, by rfl⟩ ∧
      SameAnswer
        ((homeOf .localhost literalErin).perform
          (isLocalUser (some " <@Relay:ERIN@[IPv6:2001:DB8::1]>\t")).run).1
        ((homeOf .localhost literalErin).perform
          (isLocalEmail (some ⟨"ERIN", literalErin.domain, by rfl⟩)).run).1 ∧
      Address.parse "\"ERIN@[IPv6:2001:DB8::1]" = .error .missingAtSign ∧
      ((homeOf .localhost literalErin).perform
        (isLocalUser (some "\"ERIN@[IPv6:2001:DB8::1]")).run).1 = .ok false := by
  have hascii : ∀ c ∈ " <@Relay:ERIN@[IPv6:2001:DB8::1]>\t".toList, c.toNat < 128 :=
    Text.ascii_of_all (by decide)
  have hascii' : ∀ c ∈ "\"ERIN@[IPv6:2001:DB8::1]".toList, c.toNat < 128 :=
    Text.ascii_of_all (by decide)
  have hat : '@' ∈ " <@Relay:ERIN@[IPv6:2001:DB8::1]>\t".toList := by decide
  have hat' : '@' ∈ "\"ERIN@[IPv6:2001:DB8::1]".toList := by decide
  have hparse : Address.parse " <@Relay:ERIN@[IPv6:2001:DB8::1]>\t" =
      .ok ⟨"ERIN", literalErin.domain, by rfl⟩ := by rfl
  have hparse' : Address.parse "\"ERIN@[IPv6:2001:DB8::1]" = .error .missingAtSign := by rfl
  obtain ⟨_, hsame, _⟩ := (homeOf .localhost literalErin).fullName_answered_as_mailbox hascii hat
  obtain ⟨hnone, _⟩ := (homeOf .localhost literalErin).fullName_answered_as_mailbox hascii' hat'
  exact ⟨hascii, hat, hparse, hsame _ hparse, hparse', hnone _ hparse'⟩

-- both questions find the user
example :
    ((homeOf .localhost literalErin).perform
        (isLocalUser (some " <@Relay:ERIN@[IPv6:2001:DB8::1]>\t")).run).1 = .ok true :=
  rfl

end Site

end MailRouting
