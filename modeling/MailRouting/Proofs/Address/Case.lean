import MailRouting.Proofs.Address.Grammar
import MailRouting.Proofs.Mapping.Hops
import MailRouting.Proofs.Text.Lowercase
import MailRouting.Users

/-!
# The case of local parts

* `Address.EqUpToCase` — two mailboxes of one domain whose local parts differ in case at most;
* `Address.folded_eq` — the local part in lower case is a local part, so that the folded form never
  falls back to the mailbox as it is written;
* `Address.folded_eq_folded_iff` — two mailboxes have one folded form exactly if they are equal up
  to case;
* `Users.principalFor_congr` — such mailboxes have the same principal, whatever users are.
-/

namespace MailRouting

namespace Address

variable {a b : Address}

/-- The same domain, and local parts that differ in the case of letters at most. -/
def EqUpToCase (a b : Address) : Prop :=
  a.domain = b.domain ∧ Text.equalIgnoringCase a.localPart.toList b.localPart.toList = true

/-! ### The folded form -/

theorem toList_lowered (a : Address) : a.lowered.toList = Text.asciiLower a.localPart.toList := by
  rw [lowered, String.toList_ofList,
    Text.lowercase_of_ascii (LocalPart.forall_mem_ascii a.valid)]

theorem at_mem_lowered_iff (a : Address) : '@' ∈ a.lowered.toList ↔ '@' ∈ a.localPart.toList := by
  rw [lowered, String.toList_ofList, Text.at_mem_lowercase_iff]

/-- The local part in lower case is a local part. -/
theorem check_lowered (a : Address) : LocalPart.check a.lowered.toList = .ok () := by
  rw [toList_lowered]
  exact LocalPart.check_asciiLower_iff.2 a.valid

/-- The folded form has the local part in lower case. -/
theorem folded_eq (a : Address) : a.folded = ⟨a.lowered, a.domain, a.check_lowered⟩ :=
  folded_of_check a.check_lowered

/-- One folded form is that of all mailboxes that are equal up to case, and of no others. -/
theorem folded_eq_folded_iff : a.folded = b.folded ↔ a.EqUpToCase b := by
  rw [folded_eq, folded_eq, mk.injEq, ← String.toList_inj, toList_lowered, toList_lowered,
    EqUpToCase, Text.equalIgnoringCase, beq_iff_eq, and_comm]

theorem folded_eqUpToCase (a : Address) : a.folded.EqUpToCase a := by
  refine ⟨a.domain_folded, ?_⟩
  rw [folded_eq, Text.equalIgnoringCase, beq_iff_eq]
  show Text.asciiLower a.lowered.toList = _
  rw [toList_lowered, Text.asciiLower_asciiLower]

/-! ### The written form -/

theorem toList_text (a : Address) :
    a.text.toList = a.localPart.toList ++ '@' :: a.domain.text.toList := by
  rw [text, String.toList_append, String.toList_append, List.append_assoc]
  rfl

theorem at_mem_text (a : Address) : '@' ∈ a.text.toList := by
  rw [toList_text]
  exact List.mem_append_right _ List.mem_cons_self

/-- In lower case, a mailbox is written with its local part in lower case. -/
theorem lowercase_toList_text (a : Address) :
    Text.lowercase a.text.toList =
      a.lowered.toList ++ '@' :: Text.lowercase a.domain.text.toList := by
  rw [toList_text, Text.lowercase_append_at, toList_lowered,
    Text.lowercase_of_ascii (LocalPart.forall_mem_ascii a.valid)]

end Address

/-! ### Principals -/

/-- Mailboxes that are equal up to case have the same principal. -/
theorem Users.principalFor_congr (u : Users) {a b : Address} (h : a.EqUpToCase b) :
    u.principalFor a = u.principalFor b ∧ Principal.ofAddress a = Principal.ofAddress b := by
  have hlowered : a.lowered = b.lowered := by
    rw [← String.toList_inj, Address.toList_lowered, Address.toList_lowered]
    exact beq_iff_eq.1 h.2
  have haddress : Principal.ofAddress a = Principal.ofAddress b := by
    rw [Principal.ofAddress, Principal.ofAddress, Principal.ofName, Principal.ofName,
      Address.lowercase_toList_text, Address.lowercase_toList_text, hlowered, h.1]
  have hlocal : Principal.ofLocalPart a = Principal.ofLocalPart b :=
    congrArg Principal.mk hlowered
  rw [principalFor, principalFor, haddress, hlocal]
  exact ⟨rfl, rfl⟩

end MailRouting
