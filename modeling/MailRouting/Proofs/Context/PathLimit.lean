import MailRouting.Proofs.Address.Bare
import MailRouting.Proofs.Context.Envelope
import MailRouting.Proofs.Context.Spool
import MailRouting.Proofs.Mapping.Endpoints

/-!
# The length of mailboxes

Both parts of a mailbox keep to their limits, whoever puts them together. That the whole is no
longer than a path may be is looked at when a mailbox is read, and nowhere else: not when it is put
together from its parts, nor when a mapping or the default domain gives it another domain.

* `Address.FitsPath` — the mailbox is no longer than a path may be;
* `Address.fitsPath_iff`, `Domain.fitsPath_iff` — which mailboxes fit, and in which domains all do;
* `Address.ofValue_toValue` — only a mailbox that fits is read back from its value;
* `MappingTable.origin_of_not_fitsPath` — where what comes out of a resolution gets too long;
* `RoutingContext.postmaster_of_ends_create` — the postmaster that a context has;
* `Address.length_limits` — all of this, for every way in which a mailbox comes about;
* `Address.not_readable_longAddress` — mailboxes that are put together and not read back.
-/

namespace MailRouting

open Text.Utf8 (octetCount)

/-! ### The octets of a mailbox -/

theorem LocalPart.octetCount_le_of_check {s : List Char} (h : check s = .ok ()) :
    octetCount s ≤ 64 :=
  (check_eq_ok_iff.1 h).2.1

theorem DomainGrammar.octetCount_le_of_check {s : List Char} (h : check s = .ok ()) :
    octetCount s ≤ 255 := by
  unfold check at h
  split at h
  · cases h
  · rename_i hshort
    exact Nat.le_of_not_lt hshort

namespace Address

variable {a : Address}

/-- The mailbox is no longer than a path may be. -/
def FitsPath (a : Address) : Prop :=
  octetCount a.text.toList ≤ maxPathOctets

instance (a : Address) : Decidable a.FitsPath :=
  inferInstanceAs (Decidable (_ ≤ _))

theorem octetCount_text (a : Address) : octetCount a.text.toList =
    octetCount a.localPart.toList + 1 + octetCount a.domain.text.toList := by
  rw [toList_text, Text.octetCount_append, Nat.add_assoc]
  rfl

/-- A mailbox fits if the octets of its parts, and one for the sign between them, do. -/
theorem fitsPath_iff : a.FitsPath ↔
    octetCount a.localPart.toList + octetCount a.domain.text.toList ≤ 255 := by
  rw [FitsPath, octetCount_text, maxPathOctets]
  omega

/-- A mailbox is read back from its value if it fits. -/
theorem ofValue_toValue (a : Address) : ofValue a.toValue =
    if a.FitsPath then .ok a else .error (.invalidAddress .pathTooLong) := by
  by_cases h : a.FitsPath
  · rw [if_pos h, ofValue_toValue_of_short h]
  · show (parse a.text).mapError DecodeError.invalidAddress = _
    rw [if_neg h, parse_text, if_pos (Nat.lt_of_not_le h)]
    rfl

/-- A mailbox that was read from a value was read from a text. -/
theorem fitsPath_of_ofValue {v : Value} (h : ofValue v = .ok a) : a.FitsPath := by
  unfold ofValue at h
  cases htext : Value.asText v with
  | error e =>
    rw [htext] at h
    cases h
  | ok s =>
    rw [htext] at h
    exact octetCount_text_le_of_parse (mapError_eq_ok_iff.1 h)

end Address

theorem Address.fitsPath_withDomain_iff {a : Address} {d : Domain} : (a.withDomain d).FitsPath ↔
    octetCount a.localPart.toList + octetCount d.text.toList ≤ 255 :=
  fitsPath_iff

/-- There are local parts of the most octets. -/
theorem LocalPart.exists_longest :
    ∃ s : String, check s.toList = .ok () ∧ octetCount s.toList = 64 := by
  refine ⟨String.ofList (List.replicate 64 'a'), ?_, ?_⟩ <;> rw [String.toList_ofList]
  · decide +kernel
  · decide

/-- Every mailbox in a domain fits exactly if that has 191 octets at most, which leaves room for the
longest local parts. -/
theorem Domain.fitsPath_iff {d : Domain} :
    (∀ a : Address, (a.withDomain d).FitsPath) ↔ octetCount d.text.toList ≤ 191 := by
  constructor
  · intro h
    obtain ⟨s, hcheck, hlongest⟩ := LocalPart.exists_longest
    have hfits := Address.fitsPath_withDomain_iff.1 (h ⟨s, d, hcheck⟩)
    rw [hlongest] at hfits
    omega
  · intro h a
    have hlocal := LocalPart.octetCount_le_of_check a.valid
    rw [Address.fitsPath_withDomain_iff]
    omega

/-! ### Mailboxes that come out of a resolution -/

/-- A mailbox that comes out of a resolution is named by a mapping, or it is a mailbox that was
reached, moved into the domain that a mapping of it leads to. -/
theorem MappingTable.origin_of_resolveParts {t : MappingTable} {kinds : List MappingKind}
    {x u : Address} {ms : List Mapping} {m : Mapping}
    (h : t.resolveParts x.localPart x.domain kinds = .ok ms) (hm : m ∈ ms)
    (hu : m.address? = some u) :
    ∃ y, ∃ r ∈ t.stored y, r.address? = some u ∨ ∃ d, r = .domain d ∧ u = y.withDomain d := by
  rw [resolveParts_eq_resolveWithin] at h
  obtain ⟨_, y, _, r, hr, htarget⟩ := exists_target_of_named h hm hu
  refine ⟨y, r, (List.mem_filter.1 hr).1, ?_⟩
  cases r with
  | address target => exact .inl htarget
  | «alias» target => exact .inl htarget
  | domain d => exact .inr ⟨d, rfl, (Option.some.inj htarget).symm⟩
  | error message => cases htarget

/-- What comes out of a resolution and does not fit is named by a mapping, or lies in a domain that
a mapping leads to and that leaves no room for the longest local parts. -/
theorem MappingTable.origin_of_not_fitsPath {t : MappingTable} {kinds : List MappingKind}
    {x u : Address} {ms : List Mapping} {m : Mapping}
    (h : t.resolveParts x.localPart x.domain kinds = .ok ms) (hm : m ∈ ms)
    (hu : m.address? = some u) (hlong : ¬u.FitsPath) :
    ∃ y, ∃ r ∈ t.stored y, r.address? = some u ∨
      ∃ d, r = .domain d ∧ u = y.withDomain d ∧ 191 < octetCount d.text.toList := by
  obtain ⟨y, r, hr, hnamed | ⟨d, rfl, rfl⟩⟩ := origin_of_resolveParts h hm hu
  · exact ⟨y, r, hr, .inl hnamed⟩
  · refine ⟨y, _, hr, .inr ⟨d, rfl, rfl, Nat.lt_of_not_le fun hshort => hlong ?_⟩⟩
    exact Domain.fitsPath_iff.2 hshort y

/-! ### The postmaster of a context -/

namespace RoutingContext

open Routine (ends_run_bind_iff ends_map_iff ends_request_iff)

variable {config : ContextConfig} {xs : List Routine.Exchange} {p : Address}

/-- The default domain that work goes on with is the answer to the only question. -/
theorem ends_defaultDomain {d : Domain}
    (h : (ExceptT.adapt ContextError.resolution LocalDelivery.defaultDomain).run.Ends xs (.ok d)) :
    xs = [⟨.defaultDomain, .ok d⟩] := by
  obtain ⟨r, hasked, hr⟩ := ends_map_iff.1 h
  obtain rfl := mapError_eq_ok_iff.1 hr.symm
  obtain ⟨answer, hrequest, hanswer⟩ := ends_map_iff.1 hasked
  obtain rfl := mapError_eq_ok_iff.1 hanswer.symm
  exact ends_request_iff.1 hrequest

/-- A postmaster that is found was read from the settings, or lies in the default domain. -/
theorem postmaster_of_ends_findPostmaster
    (h : (findPostmaster config).run.Ends xs (.ok p)) :
    (∀ value, config.postmaster = some value → Address.parse value = .ok p) ∧
      (config.postmaster = none →
        p.localPart = "postmaster" ∧ ⟨.defaultDomain, .ok p.domain⟩ ∈ xs) := by
  unfold findPostmaster at h
  cases hconfig : config.postmaster with
  | some value =>
    rw [hconfig] at h
    obtain ⟨_, hparse⟩ := h
    refine ⟨fun value' hvalue => ?_, nofun⟩
    obtain rfl := Option.some.inj hvalue
    exact mapError_eq_ok_iff.1 hparse.symm
  | none =>
    rw [hconfig] at h
    refine ⟨nofun, fun _ => ?_⟩
    rcases ends_run_bind_iff.1 h with ⟨e, _, he⟩ | ⟨ys, d, zs, rfl, hasked, _, hp⟩
    · cases he
    · obtain rfl := ends_defaultDomain hasked
      obtain ⟨hlocal, rfl⟩ := Address.ofParts_eq_ok_iff.1 (mapError_eq_ok_iff.1 hp.symm)
      exact ⟨hlocal, List.mem_append_left _ List.mem_cons_self⟩

/-- The postmaster of a context is the one that was found when it was made. -/
theorem postmaster_of_ends_create {c : RoutingContext} (h : (create config).run.Ends xs (.ok c)) :
    (∀ value, config.postmaster = some value → Address.parse value = .ok c.postmaster) ∧
      (config.postmaster = none → c.postmaster.localPart = "postmaster" ∧
        ⟨.defaultDomain, .ok c.postmaster.domain⟩ ∈ xs) := by
  unfold create at h
  split at h
  · obtain ⟨_, hc⟩ := h
    cases hc
  · rcases ends_run_bind_iff.1 h with ⟨e, _, he⟩ | ⟨ys, p, zs, rfl, hfound, h⟩
    · cases he
    · rcases ends_run_bind_iff.1 h with ⟨e, _, he⟩ | ⟨ys', _, zs', rfl, _, h⟩
      · cases he
      · rcases ends_run_bind_iff.1 h with ⟨e, _, he⟩ | ⟨_, _, _, rfl, _, h⟩
        · cases he
        · obtain ⟨_, hc⟩ := h
          cases hc
          obtain ⟨hgiven, hdefault⟩ := postmaster_of_ends_findPostmaster hfound
          exact ⟨hgiven, fun hnone =>
            ⟨(hdefault hnone).1, List.mem_append_left _ (hdefault hnone).2⟩⟩

/-- The postmaster of a default domain fits if the domain has 245 octets at most. -/
theorem fitsPath_postmaster_iff (h : p.localPart = "postmaster") :
    p.FitsPath ↔ octetCount p.domain.text.toList ≤ 245 := by
  have hcount : octetCount "postmaster".toList = 10 := by decide
  rw [Address.fitsPath_iff, h, hcount]
  omega

end RoutingContext

/-! ### Every mailbox -/

open Address in
/-- **The length of mailboxes.** Every mailbox has a local part of 64 octets at most and a domain of
255 at most, and it is read back from its value exactly if it fits into a path, that is if both have
255 octets together at most; else its value is refused. What was read from a text or from a value
fits. What is put together from parts, or moved into another domain, fits in every case exactly if
the domain has 191 octets at most. So what comes out of a resolution and does not fit is named by a
mapping, or was moved into a longer domain by one. The postmaster of a context fits if it is given
in the settings; if not, exactly if the default domain has 245 octets at most. -/
theorem Address.length_limits (a : Address) (d : Domain) (t : MappingTable)
    (config : ContextConfig) :
    (octetCount a.localPart.toList ≤ 64 ∧ octetCount a.domain.text.toList ≤ 255 ∧
      (a.FitsPath ↔ octetCount a.localPart.toList + octetCount a.domain.text.toList ≤ 255) ∧
      (a.FitsPath ↔ ofValue a.toValue = .ok a) ∧
      (¬a.FitsPath → ofValue a.toValue = .error (.invalidAddress .pathTooLong))) ∧
    (∀ input, parse input = .ok a → a.FitsPath) ∧
    (∀ v, ofValue v = .ok a → a.FitsPath) ∧
    ((∀ localPart b, ofParts localPart d = .ok b → b.FitsPath) ↔ octetCount d.text.toList ≤ 191) ∧
    ((∀ b : Address, (b.withDomain d).FitsPath) ↔ octetCount d.text.toList ≤ 191) ∧
    (∀ (kinds : List MappingKind) (x : Address) (ms : List Mapping),
      t.resolveParts x.localPart x.domain kinds = .ok ms →
      ∀ m ∈ ms, ∀ u, m.address? = some u → ¬u.FitsPath →
        ∃ y, ∃ r ∈ t.stored y, r.address? = some u ∨
          ∃ e, r = .domain e ∧ u = y.withDomain e ∧ 191 < octetCount e.text.toList) ∧
    ∀ xs c, (RoutingContext.create config).run.Ends xs (.ok c) →
      (∀ value, config.postmaster = some value → c.postmaster.FitsPath) ∧
      (config.postmaster = none → ⟨.defaultDomain, .ok c.postmaster.domain⟩ ∈ xs ∧
        (c.postmaster.FitsPath ↔ octetCount c.postmaster.domain.text.toList ≤ 245)) := by
  refine ⟨⟨LocalPart.octetCount_le_of_check a.valid,
      DomainGrammar.octetCount_le_of_check a.domain.valid, fitsPath_iff, ?_, fun hlong => ?_⟩,
    fun _ => octetCount_text_le_of_parse, fun _ => fitsPath_of_ofValue, ?_, Domain.fitsPath_iff,
    fun _ _ _ h _ hm _ => MappingTable.origin_of_not_fitsPath h hm, fun xs c h => ?_⟩
  · rw [ofValue_toValue]
    split
    · next hfits => exact iff_of_true hfits rfl
    · next hlong => exact iff_of_false hlong nofun
  · rw [ofValue_toValue, if_neg hlong]
  · rw [← Domain.fitsPath_iff]
    constructor
    · intro h b
      exact h b.localPart _ (ofParts_localPart_domain (b.withDomain d))
    · intro h localPart b hb
      obtain ⟨-, rfl⟩ := ofParts_eq_ok_iff.1 hb
      exact h b
  · obtain ⟨hgiven, hdefault⟩ := RoutingContext.postmaster_of_ends_create h
    refine ⟨fun value hvalue => octetCount_text_le_of_parse (hgiven value hvalue), fun hnone => ?_⟩
    obtain ⟨hlocal, hasked⟩ := hdefault hnone
    exact ⟨hasked, RoutingContext.fitsPath_postmaster_iff hlocal⟩

theorem RoutingContext.octetCount_longDomain : octetCount longDomain.text.toList = 255 := by
  rw [toList_longDomain]
  decide +kernel

theorem LocalPart.check_postmaster : check "postmaster".toList = .ok () := by
  rfl

/-- The postmaster of a default domain of the most octets. -/
def RoutingContext.longPostmaster : Address :=
  ⟨"postmaster", longDomain, LocalPart.check_postmaster⟩

open Address RoutingContext in
/-- Two mailboxes in a domain of 255 octets, one put together from its parts, the other one the
postmaster of a context without settings: both have more than 256 octets, and neither is read back
from its value. -/
theorem Address.not_readable_longAddress :
    ofParts "a" longDomain = .ok longAddress ∧ 256 < octetCount longAddress.text.toList ∧
      ofValue longAddress.toValue = .error (.invalidAddress .pathTooLong) ∧
      (Site.perform { domains := ⟨[longDomain], longDomain⟩ } (create {}).run).1 =
        .ok ⟨{}, longPostmaster⟩ ∧
      256 < octetCount longPostmaster.text.toList ∧
      ofValue longPostmaster.toValue = .error (.invalidAddress .pathTooLong) := by
  have haddress : ¬longAddress.FitsPath := by
    have hlocal : longAddress.localPart = "a" := rfl
    have hdomain : longAddress.domain = longDomain := rfl
    have hcount : octetCount "a".toList = 1 := by decide
    rw [fitsPath_iff, hlocal, hdomain, hcount, octetCount_longDomain]
    omega
  have hpostmaster : ¬longPostmaster.FitsPath := by
    have hdomain : longPostmaster.domain = longDomain := rfl
    rw [fitsPath_postmaster_iff rfl, hdomain, octetCount_longDomain]
    omega
  refine ⟨ofParts_localPart_domain longAddress, Nat.lt_of_not_le haddress, ?_, ?_,
    Nat.lt_of_not_le hpostmaster, ?_⟩
  · rw [ofValue_toValue, if_neg haddress]
  · rw [fst_perform_create]
    rfl
  · rw [ofValue_toValue, if_neg hpostmaster]

end MailRouting
