import MailRouting.Proofs.LocalDelivery.Case
import MailRouting.Proofs.Mapping.Canonical

/-!
# Local delivery of what a mailbox resolves to

* `Directory.mappedPrincipal_firstAddress?` — a mailbox and the first mailbox that it resolves to
  have the same principal after the mappings;
* `Site.firstAddress_is_canonical` — resolving that mailbox again stays there, and it is delivered
  here just as the one that was asked for is.
-/

namespace MailRouting

namespace Directory

variable {v : Directory} {a u : Address} {ms : List Mapping}

theorem mappingsOf_of_resolveParts (hdown : Service.mappings ∉ v.down)
    (h : v.mappings.resolveParts a.localPart a.domain MappingKind.all = .ok ms) :
    v.mappingsOf a = .ok ms := by
  rw [mappingsOf, if_neg hdown, h]
  rfl

/-- The principal of a mailbox is that of the first mailbox that it resolves to. -/
theorem mappedPrincipal_firstAddress?
    (h : v.mappings.resolveParts a.localPart a.domain MappingKind.all = .ok ms)
    (hfirst : firstAddress? ms = some u) : v.mappedPrincipal a = v.mappedPrincipal u := by
  obtain ⟨ns, hns, hsame⟩ := MappingTable.resolveParts_firstAddress? h hfirst
  unfold mappedPrincipal
  by_cases hdown : Service.mappings ∈ v.down
  · simp only [mappingsOf, if_pos hdown]
    rfl
  · have hu : (firstAddress? ns).getD u = u := by
      rcases hsame with hnone | hsome
      · rw [hnone, Option.getD_none]
      · rw [hsome, Option.getD_some]
    rw [mappingsOf_of_resolveParts hdown h, mappingsOf_of_resolveParts hdown hns]
    show v.principalOf ((firstAddress? ms).getD a) = v.principalOf ((firstAddress? ns).getD u)
    rw [hfirst, hu, Option.getD_some]

/-- Where both domains are served, a mailbox and the first one that it resolves to are delivered
alike. -/
theorem isLocalEmail_firstAddress?
    (h : v.mappings.resolveParts a.localPart a.domain MappingKind.all = .ok ms)
    (hfirst : firstAddress? ms = some u) (ha : v.domains.contains a.domain = true)
    (hu : v.domains.contains u.domain = true) : v.isLocalEmail a = v.isLocalEmail u := by
  have hdomain : v.containsDomain a.domain = v.containsDomain u.domain := by
    rw [containsDomain, containsDomain, ha, hu]
  rw [isLocalEmail, isLocalEmail, hdomain, mappedPrincipal_firstAddress? h hfirst]

end Directory

namespace Site

/-- **Resolving twice is resolving once.** If a mailbox resolves, whatever kinds of mappings are
followed, then the first mailbox that comes out resolves as well, to nothing or to itself first. So
where all kinds are followed and both domains are served here, the question about the one mailbox
has the same answer as the question about the other. -/
theorem firstAddress_is_canonical (s : Site) (kinds : List MappingKind) {a u : Address}
    {ms : List Mapping} (h : s.mappings.resolveParts a.localPart a.domain kinds = .ok ms)
    (hfirst : firstAddress? ms = some u) :
    (∃ ns, s.mappings.resolveParts u.localPart u.domain kinds = .ok ns ∧
        (firstAddress? ns = none ∨ firstAddress? ns = some u)) ∧
      (kinds = MappingKind.all → s.domains.contains a.domain = true →
        s.domains.contains u.domain = true →
          (s.perform (LocalDelivery.isLocalEmail (some a)).run).1 =
            (s.perform (LocalDelivery.isLocalEmail (some u)).run).1) := by
  refine ⟨MappingTable.resolveParts_firstAddress? h hfirst, ?_⟩
  rintro rfl ha hu
  rw [(s.answers_isLocalEmail a).result_eq, (s.answers_isLocalEmail u).result_eq]
  exact Directory.isLocalEmail_firstAddress? h hfirst ha hu

theorem firstAddress_is_canonical_movedSite :
    movedSite.mappings.resolveParts "TeAm" .localhost MappingKind.all =
        .ok [.address ⟨"DAVE", .localhost, by rfl⟩] ∧
      firstAddress? [.address ⟨"DAVE", .localhost, by rfl⟩] =
        some ⟨"DAVE", .localhost, by rfl⟩ ∧
      movedSite.domains.contains .localhost = true ∧
      (∃ ns, movedSite.mappings.resolveParts "DAVE" .localhost MappingKind.all = .ok ns ∧
        (firstAddress? ns = none ∨ firstAddress? ns = some ⟨"DAVE", .localhost, by rfl⟩)) ∧
      (movedSite.perform
          (LocalDelivery.isLocalEmail (some ⟨"TeAm", .localhost, by rfl⟩)).run).1 =
        (movedSite.perform
          (LocalDelivery.isLocalEmail (some ⟨"DAVE", .localhost, by rfl⟩)).run).1 := by
  have h : movedSite.mappings.resolveParts "TeAm" .localhost MappingKind.all =
      .ok [.address ⟨"DAVE", .localhost, by rfl⟩] := rfl
  obtain ⟨hagain, hanswer⟩ :=
    movedSite.firstAddress_is_canonical MappingKind.all (a := ⟨"TeAm", .localhost, by rfl⟩) h rfl
  exact ⟨h, rfl, rfl, hagain, hanswer rfl rfl rfl⟩

end Site

end MailRouting
