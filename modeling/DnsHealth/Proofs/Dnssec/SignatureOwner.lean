import DnsHealth.Proofs.Dnssec.Verification
import DnsHealth.Proofs.Name.Case

/-!
# What a signature is accepted for

A signature record has an owner of its own, besides the owners of the records that it comes with.
Verification compares the class and the covered type with those of the records, and the owners of
the records with one another. The owner of the signature record is compared with nothing, so a
signature that is accepted under one owner is accepted under every other (`verifyRrset_withOwner`),
and acceptance says of the records what `verifyRrset_accepts` says.
-/

namespace DnsHealth

/-! ### The owner of the signature record -/

variable {check : SignatureCheck} {sig : SignatureRecord} {key : ZoneKey} {rrset : List Record}

/-- The verdict is the same whatever the owner of the signature record. -/
theorem verifyRrset_withOwner (check : SignatureCheck) (sig : SignatureRecord) (key : ZoneKey)
    (rrset : List Record) (owner : Name) :
    verifyRrset check { sig with owner := owner } key rrset = verifyRrset check sig key rrset :=
  rfl

/-- **What a signature is accepted for.** There are records, all under one owner up to case, of the
class of the signature and of the covered type, and the signature counts no more labels than their
owner has. The owner of the signature record does not matter: it is that of the records when it is
that of any of them, and a signature under any other owner is accepted for them as well. -/
theorem verifyRrset_accepts (h : verifyRrset check sig key rrset = .ok ()) :
    rrset ≠ [] ∧
      (∀ r ∈ rrset, r.cls = sig.cls ∧ r.type = sig.rrsig.typeCovered ∧
        sig.rrsig.labels.toNat ≤ r.name.labelCount ∧
        (∀ s ∈ rrset, s.name.eqIgnoreCase r.name = true) ∧
        (r.name.eqIgnoreCase sig.owner = true → ∀ s ∈ rrset,
          s.name.eqIgnoreCase sig.owner = true)) ∧
      ∀ owner, verifyRrset check { sig with owner := owner } key rrset = .ok () := by
  obtain ⟨-, hrrset, -, data, -, hdata, -⟩ := verifyRrset_eq_ok_iff.mp h
  obtain ⟨first, rest, rfl, -⟩ := checkRrset_eq_ok_iff.mp hrrset
  obtain ⟨hlabels, -⟩ := SignedData.signedData_eq_ok_iff.mp hdata
  have hvouches := Vouches.of_verifyRrset h
  refine ⟨List.cons_ne_nil first rest, ?_, fun owner => (verifyRrset_withOwner ..).trans h⟩
  intro r hr
  have hcount := Name.labelCount_congr (hvouches.owner r hr first List.mem_cons_self)
  refine ⟨hvouches.cls r hr, hvouches.type r hr, hcount ▸ hlabels,
    fun s hs => hvouches.owner s hs r hr, ?_⟩
  intro howner s hs
  rw [Name.eqIgnoreCase_iff] at howner ⊢
  rw [Name.eqIgnoreCase_iff.mp (hvouches.owner s hs r hr), howner]

/-- An expanded wildcard in letters of either case: its signature is accepted, and also when it
comes in a record of the root. -/
theorem verifyRrset_accepts_wildcard :
    let zone : Name := ⟨["example", "com"]⟩
    let key : ZoneKey :=
      { owner := zone, cls := .internet
        key := { flags := 256, protocol := 3, algorithm := 15, publicKey := [1, 2] } }
    let sig : SignatureRecord :=
      { owner := ⟨["www", "example", "com"]⟩, cls := .internet, ttl := 300
        rrsig :=
          { typeCovered := .a, algorithm := 15, labels := 2, originalTtl := 300, expiration := 2000
            inception := 1000, keyTag := key.keyTag, signerName := zone, signature := [3] } }
    let rrset : List Record :=
      [.ofRdata ⟨["www", "example", "com"]⟩ 300 (.a #v[192, 0, 2, 1]),
        .ofRdata ⟨["WWW", "Example", "com"]⟩ 300 (.a #v[192, 0, 2, 2])]
    let check : SignatureCheck := fun _ _ _ _ => .ok ()
    verifyRrset check sig key rrset = .ok () ∧
      verifyRrset check { sig with owner := .root } key rrset = .ok () := by
  intro zone key sig rrset check
  have haccepted : verifyRrset check sig key rrset = .ok () :=
    verifyRrset_eq_ok_of_accepting (checkKey_eq_ok_iff.mpr ⟨rfl, rfl, rfl, by decide, rfl⟩)
      (by decide) (by decide) rfl fun _ => rfl
  obtain ⟨-, -, hunder⟩ := verifyRrset_accepts haccepted
  exact ⟨haccepted, hunder .root⟩

/-- The signature over the address of a host is accepted in a record of another owner, which does
not even have as many labels as the signature counts. -/
theorem verifyRrset_foreignOwner :
    let zone : Name := ⟨["example", "com"]⟩
    let key : ZoneKey :=
      { owner := zone, cls := .internet
        key := { flags := 256, protocol := 3, algorithm := 15, publicKey := [1, 2] } }
    let sig : SignatureRecord :=
      { owner := ⟨["mail", "net"]⟩, cls := .internet, ttl := 300
        rrsig :=
          { typeCovered := .a, algorithm := 15, labels := 3, originalTtl := 300, expiration := 2000
            inception := 1000, keyTag := key.keyTag, signerName := zone, signature := [3] } }
    let rrset : List Record := [.ofRdata ⟨["www", "example", "com"]⟩ 300 (.a #v[192, 0, 2, 1])]
    verifyRrset (fun _ _ _ _ => .ok ()) sig key rrset = .ok () ∧
      (∀ r ∈ rrset, r.name.eqIgnoreCase sig.owner = false) ∧
      sig.owner.labelCount < sig.rrsig.labels.toNat := by
  intro zone key sig rrset
  refine ⟨?_, by decide, by decide⟩
  exact verifyRrset_eq_ok_of_accepting (checkKey_eq_ok_iff.mpr ⟨rfl, rfl, rfl, by decide, rfl⟩)
    (by decide) (by decide) rfl fun _ => rfl

end DnsHealth
