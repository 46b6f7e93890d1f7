import DnsHealth.Dnssec.Verification
import DnsHealth.Proofs.Dnssec.SignedData

/-!
# What a verified signature says

`verifyRrset` goes through its checks one after another, so it succeeds exactly when every one of
them does (`verifyRrset_eq_ok_iff`). A success says more than that the primitive accepted some
octets: the records are one record set, and each of them is in the octets
(`Vouches.of_verifyRrset`).
-/

namespace DnsHealth

variable {check : SignatureCheck} {sig : SignatureRecord} {key : ZoneKey} {rrset : List Record}

/-- Signature and key agree on what each says about the other. -/
theorem checkKey_eq_ok_iff : checkKey sig key = .ok () ↔
    key.keyTag = sig.rrsig.keyTag ∧ key.cls = sig.cls ∧ key.key.algorithm = sig.rrsig.algorithm ∧
      sig.rrsig.signerName.eqIgnoreCase key.owner = true ∧ key.key.protocol = keyProtocol := by
  by_cases htag : key.keyTag = sig.rrsig.keyTag
  · by_cases hcls : key.cls = sig.cls
    · by_cases halgorithm : key.key.algorithm = sig.rrsig.algorithm
      · cases hsigner : sig.rrsig.signerName.eqIgnoreCase key.owner with
        | false => simp [checkKey, htag, hcls, halgorithm, hsigner]
        | true => simp [checkKey, htag, hcls, halgorithm, hsigner]
      · simp [checkKey, htag, hcls, halgorithm]
    · simp [checkKey, htag, hcls]
  · simp [checkKey, htag]

theorem checkRrset_eq_ok_iff : checkRrset sig rrset = .ok () ↔
    ∃ first rest, rrset = first :: rest ∧ Covers sig first.name rrset := by
  cases rrset with
  | nil => simp [checkRrset]
  | cons first rest =>
      rw [checkRrset]
      split
      case _ hcovers => exact ⟨fun _ => ⟨first, rest, rfl, hcovers⟩, fun _ => rfl⟩
      case _ hcovers =>
          constructor
          · intro h
            exact absurd h (by simp)
          · rintro ⟨_, _, heq, hother⟩
            obtain ⟨rfl, rfl⟩ := List.cons.inj heq
            exact absurd hother hcovers

/-- A signature verifies when its fields agree with those of the key, the records are a set that it
covers, and the primitive accepts their signed data. -/
theorem verifyRrset_eq_ok_iff : verifyRrset check sig key rrset = .ok () ↔
    checkKey sig key = .ok () ∧ checkRrset sig rrset = .ok () ∧
      ∃ algorithm data, Algorithm.ofNumber? sig.rrsig.algorithm = some algorithm ∧
        signedData sig.rrsig rrset = .ok data ∧
        check algorithm key.key.publicKey data sig.rrsig.signature = .ok () := by
  rw [verifyRrset]
  cases checkKey sig key with
  | error e => simp [bind, Except.bind]
  | ok _ =>
      cases checkRrset sig rrset with
      | error e => simp [bind, Except.bind]
      | ok _ =>
          cases Algorithm.ofNumber? sig.rrsig.algorithm with
          | none => simp [bind, Except.bind]
          | some algorithm =>
              cases signedData sig.rrsig rrset with
              | error e => simp [bind, Except.bind]
              | ok data => simp [bind, Except.bind]

/-- With a primitive that accepts the signature whatever octets it is over, the other checks
decide. -/
theorem verifyRrset_eq_ok_of_accepting {first : Record} {rest : List Record} {algorithm : Algorithm}
    (hkey : checkKey sig key = .ok ()) (hcovers : Covers sig first.name (first :: rest))
    (hlabels : sig.rrsig.labels.toNat ≤ first.name.labelCount)
    (halgorithm : Algorithm.ofNumber? sig.rrsig.algorithm = some algorithm)
    (haccepts : ∀ data, check algorithm key.key.publicKey data sig.rrsig.signature = .ok ()) :
    verifyRrset check sig key (first :: rest) = .ok () :=
  verifyRrset_eq_ok_iff.mpr ⟨hkey, checkRrset_eq_ok_iff.mpr ⟨first, rest, rfl, hcovers⟩,
    algorithm, _, halgorithm, SignedData.signedData_eq_ok_iff.mpr ⟨hlabels, rfl⟩, haccepts _⟩

theorem verifiesRrset_eq_true_iff :
    verifiesRrset check sig key rrset = true ↔ verifyRrset check sig key rrset = .ok () := by
  rw [verifiesRrset]
  cases verifyRrset check sig key rrset with
  | error e => simp [Except.isOk, Except.toBool]
  | ok _ => simp [Except.isOk, Except.toBool]

/-- A key vouches for a record set through a signature: the records have one owner up to case, the
covered type and the class of the signature, and the primitive accepts under the key what stands for
them. This is the signed fields and then, with the covered type, the class of the signature and its
original TTL, one block for each canonical data among the records and for no other. -/
structure Vouches (check : SignatureCheck) (sig : SignatureRecord) (key : ZoneKey)
    (rrset : List Record) : Prop where
  type : ∀ r ∈ rrset, r.type = sig.rrsig.typeCovered
  cls : ∀ r ∈ rrset, r.cls = sig.cls
  owner : ∀ r ∈ rrset, ∀ s ∈ rrset, r.name.eqIgnoreCase s.name = true
  accepted : ∃ algorithm, ∃ first ∈ rrset, ∃ rdatas forms : List Bytes,
    Algorithm.ofNumber? sig.rrsig.algorithm = some algorithm ∧
      (∀ rdata, rdata ∈ rdatas ↔ ∃ r ∈ rrset, r.rdata.canonical = rdata) ∧
      List.Forall₂
        (SignedData.IsRecordBlock (SignedData.signedOwner sig.rrsig.labels first.name)
          sig.rrsig.typeCovered sig.cls sig.rrsig.originalTtl) rdatas forms ∧
      check algorithm key.key.publicKey (sig.rrsig.signedFields ++ forms.flatten)
        sig.rrsig.signature = .ok ()

theorem Vouches.of_verifyRrset (h : verifyRrset check sig key rrset = .ok ()) :
    Vouches check sig key rrset := by
  obtain ⟨-, hrrset, algorithm, data, halgorithm, hdata, haccepted⟩ := verifyRrset_eq_ok_iff.mp h
  obtain ⟨first, rest, rfl, hcovers⟩ := checkRrset_eq_ok_iff.mp hrrset
  obtain ⟨-, rfl⟩ := SignedData.signedData_eq_ok_iff.mp hdata
  -- The blocks name the type and class of the first record, which are those of the signature.
  obtain ⟨-, hcls, htype⟩ := hcovers first List.mem_cons_self
  rw [hcls, htype, List.flatMap_def] at haccepted
  refine ⟨fun r hr => (hcovers r hr).2.2, fun r hr => (hcovers r hr).2.1, ?_,
    algorithm, first, List.mem_cons_self, _, _, halgorithm,
    fun rdata => SignedData.mem_canonicalRdata, SignedData.forall₂_isRecordBlock .., haccepted⟩
  intro r hr s hs
  exact Name.eqIgnoreCase_trans (hcovers r hr).1 (Name.eqIgnoreCase_symm (hcovers s hs).1)

end DnsHealth
