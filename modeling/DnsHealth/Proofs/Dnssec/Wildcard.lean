import DnsHealth.Proofs.Dnssec.Verification
import DnsHealth.Proofs.Name.Case
import DnsHealth.Proofs.Name.Reverse

/-!
# Expanded wildcards

A server that finds no records under a name may answer with those of a wildcard, under the name that
was asked for. The signature is still over the wildcard, and its label count says how much of the
name it was: all labels behind the asterisk.

Only an asterisk in front is left out of a label count. So a name in front of the right number of
labels counts more than the signature does, unless it is one asterisk and nothing else, and then it
is the wildcard itself. Either way the owner that the signer saw is the wildcard
(`SignedData.owner_expanded`). It takes no more octets than the received name, since it stands for
at least one label of it.
-/

namespace DnsHealth

/-- The records under another owner. -/
def ownedBy (owner : Name) (records : List Record) : List Record :=
  records.map fun r => { r with name := owner }

variable {xs s : List String} {records : List Record} {a b : Name}

/-! ### The owner -/

namespace Name

/-- Labels in front of others count, except for one asterisk on its own. -/
theorem lt_labelCount_append (hne : xs ≠ []) (hasterisk : xs ≠ ["*"]) :
    s.length < (⟨xs ++ s⟩ : Name).labelCount := by
  cases xs with
  | nil => exact absurd rfl hne
  | cons label rest =>
      rw [labelCount]
      simp only [List.cons_append, List.head?_cons, List.length_cons, List.length_append,
        Option.some.injEq]
      split
      case _ hlabel =>
          have hrest : 0 < rest.length := by
            refine List.length_pos_iff.mpr ?_
            rintro rfl
            exact hasterisk (by rw [hlabel])
          omega
      case _ => omega

theorem labelCount_wildcard (s : List String) : (⟨"*" :: s⟩ : Name).labelCount = s.length :=
  if_pos rfl

theorem wildcardSuffix_append (xs s : List String) :
    (⟨xs ++ s⟩ : Name).wildcardSuffix s.length = ⟨"*" :: s⟩ := by
  rw [wildcardSuffix, List.length_append, Nat.add_sub_cancel, List.drop_left]

/-- A wildcard in place of some labels of a valid name makes a valid name. -/
theorem Valid.wildcard (h : (⟨xs ++ s⟩ : Name).Valid) (hne : xs ≠ []) :
    (⟨"*" :: s⟩ : Name).Valid := by
  obtain ⟨hlabels, hlength⟩ := h
  cases xs with
  | nil => exact absurd rfl hne
  | cons label rest =>
      have hlabel := hlabels label List.mem_cons_self
      refine ⟨List.forall_mem_cons.mpr ⟨by decide, fun other hother => ?_⟩, ?_⟩
      · exact hlabels other (List.mem_append_right _ hother)
      · -- An asterisk is as short as a label can be.
        have hasterisk : "*".utf8ByteSize = 1 := rfl
        have := hlabel.1
        rw [wireLength, List.cons_append, labelsLength_cons, labelsLength_append] at hlength
        rw [wireLength, labelsLength_cons, hasterisk]
        omega

end Name

namespace SignedData

/-- The signer of an expanded wildcard saw the wildcard, whatever it was expanded to. -/
theorem owner_expanded {labels : UInt8} (hne : xs ≠ []) (hlabels : labels.toNat = s.length) :
    owner labels ⟨xs ++ s⟩ = .ok ⟨"*" :: s⟩ := by
  by_cases hasterisk : xs = ["*"]
  · subst hasterisk
    have hcount : (⟨["*"] ++ s⟩ : Name).labelCount = labels.toNat :=
      (Name.labelCount_wildcard s).trans hlabels.symm
    rw [owner, hcount, if_neg (Nat.lt_irrefl _), if_neg (Nat.lt_irrefl _)]
    rfl
  · have hcount := Name.lt_labelCount_append (s := s) hne hasterisk
    rw [← hlabels] at hcount
    rw [owner, if_neg (Nat.not_lt_of_lt hcount), if_pos hcount, hlabels, Name.wildcardSuffix_append]

/-- The owner that the signer saw is valid when the received one is, although nothing checks it. -/
theorem valid_of_owner {labels : UInt8} {received name : Name}
    (h : owner labels received = .ok name) (hvalid : received.Valid) : name.Valid := by
  obtain ⟨-, rfl⟩ := owner_eq_ok_iff.mp h
  rw [signedOwner]
  split
  case _ hlt =>
      obtain ⟨dropped, kept, hlabels, hdropped, -, hsuffix⟩ := Name.exists_wildcardSuffix_of_lt hlt
      rw [hsuffix]
      obtain ⟨labels⟩ := received
      obtain rfl : labels = dropped ++ kept := hlabels
      exact hvalid.wildcard hdropped
  case _ => exact hvalid

theorem canonicalRdata_ownedBy (owner : Name) (records : List Record) :
    canonicalRdata (ownedBy owner records) = canonicalRdata records := by
  rw [canonicalRdata, ownedBy, List.map_map]
  rfl

end SignedData

/-! ### Records under either owner -/

theorem ownedBy_cons (owner : Name) (first : Record) (rest : List Record) :
    ownedBy owner (first :: rest) = { first with name := owner } :: ownedBy owner rest :=
  List.map_cons

/-- Owners for which the signer saw the same owner have the same signed data. -/
theorem signedData_ownedBy_congr {sig : Rrsig}
    (h : SignedData.owner sig.labels a = SignedData.owner sig.labels b) (records : List Record) :
    signedData sig (ownedBy a records) = signedData sig (ownedBy b records) := by
  cases records with
  | nil => rfl
  | cons first rest =>
      rw [ownedBy_cons, ownedBy_cons, signedData, signedData, ← ownedBy_cons, ← ownedBy_cons,
        SignedData.canonicalRdata_ownedBy, SignedData.canonicalRdata_ownedBy]
      dsimp only
      rw [h]

/-- Records under one owner are a set for that owner as soon as their types and classes fit. -/
theorem covers_ownedBy_iff {sig : SignatureRecord} : Covers sig a (ownedBy a records) ↔
    ∀ r ∈ records, r.cls = sig.cls ∧ r.type = sig.rrsig.typeCovered := by
  rw [Covers, ownedBy, List.forall_mem_map]
  simp only [Name.eqIgnoreCase_refl, true_and]

theorem checkRrset_ownedBy (sig : SignatureRecord) (a b : Name) (records : List Record) :
    checkRrset sig (ownedBy a records) = checkRrset sig (ownedBy b records) := by
  cases records with
  | nil => rfl
  | cons first rest =>
      rw [ownedBy_cons, ownedBy_cons, checkRrset, checkRrset, ← ownedBy_cons, ← ownedBy_cons]
      simp only [covers_ownedBy_iff]

/-- **An expanded wildcard verifies as its wildcard.** Under a signature that counts the labels `s`,
the signer of records under labels in front of `s` saw the wildcard above `s`, whatever these labels
are and however many, asterisks among them or not: signed data and verdict are those of the same
records under the wildcard. And where a valid name was received, the owner in the signed data is
valid. -/
theorem signedData_expanded (sig : SignatureRecord) :
    (∀ (xs s : List String) (records : List Record), xs ≠ [] → sig.rrsig.labels.toNat = s.length →
      SignedData.owner sig.rrsig.labels ⟨xs ++ s⟩ = .ok ⟨"*" :: s⟩ ∧
      signedData sig.rrsig (ownedBy ⟨xs ++ s⟩ records) =
      signedData sig.rrsig (ownedBy ⟨"*" :: s⟩ records) ∧
      ∀ check key, verifyRrset check sig key (ownedBy ⟨xs ++ s⟩ records) =
        verifyRrset check sig key (ownedBy ⟨"*" :: s⟩ records)) ∧
    ∀ (first : Record) (rest : List Record) (data : Bytes),
      signedData sig.rrsig (first :: rest) = .ok data → first.name.Valid →
        ∃ owner : Name, SignedData.owner sig.rrsig.labels first.name = .ok owner ∧ owner.Valid ∧
          data = sig.rrsig.signedFields ++ (SignedData.canonicalRdata (first :: rest)).flatMap
            (SignedData.block owner first.type first.cls sig.rrsig.originalTtl) := by
  constructor
  · intro xs s records hne hlabels
    have howner : SignedData.owner sig.rrsig.labels ⟨xs ++ s⟩ = .ok ⟨"*" :: s⟩ :=
      SignedData.owner_expanded hne hlabels
    have hwildcard : SignedData.owner sig.rrsig.labels ⟨["*"] ++ s⟩ = .ok ⟨"*" :: s⟩ :=
      SignedData.owner_expanded (by simp) hlabels
    have hdata := signedData_ownedBy_congr (howner.trans hwildcard.symm) records
    refine ⟨howner, hdata, fun check key => ?_⟩
    rw [verifyRrset, verifyRrset, checkRrset_ownedBy sig _ ⟨"*" :: s⟩, hdata]
    rfl
  · intro first rest data hdata hvalid
    obtain ⟨hlabels, hblocks⟩ := SignedData.signedData_eq_ok_iff.mp hdata
    have howner := SignedData.owner_eq_ok_iff.mpr ⟨hlabels, rfl⟩
    exact ⟨_, howner, SignedData.valid_of_owner howner hvalid, hblocks⟩

/-- Expansions with asterisks in them: in front of other labels, and behind the one of the
wildcard. -/
theorem signedData_expanded_asterisks :
    let sig : SignatureRecord :=
      { owner := .root, cls := .internet, ttl := 300
        rrsig :=
          { typeCovered := .a, algorithm := 15, labels := 2, originalTtl := 300, expiration := 2000
            inception := 1000, keyTag := 7, signerName := ⟨["example"]⟩, signature := [] } }
    let records : List Record := [.ofRdata .root 300 (.a #v[192, 0, 2, 1])]
    let owner : Name := ⟨["*", "a", "*", "example"]⟩
    signedData sig.rrsig (ownedBy owner records) =
        signedData sig.rrsig (ownedBy ⟨["*", "*", "example"]⟩ records) ∧
      ∃ data, signedData sig.rrsig (ownedBy owner records) = .ok data ∧ owner.Valid ∧
        ∃ signed : Name, SignedData.owner 2 owner = .ok signed ∧ signed.Valid := by
  intro sig records owner
  obtain ⟨hexpanded, hvalid⟩ := signedData_expanded sig
  obtain ⟨howner, hdata, -⟩ := hexpanded ["*", "a"] ["*", "example"] records (by decide) rfl
  have hok : signedData sig.rrsig (ownedBy owner records) = .ok _ :=
    SignedData.signedData_eq_ok_iff.mpr ⟨by decide, rfl⟩
  obtain ⟨signed, hsigned, hfits, -⟩ := hvalid _ _ _ hok (by decide)
  exact ⟨hdata, _, hok, by decide, signed, hsigned, hfits⟩

end DnsHealth
