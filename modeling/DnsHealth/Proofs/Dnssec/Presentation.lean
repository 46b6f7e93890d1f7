import DnsHealth.Proofs.Dnssec.Verification
import DnsHealth.Proofs.Name.Case
import Mathlib.Logic.Relation

/-!
# The presentation of a record set

A record set reaches the verifier as a list: in some order, with repetitions or without, under TTLs
that have been counting down, and in letters of either case. `Restated` lists what can be done to
the list without doing anything to the set.

Verification takes the owner, type and class from the first record, whichever that is. What carries
the proof is that it looks at a record only through its `Record.view`, and at the list only as a set
of views (`SameSet`): the restatements keep that set one by one, and two lists with the same set get
the same verdict, the same error included (`verifyRrset_congr`).
-/

namespace DnsHealth

/-! ### Restatements -/

/-- The same name, in letters of either case. -/
def Name.Recased (a b : Name) : Prop :=
  a.labels.map String.toLower = b.labels.map String.toLower

/-- The same data, with embedded names in letters of either case. -/
inductive Rdata.Recased : Rdata → Rdata → Prop
  | cname {a b : Name} (h : a.Recased b) : Recased (.cname a) (.cname b)
  | ns {a b : Name} (h : a.Recased b) : Recased (.ns a) (.ns b)
  | ptr {a b : Name} (h : a.Recased b) : Recased (.ptr a) (.ptr b)
  | mx (preference : UInt16) {a b : Name} (h : a.Recased b) :
      Recased (.mx preference a) (.mx preference b)
  | soa (zone : Soa) {mname rname : Name} (hmname : zone.mname.Recased mname)
      (hrname : zone.rname.Recased rname) : Recased (.soa zone) (.soa { zone with mname, rname })
  | srv (service : Srv) {target : Name} (h : service.target.Recased target) :
      Recased (.srv service) (.srv { service with target })

/-- One way to present a record set anew. -/
inductive Restated : List Record → List Record → Prop
  /-- The records come in another order. -/
  | order {records others : List Record} (h : records.Perm others) : Restated records others
  /-- A record that is there comes once more. -/
  | again {r : Record} {records : List Record} (h : r ∈ records) : Restated records (r :: records)
  /-- A record that comes more than once comes once less. -/
  | once {r : Record} {records : List Record} (h : r ∈ records) : Restated (r :: records) records
  /-- A record has another TTL. -/
  | ttl (before after : List Record) (r : Record) (ttl : UInt32) :
      Restated (before ++ r :: after) (before ++ { r with ttl } :: after)
  /-- The owner of a record is written in other letters. -/
  | owner (before after : List Record) (r : Record) {name : Name} (h : r.name.Recased name) :
      Restated (before ++ r :: after) (before ++ { r with name } :: after)
  /-- The names in the data of a record are written in other letters. -/
  | data (before after : List Record) (r : Record) {rdata : Rdata} (h : r.rdata.Recased rdata) :
      Restated (before ++ r :: after) (before ++ { r with rdata } :: after)

/-! ### What verification looks at -/

/-- What verification looks at in a record. -/
structure RecordView where
  /-- The labels of the owner in lower case. -/
  owner : List Bytes
  type : RecordType
  cls : RecordClass
  /-- The data in canonical form. -/
  data : Bytes

def Record.view (r : Record) : RecordView where
  owner := r.name.foldedLabels
  type := r.type
  cls := r.cls
  data := r.rdata.canonical

/-- Two lists of records hold the same views. -/
def SameSet (records others : List Record) : Prop :=
  ∀ view, view ∈ records.map Record.view ↔ view ∈ others.map Record.view

variable {records others : List Record} {first first' : Record} {rest rest' : List Record}

theorem SameSet.symm (h : SameSet records others) : SameSet others records :=
  fun view => (h view).symm

/-- A record may be replaced by one with the same view. -/
theorem SameSet.replace (before after : List Record) {r s : Record} (h : r.view = s.view) :
    SameSet (before ++ r :: after) (before ++ s :: after) := by
  intro view
  rw [List.map_append, List.map_append, List.map_cons, List.map_cons, h]

/-- Every record of one list has the view of some record of the other. -/
theorem SameSet.exists_mem (h : SameSet records others) {r : Record} (hr : r ∈ records) :
    ∃ s ∈ others, s.view = r.view :=
  List.mem_map.mp ((h r.view).mp (List.mem_map_of_mem hr))

/-! ### Restatements keep the set -/

theorem Name.Recased.eqIgnoreCase {a b : Name} (h : a.Recased b) : a.eqIgnoreCase b = true :=
  Name.eqIgnoreCase_iff_toLower.mpr h

theorem Name.Recased.canonical_eq {a b : Name} (h : a.Recased b) : a.canonical = b.canonical :=
  Name.canonical_congr h.eqIgnoreCase

/-- The canonical form of data is in lower case. -/
theorem Rdata.Recased.canonical_eq {a b : Rdata} (h : a.Recased b) : a.canonical = b.canonical := by
  cases h with
  | cname h => exact h.canonical_eq
  | ns h => exact h.canonical_eq
  | ptr h => exact h.canonical_eq
  | mx preference h => simp only [Rdata.canonical, Rdata.write, h.canonical_eq]
  | soa zone hmname hrname =>
      simp only [Rdata.canonical, Rdata.write, hmname.canonical_eq, hrname.canonical_eq]
  | srv service h => simp only [Rdata.canonical, Rdata.write, h.canonical_eq]

/-- No restatement adds a view or takes one away. -/
theorem Restated.sameSet (h : Restated records others) : SameSet records others := by
  cases h with
  | order h => exact fun view => (h.map Record.view).mem_iff
  | again h =>
      intro view
      rw [List.map_cons, List.mem_cons, or_iff_right_of_imp]
      rintro rfl
      exact List.mem_map_of_mem h
  | once h =>
      intro view
      rw [List.map_cons, List.mem_cons, or_iff_right_of_imp]
      rintro rfl
      exact List.mem_map_of_mem h
  | ttl before after r ttl => exact .replace before after rfl
  | owner before after r h =>
      refine .replace before after ?_
      simp only [Record.view, Name.eqIgnoreCase_iff.mp h.eqIgnoreCase]
  | data before after r h =>
      refine .replace before after ?_
      simp only [Record.view, h.canonical_eq]

/-! ### The set decides -/

theorem SignedData.signedOwner_congr (labels : UInt8) {a b : Name} (h : a.eqIgnoreCase b = true) :
    (signedOwner labels a).eqIgnoreCase (signedOwner labels b) = true := by
  rw [signedOwner, signedOwner, Name.labelCount_congr h]
  split
  case _ => exact Name.wildcardSuffix_congr h _
  case _ => exact h

/-- Signed data depends on the first record through its owner up to case, its type and its class,
and on all records through the set of their canonical data. The label count in the error is that of
either owner. -/
theorem signedData_congr (sig : Rrsig) (hname : first.name.eqIgnoreCase first'.name = true)
    (htype : first.type = first'.type) (hcls : first.cls = first'.cls)
    (hdata : SignedData.canonicalRdata (first :: rest) =
      SignedData.canonicalRdata (first' :: rest')) :
    signedData sig (first :: rest) = signedData sig (first' :: rest') := by
  have hcount := Name.labelCount_congr hname
  rcases Nat.lt_or_ge first.name.labelCount sig.labels.toNat with hlt | hle
  · rw [SignedData.signedData_of_lt rest hlt, SignedData.signedData_of_lt rest' (hcount ▸ hlt),
      hcount]
  · rw [SignedData.signedData_eq_ok_iff.mpr ⟨hle, rfl⟩,
      SignedData.signedData_eq_ok_iff.mpr ⟨hcount ▸ hle, rfl⟩, hdata,
      SignedData.block_congr (SignedData.signedOwner_congr sig.labels hname)
        (congrArg _ htype) (congrArg _ hcls) rfl]

/-- Where the records of one list form a set, so do those of a list with the same views, under the
same owner. -/
theorem Covers.of_sameSet {sig : SignatureRecord} {owner : Name}
    (hcovers : Covers sig owner records) (h : SameSet records others) :
    Covers sig owner others := by
  intro s hs
  obtain ⟨r, hr, hview⟩ := h.symm.exists_mem hs
  obtain ⟨howner, htype, hcls, -⟩ := RecordView.mk.inj hview
  obtain ⟨hname, hsig, hcovered⟩ := hcovers r hr
  rw [Name.eqIgnoreCase_iff] at hname ⊢
  exact ⟨howner ▸ hname, hcls ▸ hsig, htype ▸ hcovered⟩

/-- Owners that agree up to case are as good as each other for a set to be under. -/
theorem Covers.of_eqIgnoreCase {sig : SignatureRecord} {a b : Name} (hcovers : Covers sig a records)
    (h : b.eqIgnoreCase a = true) : Covers sig b records := by
  intro s hs
  obtain ⟨hname, hrest⟩ := hcovers s hs
  exact ⟨Name.eqIgnoreCase_trans hname (Name.eqIgnoreCase_symm h), hrest⟩

/-- It does not matter to the check of the records which of them comes first. -/
theorem Covers.of_cons {sig : SignatureRecord} (hcovers : Covers sig first.name (first :: rest))
    (h : SameSet (first :: rest) (first' :: rest')) : Covers sig first'.name (first' :: rest') :=
  (hcovers.of_sameSet h).of_eqIgnoreCase (hcovers.of_sameSet h first' List.mem_cons_self).1

theorem canonicalRdata_congr (h : SameSet records others) :
    SignedData.canonicalRdata records = SignedData.canonicalRdata others := by
  have hdata : ∀ {l m : List Record}, SameSet l m → ∀ data, (∃ r ∈ l, r.rdata.canonical = data) →
      ∃ s ∈ m, s.rdata.canonical = data := by
    rintro l m hset data ⟨r, hr, rfl⟩
    obtain ⟨s, hs, hview⟩ := hset.exists_mem hr
    exact ⟨s, hs, congrArg RecordView.data hview⟩
  exact SignedData.canonicalRdata_eq_iff.mpr fun data => ⟨hdata h data, hdata h.symm data⟩

/-- Verification depends on the set of views alone. -/
theorem verifyRrset_congr (check : SignatureCheck) (sig : SignatureRecord) (key : ZoneKey)
    (h : SameSet records others) :
    verifyRrset check sig key records = verifyRrset check sig key others := by
  cases records with
  | nil =>
      cases others with
      | nil => rfl
      | cons first' rest' =>
          obtain ⟨_, hmem, -⟩ := h.symm.exists_mem List.mem_cons_self
          exact absurd hmem List.not_mem_nil
  | cons first rest =>
      cases others with
      | nil =>
          obtain ⟨_, hmem, -⟩ := h.exists_mem List.mem_cons_self
          exact absurd hmem List.not_mem_nil
      | cons first' rest' =>
          by_cases hcovers : Covers sig first.name (first :: rest)
          · have hcovers' := hcovers.of_cons h
            obtain ⟨hname, hcls', htype'⟩ := hcovers.of_sameSet h first' List.mem_cons_self
            obtain ⟨-, hcls, htype⟩ := hcovers first List.mem_cons_self
            rw [verifyRrset, verifyRrset, checkRrset, checkRrset, if_pos hcovers, if_pos hcovers',
              signedData_congr sig.rrsig (Name.eqIgnoreCase_symm hname) (htype.trans htype'.symm)
                (hcls.trans hcls'.symm) (canonicalRdata_congr h)]
          · -- A list that is no set under its first owner is none under any, so the records decide
            -- nothing more.
            have hcovers' : ¬ Covers sig first'.name (first' :: rest') :=
              fun h' => hcovers (h'.of_cons h.symm)
            rw [verifyRrset, verifyRrset, checkRrset, checkRrset, if_neg hcovers, if_neg hcovers']
            cases checkKey sig key <;> rfl

/-- **Verification does not depend on how a record set is presented.** Whatever restatements lead
from one list of records to another, in whatever sequence, the verdict on the one is the verdict on
the other, the same error included, for every signature, every key and every signature primitive. -/
theorem verifyRrset_restated (check : SignatureCheck) (sig : SignatureRecord) (key : ZoneKey)
    (h : Relation.ReflTransGen Restated records others) :
    verifyRrset check sig key others = verifyRrset check sig key records := by
  induction h with
  | refl => rfl
  | tail _ hstep ih => rw [← verifyRrset_congr check sig key hstep.sameSet, ih]

/-- Name servers in another order, one of them twice, with another TTL and in other letters. A
signature that counts too many labels is refused for both lists with the same count. -/
theorem verifyRrset_restated_nameServers :
    let zone : Name := ⟨["example", "com"]⟩
    let key : ZoneKey :=
      { owner := zone, cls := .internet
        key := { flags := 256, protocol := 3, algorithm := 15, publicKey := [1, 2] } }
    let sig : SignatureRecord :=
      { owner := zone, cls := .internet, ttl := 300
        rrsig :=
          { typeCovered := .ns, algorithm := 15, labels := 5, originalTtl := 300, expiration := 2000
            inception := 1000, keyTag := key.keyTag, signerName := zone, signature := [3] } }
    let first : Record := .ofRdata zone 300 (.ns ⟨["ns1", "example", "com"]⟩)
    let second : Record := .ofRdata zone 300 (.ns ⟨["ns2", "example", "com"]⟩)
    let others : List Record :=
      [{ first with ttl := 60 },
        .ofRdata ⟨["Example", "COM"]⟩ 300 (.ns ⟨["NS2", "Example", "com"]⟩), first]
    let check : SignatureCheck := fun _ _ _ _ => .ok ()
    verifyRrset check sig key others = verifyRrset check sig key [first, second] ∧
      verifyRrset check sig key others = .error (.invalidLabelCount 5 2) := by
  intro zone key sig first second others check
  have hzone : zone.Recased ⟨["Example", "COM"]⟩ := Name.eqIgnoreCase_iff_toLower.mp (by decide)
  have hserver : Name.Recased ⟨["ns2", "example", "com"]⟩ ⟨["NS2", "Example", "com"]⟩ :=
    Name.eqIgnoreCase_iff_toLower.mp (by decide)
  have hrestated : Relation.ReflTransGen Restated [first, second] others :=
    .head (.order (.swap second first [])) <|
      .head (.again (.tail _ (.head _))) <|
        .head (.ttl [] [second, first] first 60) <|
          .head (.owner [_] [first] second hzone) <|
            .single (.data [_] [first] _ (.ns hserver))
  have heq := verifyRrset_restated check sig key hrestated
  refine ⟨heq, heq.trans ?_⟩
  have hkey : checkKey sig key = .ok () := checkKey_eq_ok_iff.mpr ⟨rfl, rfl, rfl, by decide, rfl⟩
  have hcheck : checkRrset sig [first, second] = .ok () :=
    checkRrset_eq_ok_iff.mpr ⟨first, [second], rfl, by decide⟩
  have hdata : signedData sig.rrsig [first, second] = .error (.invalidLabelCount 5 2) :=
    SignedData.signedData_of_lt [second] (by decide)
  rw [verifyRrset, hkey, hcheck, hdata]
  rfl

end DnsHealth
