import DnsHealth.Probe.Transcript
import DnsHealth.Proofs.HostName

/-!
# The domain that signs a delegation

The keys that sign the delegation of a target are those of its registrable domain. The way there is
through text: the target is written, its registrable domain is found in the text, and read as a name
again. A target without dots in its labels loses nothing on this way, and its last labels alone say
where it leads (`Transcript.delegationOwner?_eq_lastOf`). So all hosts below a registrable domain
have one owner of these keys.
-/

namespace DnsHealth.Transcript

open HostName

variable {name owner : Name}

theorem delegationOwner?_eq_some_iff : delegationOwner? name = some owner ↔
    ∃ text, registrable? name.fqdn = some text ∧ Name.parse text = .ok owner := by
  simp only [delegationOwner?, Option.bind_eq_some_iff, toOption_eq_some_iff]

/-- The target matters to what is asked for through the owner only. -/
theorem delegationQuery?_of_owner_eq {a b : Name} (h : delegationOwner? a = delegationOwner? b)
    (keys : KeyMaterial) (outcome : Outcome Reply) :
    delegationQuery? a keys outcome = delegationQuery? b keys outcome := by
  cases outcome with
  | error e => rfl
  | ok reply => simp only [delegationQuery?, h]

/-- **The owner of the keys that sign a delegation.** A target has none when it has fewer than two
labels, or two that are a listed suffix. Else the registrable domain can be read as a name, with the
last three labels of the target when the last two are listed, and the last two when they are not.
With any labels in front of the target the owner is the same. Every target that was read from a text
is of this kind. -/
theorem delegationOwner?_eq_lastOf (hvalid : name.LabelsValid) (hdotless : name.Dotless) :
    (registrable? name.fqdn = none ↔
      name.labels.length < 2 ∨ name.labels.length = 2 ∧ IsListed name.labels) ∧
    (∀ text, registrable? name.fqdn = some text →
      ∃ owner, Name.parse text = .ok owner ∧
        owner.labels =
          lastOf (if 3 ≤ name.labels.length ∧ IsListed (lastOf 2 name.labels) then 3 else 2)
            name.labels ∧
        delegationOwner? name = some owner ∧
        ∀ front : List String,
          registrable? (⟨front ++ name.labels⟩ : Name).fqdn = some text ∧
          delegationOwner? ⟨front ++ name.labels⟩ = some owner ∧
          ∀ keys outcome,
            delegationQuery? ⟨front ++ name.labels⟩ keys outcome =
            delegationQuery? name keys outcome) ∧
    ∀ written target, Name.parse written = .ok target → target.LabelsValid ∧ target.Dotless := by
  have hplain := plainLabels_of_labelsValid hvalid hdotless
  refine ⟨registrable?_fqdn_eq_none_iff hplain, ?_, ?_⟩
  · intro text htext
    obtain ⟨labels, rfl, hlabels⟩ := (registrable?_fqdn_eq_some_iff hplain).mp htext
    have hparse := hlabels.parse hvalid hdotless
    have howner : delegationOwner? name = some ⟨labels⟩ :=
      delegationOwner?_eq_some_iff.mpr ⟨_, htext, hparse⟩
    refine ⟨⟨labels⟩, hparse, hlabels.eq_lastOf, howner, fun front => ?_⟩
    have hfront := registrable?_fqdn_append hplain htext front
    have hsame := delegationOwner?_eq_some_iff.mpr ⟨_, hfront, hparse⟩
    exact ⟨hfront, hsame, delegationQuery?_of_owner_eq (hsame.trans howner.symm)⟩
  · intro written target hparse
    obtain ⟨htarget, hdots⟩ := Name.valid_dotless_of_parse hparse
    exact ⟨htarget.1, hdots⟩

/-- A shop in the United Kingdom, and a host of it. -/
theorem delegationOwner?_eq_lastOf_shop :
    let shop : Name := ⟨["Shop", "CO", "uk"]⟩
    shop.LabelsValid ∧ shop.Dotless ∧ registrable? shop.fqdn = some "Shop.CO.uk" ∧
      delegationOwner? shop = some shop ∧
      delegationOwner? ⟨["www", "eu"] ++ shop.labels⟩ = some shop := by
  intro shop
  have hvalid : shop.LabelsValid := by decide
  have hdotless : shop.Dotless := by decide
  have htext : registrable? shop.fqdn = some "Shop.CO.uk" := by decide +kernel
  obtain ⟨-, hfound, -⟩ := delegationOwner?_eq_lastOf hvalid hdotless
  obtain ⟨⟨labels⟩, -, hlabels, howner, hfront⟩ := hfound "Shop.CO.uk" htext
  obtain rfl : labels = shop.labels := hlabels.trans (by decide +kernel)
  exact ⟨hvalid, hdotless, htext, howner, (hfront ["www", "eu"]).2.1⟩

end DnsHealth.Transcript
