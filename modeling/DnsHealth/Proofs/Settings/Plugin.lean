import DnsHealth.Settings.Decoding

/-!
# The plugin table of a configuration file

Which settings a document with a value at `inputs.deepmon_dns` stands for depends on whether
settings can be read from all that this value holds. If they can, the first of them count. If one
entry is unfit, or the value is no array, then nothing of it counts and nothing is said of it: the
document stands for what it would without `inputs` (`Settings.ofToml_of_plugin`).

Which values are fit for settings is said without reading any (`Settings.fits`): there is a kind of
value for each of five keys, and nothing else is looked at.
-/

namespace DnsHealth

open Toml (Table Value)

/-! ### Tables -/

/-- A table without one of its keys. -/
def Toml.Table.without (table : Table) (key : String) : Table :=
  table.filter fun entry => entry.1 != key

namespace Toml.Table

theorem get?_without_self (table : Table) (key : String) : (table.without key).get? key = none := by
  refine List.lookup_eq_none_iff.mpr fun entry hentry => ?_
  rw [bne_comm]
  exact (List.mem_filter.mp hentry).2

theorem get?_without_of_ne {key other : String} (h : other ≠ key) (table : Table) :
    (table.without key).get? other = table.get? other := by
  simp only [get?, without]
  induction table with
  | nil => rfl
  | cons entry rest ih =>
      obtain ⟨k, value⟩ := entry
      by_cases hk : k = key
      · subst hk
        rw [List.filter_cons, if_neg (by simp), ih, List.lookup_cons, beq_false_of_ne h]
      · rw [List.filter_cons, if_pos (bne_iff_ne.mpr hk), List.lookup_cons, List.lookup_cons, ih]

end Toml.Table

namespace Settings

/-! ### Values that are fit for settings -/

/-- The kinds of values that settings are made of. -/
inductive Kind where
  | text
  | integer

/-- The value of a field has its kind, if there is one. -/
def Kind.admits : Kind → Option Value → Bool
  | _, none => true
  | .text, some (.string _) => true
  | .integer, some (.integer _) => true
  | _, some _ => false

/-- The keys of settings in their order, each with its kind. -/
def fields : List (String × Kind) :=
  [("domain", .text), ("resolver_ip", .text), ("resolver_port", .integer),
    ("resolver_protocol", .text), ("timeout", .text)]

/-- Each key of settings has its kind in a table, or each place in an array. -/
def fits : Value → Bool
  | .table entries => fields.all fun field => field.2.admits (Table.get? entries field.1)
  | .array items => fields.zipIdx.all fun field => field.1.2.admits items[field.2]?
  | .moment _ => true
  | _ => false

theorem isSome_text? (value : Option Value) : (text? value).isSome = Kind.text.admits value := by
  rcases value with - | value
  · rfl
  · cases value <;> rfl

theorem isSome_integer? (value : Option Value) :
    (integer? value).isSome = Kind.integer.admits value := by
  rcases value with - | value
  · rfl
  · cases value <;> rfl

theorem isSome_optionalText? (value : Option Value) :
    (optionalText? value).isSome = Kind.text.admits value := by
  rcases value with - | value
  · rfl
  · cases value <;> rfl

theorem any_const {α : Type} (x : Option α) (b : Bool) : (x.any fun _ => b) = (x.isSome && b) := by
  cases x <;> rfl

/-- Settings are had from five values when each has the kind of its field. -/
theorem isSome_ofFields? (domain resolverIp resolverPort resolverProtocol timeout : Option Value) :
    (ofFields? domain resolverIp resolverPort resolverProtocol timeout).isSome =
      (Kind.text.admits domain &&
        (Kind.text.admits resolverIp && (Kind.integer.admits resolverPort &&
        (Kind.text.admits resolverProtocol && (Kind.text.admits timeout && true))))) := by
  simp only [ofFields?, Option.bind_eq_bind, Option.pure_def, Option.isSome_bind,
    Option.isSome_some, any_const, isSome_text?, isSome_integer?, isSome_optionalText?]

/-- Settings can be read from the values that are fit for them. -/
theorem isSome_ofValue? (value : Value) : (ofValue? value).isSome = fits value := by
  cases value with
  | table entries => exact isSome_ofFields? _ _ _ _ _
  | array items => exact isSome_ofFields? _ _ _ _ _
  | moment written => rfl
  | string text => rfl
  | integer n => rfl
  | float written => rfl
  | boolean value => rfl

/-! ### Lists of settings -/

theorem isSome_mapM_ofValue? (items : List Value) :
    (items.mapM ofValue?).isSome = items.all fits := by
  induction items with
  | nil => rfl
  | cons item rest ih =>
      simp only [List.mapM_cons, List.all_cons, Option.bind_eq_bind, Option.pure_def,
        Option.isSome_bind, Option.isSome_some, any_const, isSome_ofValue?, ih, Bool.and_true]

/-- A list of settings can be read from an array without unfit elements, and from nothing else. -/
theorem isSome_listOfValue? (value : Value) :
    (listOfValue? value).isSome =
      match value with
      | .array items => items.all fits
      | _ => false := by
  cases value with
  | array items => exact isSome_mapM_ofValue? items
  | table entries => rfl
  | moment written => rfl
  | string text => rfl
  | integer n => rfl
  | float written => rfl
  | boolean value => rfl

/-- The first settings of a list are those of the first element. -/
theorem ofValue?_of_listOfValue? {first : Value} {rest : List Value} {settings : List Settings}
    (h : listOfValue? (.array (first :: rest)) = some settings) :
    ∃ s later, ofValue? first = some s ∧ settings = s :: later := by
  rw [listOfValue?, List.mapM_cons] at h
  obtain ⟨s, hfirst, h⟩ := Option.bind_eq_some_iff.mp h
  obtain ⟨later, -, h⟩ := Option.bind_eq_some_iff.mp h
  exact ⟨s, later, hfirst, (Option.some.inj h).symm⟩

/-! ### Documents -/

/-- What stands under `inputs` for the plugin: the value of its key, or the first element of an
array. -/
def pluginValue? : Value → Option Value
  | .table entries => Table.get? entries "deepmon_dns"
  | .array (first :: _) => some first
  | _ => none

/-- The value at `inputs.deepmon_dns`. -/
def plugin? (document : Table) : Option Value :=
  (document.get? "inputs").bind pluginValue?

theorem pluginList?_eq (inputs : Value) :
    pluginList? inputs = (pluginValue? inputs).bind listOfValue? := by
  cases inputs with
  | array items => cases items <;> rfl
  | table entries => rfl
  | moment written => rfl
  | string text => rfl
  | integer n => rfl
  | float written => rfl
  | boolean value => rfl

variable {document : Table} {value : Value}

/-- The list that a document is asked for first is the one in the value for the plugin. -/
theorem bind_pluginList? (document : Table) :
    (document.get? "inputs").bind pluginList? = (plugin? document).bind listOfValue? := by
  rw [plugin?, Option.bind_assoc, funext pluginList?_eq]

theorem ofTable?_without (document : Table) :
    ofTable? (document.without "inputs") = ofTable? document := by
  simp only [ofTable?, Table.get?_without_of_ne (by decide : "domain" ≠ "inputs"),
    Table.get?_without_of_ne (by decide : "resolver_ip" ≠ "inputs"),
    Table.get?_without_of_ne (by decide : "resolver_port" ≠ "inputs"),
    Table.get?_without_of_ne (by decide : "resolver_protocol" ≠ "inputs"),
    Table.get?_without_of_ne (by decide : "timeout" ≠ "inputs")]

/-- Where no list can be read for the plugin, a document stands for the settings at its top. -/
theorem ofDocument_of_unreadable (h : (plugin? document).bind listOfValue? = none) :
    ofDocument document = ofDocument (document.without "inputs") := by
  rw [ofDocument, bind_pluginList?, h, ofDocument, Table.get?_without_self, ofTable?_without,
    Option.bind_none]

theorem ofTable?_eq_none_iff :
    ofTable? document = none ↔
    ∃ field ∈ fields, field.2.admits (document.get? field.1) = false := by
  have hfits : (ofTable? document).isSome =
      fields.all fun field => field.2.admits (document.get? field.1) :=
    isSome_ofValue? (.table document)
  rw [← Option.not_isSome_iff_eq_none, hfits, Bool.not_eq_true, List.all_eq_false]
  simp only [Bool.not_eq_true]

theorem ofTable?_of_no_field (h : ∀ field ∈ fields, document.get? field.1 = none) :
    ofTable? document = some {} := by
  simp only [fields, List.forall_mem_cons] at h
  obtain ⟨hdomain, hip, hport, hprotocol, htimeout, -⟩ := h
  rw [ofTable?, hdomain, hip, hport, hprotocol, htimeout]
  rfl

/-- **What a file with a plugin table stands for.** An array whose entries are all fit for settings
stands for those of its first entry, and an empty one for an error. If an entry is unfit, whichever
it is, or the value is no array, the file stands for what it would without `inputs`. Whether it is
refused is then up to the keys at its top alone, and without any of these it stands for the
defaults. -/
theorem ofToml_of_plugin {text : String} (htext : Table.ofText? text = some document)
    (hplugin : plugin? document = some value) :
    (∀ first rest, value = .array (first :: rest) → (first :: rest).all fits →
      ∃ settings, ofValue? first = some settings ∧ ofToml text = .ok settings) ∧
    (value = .array [] → ofToml text = .error .emptyPluginList) ∧
    ((∀ items, value = .array items → ∃ item ∈ items, fits item = false) →
      ofToml text = ofDocument (document.without "inputs") ∧
      ((∃ e, ofToml text = .error e) ↔
        ∃ field ∈ fields, field.2.admits (document.get? field.1) = false) ∧
      ((∀ field ∈ fields, document.get? field.1 = none) → ofToml text = .ok {})) := by
  have hofToml : ofToml text = ofDocument document := by rw [ofToml, htext]
  have hlist : (plugin? document).bind listOfValue? = listOfValue? value := by
    rw [hplugin, Option.bind_some]
  rw [hofToml]
  refine ⟨fun first rest hvalue hfits => ?_, fun hvalue => ?_, fun hunfit => ?_⟩
  · have hread : (listOfValue? value).isSome = true := by
      rw [isSome_listOfValue?, hvalue]
      exact hfits
    obtain ⟨settings, hsettings⟩ := Option.isSome_iff_exists.mp hread
    obtain ⟨s, later, hfirst, rfl⟩ := ofValue?_of_listOfValue? (hvalue ▸ hsettings)
    refine ⟨s, hfirst, ?_⟩
    rw [ofDocument, bind_pluginList?, hlist, hsettings]
  · have hempty : listOfValue? (.array []) = some [] := rfl
    rw [ofDocument, bind_pluginList?, hlist, hvalue, hempty]
  · have hnone : (plugin? document).bind listOfValue? = none := by
      rw [hlist, ← Option.not_isSome_iff_eq_none, isSome_listOfValue?]
      split
      case _ items => simpa using hunfit items rfl
      case _ => exact Bool.false_ne_true
    refine ⟨ofDocument_of_unreadable hnone, ?_, fun hnofield => ?_⟩
    · rw [← ofTable?_eq_none_iff, ofDocument, bind_pluginList?, hnone]
      dsimp only
      cases ofTable? document with
      | none => exact ⟨fun _ => rfl, fun _ => ⟨_, rfl⟩⟩
      | some settings => exact ⟨fun ⟨_, h⟩ => (nomatch h), nofun⟩
    · rw [ofDocument, bind_pluginList?, hnone, ofTable?_of_no_field hnofield]

/-- The second entry is unfit, so the first counts for nothing: the file stands for what is at its
top. -/
theorem ofToml_of_plugin_laterUnfit :
    let text :=
      "domain = \"example.org\"\n[[inputs.deepmon_dns]]\ndomain = \"example.com\"\n" ++
      "[[inputs.deepmon_dns]]\ndomain = 7\n"
    ∃ document first second, Table.ofText? text = some document ∧
      plugin? document = some (.array [first, second]) ∧
      ofValue? first = some { domain := "example.com" } ∧ fits second = false ∧
      ofToml text = .ok { domain := "example.org" } := by
  intro text
  let first : Value := .table [("domain", .string "example.com")]
  let second : Value := .table [("domain", .integer 7)]
  let document : Table :=
    [("domain", .string "example.org"),
      ("inputs", .table [("deepmon_dns", .array [first, second])])]
  have htext : Table.ofText? text = some document := by decide +kernel
  have hplugin : plugin? document = some (.array [first, second]) := rfl
  obtain ⟨-, -, hunfit⟩ := ofToml_of_plugin htext hplugin
  obtain ⟨hofToml, -, -⟩ := hunfit fun items hitems => by
    obtain rfl := Value.array.inj hitems
    exact ⟨second, by simp, rfl⟩
  exact ⟨document, first, second, htext, hplugin, rfl, rfl, hofToml.trans rfl⟩

/-- The port of the only entry is written as a text. The file is not refused, and the domain of the
entry is lost: the file stands for the defaults. -/
theorem ofToml_portAsText :
    let text := "[[inputs.deepmon_dns]]\ndomain = \"example.com\"\nresolver_port = \"53\"\n"
    ∃ document entry, Table.ofText? text = some document ∧
      plugin? document = some (.array [entry]) ∧ ofValue? entry = none ∧ ofToml text = .ok {} := by
  intro text
  let entry : Value := .table [("domain", .string "example.com"), ("resolver_port", .string "53")]
  let document : Table := [("inputs", .table [("deepmon_dns", .array [entry])])]
  have htext : Table.ofText? text = some document := by decide +kernel
  exact ⟨document, entry, htext, rfl, rfl, by rw [ofToml, htext]; rfl⟩

end Settings

end DnsHealth
