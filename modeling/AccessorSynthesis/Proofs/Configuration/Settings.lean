import AccessorSynthesis.Configuration.Choices
import AccessorSynthesis.Configuration.Settings
import AccessorSynthesis.Proofs.Toml.Document

/-!
# Settings — what the entries of a document make of the options

This file defines

* `IsSetting entry` — the entry sets an option;
* `Offends entry error` — the entry sets none, and this is what is wrong with it;
* `Choices.ofEntries` — the options that stand under their keys;
* `IsStrict entries outcome` — what is to be said of the options that entries give.

Entries under distinct keys give options if each of them sets one, and then these are chosen in
whatever order they are written; otherwise the first one that sets none is reported (`strict`).  The
keys of a document are distinct, so that this covers documents as well (`parse_cases`).
-/

namespace AccessorSynthesis

/-! ## Single entries -/

/-- The truth value that a value is. -/
def Toml.Value.boolean? : Toml.Value → Option Bool
  | .boolean value => some value
  | _ => none

/-- The text that a value is. -/
def Toml.Value.string? : Toml.Value → Option String
  | .string text => some text
  | _ => none

/-- The entry has the key of an option and a value of its kind. -/
inductive IsSetting : String × Toml.Value → Prop where
  | enabled (value : Bool) : IsSetting ("enabled", .boolean value)
  | accessorName (text : String) : IsSetting ("accessorName", .string text)
  | mark (text : String) : IsSetting ("trackableAnnotation", .string text)
  | overrideKey (text : String) : IsSetting ("trackWith", .string text)

/-- What is wrong with an entry that sets no option. -/
inductive Offends : String × Toml.Value → ConfigurationError → Prop where
  | unknown {key : String} {value : Toml.Value} :
      key ∉ ["enabled", "accessorName", "trackableAnnotation", "trackWith"] →
      Offends (key, value) (.unknownField key)
  | kind {setting : Setting} {value : Toml.Value} :
      ¬IsSetting (setting.key, value) → Offends (setting.key, value) (.invalidType setting value)

/-- The options that stand under their keys. -/
def Choices.ofEntries (entries : List (String × Toml.Value)) : Choices where
  enabled := (entries.lookup "enabled").bind Toml.Value.boolean?
  accessorName := (entries.lookup "accessorName").bind Toml.Value.string?
  mark := (entries.lookup "trackableAnnotation").bind fun value => value.string?.map QualifiedName.mk
  overrideKey := (entries.lookup "trackWith").bind Toml.Value.string?

theorem Offends.not_isSetting {entry : String × Toml.Value} {error : ConfigurationError}
    (h : Offends entry error) : ¬IsSetting entry := by
  cases h with
  | unknown hunknown =>
      intro hsetting
      cases hsetting <;> simp at hunknown
  | kind hkind =>
      exact hkind

theorem Setting.key_of_ofKey? {key : String} {setting : Setting}
    (h : Setting.ofKey? key = some setting) : setting.key = key := by
  simpa using List.find?_some h

theorem Setting.not_mem_of_ofKey? {key : String} (h : Setting.ofKey? key = none) :
    key ∉ ["enabled", "accessorName", "trackableAnnotation", "trackWith"] := by
  have hall : ∀ setting ∈ all, setting.key ≠ key := by
    simpa [Setting.ofKey?] using h
  simpa [all, Setting.key, eq_comm] using hall

namespace Configuration

variable {config : Configuration} {entries : List (String × Toml.Value)}

theorem set_of_isSetting {entry : String × Toml.Value} (h : IsSetting entry) :
    config.set entry.1 entry.2 = .ok (config.choose (Choices.ofEntries [entry])) := by
  cases h <;> rfl

theorem set_of_not_isSetting {setting : Setting} {value : Toml.Value}
    (h : ¬IsSetting (setting.key, value)) :
    config.set setting.key value = .error (.invalidType setting value) := by
  cases setting with
  | enabled =>
      cases value with
      | boolean value =>
          exact absurd (IsSetting.enabled value) h
      | _ =>
          rfl
  | accessorName =>
      cases value with
      | string text =>
          exact absurd (IsSetting.accessorName text) h
      | _ =>
          rfl
  | mark =>
      cases value with
      | string text =>
          exact absurd (IsSetting.mark text) h
      | _ =>
          rfl
  | overrideKey =>
      cases value with
      | string text =>
          exact absurd (IsSetting.overrideKey text) h
      | _ =>
          rfl

/-- An entry sets an option, or what is wrong with it is reported. -/
theorem set_cases (config : Configuration) (entry : String × Toml.Value) :
    IsSetting entry ∨ ∃ error, Offends entry error ∧ config.set entry.1 entry.2 = .error error := by
  rcases entry with ⟨key, value⟩
  cases hkey : Setting.ofKey? key with
  | none =>
      refine Or.inr ⟨_, Offends.unknown (Setting.not_mem_of_ofKey? hkey), ?_⟩
      simp [set, hkey]
  | some setting =>
      have hsame := Setting.key_of_ofKey? hkey
      subst hsame
      by_cases hsetting : IsSetting (setting.key, value)
      · exact Or.inl hsetting
      · exact Or.inr ⟨_, Offends.kind hsetting, set_of_not_isSetting hsetting⟩

/-! ## Lists of entries -/

/-- What stands under a key is what the first entry says, or else the others, if no two entries say
it. -/
theorem getD_lookup_cons {α : Type} (read : Toml.Value → Option α) {entry : String × Toml.Value}
    (habsent : entry.1 ∉ entries.map Prod.fst) (key : String) (default : α) :
    (((entry :: entries).lookup key).bind read).getD default
      = ((entries.lookup key).bind read).getD ((([entry].lookup key).bind read).getD default) := by
  rw [Keyed.lookup_cons_eq, Keyed.lookup_cons_eq]
  by_cases hkey : key = entry.1
  · have hnone : entries.lookup key = none := Keyed.lookup_eq_none_of_not_mem (hkey ▸ habsent)
    rw [if_pos hkey, if_pos hkey, hnone]
    rfl
  · rw [if_neg hkey, if_neg hkey]
    rfl

/-- Choosing what entries say is choosing what the first one says and then what the others say. -/
theorem choose_cons {entry : String × Toml.Value} (habsent : entry.1 ∉ entries.map Prod.fst)
    (config : Configuration) : config.choose (Choices.ofEntries (entry :: entries))
      = (config.choose (Choices.ofEntries [entry])).choose (Choices.ofEntries entries) := by
  simp only [choose, Choices.ofEntries, getD_lookup_cons _ habsent]

/-- Entries are all taken up, or the first one that sets no option is reported. -/
theorem foldlM_set_cases (hdistinct : (entries.map Prod.fst).Nodup) (config : Configuration) :
    (∀ entry ∈ entries, IsSetting entry) ∧
        entries.foldlM (fun config entry => config.set entry.1 entry.2) config
          = .ok (config.choose (Choices.ofEntries entries)) ∨
      ∃ front offender back error, entries = front ++ offender :: back ∧
        (∀ entry ∈ front, IsSetting entry) ∧ Offends offender error ∧
        entries.foldlM (fun config entry => config.set entry.1 entry.2) config = .error error := by
  induction entries generalizing config with
  | nil =>
      exact Or.inl ⟨by simp, rfl⟩
  | cons entry entries ih =>
      rw [List.map_cons, List.nodup_cons] at hdistinct
      rw [List.foldlM_cons]
      rcases set_cases config entry with hsetting | ⟨error, hoffends, hset⟩
      · -- What the first entry says is not said again, so that the others leave it as it is.
        rw [set_of_isSetting hsetting, choose_cons hdistinct.1]
        rcases ih hdistinct.2 (config.choose (Choices.ofEntries [entry])) with
          ⟨hsettings, hfold⟩ | ⟨front, offender, back, error, rfl, hfront, hoffends, hfold⟩
        · exact Or.inl ⟨List.forall_mem_cons.2 ⟨hsetting, hsettings⟩, hfold⟩
        · exact Or.inr ⟨entry :: front, offender, back, error, rfl,
            List.forall_mem_cons.2 ⟨hsetting, hfront⟩, hoffends, hfold⟩
      · refine Or.inr ⟨[], entry, entries, error, rfl, by simp, hoffends, ?_⟩
        rw [hset]
        rfl

/-! ## The options of entries and of documents -/

/-- The entries give these options, or are refused for this reason, as they should. -/
structure IsStrict (entries : List (String × Toml.Value))
    (outcome : Except ConfigurationError Configuration) : Prop where
  /-- They give options just if each of them sets one. -/
  accepted_iff : (∃ config, outcome = .ok config) ↔ ∀ entry ∈ entries, IsSetting entry
  /-- What stands under the key of an option is chosen, and the other options have their defaults. -/
  chosen : ∀ config, outcome = .ok config → config = build (Choices.ofEntries entries)
  /-- Their order does not matter. -/
  unordered : ∀ config, outcome = .ok config →
    ∀ others, others.Perm entries → Configuration.ofEntries others = .ok config
  /-- The first one that sets no option is reported. -/
  rejected : ∀ error, outcome = .error error → ∃ front offender back,
    entries = front ++ offender :: back ∧ (∀ entry ∈ front, IsSetting entry) ∧
    Offends offender error

theorem ofEntries_of_isSetting (hdistinct : (entries.map Prod.fst).Nodup)
    (h : ∀ entry ∈ entries, IsSetting entry) :
    Configuration.ofEntries entries = .ok (build (Choices.ofEntries entries)) := by
  rcases foldlM_set_cases hdistinct standard with
    ⟨_, hfold⟩ | ⟨front, offender, back, _, hentries, _, hoffends, _⟩
  · exact hfold
  · exact absurd (h offender (by simp [hentries])) hoffends.not_isSetting

theorem isStrict_of_isSetting (hdistinct : (entries.map Prod.fst).Nodup)
    (h : ∀ entry ∈ entries, IsSetting entry) :
    IsStrict entries (Configuration.ofEntries entries) := by
  rw [ofEntries_of_isSetting hdistinct h]
  constructor
  · exact ⟨fun _ => h, fun _ => ⟨_, rfl⟩⟩
  · rintro config ⟨⟩
    rfl
  · -- The same values stand under the keys of the other list.
    rintro config ⟨⟩ others hperm
    have hothers : (others.map Prod.fst).Nodup := (hperm.map Prod.fst).nodup_iff.2 hdistinct
    have hsame : Choices.ofEntries others = Choices.ofEntries entries := by
      simp only [Choices.ofEntries, Keyed.lookup_perm hdistinct hperm]
    rw [← hsame]
    exact ofEntries_of_isSetting hothers fun entry hentry => h entry (hperm.mem_iff.1 hentry)
  · rintro error ⟨⟩

theorem isStrict_of_offends {front back : List (String × Toml.Value)}
    {offender : String × Toml.Value} {error : ConfigurationError}
    (hentries : entries = front ++ offender :: back) (hfront : ∀ entry ∈ front, IsSetting entry)
    (hoffends : Offends offender error) : IsStrict entries (.error error) := by
  constructor
  · constructor
    · rintro ⟨config, ⟨⟩⟩
    · intro hsettings
      exact absurd (hsettings offender (by simp [hentries])) hoffends.not_isSetting
  · rintro config ⟨⟩
  · rintro config ⟨⟩
  · rintro cause ⟨⟩
    exact ⟨front, offender, back, hentries, hfront, hoffends⟩

/-- The options of entries are strict whatever keys and values these have, as long as their keys are
distinct. -/
theorem strict {entries : List (String × Toml.Value)} (distinct : (entries.map Prod.fst).Nodup) :
    IsStrict entries (Configuration.ofEntries entries) := by
  rcases foldlM_set_cases distinct standard with
    ⟨hsettings, _⟩ | ⟨front, offender, back, error, hentries, hfront, hoffends, hfold⟩
  · exact isStrict_of_isSetting distinct hsettings
  · have herror : Configuration.ofEntries entries = .error error := hfold
    rw [herror]
    exact isStrict_of_offends hentries hfront hoffends

/-- Two options are set, the later one first. -/
theorem strict_ofTwoEntries :
    ([("trackWith", Toml.Value.string "label"), ("enabled", .boolean false)].map Prod.fst).Nodup ∧
    Configuration.ofEntries [("trackWith", .string "label"), ("enabled", .boolean false)]
      = .ok (build { enabled := some false, overrideKey := some "label" }) ∧
    IsStrict [("trackWith", .string "label"), ("enabled", .boolean false)]
      (.ok (build { enabled := some false, overrideKey := some "label" })) := by
  have hdistinct : ([("trackWith", Toml.Value.string "label"),
      ("enabled", .boolean false)].map Prod.fst).Nodup := by
    decide
  exact ⟨hdistinct, rfl, strict hdistinct⟩

/-- A document that is not malformed gives the options of its entries, whose keys are distinct. -/
theorem parse_cases (document : String) :
    Toml.parse? document = none ∧ parse document = .error .malformed ∨
      ∃ keyed, Toml.parse? document = some keyed ∧ (keyed.entries.map Prod.fst).Nodup ∧
        parse document = Configuration.ofEntries keyed.entries := by
  unfold parse
  cases hdocument : Toml.parse? document with
  | none =>
      exact Or.inl ⟨rfl, rfl⟩
  | some keyed =>
      exact Or.inr ⟨keyed, rfl, Toml.nodup_keys_of_parse? hdocument, rfl⟩

end Configuration
end AccessorSynthesis
