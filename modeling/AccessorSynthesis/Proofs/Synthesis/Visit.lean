import AccessorSynthesis.Proofs.Declaration.Header
import AccessorSynthesis.Proofs.Synthesis.Derivation
import AccessorSynthesis.Synthesis.Basic

/-!
# Visit — everything that one visit of a declaration can do

This file defines

* `Event.findings` — the messages that are more than traces;
* `Table.Unsettled table id declaration` — no visit has decided about the declaration;
* `Configuration.Examined config table id verdict found` — the verdict may be given, and `found` be
  found on the way to it;
* `Configuration.Visited config table id later found` — a visit may lead to the table `later` and
  find `found`.

`examined_examine` says that `Examined` holds of `Configuration.examine`, and `visited_synthesize`
that `Visited` holds of `Configuration.synthesize`.  Proofs about visits go by cases on one of them
and need not unfold the decisions again.
-/

namespace AccessorSynthesis

/-! ## Findings -/

namespace Event

/-- The messages that are more than traces, in order. -/
def findings (events : List Event) : List Message :=
  (messages events).filter fun said => said.severity ≠ .logging

theorem messages_append (events later : List Event) :
    messages (events ++ later) = messages events ++ messages later :=
  List.filterMap_append

theorem messages_map_message (said : List Message) : messages (said.map .message) = said := by
  induction said with
  | nil =>
      rfl
  | cons first said ih =>
      exact congrArg (first :: ·) ih

@[simp] theorem findings_nil : findings [] = [] := rfl

@[simp] theorem findings_append (events later : List Event) :
    findings (events ++ later) = findings events ++ findings later := by
  simp [findings, messages]

@[simp] theorem findings_log (line : LogLine) (events : List Event) :
    findings (.log line :: events) = findings events := rfl

@[simp] theorem findings_trace (text : String) (events : List Event) :
    findings (.message (.trace text) :: events) = findings events := rfl

@[simp] theorem findings_diagnostic (diagnostic : Diagnostic) (events : List Event) :
    findings (.message diagnostic.message :: events) = diagnostic.message :: findings events := by
  rcases diagnostic with ⟨problem, span⟩
  cases problem <;> rfl

@[simp] theorem findings_map_log (lines : List LogLine) : findings (lines.map .log) = [] := by
  induction lines with
  | nil =>
      rfl
  | cons line lines ih =>
      exact ih

theorem findings_map_message {said : List Message} (h : ∀ message ∈ said, message.severity = .logging) :
    findings (said.map .message) = [] := by
  unfold findings
  rw [messages_map_message, List.filter_eq_nil_iff]
  intro message hmessage
  simp [h message hmessage]

end Event

/-! ## Undecided declarations -/

/-- The declaration has no accessor and was not refused one either. -/
structure Table.Unsettled (table : Table) (id : DeclarationId) (declaration : Declaration) :
    Prop where
  get? : table.get? id = some declaration
  accessor? : table.accessor? id = none
  isRejected : table.isRejected id = false

theorem Table.Unsettled.unique {table : Table} {id : DeclarationId} {declaration found : Declaration}
    (h : table.Unsettled id declaration) (hfound : table.Unsettled id found) : found = declaration :=
  Option.some.inj (hfound.get?.symm.trans h.get?)

theorem Table.not_unsettled_reject {table : Table} {id : DeclarationId} {declaration : Declaration} :
    ¬(table.reject id).Unsettled id declaration := by
  intro h
  have hrejected := h.isRejected
  rw [Table.isRejected_reject_self] at hrejected
  cases hrejected

namespace Configuration

variable {config : Configuration} {table : Table} {id : DeclarationId} {declaration : Declaration}

/-- What the accessor of a declaration returns: the text that its annotation gives, or else its own
simple name. -/
def literal (config : Configuration) (declaration : Declaration) : String :=
  (declaration.override? config.mark config.overrideKey).getD declaration.name.simpleName

/-- The accessor that a declaration gets. -/
def accessorOf (config : Configuration) (id : DeclarationId) (declaration : Declaration) : Accessor :=
  declaration.accessor id config.accessorName (config.literal declaration)

/-! ## Verdicts -/

/-- What a verdict says of the table that it is about, and what was found on the way to it. -/
inductive Examined (config : Configuration) (table : Table) (id : DeclarationId) :
    Verdict → List Message → Prop where
  | leave (h : config.enabled = true → ∀ declaration, ¬table.Unsettled id declaration) :
      Examined config table id .leave []
  | keep (accessor : Accessor) (h : table.accessor? id = some accessor) :
      Examined config table id (.keep accessor) []
  | pass (declaration : Declaration) (h : table.Unsettled id declaration)
      (hmark : ¬table.Inherits id config.mark) : Examined config table id .pass []
  | unsupported (declaration : Declaration) (h : table.Unsettled id declaration)
      (hmark : table.Inherits id config.mark) (hshape : declaration.shape.IsRestricted) :
      Examined config table id .refuse
        [Diagnostic.message ⟨.unsupportedShape config.mark.simpleName, declaration.span⟩]
  | nameTaken (declaration : Declaration) (member : Member)
      (h : table.Unsettled id declaration) (hmark : table.Inherits id config.mark)
      (hshape : ¬declaration.shape.IsRestricted)
      (hmember : declaration.members.find? config.accessorName = some member) :
      Examined config table id .refuse
        [Diagnostic.message ⟨.nameTaken config.accessorName, declaration.span⟩]
  | grant (declaration : Declaration) (h : table.Unsettled id declaration)
      (hmark : table.Inherits id config.mark) (hshape : ¬declaration.shape.IsRestricted)
      (hfree : declaration.members.find? config.accessorName = none) :
      Examined config table id (.grant (config.accessorOf id declaration)) []

theorem examined_examineTrackable (h : table.Unsettled id declaration)
    (hmark : table.Inherits id config.mark) (origin : Declaration) :
    config.Examined table id (config.examineTrackable id declaration origin).1
      (Event.findings (config.examineTrackable id declaration origin).2) := by
  unfold examineTrackable
  by_cases hshape : declaration.shape.IsRestricted
  · simp only [Declaration.restriction?_of_isRestricted hshape]
    simpa using Examined.unsupported declaration h hmark hshape
  · simp only [Declaration.restriction?_of_not_isRestricted hshape]
    cases hmember : declaration.members.find? config.accessorName with
    | some member =>
        simpa using Examined.nameTaken declaration member h hmark hshape hmember
    | none =>
        show config.Examined table id (.grant (config.accessorOf id declaration)) _
        simpa using Examined.grant declaration h hmark hshape hmember

theorem examined_examine (config : Configuration) (table : Table) (id : DeclarationId) :
    config.Examined table id (config.examine table id).1
      (Event.findings (config.examine table id).2) := by
  unfold examine
  split
  · rename_i hdisabled
    exact .leave fun henabled => by simp [henabled] at hdisabled
  · split
    · rename_i accessor haccessor
      exact .keep accessor haccessor
    · rename_i hnone
      split
      · rename_i hrejected
        refine .leave fun _ declaration h => ?_
        rw [h.isRejected] at hrejected
        cases hrejected
      · rename_i hrejected
        split
        · rename_i hget
          refine .leave fun _ declaration h => ?_
          rw [h.get?] at hget
          cases hget
        · rename_i declaration hget
          have hunsettled : table.Unsettled id declaration :=
            ⟨hget, hnone, by simpa using hrejected⟩
          split
          · rename_i hcarrier
            simpa using Examined.pass declaration hunsettled (Table.carrier?_eq_none_iff.1 hcarrier)
          · rename_i carrier origin hcarrier
            have hmark : table.Inherits id config.mark := by
              by_contra hunmarked
              rw [Table.carrier?_eq_none_iff.2 hunmarked] at hcarrier
              cases hcarrier
            exact examined_examineTrackable hunsettled hmark origin

theorem exists_examined {verdict : Verdict} {events : List Event}
    (h : config.examine table id = (verdict, events)) :
    ∃ found, Event.findings events = found ∧ config.Examined table id verdict found := by
  have hexamined := config.examined_examine table id
  rw [h] at hexamined
  exact ⟨_, rfl, hexamined⟩

theorem examine_of_unsettled (henabled : config.enabled = true)
    (h : table.Unsettled id declaration) :
    config.examine table id = match table.carrier? id config.mark with
      | none => (.pass, [.message (.trace s!"{declaration.name.text} is not trackable")])
      | some (_, origin) => config.examineTrackable id declaration origin := by
  unfold examine
  simp only [henabled, h.accessor?, h.isRejected, h.get?]
  rfl

/-! ## Visits -/

/-- What a visit of a declaration can lead to, and what it can find. -/
inductive Visited (config : Configuration) (table : Table) (id : DeclarationId) :
    Table → List Message → Prop where
  | passed (h : config.enabled = true → ∀ declaration, ¬table.Unsettled id declaration) :
      Visited config table id table []
  | unmarked (declaration : Declaration) (h : table.Unsettled id declaration)
      (hmark : ¬table.Inherits id config.mark) : Visited config table id table []
  | unsupported (declaration : Declaration) (h : table.Unsettled id declaration)
      (hmark : table.Inherits id config.mark) (hshape : declaration.shape.IsRestricted) :
      Visited config table id (table.reject id)
        [Diagnostic.message ⟨.unsupportedShape config.mark.simpleName, declaration.span⟩]
  | nameTaken (declaration : Declaration) (member : Member)
      (h : table.Unsettled id declaration) (hmark : table.Inherits id config.mark)
      (hshape : ¬declaration.shape.IsRestricted)
      (hmember : declaration.members.find? config.accessorName = some member) :
      Visited config table id (table.reject id)
        [Diagnostic.message ⟨.nameTaken config.accessorName, declaration.span⟩]
  | granted (declaration : Declaration) (later : Table)
      (h : table.Unsettled id declaration) (hmark : table.Inherits id config.mark)
      (hshape : ¬declaration.shape.IsRestricted)
      (hfree : declaration.members.find? config.accessorName = none)
      (hlater : table.Registered declaration (config.accessorOf id declaration) later) :
      Visited config table id later []

/-- Where there is nothing to decide, a visit changes nothing and says nothing. -/
theorem synthesize_of_settled (h : config.enabled = true → ∀ declaration,
    ¬table.Unsettled id declaration) :
    (config.synthesize table id).table = table ∧ (config.synthesize table id).events = [] := by
  -- A registered accessor is returned again; otherwise there is nothing to return.
  have hexamine : config.examine table id = (.leave, []) ∨
      ∃ accessor, config.examine table id = (.keep accessor, []) := by
    unfold examine
    by_cases henabled : config.enabled = true
    · cases haccessor : table.accessor? id with
      | some accessor =>
          exact Or.inr ⟨accessor, by simp [henabled]⟩
      | none =>
          cases hrejected : table.isRejected id with
          | true =>
              exact Or.inl (by simp [henabled])
          | false =>
              cases hget : table.get? id with
              | none =>
                  exact Or.inl (by simp [henabled])
              | some declaration =>
                  exact absurd ⟨hget, haccessor, hrejected⟩ (h henabled declaration)
    · exact Or.inl (by simp [henabled])
  unfold synthesize
  rcases hexamine with hleave | ⟨accessor, hkeep⟩
  · rw [hleave]
    exact ⟨rfl, rfl⟩
  · rw [hkeep]
    exact ⟨rfl, rfl⟩

/-- A declaration that is not trackable is left alone, which is said each time. -/
theorem synthesize_of_unmarked (henabled : config.enabled = true)
    (h : table.Unsettled id declaration) (hmark : ¬table.Inherits id config.mark) :
    config.synthesize table id
      = ⟨table, none, [.message (.trace s!"{declaration.name.text} is not trackable")]⟩ := by
  have hexamine := examine_of_unsettled henabled h
  rw [Table.carrier?_eq_none_iff.2 hmark] at hexamine
  unfold synthesize
  rw [hexamine]

theorem synthesize_of_refuse {events : List Event}
    (h : config.examine table id = (.refuse, events)) :
    config.synthesize table id = ⟨table.reject id, none, events⟩ := by
  unfold synthesize
  rw [h]

theorem synthesize_of_grant {accessor : Accessor} {events : List Event} {later : Table}
    (h : config.examine table id = (.grant accessor, events))
    (hregister : table.register accessor = .ok later) :
    config.synthesize table id = ⟨later, some accessor, events⟩ := by
  unfold synthesize
  rw [h]
  simp only [hregister]

/-- Nothing keeps the table from an accessor that there is room for. -/
theorem exists_registered_of_unsettled (h : table.Unsettled id declaration)
    (hfree : declaration.members.find? config.accessorName = none) :
    ∃ later, table.register (config.accessorOf id declaration) = .ok later ∧
      table.Registered declaration (config.accessorOf id declaration) later :=
  Table.exists_registered h.get? h.accessor? hfree

theorem visited_synthesize (config : Configuration) (table : Table) (id : DeclarationId) :
    config.Visited table id (config.synthesize table id).table
      (Event.findings (config.synthesize table id).events) := by
  rcases hexamine : config.examine table id with ⟨verdict, events⟩
  rcases exists_examined hexamine with ⟨found, hfound, hexamined⟩
  cases hexamined with
  | leave hsettled =>
      simp only [synthesize, hexamine, hfound]
      exact .passed hsettled
  | keep accessor haccessor =>
      simp only [synthesize, hexamine, hfound]
      refine .passed fun _ declaration h => ?_
      rw [h.accessor?] at haccessor
      cases haccessor
  | pass declaration h hmark =>
      simp only [synthesize, hexamine, hfound]
      exact .unmarked declaration h hmark
  | unsupported declaration h hmark hshape =>
      rw [synthesize_of_refuse hexamine, hfound]
      exact .unsupported declaration h hmark hshape
  | nameTaken declaration member h hmark hshape hmember =>
      rw [synthesize_of_refuse hexamine, hfound]
      exact .nameTaken declaration member h hmark hshape hmember
  | grant declaration h hmark hshape hfree =>
      rcases exists_registered_of_unsettled h hfree with ⟨later, hlater, hregistered⟩
      rw [synthesize_of_grant hexamine hlater, hfound]
      exact .granted declaration later h hmark hshape hfree hregistered

/-- A visit of an enabled configuration grants an accessor where nothing stands in the way. -/
theorem registered_synthesize (henabled : config.enabled = true)
    (h : table.Unsettled id declaration) (hmark : table.Inherits id config.mark)
    (hshape : ¬declaration.shape.IsRestricted)
    (hfree : declaration.members.find? config.accessorName = none) :
    table.Registered declaration (config.accessorOf id declaration)
      (config.synthesize table id).table := by
  have hvisited := visited_synthesize config table id
  -- Of all that a visit can do, only the grant fits the assumptions.
  generalize (config.synthesize table id).table = later at hvisited ⊢
  generalize Event.findings (config.synthesize table id).events = findings at hvisited
  cases hvisited with
  | passed hpassed =>
      exact absurd h (hpassed henabled declaration)
  | unmarked _ _ hunmarked =>
      exact absurd hmark hunmarked
  | unsupported found hfound _ hrestricted =>
      cases h.unique hfound
      exact absurd hrestricted hshape
  | nameTaken found member hfound _ _ hmember =>
      cases h.unique hfound
      rw [hfree] at hmember
      cases hmember
  | granted found _ hfound _ _ _ hlater =>
      cases h.unique hfound
      exact hlater

/-! ## Answers -/

/-- An accessor that is to be granted is never refused by the table. -/
theorem exists_registered_of_grant {accessor : Accessor} {events : List Event}
    (h : config.examine table id = (.grant accessor, events)) :
    ∃ later declaration, table.register accessor = .ok later ∧
      accessor = config.accessorOf id declaration ∧ table.Unsettled id declaration ∧
      table.Registered declaration accessor later := by
  rcases exists_examined h with ⟨_, _, hexamined⟩
  cases hexamined with
  | grant declaration hunsettled hmark hshape hfree =>
      rcases exists_registered_of_unsettled hunsettled hfree with ⟨later, hlater, hregistered⟩
      exact ⟨later, declaration, hlater, rfl, hunsettled, hregistered⟩

/-- The accessor that a visit returns is in the table that the visit leaves. -/
theorem accessor?_of_synthesize {accessor : Accessor}
    (h : (config.synthesize table id).accessor = some accessor) :
    (config.synthesize table id).table.accessor? id = some accessor := by
  rcases hexamine : config.examine table id with ⟨verdict, events⟩
  rcases exists_examined hexamine with ⟨_, _, hexamined⟩
  unfold synthesize at h ⊢
  rw [hexamine] at h ⊢
  cases hexamined with
  | leave _ | pass _ _ _ | unsupported _ _ _ _ | nameTaken _ _ _ _ _ _ =>
      cases h
  | keep found hfound =>
      cases h
      exact hfound
  | grant _ _ _ _ _ =>
      rcases exists_registered_of_grant hexamine with ⟨later, _, hlater, -, -, hregistered⟩
      simp only [hlater] at h ⊢
      cases h
      exact hregistered.accessor?_owner

/-- A registered accessor is returned again, and nothing is said about it. -/
theorem synthesize_of_accessor? {accessor : Accessor} (henabled : config.enabled = true)
    (h : table.accessor? id = some accessor) :
    config.synthesize table id = ⟨table, some accessor, []⟩ := by
  unfold synthesize examine
  simp [henabled, h]

/-- A declaration that was refused an accessor is not asked again. -/
theorem synthesize_of_isRejected (hnone : table.accessor? id = none)
    (hrejected : table.isRejected id = true) : config.synthesize table id = ⟨table, none, []⟩ := by
  unfold synthesize examine
  cases config.enabled with
  | false =>
      rfl
  | true =>
      simp [hnone, hrejected]

/-! ## What a visit leaves as it is -/

namespace Visited

variable {later : Table} {found : List Message} {other : DeclarationId}

/-- A visit concerns the visited declaration alone. -/
theorem sameAt (h : config.Visited table id later found) (hother : other ≠ id) :
    table.SameAt later other := by
  cases h with
  | passed hsettled =>
      exact Table.SameAt.refl table other
  | unmarked declaration hunsettled hmark =>
      exact Table.SameAt.refl table other
  | unsupported declaration hunsettled hmark hshape =>
      exact Table.sameAt_reject hother
  | nameTaken declaration member hunsettled hmark hshape hmember =>
      exact Table.sameAt_reject hother
  | granted declaration later hunsettled hmark hshape hfree hlater =>
      exact hlater.others other hother

/-- Of the visited declaration, a visit changes members at most. -/
theorem sameHeaders (h : config.Visited table id later found) : table.SameHeaders later := by
  cases h with
  | passed hsettled =>
      exact .refl table
  | unmarked declaration hunsettled hmark =>
      exact .refl table
  | unsupported declaration hunsettled hmark hshape =>
      exact .refl table
  | nameTaken declaration member hunsettled hmark hshape hmember =>
      exact .refl table
  | granted declaration later hunsettled hmark hshape hfree hlater =>
      exact hlater.sameHeaders hunsettled.get?

/-- A declaration that a visit leaves undecided is not trackable, and the visit did nothing. -/
theorem eq_of_unsettled (h : config.Visited table id later found)
    (hlater : later.Unsettled id declaration) :
    later = table ∧ (config.enabled = true → ¬table.Inherits id config.mark) := by
  cases h with
  | passed hsettled =>
      exact ⟨rfl, fun henabled _ => hsettled henabled declaration hlater⟩
  | unmarked _ _ hmark =>
      exact ⟨rfl, fun _ => hmark⟩
  | unsupported _ _ _ _ =>
      exact absurd hlater Table.not_unsettled_reject
  | nameTaken _ _ _ _ _ _ =>
      exact absurd hlater Table.not_unsettled_reject
  | granted _ _ _ _ _ _ hregistered =>
      have hsome : later.accessor? id = some _ := hregistered.accessor?_owner
      have hnone := hlater.accessor?
      rw [hsome] at hnone
      cases hnone

/-- What is undecided after a visit was undecided before. -/
theorem unsettled (h : config.Visited table id later found)
    (hlater : later.Unsettled other declaration) : table.Unsettled other declaration := by
  by_cases hother : other = id
  · subst hother
    rw [(h.eq_of_unsettled hlater).1] at hlater
    exact hlater
  · have hsame := h.sameAt hother
    exact ⟨hsame.get?.symm.trans hlater.get?, hsame.accessor?.symm.trans hlater.accessor?,
      hsame.isRejected.symm.trans hlater.isRejected⟩

end Visited

end Configuration
end AccessorSynthesis
