import AccessorSynthesis.Compilation.Basic
import AccessorSynthesis.Proofs.Synthesis.Visit

/-!
# Repetition — what further visits come to

Any number of configurations may be installed, and the table may have accessors from the start.
Each visit leaves a declaration with an accessor, refused, or not trackable for the configuration
that visits it; later visits, also those of other declarations and by other configurations, keep it
so.  This file defines

* `Configuration.Decided config table id` — a visit would change nothing;
* `Registry.ofConfigurations configs` — the registry in which the configurations are installed, and
  `Configuration.installed configs`, those that run, in this order;
* `Table.remarks table configs items` — what visits of decided declarations say.

After one pass everything is decided, and what a further one adds are these remarks
(`Table.resolve_again`).
-/

namespace AccessorSynthesis

/-! ## Remarks -/

namespace Table

variable {table : Table} {id : DeclarationId} {declaration : Declaration}

/-- The declaration has no accessor and was not refused one. -/
def isUndecided (table : Table) (id : DeclarationId) : Bool :=
  (table.accessor? id).isNone && !table.isRejected id

theorem unsettled_iff (hget : table.get? id = some declaration) :
    table.Unsettled id declaration ↔ table.isUndecided id = true := by
  unfold isUndecided
  rw [Bool.and_eq_true, Option.isNone_iff_eq_none, Bool.not_eq_true']
  constructor
  · exact fun h => ⟨h.accessor?, h.isRejected⟩
  · exact fun h => ⟨hget, h.1, h.2⟩

/-- What is said of a declaration that is not trackable. -/
def remark (declaration : Declaration) : Message :=
  ⟨.logging, s!"Trackable: {declaration.name.text} is not trackable", none⟩

/-- A visit that passes over a declaration says the remark. -/
theorem trace_eq_remark (declaration : Declaration) :
    Message.trace s!"{declaration.name.text} is not trackable" = remark declaration := by
  simp [Message.trace, remark, toString, String.append_assoc]

/-- One remark per undecided declaration and configuration, in the order of the declarations. -/
def remarks (table : Table) (configs : List Configuration)
    (items : List (DeclarationId × Declaration)) : List Message :=
  (items.filter fun item => table.isUndecided item.1).flatMap fun item =>
    configs.map fun _ => remark item.2

theorem remarks_cons (table : Table) (configs : List Configuration)
    (item : DeclarationId × Declaration) (items : List (DeclarationId × Declaration)) :
    table.remarks configs (item :: items)
      = (if table.isUndecided item.1 then configs.map fun _ => remark item.2 else [])
        ++ table.remarks configs items := by
  unfold remarks
  rw [List.filter_cons]
  split
  · exact List.flatMap_cons
  · rfl

theorem severity_of_mem_remarks {configs : List Configuration}
    {items : List (DeclarationId × Declaration)} {said : Message}
    (h : said ∈ table.remarks configs items) : said.severity = .logging := by
  rcases List.mem_flatMap.1 h with ⟨item, _, hsaid⟩
  rcases List.mem_map.1 hsaid with ⟨config, _, rfl⟩
  rfl

/-- Remarks are traces, so that no number of them is a finding. -/
theorem findings_replicate_remarks (table : Table) (configs : List Configuration)
    (items : List (DeclarationId × Declaration)) (count : Nat) :
    Event.findings ((List.replicate count (table.remarks configs items)).flatten.map .message)
      = [] := by
  refine Event.findings_map_message ?_
  intro said hsaid
  rcases List.mem_flatten.1 hsaid with ⟨remarks, hremarks, hmem⟩
  rw [List.eq_of_mem_replicate hremarks] at hmem
  exact severity_of_mem_remarks hmem

end Table

/-! ## Decisions that stand -/

namespace Configuration

variable {config : Configuration} {table later : Table} {id : DeclarationId}
variable {declaration : Declaration} {found : List Message}

/-- Nothing is left to decide about the declaration: it has an accessor, it was refused one, or it
is not trackable. -/
def Decided (config : Configuration) (table : Table) (id : DeclarationId) : Prop :=
  ∀ declaration, table.Unsettled id declaration → ¬table.Inherits id config.mark

theorem decided_of_visited (henabled : config.enabled = true)
    (h : config.Visited table id later found) : config.Decided later id := by
  intro declaration hlater
  rcases h.eq_of_unsettled hlater with ⟨rfl, hmark⟩
  exact hmark henabled

/-- No visit destroys the property, whichever configuration visits whatever declaration. -/
def Kept (property : Table → Prop) : Prop :=
  ∀ config table id later found, Visited config table id later found → property table → property later

theorem kept_decided (config : Configuration) (id : DeclarationId) :
    Kept fun table => config.Decided table id := by
  intro visitor table other later found hvisited h declaration hlater
  rw [hvisited.sameHeaders.inherits_iff]
  exact h declaration (hvisited.unsettled hlater)

theorem kept_sameHeaders (start : Table) : Kept start.SameHeaders :=
  fun _ _ _ _ _ hvisited h => h.trans hvisited.sameHeaders

/-- A visit of a decided declaration changes nothing and finds nothing. -/
theorem synthesize_of_decided (h : config.Decided table id) :
    (config.synthesize table id).table = table ∧
      Event.findings (config.synthesize table id).events = [] := by
  have hvisited := config.visited_synthesize table id
  generalize (config.synthesize table id).table = later at hvisited ⊢
  generalize Event.findings (config.synthesize table id).events = findings at hvisited ⊢
  cases hvisited with
  | passed _ | unmarked _ _ _ =>
      exact ⟨rfl, rfl⟩
  | unsupported declaration hunsettled hmark _ =>
      exact absurd hmark (h declaration hunsettled)
  | nameTaken declaration _ hunsettled hmark _ _ =>
      exact absurd hmark (h declaration hunsettled)
  | granted declaration _ hunsettled hmark _ _ _ =>
      exact absurd hmark (h declaration hunsettled)

/-- A visit of a decided declaration changes nothing.  It has something to say if no decision is
noted in the table, which means that the declaration is not trackable. -/
theorem resolveExtension_of_decided (henabled : config.enabled = true)
    (hget : table.get? id = some declaration) (h : config.Decided table id) :
    config.resolveExtension table id = (table,
      if table.isUndecided id then [.message (Table.remark declaration)] else []) := by
  show ((config.synthesize table id).table, (config.synthesize table id).events) = _
  -- An undecided declaration is found to be unmarked; about another one nothing is asked.
  by_cases hopen : table.isUndecided id = true
  · have hunsettled := (Table.unsettled_iff hget).2 hopen
    rw [if_pos hopen, synthesize_of_unmarked henabled hunsettled (h declaration hunsettled),
      Table.trace_eq_remark]
  · have hsettled : config.enabled = true → ∀ found, ¬table.Unsettled id found := by
      intro _ found hunsettled
      exact hopen ((Table.unsettled_iff hunsettled.get?).1 hunsettled)
    rw [if_neg hopen, (synthesize_of_settled hsettled).1, (synthesize_of_settled hsettled).2]

end Configuration

/-! ## Visits by several configurations -/

/-- The registry in which the configurations are installed, one after the other. -/
def Registry.ofConfigurations (configs : List Configuration) : Registry :=
  configs.foldl (fun registry config => (config.install registry).1) .empty

/-- The configurations that run.  The last one that was installed is the first to run. -/
def Configuration.installed (configs : List Configuration) : List Configuration :=
  (configs.filter (·.enabled)).reverse

theorem Configuration.enabled_of_mem_installed {configs : List Configuration}
    {config : Configuration} (h : config ∈ installed configs) : config.enabled = true :=
  (List.mem_filter.1 (List.mem_reverse.1 h)).2

/-- Each configuration that runs has put one extension of each kind in front of the others. -/
theorem Registry.ofConfigurations_eq (configs : List Configuration) :
    ofConfigurations configs = ⟨(Configuration.installed configs).map Configuration.resolveExtension,
      (Configuration.installed configs).map Configuration.emit⟩ := by
  -- Whatever a registry has before, the later configurations are put in front of it.
  have honto : ∀ registry : Registry,
      configs.foldl (fun registry config => (config.install registry).1) registry
        = ⟨(Configuration.installed configs).map Configuration.resolveExtension ++ registry.resolve,
          (Configuration.installed configs).map Configuration.emit ++ registry.emit⟩ := by
    unfold Configuration.installed
    induction configs with
    | nil =>
        intro registry
        rfl
    | cons config configs ih =>
        intro registry
        rw [List.foldl_cons, ih]
        unfold Configuration.install
        by_cases henabled : config.enabled = true
        · simp [henabled, Registry.addResolve, Registry.addEmit]
        · simp [henabled]
  have hempty := honto .empty
  simp only [Registry.empty, List.append_nil] at hempty
  exact hempty

theorem Registry.resolve_ofConfigurations (configs : List Configuration) :
    (ofConfigurations configs).resolve
      = (Configuration.installed configs).map Configuration.resolveExtension :=
  congrArg Registry.resolve (ofConfigurations_eq configs)

namespace Resolution

open AccessorSynthesis.Configuration (Kept)

variable {registry : Registry} {configs : List Configuration} {resolution : Resolution}
variable {config : Configuration} {table : Table}
variable {id : DeclarationId} {ids : List DeclarationId} {declaration : Declaration}
variable {items : List (DeclarationId × Declaration)}

/-- Has the configurations visit a declaration, in order. -/
def visitBy (resolution : Resolution) (id : DeclarationId) (configs : List Configuration) :
    Resolution :=
  configs.foldl (fun resolution config => resolution.visit id config.resolveExtension) resolution

theorem visitBy_keeps {property : Table → Prop} (hkept : Kept property) (configs : List Configuration)
    (h : property resolution.table) : property (resolution.visitBy id configs).table := by
  induction configs generalizing resolution with
  | nil =>
      exact h
  | cons config configs ih =>
      exact ih (hkept _ _ _ _ _ (config.visited_synthesize resolution.table id) h)

section

variable (hregistry : registry.resolve = configs.map Configuration.resolveExtension)
include hregistry

theorem visitAll_eq (resolution : Resolution) (id : DeclarationId) :
    resolution.visitAll registry id = resolution.visitBy id configs := by
  unfold visitAll visitBy
  rw [hregistry, List.foldl_map]

theorem pass_keeps {property : Table → Prop} (hkept : Kept property) (ids : List DeclarationId)
    (resolution : Resolution) (h : property resolution.table) :
    property (resolution.pass registry ids).table := by
  induction ids generalizing resolution with
  | nil =>
      exact h
  | cons id ids ih =>
      have hfirst : property (resolution.visitAll registry id).table := by
        rw [visitAll_eq hregistry]
        exact visitBy_keeps hkept configs h
      exact ih (resolution.visitAll registry id) hfirst

theorem passes_keeps {property : Table → Prop} (hkept : Kept property) (ids : List DeclarationId)
    (count : Nat) (resolution : Resolution) (h : property resolution.table) :
    property (resolution.passes registry ids count).table := by
  induction count generalizing resolution with
  | zero =>
      exact h
  | succ count ih =>
      exact ih (resolution.pass registry ids) (pass_keeps hregistry hkept ids resolution h)

variable (henabled : ∀ config ∈ configs, config.enabled = true)
include henabled

theorem decided_of_visitAll (hconfig : config ∈ configs) (resolution : Resolution)
    (id : DeclarationId) : config.Decided (resolution.visitAll registry id).table id := by
  -- The configuration decides when its turn comes, and those behind it keep the decision.
  rcases List.append_of_mem hconfig with ⟨before, behind, rfl⟩
  rw [visitAll_eq hregistry, visitBy, List.foldl_append, List.foldl_cons]
  refine visitBy_keeps (config.kept_decided id) behind ?_
  exact config.decided_of_visited (henabled config hconfig) (config.visited_synthesize _ id)

/-- After a pass every declaration that it visits is decided for every configuration. -/
theorem decided_of_pass (hconfig : config ∈ configs) (hid : id ∈ ids) (resolution : Resolution) :
    config.Decided (resolution.pass registry ids).table id := by
  induction ids generalizing resolution with
  | nil =>
      cases hid
  | cons first ids ih =>
      -- The declaration is decided at its own visit, which the rest of the pass keeps.
      rcases List.mem_cons.1 hid with rfl | hlater
      · exact pass_keeps hregistry (config.kept_decided id) ids _
          (decided_of_visitAll hregistry henabled hconfig resolution id)
      · exact ih hlater (resolution.visitAll registry first)

theorem visitAll_of_decided (hget : table.get? id = some declaration)
    (h : ∀ config ∈ configs, config.Decided table id) (events : List Event) :
    visitAll ⟨table, events⟩ registry id = ⟨table, events ++
      (if table.isUndecided id then configs.map fun _ => Table.remark declaration
        else []).map .message⟩ := by
  rw [visitAll_eq hregistry]
  clear hregistry
  induction configs generalizing events with
  | nil =>
      simp [visitBy]
  | cons config configs ih =>
      have hfirst : visit ⟨table, events⟩ id config.resolveExtension = ⟨table, events ++
          if table.isUndecided id then [.message (Table.remark declaration)] else []⟩ := by
        unfold visit
        rw [Configuration.resolveExtension_of_decided (henabled config List.mem_cons_self) hget
          (h config List.mem_cons_self)]
      have hbehind := ih (fun other hother => henabled other (List.mem_cons_of_mem config hother))
        (fun other hother => h other (List.mem_cons_of_mem config hother))
      unfold visitBy at hbehind ⊢
      rw [List.foldl_cons, hfirst, hbehind]
      by_cases hopen : table.isUndecided id = true
      · simp [hopen]
      · simp [hopen]

/-- A pass over decided declarations changes nothing, and says what is to be remarked of them. -/
theorem pass_of_decided (hitems : ∀ item ∈ items, table.get? item.1 = some item.2)
    (h : ∀ item ∈ items, ∀ config ∈ configs, config.Decided table item.1) (events : List Event) :
    pass ⟨table, events⟩ registry (items.map Prod.fst)
      = ⟨table, events ++ (table.remarks configs items).map .message⟩ := by
  induction items generalizing events with
  | nil =>
      simp [pass, Table.remarks]
  | cons item items ih =>
      have hfirst := visitAll_of_decided hregistry henabled (hitems item List.mem_cons_self)
        (h item List.mem_cons_self) events
      have hpass : pass ⟨table, events⟩ registry ((item :: items).map Prod.fst)
          = (visitAll ⟨table, events⟩ registry item.1).pass registry (items.map Prod.fst) := rfl
      rw [hpass, hfirst, ih (fun other hother => hitems other (List.mem_cons_of_mem _ hother))
        (fun other hother => h other (List.mem_cons_of_mem _ hother)), Table.remarks_cons,
        List.map_append, List.append_assoc]

theorem passes_of_decided (hitems : ∀ item ∈ items, table.get? item.1 = some item.2)
    (h : ∀ item ∈ items, ∀ config ∈ configs, config.Decided table item.1) (events : List Event)
    (count : Nat) :
    passes ⟨table, events⟩ registry (items.map Prod.fst) count = ⟨table, events
      ++ (List.replicate count (table.remarks configs items)).flatten.map .message⟩ := by
  induction count generalizing events with
  | zero =>
      simp [passes]
  | succ count ih =>
      rw [passes, pass_of_decided hregistry henabled hitems h, ih, List.replicate_succ,
        List.flatten_cons, List.map_append, List.append_assoc]

/-- Passes over the compiled declarations, once all of them are decided. -/
theorem passes_compiled_of_decided {start : Table} (hheaders : start.SameHeaders table)
    (h : ∀ id ∈ start.compiled.map Prod.fst, ∀ config ∈ configs, config.Decided table id)
    (events : List Event) (count : Nat) :
    passes ⟨table, events⟩ registry (start.compiled.map Prod.fst) count = ⟨table, events
      ++ (List.replicate count (table.remarks configs table.compiled)).flatten.map .message⟩ := by
  rw [← hheaders.compiled_ids] at h ⊢
  refine passes_of_decided hregistry henabled table.get?_of_mem_compiled ?_ events count
  exact fun item hitem => h item.1 (List.mem_map_of_mem hitem)

end

end Resolution

/-- Resolution changes members at most. -/
theorem Table.sameHeaders_resolve (table : Table) (configs : List Configuration) (passes : Nat) :
    table.SameHeaders (table.resolve (.ofConfigurations configs) passes).table :=
  Resolution.passes_keeps (Registry.resolve_ofConfigurations configs)
    (Configuration.kept_sameHeaders table) (table.compiled.map Prod.fst) passes ⟨table, []⟩
    (.refl table)

/-- Further passes change neither the table nor the findings.  Each of them adds one remark per
compiled declaration without a decision and per configuration that runs, in this order. -/
theorem Table.resolve_again (table : Table) (configs : List Configuration) (further : Nat) :
    (table.resolve (.ofConfigurations configs) (further + 1)).table
        = (table.resolve (.ofConfigurations configs) 1).table ∧
      Event.findings (table.resolve (.ofConfigurations configs) (further + 1)).events
        = Event.findings (table.resolve (.ofConfigurations configs) 1).events ∧
      (table.resolve (.ofConfigurations configs) (further + 1)).diagnostics.messages
        = (table.resolve (.ofConfigurations configs) 1).diagnostics.messages
          ++ (List.replicate further ((table.resolve (.ofConfigurations configs) 1).table.remarks
            (Configuration.installed configs)
            (table.resolve (.ofConfigurations configs) 1).table.compiled)).flatten := by
  have hregistry := Registry.resolve_ofConfigurations configs
  have henabled : ∀ config ∈ Configuration.installed configs, config.enabled = true :=
    fun config => Configuration.enabled_of_mem_installed
  have honce : table.resolve (.ofConfigurations configs) 1
      = Resolution.pass ⟨table, []⟩ (.ofConfigurations configs) (table.compiled.map Prod.fst) := rfl
  have hmore : table.resolve (.ofConfigurations configs) (further + 1)
      = (table.resolve (.ofConfigurations configs) 1).passes (.ofConfigurations configs)
          (table.compiled.map Prod.fst) further := rfl
  rw [hmore, honce]
  -- The first pass decides about everything that is compiled.
  have hheaders := table.sameHeaders_resolve configs 1
  rw [honce] at hheaders
  have hdecided : ∀ id ∈ table.compiled.map Prod.fst,
      ∀ config ∈ Configuration.installed configs, config.Decided
        (Resolution.pass ⟨table, []⟩ (.ofConfigurations configs)
          (table.compiled.map Prod.fst)).table id :=
    fun id hid config hconfig =>
      Resolution.decided_of_pass hregistry henabled hconfig hid ⟨table, []⟩
  generalize Resolution.pass ⟨table, []⟩ (.ofConfigurations configs)
    (table.compiled.map Prod.fst) = once at hheaders hdecided ⊢
  rw [Resolution.passes_compiled_of_decided hregistry henabled hheaders hdecided once.events further]
  refine ⟨rfl, ?_, ?_⟩
  · rw [Event.findings_append, findings_replicate_remarks, List.append_nil]
  · unfold Resolution.diagnostics
    rw [Event.messages_append, Event.messages_map_message]

end AccessorSynthesis
