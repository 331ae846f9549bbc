import AccessorSynthesis.Proofs.Compilation.Generation

/-!
# Outcome — what a compilation reports and why it fails

This file defines

* `Configuration.grant? config table id declaration` — the accessor that a compilation writes for a
  declaration, told from the table at the start;
* `Configuration.FlushRefused config table e` — the causes for which there is no output although
  nothing fatal was reported.

`outcome` is the full account of messages and failures.
-/

namespace AccessorSynthesis

open ClassFile (ConstantPool IsTooLong)

namespace Configuration

variable {config : Configuration} {start table : Table} {id : DeclarationId}
variable {declaration found : Declaration}

/-! ## Resolved tables -/

/-- The accessor that a compilation writes for a declaration. -/
def grant? (config : Configuration) (start : Table) (id : DeclarationId)
    (declaration : Declaration) : Option Accessor :=
  if start.Inherits id config.mark ∧ ¬declaration.shape.IsRestricted ∧
      declaration.members.find? config.accessorName = none then
    some (config.accessorOf id declaration)
  else none

theorem Settled.provides (hfresh : start.IsFresh config.accessorName)
    (hget : start.get? id = some declaration) (h : config.Settled start id declaration table) :
    ∃ found, table.get? id = some found ∧ found.header = declaration.header ∧
      config.Provides table id found (config.grant? start id declaration) := by
  have hdeclared := hfresh.declared id declaration hget
  unfold grant?
  -- The three decisions, of which one grants an accessor.
  cases h with
  | unmarked hmark hsame =>
      rw [if_neg fun hgrant => hmark hgrant.1]
      exact ⟨declaration, hsame.get?.trans hget, rfl, .nothing hdeclared⟩
  | refused hmark hunfit hfound hnone hrejected =>
      rw [if_neg fun hgrant => hunfit hgrant.2]
      exact ⟨declaration, hfound, rfl, .nothing hdeclared⟩
  | granted hmark hshape hfree hfound haccessor =>
      rw [if_pos ⟨hmark, hshape, hfree⟩]
      refine ⟨_, hfound, rfl, .accessor _ ?_ haccessor rfl hshape⟩
      exact (Declaration.isGenerated_withMember_self hfree).trans
        declaration.has_synthetic_accessorFlags

theorem Progress.exists_compiled (hfresh : start.IsFresh config.accessorName)
    (h : config.Progress start (start.compiled.map Prod.fst) table)
    (hmem : (id, declaration) ∈ start.compiled) :
    ∃ found, (id, found) ∈ table.compiled ∧ found.header = declaration.header ∧
      config.Provides table id found (config.grant? start id declaration) := by
  rcases Table.mem_compiled_iff.1 hmem with ⟨hget, hcompiled⟩
  rcases h.settled id (List.mem_map_of_mem hmem) with ⟨same, hunsettled, hsettled⟩
  have hsame : same = declaration := Option.some.inj (hunsettled.get?.symm.trans hget)
  subst hsame
  rcases hsettled.provides hfresh hget with ⟨found, hfound, hheader, hprovides⟩
  refine ⟨found, Table.mem_compiled_iff.2 ⟨hfound, ?_⟩, hheader, hprovides⟩
  exact (Declaration.eq_of_header Declaration.isCompiled (fun _ => rfl) hheader).trans hcompiled

/-- Every compiled declaration of the resolved table was one at the start. -/
theorem Progress.exists_start (hfresh : start.IsFresh config.accessorName)
    (h : config.Progress start (start.compiled.map Prod.fst) table)
    (hmem : (id, found) ∈ table.compiled) :
    ∃ declaration, (id, declaration) ∈ start.compiled ∧ found.header = declaration.header ∧
      config.Provides table id found (config.grant? start id declaration) := by
  have hget := (Table.mem_compiled_iff.1 hmem).1
  rcases h.sameHeaders.symm.exists_compiled hmem with ⟨declaration, hmem', _⟩
  rcases h.exists_compiled hfresh hmem' with ⟨same, hsame, hsameHeader, hprovides⟩
  have hequal : same = found :=
    Option.some.inj ((Table.mem_compiled_iff.1 hsame).1.symm.trans hget)
  subst hequal
  exact ⟨declaration, hmem', hsameHeader, hprovides⟩

/-! ## Findings by severity -/

theorem filter_messages_eq {severity : Severity} (h : severity ≠ .logging) (events : List Event) :
    (Event.messages events).filter (fun said => said.severity = severity)
      = (Event.findings events).filter fun said => said.severity = severity := by
  unfold Event.findings
  rw [List.filter_filter]
  refine List.filter_congr ?_
  intro said _
  by_cases hsaid : said.severity = severity
  · simp [hsaid, h]
  · simp [hsaid]

/-- If each declaration contributes at most one message of a severity, the report contains these
messages in the order of the declarations. -/
theorem filter_report {severity : Severity} {items : List (DeclarationId × Declaration)}
    {concerns : DeclarationId × Declaration → Bool} {said : DeclarationId × Declaration → Message}
    (h : ∀ item ∈ items,
      ((config.finding? start item.1).toList.map Diagnostic.message).filter
          (fun found => found.severity = severity)
        = if concerns item then [said item] else []) :
    (config.report start (items.map Prod.fst)).filter (fun found => found.severity = severity)
      = (items.filter concerns).map said := by
  induction items with
  | nil =>
      rfl
  | cons item items ih =>
      have hrest := ih fun other hother => h other (List.mem_cons_of_mem item hother)
      calc
        (config.report start ((item :: items).map Prod.fst)).filter
              (fun found => found.severity = severity)
            = ((config.finding? start item.1).toList.map Diagnostic.message).filter
                  (fun found => found.severity = severity)
                ++ (config.report start (items.map Prod.fst)).filter
                  (fun found => found.severity = severity) := by
              rw [List.map_cons, report_cons, List.filter_append]
        _ = (if concerns item then [said item] else []) ++ (items.filter concerns).map said := by
              rw [h item List.mem_cons_self, hrest]
        _ = ((item :: items).filter concerns).map said := by
              cases hconcern : concerns item with
              | true =>
                  simp [hconcern]
              | false =>
                  simp [hconcern]

/-- An error is reported for each declaration that inherits the annotation and has a shape without
accessors. -/
theorem filter_report_error {items : List (DeclarationId × Declaration)}
    (h : ∀ item ∈ items, start.get? item.1 = some item.2) :
    (config.report start (items.map Prod.fst)).filter (fun said => said.severity = .error)
      = (items.filter fun item =>
          start.Inherits item.1 config.mark ∧ item.2.shape.IsRestricted).map fun item =>
        Message.mk .error s!"@{config.mark.simpleName} is not supported on data and inline classes!"
          item.2.span := by
  refine filter_report ?_
  intro item hitem
  unfold finding?
  rw [h item hitem]
  by_cases hmark : start.Inherits item.1 config.mark
  · by_cases hshape : item.2.shape.IsRestricted
    · simp [hmark, hshape, Diagnostic.message, Problem.severity, Problem.text]
    · by_cases hmember : (item.2.members.find? config.accessorName).isSome = true
      · simp [hmark, hshape, hmember, Diagnostic.message, Problem.severity, Problem.text]
      · simp [hmark, hshape, hmember]
  · simp [hmark]

/-- A warning is given for each declaration that inherits the annotation, has a shape for accessors,
and declares a member of the accessor's name. -/
theorem filter_report_warning {items : List (DeclarationId × Declaration)}
    (h : ∀ item ∈ items, start.get? item.1 = some item.2) :
    (config.report start (items.map Prod.fst)).filter (fun said => said.severity = .warning)
      = (items.filter fun item =>
          start.Inherits item.1 config.mark ∧ ¬item.2.shape.IsRestricted ∧
            (item.2.members.find? config.accessorName).isSome = true).map fun item =>
        Message.mk .warning
          s!"'{config.accessorName}' is already declared on this class, no accessor was generated"
          item.2.span := by
  refine filter_report ?_
  intro item hitem
  unfold finding?
  rw [h item hitem]
  by_cases hmark : start.Inherits item.1 config.mark
  · by_cases hshape : item.2.shape.IsRestricted
    · simp [hmark, hshape, Diagnostic.message, Problem.severity, Problem.text]
    · by_cases hmember : (item.2.members.find? config.accessorName).isSome = true
      · simp [hmark, hshape, hmember, Diagnostic.message, Problem.severity, Problem.text]
      · simp [hmark, hshape, hmember]
  · simp [hmark]

/-! ## Failures -/

/-- The texts of the class file of a declaration that depend on the input: the names of the class and
of its supertypes, and the name and the literal of its accessor. -/
inductive HasText (config : Configuration) (start : Table) (id : DeclarationId)
    (declaration : Declaration) : String → Prop where
  | ofClass : HasText config start id declaration declaration.name.internalName
  | ofSupertype (super : DeclarationId) (name : String) (hsuper : super ∈ declaration.supertypes)
      (hname : start.nameOf? super = some name) : HasText config start id declaration name
  | ofName (accessor : Accessor) (h : config.grant? start id declaration = some accessor) :
      HasText config start id declaration accessor.name
  | ofLiteral (accessor : Accessor) (h : config.grant? start id declaration = some accessor) :
      HasText config start id declaration accessor.literal

/-- Why there is no output although nothing fatal was reported. -/
inductive FlushRefused (config : Configuration) (start : Table) : FlushError → Prop where
  | dangling (id super : DeclarationId) (declaration : Declaration)
      (hmem : (id, declaration) ∈ start.compiled) (hsuper : super ∈ declaration.supertypes)
      (hget : start.get? super = none) :
      FlushRefused config start (.emit declaration.name (.unknownDeclaration super))
  | full (id : DeclarationId) (declaration : Declaration)
      (hmem : (id, declaration) ∈ start.compiled)
      (hinterfaces : 32760 < declaration.interfaces.length) :
      FlushRefused config start (.emit declaration.name (.classFile .poolFull))
  | tooLong (id : DeclarationId) (declaration : Declaration) (text : String)
      (hmem : (id, declaration) ∈ start.compiled) (htext : config.HasText start id declaration text)
      (hlong : IsTooLong text) :
      FlushRefused config start
        (.classFile (.textTooLong (ClassFile.ModifiedUtf8.encode text).length))

theorem not_isTooLong_of_fixed {text : String}
    (h : text ∈ [ClassFile.rootClass, ClassFile.constructorName, ClassFile.constructorDescriptor,
      ClassFile.codeAttribute, ClassFile.accessorDescriptor]) : ¬IsTooLong text := by
  revert text
  decide

end Configuration

namespace Table

variable {start table : Table} {declaration found : Declaration}

theorem SameHeaders.nameOf?_eq (h : start.SameHeaders table) (id : DeclarationId) :
    table.nameOf? id = start.nameOf? id :=
  h.map_get?_eq (fun same => same.name.internalName) (fun _ => rfl) id

theorem internalName_eq (table : Table) (id : DeclarationId) :
    table.internalName id
      = (table.nameOf? id).elim (.error (.unknownDeclaration id)) Except.ok := by
  unfold internalName nameOf?
  cases table.get? id with
  | none =>
      rfl
  | some found =>
      rfl

/-- The superclass is a declaration of the table, or the root class where none is given. -/
theorem cases_of_superNameOf {name : String} (h : table.superNameOf declaration = .ok name) :
    declaration.superclass = none ∧ name = ClassFile.rootClass ∨
      ∃ super ∈ declaration.superclass, table.nameOf? super = some name := by
  unfold superNameOf at h
  cases hsuper : declaration.superclass with
  | none =>
      rw [hsuper] at h
      cases h
      exact Or.inl ⟨rfl, rfl⟩
  | some super =>
      rw [hsuper] at h
      exact Or.inr ⟨super, rfl, (yields_internalName super).ok_of_eq h⟩

theorem SameHeaders.superNameOf_eq (h : start.SameHeaders table)
    (hheader : found.header = declaration.header) :
    table.superNameOf found = start.superNameOf declaration := by
  unfold superNameOf
  rw [Declaration.eq_of_header Declaration.superclass (fun _ => rfl) hheader]
  cases declaration.superclass with
  | none =>
      rfl
  | some id =>
      show table.internalName id = start.internalName id
      rw [internalName_eq, internalName_eq, h.nameOf?_eq]

end Table

namespace Configuration

variable {config : Configuration} {start table : Table} {id : DeclarationId}
variable {declaration found : Declaration}

theorem hasText_of_isTooLong {text : String} (h : start.SameHeaders table)
    (hheader : found.header = declaration.header)
    (hmem : text ∈ table.fileTexts found (config.grant? start id declaration))
    (hlong : IsTooLong text) : config.HasText start id declaration text := by
  have hname := Declaration.eq_of_header Declaration.name (fun _ => rfl) hheader
  have hsupertypes := Declaration.eq_of_header Declaration.supertypes (fun _ => rfl) hheader
  have hnames : table.nameOf? = start.nameOf? := funext h.nameOf?_eq
  unfold Table.fileTexts Table.classTexts at hmem
  rw [hname, hsupertypes, hnames] at hmem
  rcases List.mem_append.1 hmem with hclass | haccessor
  · rcases List.mem_append.1 hclass with hnamed | hfixed
    · rcases List.mem_cons.1 hnamed with rfl | hsuper
      · exact .ofClass
      · rcases List.mem_filterMap.1 hsuper with ⟨super, hsuper, hname⟩
        exact .ofSupertype super text hsuper hname
    -- The texts that every class file has are short.
    · refine absurd hlong (not_isTooLong_of_fixed ?_)
      exact List.mem_append_left [ClassFile.accessorDescriptor] hfixed
  · cases hgrant : config.grant? start id declaration with
    | none =>
        rw [hgrant] at haccessor
        cases haccessor
    | some accessor =>
        rw [hgrant] at haccessor
        have hcases : text = accessor.literal ∨ text = ClassFile.codeAttribute ∨
            text = accessor.name ∨ text = ClassFile.accessorDescriptor := by
          simpa [ClassFile.accessorTexts] using haccessor
        rcases hcases with rfl | rfl | rfl | rfl
        · exact .ofLiteral accessor hgrant
        · exact absurd hlong (not_isTooLong_of_fixed (by simp))
        · exact .ofName accessor hgrant
        · exact absurd hlong (not_isTooLong_of_fixed (by simp))

/-- A failure to generate class files has one of the three causes. -/
theorem flushRefused_of_generate (henabled : config.enabled = true)
    (hfresh : start.IsFresh config.accessorName)
    (h : config.Progress start (start.compiled.map Prod.fst) table) {e : FlushError}
    (herror : (Resolution.generate table config.registry .empty table.compiled).result = .error e) :
    config.FlushRefused start e := by
  rcases Resolution.generate_eq_error herror with ⟨id, found, hmem, hcause⟩
  rcases h.exists_start hfresh hmem with ⟨declaration, hstart, hheader, hprovides⟩
  have hmade := yields_classFile henabled (Table.mem_compiled_iff.1 hmem).1 hprovides
  -- The class file could not be made, or it was made and could not be written.
  rcases hcause with ⟨cause, hresult, rfl⟩ | ⟨file, cause, hresult, hbytes, rfl⟩
  · rw [Declaration.eq_of_header Declaration.name (fun _ => rfl) hheader]
    cases hmade.refused_of_eq hresult with
    | dangling super hsuper hget =>
        rw [Declaration.eq_of_header Declaration.supertypes (fun _ => rfl) hheader] at hsuper
        exact .dangling id super declaration hstart hsuper (h.sameHeaders.symm.get?_eq_none hget)
    | full hfull =>
        rw [Declaration.eq_of_header Declaration.interfaces (fun _ => rfl) hheader] at hfull
        refine .full id declaration hstart ?_
        unfold ConstantPool.capacity at hfull
        omega
  · rcases (hmade.ok_of_eq hresult).exists_of_toBytes_eq_error hbytes with ⟨text, htext, hlong, rfl⟩
    exact .tooLong id declaration text hstart
      (hasText_of_isTooLong h.sameHeaders hheader htext hlong) hlong

/-! ## The account -/

theorem hasFatal_iff {resolution : Resolution} : resolution.diagnostics.hasFatal = true ↔
    ∃ said ∈ resolution.diagnostics.messages, said.severity = .error := by
  simp [Diagnostics.hasFatal, Message.isFatal]

/-- Traces are not fatal, so that the findings decide. -/
theorem hasFatal_eq (resolution : Resolution) : resolution.diagnostics.hasFatal
    = (Event.findings resolution.events).any Message.isFatal := by
  unfold Diagnostics.hasFatal Event.findings
  rw [List.any_filter]
  refine List.any_congr rfl ?_
  intro said
  cases hsaid : said.severity <;> simp [Message.isFatal, hsaid]

/-- Class files are generated unless an error was reported, and their generation is not a fatal
message. -/
theorem flush_eq_fatal_iff {resolution : Resolution} {registry : Registry} :
    (resolution.flush registry).result = .error .fatal ↔ resolution.diagnostics.hasFatal = true := by
  unfold Resolution.flush
  cases hfatal : resolution.diagnostics.hasFatal with
  | true =>
      simp
  | false =>
      rw [if_neg Bool.false_ne_true]
      constructor
      · intro herror
        rcases Resolution.generate_eq_error herror with
          ⟨_, _, _, ⟨_, _, hcause⟩ | ⟨_, _, _, _, hcause⟩⟩
        · cases hcause
        · cases hcause
      · intro hfalse
        cases hfalse

theorem flush_of_not_hasFatal {resolution : Resolution} {registry : Registry}
    (h : resolution.diagnostics.hasFatal = false) :
    resolution.flush registry
      = Resolution.generate resolution.table registry .empty resolution.table.compiled := by
  unfold Resolution.flush
  rw [h]
  exact if_neg Bool.false_ne_true

/-- Without an error there is output, or else a cause of `FlushRefused`. -/
theorem yields_flush (henabled : config.enabled = true)
    (hfresh : start.IsFresh config.accessorName) {passes : Nat} (hpasses : 1 ≤ passes)
    (h : (start.resolve (config.install .empty).1 passes).diagnostics.hasFatal = false) :
    Yields ((start.resolve (config.install .empty).1 passes).flush (config.install .empty).1).result
      (fun _ => True) (config.FlushRefused start) := by
  have hprogress := (resolved henabled hfresh hpasses).1
  rw [flush_of_not_hasFatal h]
  rw [install_empty henabled] at hprogress ⊢
  cases hresult : (Resolution.generate (start.resolve config.registry passes).table config.registry
      .empty (start.resolve config.registry passes).table.compiled).result with
  | ok output =>
      exact trivial
  | error e =>
      exact flushRefused_of_generate henabled hfresh hprogress hresult

/-- The errors of a compilation, one for each restricted declaration that inherits the annotation. -/
theorem filter_error_resolve (henabled : config.enabled = true)
    (hfresh : start.IsFresh config.accessorName) {passes : Nat} (hpasses : 1 ≤ passes) :
    (start.resolve (config.install .empty).1 passes).diagnostics.messages.filter
        (fun said => said.severity = .error)
      = (start.compiled.filter fun item =>
          start.Inherits item.1 config.mark ∧ item.2.shape.IsRestricted).map fun item =>
        Message.mk .error s!"@{config.mark.simpleName} is not supported on data and inline classes!"
          item.2.span := by
  rw [← filter_report_error start.get?_of_mem_compiled, ← (resolved henabled hfresh hpasses).2]
  exact filter_messages_eq (by decide) _

theorem hasFatal_resolve_iff (henabled : config.enabled = true)
    (hfresh : start.IsFresh config.accessorName) {passes : Nat} (hpasses : 1 ≤ passes) :
    (start.resolve (config.install .empty).1 passes).diagnostics.hasFatal = true ↔
      ∃ item ∈ start.compiled, start.Inherits item.1 config.mark ∧ item.2.shape.IsRestricted := by
  have herrors := filter_error_resolve henabled hfresh hpasses
  rw [hasFatal_iff]
  constructor
  · rintro ⟨said, hsaid, hseverity⟩
    have hmem : said ∈ (start.resolve (config.install .empty).1 passes).diagnostics.messages.filter
        fun said => said.severity = .error := List.mem_filter.2 ⟨hsaid, decide_eq_true hseverity⟩
    rw [herrors] at hmem
    rcases List.mem_map.1 hmem with ⟨item, hitem, _⟩
    rcases List.mem_filter.1 hitem with ⟨hcompiled, hrestricted⟩
    exact ⟨item, hcompiled, of_decide_eq_true hrestricted⟩
  · rintro ⟨item, hitem, hrestricted⟩
    have hmem : Message.mk .error
          s!"@{config.mark.simpleName} is not supported on data and inline classes!" item.2.span
        ∈ (start.resolve (config.install .empty).1 passes).diagnostics.messages.filter
          fun said => said.severity = .error := by
      rw [herrors]
      exact List.mem_map_of_mem (List.mem_filter.2 ⟨hitem, decide_eq_true hrestricted⟩)
    exact ⟨_, (List.mem_filter.1 hmem).1, rfl⟩

end Configuration

/-- The full account of a compilation with one pass or more.  Errors and warnings are reported once
for each declaration that gives cause, in the order of the table; there is no output because of
messages exactly if there is an error, and else only for a cause of `FlushRefused`. -/
theorem Configuration.outcome {config : Configuration} {table : Table} {passes : Nat}
    (henabled : config.enabled = true) (hfresh : table.IsFresh config.accessorName)
    (hpasses : 1 ≤ passes) :
    (table.resolve (config.install .empty).1 passes).diagnostics.messages.filter
        (fun said => said.severity = .error)
      = (table.compiled.filter fun item =>
          table.Inherits item.1 config.mark ∧ item.2.shape.IsRestricted).map (fun item =>
        Message.mk .error s!"@{config.mark.simpleName} is not supported on data and inline classes!"
          item.2.span) ∧
    (table.resolve (config.install .empty).1 passes).diagnostics.messages.filter
        (fun said => said.severity = .warning)
      = (table.compiled.filter fun item =>
          table.Inherits item.1 config.mark ∧ ¬item.2.shape.IsRestricted ∧
            (item.2.members.find? config.accessorName).isSome = true).map (fun item =>
        Message.mk .warning
          s!"'{config.accessorName}' is already declared on this class, no accessor was generated"
          item.2.span) ∧
    (((table.resolve (config.install .empty).1 passes).flush (config.install .empty).1).result
        = .error .fatal ↔
      ∃ said ∈ (table.resolve (config.install .empty).1 passes).diagnostics.messages,
        said.severity = .error) ∧
    ∀ e, ((table.resolve (config.install .empty).1 passes).flush (config.install .empty).1).result
        = .error e → e ≠ .fatal → config.FlushRefused table e := by
  have hfindings := (resolved henabled hfresh hpasses).2
  refine ⟨filter_error_resolve henabled hfresh hpasses, ?_, ?_, ?_⟩
  · rw [← filter_report_warning table.get?_of_mem_compiled, ← hfindings]
    exact filter_messages_eq (by decide) _
  · exact flush_eq_fatal_iff.trans hasFatal_iff
  · intro e herror hnot
    have hfatal : (table.resolve (config.install .empty).1 passes).diagnostics.hasFatal = false := by
      refine Bool.eq_false_iff.2 ?_
      intro hfatal
      exact hnot (Except.error.inj (herror.symm.trans (flush_eq_fatal_iff.2 hfatal)))
    exact (yields_flush henabled hfresh hpasses hfatal).refused_of_eq herror

/-- A wrapper that carries the annotation. -/
def Declaration.markedWrapper : Declaration :=
  ⟨⟨"a.W"⟩, .wrapper, false, false, [.ofName Configuration.standard.mark], none, [], .empty,
    some ⟨3, 5, 0⟩⟩

theorem Configuration.outcome_markedWrapper :
    ((Table.ofList [.markedWrapper]).resolve
        (Configuration.standard.install .empty).1 2).diagnostics.messages.filter
        (fun said => said.severity = .error)
      = [⟨.error, "@Trackable is not supported on data and inline classes!", some ⟨3, 5, 0⟩⟩] ∧
    (((Table.ofList [.markedWrapper]).resolve (Configuration.standard.install .empty).1 2).flush
      (Configuration.standard.install .empty).1).result = .error .fatal := by
  have hfresh : (Table.ofList [.markedWrapper]).IsFresh Configuration.standard.accessorName := by
    refine Table.isFresh_ofList ?_
    decide
  have hpasses : 1 ≤ 2 := by decide
  rcases Configuration.outcome rfl hfresh hpasses with ⟨herrors, _, hfatal, _⟩
  have hmark : (Table.ofList [.markedWrapper]).Inherits 0 Configuration.standard.mark :=
    ⟨0, .markedWrapper, .refl, rfl, rfl⟩
  have hshape : Declaration.markedWrapper.shape.IsRestricted := by decide
  have hcompiled : (Table.ofList [.markedWrapper]).compiled = [(0, .markedWrapper)] := by rfl
  have hone : (Table.ofList [.markedWrapper]).compiled.filter
      (fun item => (Table.ofList [.markedWrapper]).Inherits item.1 Configuration.standard.mark ∧
        item.2.shape.IsRestricted) = [(0, .markedWrapper)] := by
    simp [hcompiled, hmark, hshape]
  rw [hone] at herrors
  have hreported : Message.mk .error "@Trackable is not supported on data and inline classes!"
      (some ⟨3, 5, 0⟩) ∈ ((Table.ofList [.markedWrapper]).resolve
        (Configuration.standard.install .empty).1 2).diagnostics.messages.filter
        fun said => said.severity = .error := by
    rw [herrors]
    exact List.mem_singleton_self _
  exact ⟨herrors, hfatal.2 ⟨_, (List.mem_filter.1 hreported).1, rfl⟩⟩

end AccessorSynthesis
