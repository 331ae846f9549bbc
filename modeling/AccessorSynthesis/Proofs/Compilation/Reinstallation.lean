import Mathlib
import AccessorSynthesis.Proofs.Compilation.Accessors

/-!
# Reinstallation — what installing a configuration again comes to

Resolution tolerates it: a declaration about which the first of several equal extensions has decided
is left alone by the others (`Registry.alike_repeated`).  Generation does not: the second extension adds
the method of an accessor that the first one has added, which the class file refuses
(`result_emit_again`).  This file defines

* `Resolution.Alike one other` — same table, same findings;
* `Configuration.firstWritten? config table items` — the first of the declarations in whose class file
  an accessor is written, if generation gets that far.

`Configuration.reinstalled` compares any number of installations with a single one.
-/

namespace AccessorSynthesis

open ClassFile (Instruction MethodBody accessorDescriptor)

/-! ## Resolution -/

namespace Resolution

variable {config : Configuration} {one other : Resolution} {id : DeclarationId}
variable {ids : List DeclarationId}

/-- Both resolutions have led to the same table, with the same findings. -/
structure Alike (one other : Resolution) : Prop where
  table : other.table = one.table
  findings : Event.findings other.events = Event.findings one.events

theorem Alike.refl (resolution : Resolution) : resolution.Alike resolution := ⟨rfl, rfl⟩

theorem Alike.visit (h : one.Alike other) (id : DeclarationId) (extension : ResolveExtension) :
    (one.visit id extension).Alike (other.visit id extension) := by
  unfold Resolution.visit
  rw [h.table]
  refine ⟨rfl, ?_⟩
  simp only [Event.findings_append, h.findings]

/-- Visits of a decided declaration make no difference. -/
theorem Alike.visitBy_of_decided (h : one.Alike other) (hdecided : config.Decided one.table id)
    (count : Nat) : one.Alike (other.visitBy id (List.replicate count config)) := by
  induction count generalizing other with
  | zero =>
      exact h
  | succ count ih =>
      rw [← h.table] at hdecided
      rcases Configuration.synthesize_of_decided hdecided with ⟨htable, hfindings⟩
      have hnext : one.Alike (other.visit id config.resolveExtension) := by
        refine ⟨htable.trans h.table, ?_⟩
        show Event.findings (other.events ++ (config.synthesize other.table id).events) = _
        rw [Event.findings_append, hfindings, List.append_nil, h.findings]
      exact ih hnext

section

variable {once many : Registry} {further : Nat} (henabled : config.enabled = true)
variable (honce : once.resolve = [config].map Configuration.resolveExtension)
variable (hmany : many.resolve
  = (List.replicate (further + 1) config).map Configuration.resolveExtension)
include henabled honce hmany

theorem Alike.visitAll (h : one.Alike other) (id : DeclarationId) :
    (one.visitAll once id).Alike (other.visitAll many id) := by
  rw [visitAll_eq honce, visitAll_eq hmany]
  -- The first of the equal extensions decides, the others find the decision.
  have hdecided : config.Decided (one.visit id config.resolveExtension).table id :=
    Configuration.decided_of_visited henabled (config.visited_synthesize one.table id)
  exact (h.visit id config.resolveExtension).visitBy_of_decided hdecided further

theorem Alike.pass (h : one.Alike other) (ids : List DeclarationId) :
    (one.pass once ids).Alike (other.pass many ids) := by
  induction ids generalizing one other with
  | nil =>
      exact h
  | cons id ids ih =>
      exact ih (h.visitAll henabled honce hmany id)

theorem Alike.passes (h : one.Alike other) (ids : List DeclarationId) (count : Nat) :
    (one.passes once ids count).Alike (other.passes many ids count) := by
  induction count generalizing one other with
  | zero =>
      exact h
  | succ count ih =>
      exact ih (h.pass henabled honce hmany ids)

end

theorem Alike.hasFatal_eq (h : one.Alike other) :
    other.diagnostics.hasFatal = one.diagnostics.hasFatal := by
  rw [Configuration.hasFatal_eq, Configuration.hasFatal_eq, h.findings]

end Resolution

/-! ## Generation -/

namespace ClassFile

variable {file later : ClassFile} {shape : Shape} {accessor : Accessor}

theorem addMethod_of_method? {name descriptor : String}
    (h : (file.method? name descriptor).isSome = true) (access : AccessFlags)
    (body : Option MethodBody) :
    addMethod access name descriptor body file = (.error (.duplicateMethod name descriptor), file) := by
  have hget : (get : Update ClassFile ClassFile) file = (.ok file, file) := rfl
  have hthrow : (throw (.duplicateMethod name descriptor) : Update ClassFile PUnit) file
      = (.error (.duplicateMethod name descriptor), file) := rfl
  unfold addMethod
  rw [Update.bind_apply_of_ok hget, if_pos h]
  exact Update.bind_apply_of_error hthrow

theorem loadString_of_stringAt? {index : UInt16} {text : String}
    (h : file.pool.stringAt? index = some text) :
    loadString text file = (.ok (.loading index), file) := by
  have hpool : onPool (ConstantPool.addString text) file = (.ok index, file) := by
    unfold onPool
    rw [ConstantPool.addString_of_stringAt? h]
  unfold loadString
  rw [Update.bind_apply_of_ok hpool]
  rfl

theorem result_addAccessor (h : (file.method? accessor.name accessorDescriptor).isSome = true)
    (body : Option MethodBody) : (file.addAccessor accessor body).result
      = .error (.classFile (.duplicateMethod accessor.name accessorDescriptor)) := by
  have hresult : (file.addAccessor accessor body).result
      = (addMethod (.ofMember accessor.flags) accessor.name accessorDescriptor body
          file).1.mapError .classFile := rfl
  rw [hresult, addMethod_of_method? h]
  rfl

/-- An accessor that was written is not written once more.  Its literal is in the pool by then, so that
this is found out even if the pool is full. -/
theorem AccessorAdded.result_emitAccessor (h : file.AccessorAdded shape accessor later) :
    (later.emitAccessor shape accessor).result
      = .error (.classFile (.duplicateMethod accessor.name accessorDescriptor)) := by
  rcases h.hasAccessor with ⟨method, hfound, haccessor⟩
  have hpresent : (later.method? accessor.name accessorDescriptor).isSome = true := by
    rw [hfound]
    rfl
  have hconcrete : shape = .plainClass ∨ shape = .object → (later.emitAccessor shape accessor).result
      = .error (.classFile (.duplicateMethod accessor.name accessorDescriptor)) := by
    intro hshape
    rcases haccessor.concrete hshape with ⟨body, hbody, index, rfl, htext⟩
    rw [emitAccessor_of_hasCode hshape, loadString_of_stringAt? htext]
    exact result_addAccessor hpresent _
  cases shape with
  | interface =>
      exact result_addAccessor hpresent none
  | plainClass =>
      exact hconcrete (Or.inl rfl)
  | object =>
      exact hconcrete (Or.inr rfl)
  | valueAggregate | wrapper =>
      exact absurd (by decide) haccessor.shape_ok

end ClassFile

namespace Configuration

variable {config : Configuration} {table : Table} {id : DeclarationId}
variable {declaration : Declaration} {file : ClassFile}

section

variable (henabled : config.enabled = true) (hget : table.get? id = some declaration)
include henabled hget

theorem result_emit_again (hgenerated : declaration.isGenerated config.accessorName = true)
    (hresult : (config.emit table id file).result = .ok ()) :
    (config.emit table id (config.emit table id file).file).result
      = .error (.classFile (.duplicateMethod config.accessorName accessorDescriptor)) := by
  rcases exists_accessor_of_emit henabled hget hgenerated hresult with ⟨accessor, haccessor, hname⟩
  have hadded := (config.ends_emit henabled hget hgenerated haccessor hname file).ok_of_result hresult
  rw [(emit_of_accessor? henabled hget hgenerated haccessor hname _).2, hadded.result_emitAccessor,
    hname]

/-- The second of several equal extensions cannot write the accessor that the first one has written. -/
theorem result_emitAll_again (hgenerated : declaration.isGenerated config.accessorName = true)
    (hresult : (config.emit table id file).result = .ok ()) (further : Nat) :
    (Registry.emitAll table id (List.replicate (further + 2) config.emit) file).result
      = .error (.classFile (.duplicateMethod config.accessorName accessorDescriptor)) := by
  have hagain := result_emit_again henabled hget hgenerated hresult
  rw [List.replicate_succ, List.replicate_succ, (emitAll_cons_of_ok hresult _).2,
    emitAll_cons_of_error hagain, hagain]

end

/-- Equal extensions that have nothing to write leave the class file to each other. -/
theorem emitAll_of_not_generated (hget : table.get? id = some declaration)
    (hgenerated : declaration.isGenerated config.accessorName = false) (count : Nat) :
    Registry.emitAll table id (List.replicate count config.emit) file = ⟨file, [], .ok ()⟩ := by
  induction count with
  | zero =>
      rfl
  | succ count ih =>
      rw [List.replicate_succ, Registry.emitAll, emit_of_not_generated hget hgenerated file]
      simp only [ih]
      rfl

/-- The first declaration in whose class file an accessor is written, if generation gets that far. -/
def firstWritten? (config : Configuration) (table : Table) :
    List (DeclarationId × Declaration) → Option Declaration
  | [] => none
  | item :: items =>
      match (table.classFile config.registry item.1 item.2).result with
      | .error _ => none
      | .ok file =>
          if item.2.isGenerated config.accessorName then some item.2
          else
            match file.toBytes with
            | .error _ => none
            | .ok _ => config.firstWritten? table items

section

variable {many : Registry} {further : Nat}
variable (hmany : many.emit = List.replicate (further + 2) config.emit)
include hmany

theorem result_classFile_of_not_generated (hget : table.get? id = some declaration)
    (hgenerated : declaration.isGenerated config.accessorName = false) :
    (table.classFile many id declaration).result
      = (table.classFile config.registry id declaration).result := by
  rw [classFile_result_emitAll, classFile_result_emitAll, hmany]
  refine bind_congr ?_
  intro file
  have honce : config.registry.emit = List.replicate 1 config.emit := rfl
  rw [honce, emitAll_of_not_generated hget hgenerated, emitAll_of_not_generated hget hgenerated]

variable (henabled : config.enabled = true)
include henabled

/-- A class file in which an accessor is to be written is made by one extension at most. -/
theorem result_classFile_of_generated (hget : table.get? id = some declaration)
    (hgenerated : declaration.isGenerated config.accessorName = true) :
    (table.classFile many id declaration).result
      = match (table.classFile config.registry id declaration).result with
        | .error e => .error e
        | .ok _ =>
            .error (.classFile (.duplicateMethod config.accessorName accessorDescriptor)) := by
  rw [classFile_result, classFile_result_emitAll, hmany]
  cases table.skeleton declaration with
  | error e =>
      rfl
  | ok file =>
      cases hresult : (config.emit table id file).result with
      | error e =>
          have hfirst : (Registry.emitAll table id (List.replicate (further + 2) config.emit) file).result
              = .error e := by
            rw [List.replicate_succ, emitAll_cons_of_error hresult, hresult]
          simp [bind, Except.bind, Except.map, hresult, hfirst]
      | ok done =>
          have hagain := result_emitAll_again henabled hget hgenerated hresult further
          simp [bind, Except.bind, Except.map, hresult, hagain]

/-- Generation ends where the first accessor was written, and else it comes to the same. -/
theorem result_generate_again {items : List (DeclarationId × Declaration)}
    (hitems : ∀ item ∈ items, table.get? item.1 = some item.2) (output : Output) :
    (Resolution.generate table many output items).result
      = match config.firstWritten? table items with
        | none => (Resolution.generate table config.registry output items).result
        | some written => .error (.emit written.name
            (.classFile (.duplicateMethod config.accessorName accessorDescriptor))) := by
  induction items generalizing output with
  | nil =>
      rfl
  | cons item items ih =>
      have hget := hitems item List.mem_cons_self
      have hrest := ih fun other hother => hitems other (List.mem_cons_of_mem item hother)
      unfold firstWritten? Resolution.generate
      cases hgenerated : item.2.isGenerated config.accessorName with
      | true =>
          have hmade := result_classFile_of_generated hmany henabled hget hgenerated
          cases honce : (table.classFile config.registry item.1 item.2).result with
          | error e =>
              simp only [hmade, honce]
          | ok file =>
              simp only [hmade, honce, if_true]
      | false =>
          have hmade := result_classFile_of_not_generated hmany hget hgenerated
          cases honce : (table.classFile config.registry item.1 item.2).result with
          | error e =>
              simp only [hmade, honce]
          | ok file =>
              cases hbytes : file.toBytes with
              | error e =>
                  simp only [hmade, honce, hbytes, Bool.false_eq_true, if_false]
              | ok bytes =>
                  simp only [hmade, honce, hbytes, Bool.false_eq_true, if_false]
                  exact hrest _

end

/-- Where generation goes through and there are accessors to write, it writes one of them first. -/
theorem exists_firstWritten?_of_generate {items : List (DeclarationId × Declaration)}
    {output final : Output}
    (h : (Resolution.generate table config.registry output items).result = .ok final)
    (hgenerated : ∃ item ∈ items, item.2.isGenerated config.accessorName = true) :
    ∃ item ∈ items, config.firstWritten? table items = some item.2 := by
  induction items generalizing output with
  | nil =>
      rcases hgenerated with ⟨item, hitem, _⟩
      cases hitem
  | cons item items ih =>
      rcases Resolution.generate_cons_eq_ok h with ⟨file, bytes, hfile, hbytes, hrest⟩
      unfold firstWritten?
      simp only [hfile, hbytes]
      split
      · exact ⟨item, List.mem_cons_self, rfl⟩
      · rename_i hfirst
        rcases hgenerated with ⟨other, hother, htrue⟩
        rcases List.mem_cons.1 hother with rfl | hlater
        · exact absurd htrue hfirst
        · rcases ih hrest ⟨other, hlater, htrue⟩ with ⟨written, hmem, hwritten⟩
          exact ⟨written, List.mem_cons_of_mem item hmem, hwritten⟩

end Configuration

/-- The first declaration in whose class file a compilation writes an accessor. -/
def Resolution.firstWritten? (resolution : Resolution) (config : Configuration) :
    Option Declaration :=
  if config.enabled = true ∧ resolution.diagnostics.hasFatal = false then
    config.firstWritten? resolution.table resolution.table.compiled
  else none

namespace Registry

variable {config : Configuration}

/-- The registry in which one configuration is installed so many times. -/
def repeated (config : Configuration) (count : Nat) : Registry :=
  .ofConfigurations (List.replicate count config)

theorem repeated_eq (henabled : config.enabled = true) (count : Nat) :
    repeated config count = ⟨(List.replicate count config).map Configuration.resolveExtension,
      (List.replicate count config).map Configuration.emit⟩ := by
  unfold repeated
  rw [ofConfigurations_eq, Configuration.installed, List.filter_replicate, if_pos henabled,
    List.reverse_replicate]

theorem repeated_of_disabled (hdisabled : config.enabled = false) (count : Nat) :
    repeated config count = .empty := by
  unfold repeated
  rw [ofConfigurations_eq, Configuration.installed, List.filter_replicate, hdisabled,
    if_neg Bool.false_ne_true]
  rfl

/-- Resolution comes to the same however often a configuration is installed. -/
theorem alike_repeated (henabled : config.enabled = true) (table : Table) (further passes : Nat) :
    (table.resolve (repeated config 1) passes).Alike
      (table.resolve (repeated config (further + 1)) passes) := by
  rw [repeated_eq henabled, repeated_eq henabled]
  exact (Resolution.Alike.refl ⟨table, []⟩).passes henabled rfl rfl (table.compiled.map Prod.fst)
    passes

end Registry

/-- Generation with the configuration installed twice or more often. -/
theorem Resolution.Alike.result_flush {config : Configuration} {one other : Resolution}
    (h : one.Alike other) (henabled : config.enabled = true) (further : Nat) :
    (other.flush (.repeated config (further + 2))).result
      = match one.firstWritten? config with
        | none => (one.flush (.repeated config 1)).result
        | some written => .error (.emit written.name
            (.classFile (.duplicateMethod config.accessorName accessorDescriptor))) := by
  have hmany : (Registry.repeated config (further + 2)).emit
      = List.replicate (further + 2) config.emit := by
    rw [Registry.repeated_eq henabled]
    exact List.map_replicate
  have honce : Registry.repeated config 1 = config.registry := Registry.repeated_eq henabled 1
  unfold Resolution.flush Resolution.firstWritten?
  rw [h.hasFatal_eq, h.table, honce]
  cases one.diagnostics.hasFatal with
  | true =>
      simp
  | false =>
      simp only [henabled, Bool.false_eq_true, if_false, and_self, if_true]
      exact Configuration.result_generate_again hmany henabled one.table.get?_of_mem_compiled .empty

/-- Installing a configuration several times leaves accessors, refusals and findings as they are.  It
also leaves the output as it is, unless an accessor is written into a class file: then the attempt to
write it again is the error that there is instead of output. -/
theorem Configuration.reinstalled (config : Configuration) (table : Table) (passes : Nat)
    {count : Nat} (hcount : 1 ≤ count) :
    (table.resolve (.repeated config count) passes).table
        = (table.resolve (.repeated config 1) passes).table ∧
      Event.findings (table.resolve (.repeated config count) passes).events
        = Event.findings (table.resolve (.repeated config 1) passes).events ∧
      ((count = 1 ∨ (table.resolve (.repeated config 1) passes).firstWritten? config = none) →
        ((table.resolve (.repeated config count) passes).flush (.repeated config count)).result
          = ((table.resolve (.repeated config 1) passes).flush (.repeated config 1)).result) ∧
      ∀ written, 2 ≤ count →
        (table.resolve (.repeated config 1) passes).firstWritten? config = some written →
        ((table.resolve (.repeated config count) passes).flush (.repeated config count)).result
          = .error (.emit written.name
              (.classFile (.duplicateMethod config.accessorName accessorDescriptor))) := by
  cases henabled : config.enabled with
  | false =>
      -- Nothing is installed, whether once or more often.
      rw [Registry.repeated_of_disabled henabled, Registry.repeated_of_disabled henabled]
      refine ⟨rfl, rfl, fun _ => rfl, ?_⟩
      intro written _ hwritten
      simp [Resolution.firstWritten?, henabled] at hwritten
  | true =>
      rcases Nat.exists_eq_add_of_le' hcount with ⟨further, rfl⟩
      have halike := Registry.alike_repeated henabled table further passes
      refine ⟨halike.table, halike.findings, ?_, ?_⟩
      · intro hcases
        cases further with
        | zero =>
            rfl
        | succ further =>
            have hnone := hcases.resolve_left (by omega)
            rw [halike.result_flush henabled further, hnone]
      · intro written hmany hwritten
        cases further with
        | zero =>
            omega
        | succ further =>
            rw [halike.result_flush henabled further, hwritten]

/-- A class that carries the annotation. -/
def Declaration.markedScreen : Declaration :=
  ⟨⟨"a.Screen"⟩, .plainClass, false, false, [.ofName Configuration.standard.mark], none, [], .empty,
    some ⟨0, 3, 0⟩⟩

/-- The class has a class file, and its accessor is the first that is written. -/
theorem Configuration.exists_flush_markedScreen :
    ∃ output written,
      (((Table.ofList [.markedScreen]).resolve (.repeated .standard 1) 1).flush
        (.repeated .standard 1)).result = .ok output ∧
      ((Table.ofList [.markedScreen]).resolve (.repeated .standard 1) 1).firstWritten? .standard
        = some written ∧ written.name = ⟨"a.Screen"⟩ := by
  have hfresh : (Table.ofList [.markedScreen]).IsFresh Configuration.standard.accessorName :=
    Table.isFresh_ofList (by decide)
  have hfits : Configuration.standard.Fits (.ofList [.markedScreen]) :=
    ⟨by decide, by decide, by decide, by decide, by decide, by decide⟩
  rcases hfits.exists_flush rfl hfresh (Nat.le_refl 1) with ⟨output, hflush⟩
  rcases generate_of_flush hflush with ⟨hfatal, hgenerate⟩
  have hgenerated : (((Table.ofList [.markedScreen]).resolve (.repeated .standard 1) 1).table.compiled.any
      fun item => item.2.isGenerated Configuration.standard.accessorName) = true := by
    cbv
  rcases exists_firstWritten?_of_generate hgenerate (List.any_eq_true.1 hgenerated) with
    ⟨item, hitem, hwritten⟩
  have hnames : ((Table.ofList [.markedScreen]).resolve (.repeated .standard 1) 1).table.compiled.map
      (fun item => item.2.name) = [⟨"a.Screen"⟩] :=
    (Table.sameHeaders_resolve _ [.standard] 1).map_compiled Declaration.name fun _ => rfl
  refine ⟨output, item.2, hflush, ?_, ?_⟩
  · unfold Resolution.firstWritten?
    rw [if_pos ⟨rfl, hfatal⟩]
    exact hwritten
  · have hname : item.2.name ∈ ((Table.ofList [.markedScreen]).resolve
        (.repeated .standard 1) 1).table.compiled.map fun item => item.2.name :=
      List.mem_map.2 ⟨item, hitem, rfl⟩
    rw [hnames] at hname
    exact List.mem_singleton.1 hname

/-- Installed once there is output, installed twice there is an error in its place. -/
theorem Configuration.flush_markedScreen_twice :
    ∃ output,
      (((Table.ofList [.markedScreen]).resolve (.repeated .standard 1) 1).flush
        (.repeated .standard 1)).result = .ok output ∧
      (((Table.ofList [.markedScreen]).resolve (.repeated .standard 2) 1).flush
        (.repeated .standard 2)).result
          = .error (.emit ⟨"a.Screen"⟩ (.classFile (.duplicateMethod "track" accessorDescriptor))) := by
  rcases Configuration.exists_flush_markedScreen with ⟨output, written, hflush, hwritten, hname⟩
  have henabled : Configuration.standard.enabled = true := rfl
  have halike := Registry.alike_repeated henabled (.ofList [.markedScreen]) 1 1
  have herror := halike.result_flush henabled 0
  simp only [hwritten, hname] at herror
  exact ⟨output, hflush, herror⟩

theorem Configuration.reinstalled_markedScreen :
    ((Table.ofList [.markedScreen]).resolve (.repeated .standard 3) 1).table
        = ((Table.ofList [.markedScreen]).resolve (.repeated .standard 1) 1).table ∧
      (((Table.ofList [.markedScreen]).resolve (.repeated .standard 3) 1).flush
        (.repeated .standard 3)).result
          = .error (.emit ⟨"a.Screen"⟩ (.classFile (.duplicateMethod "track" accessorDescriptor))) := by
  rcases Configuration.exists_flush_markedScreen with ⟨output, written, hflush, hwritten, hname⟩
  have hcount : 1 ≤ 3 := by decide
  rcases Configuration.reinstalled .standard (.ofList [.markedScreen]) 1 hcount with
    ⟨htable, _, _, herror⟩
  refine ⟨htable, ?_⟩
  rw [herror written (by decide) hwritten, hname]
  rfl

end AccessorSynthesis
