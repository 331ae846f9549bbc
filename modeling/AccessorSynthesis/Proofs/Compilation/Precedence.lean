import AccessorSynthesis.Proofs.Compilation.Output
import AccessorSynthesis.Proofs.Compilation.Transcript
import AccessorSynthesis.Proofs.Synthesis.Agreement
import AccessorSynthesis.Proofs.Synthesis.Coherence
import AccessorSynthesis.Proofs.Synthesis.Order

/-!
# Precedence — what comes first is not disturbed by what follows

A configuration is installed in front of other extensions, which say what they like, add members to
the declarations that they visit and make calls on class files.  A compilation with them is compared
with one without.  This file defines

* `ResolveExtension.AddsMembers extension` — what the other extensions may do to a table;
* `Configuration.Granted config table` — the table has only accessors of the configuration;
* `Configuration.FollowsAt config alone table id`, `Configuration.Follows config alone table` — at the
  declaration or throughout, `table` is `alone` up to what the others added;
* `Transcript.Follows transcript config alone` — the same for a resolution with what was said;
* `ClassFile.ShareAccessor file other accessor` — both class files have the accessor's method.

A visit comes to the same in both tables (`Configuration.Follows.synthesize`), since the others reach
a declaration only after the decision about it, and what they add cannot take the accessor's place.
In class files their calls come after the accessor is written and leave it there
(`ClassFile.Leaves.hasAccessor`).  `Configuration.undisturbed` puts both together.
-/

namespace AccessorSynthesis

open ClassFile (accessorDescriptor)

/-! ## What the others may do -/

/-- The extension adds members to the declaration that it visits, and does nothing else to the
table. -/
def ResolveExtension.AddsMembers (extension : ResolveExtension) : Prop :=
  ∀ table id, ∃ members : List (String × Member), (extension table id).1
    = table.afterAll (members.map fun entry => .addMember id entry.1 entry.2)

namespace Configuration

variable {config : Configuration} {alone table later : Table} {id other : DeclarationId}
variable {declaration : Declaration} {found : List Message}

/-! ## Granted accessors -/

/-- All accessors of the table are such as the configuration grants, and members of their
declarations. -/
def Granted (config : Configuration) (table : Table) : Prop :=
  ∀ id accessor, table.accessor? id = some accessor →
    ∃ declaration, table.get? id = some declaration ∧ accessor.name = config.accessorName ∧
      declaration.Holds accessor

theorem granted_of_visited (h : config.Granted table)
    (hvisited : config.Visited table id later found) : config.Granted later := by
  cases hvisited with
  | passed _ | unmarked _ _ _ | unsupported _ _ _ _ | nameTaken _ _ _ _ _ _ =>
      exact h
  | granted declaration _ hunsettled hmark hshape hfree hlater =>
      intro other accessor haccessor
      by_cases hother : other = id
      · subst hother
        have hgranted : later.accessor? other = some (config.accessorOf other declaration) :=
          hlater.accessor?_owner
        rw [hgranted] at haccessor
        cases haccessor
        refine ⟨_, hlater.get?_owner, rfl, ?_, hshape⟩
        exact (Declaration.isGenerated_withMember_self hfree).trans
          declaration.has_synthetic_accessorFlags
      · have hsame := hlater.others other hother
        rw [hsame.accessor?] at haccessor
        rw [hsame.get?]
        exact h other accessor haccessor

/-! ## Tables up to what the others added -/

/-- The tables agree on the declaration, or the configuration has decided about it and the others
have added members to it since. -/
structure FollowsAt (config : Configuration) (alone table : Table) (id : DeclarationId) : Prop where
  accessor? : table.accessor? id = alone.accessor? id
  isRejected : table.isRejected id = alone.isRejected id
  get? : table.get? id = alone.get? id ∨ config.Decided alone id ∧
    ∃ before declaration, alone.get? id = some before ∧ table.get? id = some declaration ∧
      before.Continues declaration

namespace FollowsAt

theorem of_sameAt (h : alone.SameAt table id) : config.FollowsAt alone table id :=
  ⟨h.accessor?, h.isRejected, Or.inl h.get?⟩

/-- What happens elsewhere does not matter, as long as decisions stand. -/
theorem elsewhere {alone' table' : Table} (h : config.FollowsAt alone table id)
    (halone : alone.SameAt alone' id) (htable : table.SameAt table' id)
    (hdecided : config.Decided alone id → config.Decided alone' id) :
    config.FollowsAt alone' table' id where
  accessor? := by
    rw [htable.accessor?, halone.accessor?, h.accessor?]
  isRejected := by
    rw [htable.isRejected, halone.isRejected, h.isRejected]
  get? := by
    rw [htable.get?, halone.get?]
    exact h.get?.imp (fun hsame => hsame) fun hadded => ⟨hdecided hadded.1, hadded.2⟩

theorem continues {before declaration : Declaration} (h : config.FollowsAt alone table id)
    (hbefore : alone.get? id = some before) (hafter : table.get? id = some declaration) :
    before.Continues declaration := by
  rcases h.get? with hsame | ⟨_, original, found, horiginal, hfound, hcontinues⟩
  · rw [hbefore, hafter] at hsame
    cases hsame
    exact .refl _
  · cases horiginal.symm.trans hbefore
    cases hfound.symm.trans hafter
    exact hcontinues

theorem header (h : config.FollowsAt alone table id) :
    (table.get? id).map Declaration.header = (alone.get? id).map Declaration.header := by
  rcases h.get? with hsame | ⟨_, before, declaration, hbefore, hafter, hcontinues⟩
  · rw [hsame]
  · rw [hbefore, hafter]
    exact congrArg some hcontinues.header

/-- Once the decision is made, a member may be added. -/
theorem withMember (h : config.FollowsAt alone table id) (hdecided : config.Decided alone id)
    (hget : table.get? id = some declaration) (name : String) (member : Member) :
    config.FollowsAt alone (table.replace id (declaration.withMember name member)) id where
  accessor? := h.accessor?
  isRejected := h.isRejected
  get? := by
    have hexists : ∃ before, alone.get? id = some before := by
      have hheader := h.header
      rw [hget] at hheader
      rcases Option.map_eq_some_iff.1 hheader.symm with ⟨before, hbefore, _⟩
      exact ⟨before, hbefore⟩
    rcases hexists with ⟨before, hbefore⟩
    exact Or.inr ⟨hdecided, before, _, hbefore, Table.get?_replace_self hget _,
      (h.continues hbefore hget).trans (declaration.continues_withMember name member)⟩

end FollowsAt

/-- The table is `alone` up to members that were added behind those of declarations about which the
configuration has decided, and what it granted is in `alone`. -/
structure Follows (config : Configuration) (alone table : Table) : Prop where
  agrees : ∀ id, config.FollowsAt alone table id
  granted : config.Granted alone

namespace Follows

theorem refl (h : config.Granted table) : config.Follows table table where
  agrees := fun id => .of_sameAt (.refl table id)
  granted := h

theorem sameHeaders (h : config.Follows alone table) : alone.SameHeaders table :=
  fun id => (h.agrees id).header

theorem accessors (h : config.Follows alone table) : table.accessors = alone.accessors :=
  Std.ExtTreeMap.ext_getElem? fun id => (h.agrees id).accessor?

theorem rejected (h : config.Follows alone table) : table.rejected = alone.rejected :=
  Std.ExtTreeSet.ext_mem fun {id} => decide_eq_decide.1 (h.agrees id).isRejected

theorem decided (h : config.Follows alone table) (hdecided : config.Decided alone id) :
    config.Decided table id := by
  intro declaration hunsettled
  rw [h.sameHeaders.inherits_iff]
  rcases h.sameHeaders.symm.exists_get? hunsettled.get? with ⟨before, hbefore, _⟩
  exact hdecided before ⟨hbefore, (h.agrees id).accessor?.symm.trans hunsettled.accessor?,
    (h.agrees id).isRejected.symm.trans hunsettled.isRejected⟩

/-! ### What the others do -/

theorem afterMember (h : config.Follows alone table) (hdecided : config.Decided alone id)
    (name : String) (member : Member) :
    config.Follows alone (table.after (.addMember id name member)) := by
  rcases table.cases_after_addMember id name member with hsame | ⟨declaration, hget, _, hadded⟩
  · rw [hsame]
    exact h
  rw [hadded]
  refine ⟨fun other => ?_, h.granted⟩
  by_cases hother : other = id
  · subst hother
    exact (h.agrees other).withMember hdecided hget name member
  · exact (h.agrees other).elsewhere (.refl alone other) (Table.sameAt_replace hother _)
      fun hbefore => hbefore

theorem afterMembers (h : config.Follows alone table) (hdecided : config.Decided alone id)
    (members : List (String × Member)) :
    config.Follows alone
      (table.afterAll (members.map fun entry => .addMember id entry.1 entry.2)) := by
  induction members generalizing table with
  | nil =>
      exact h
  | cons entry members ih =>
      exact ih (h.afterMember hdecided entry.1 entry.2)

/-! ### What the configuration does -/

/-- What is said of a decided declaration does not depend on its members. -/
theorem events_of_decided (h : config.Follows alone table) (henabled : config.enabled = true)
    (hdecided : config.Decided alone id) :
    (config.synthesize table id).events = (config.synthesize alone id).events := by
  cases hbefore : alone.get? id with
  | none =>
      have hnothing : ∀ {table : Table}, table.get? id = none → config.enabled = true →
          ∀ declaration, ¬table.Unsettled id declaration := by
        intro table hget _ declaration hunsettled
        rw [hunsettled.get?] at hget
        cases hget
      rw [(synthesize_of_settled (hnothing (h.sameHeaders.get?_eq_none hbefore))).2,
        (synthesize_of_settled (hnothing hbefore)).2]
  | some before =>
      rcases h.sameHeaders.exists_get? hbefore with ⟨declaration, hafter, hheader⟩
      have hopen : table.isUndecided id = alone.isUndecided id := by
        unfold Table.isUndecided
        rw [(h.agrees id).accessor?, (h.agrees id).isRejected]
      have hremark : Table.remark declaration = Table.remark before :=
        Declaration.eq_of_header Table.remark (fun _ => rfl) hheader
      have htable := resolveExtension_of_decided henabled hafter (h.decided hdecided)
      have halone := resolveExtension_of_decided henabled hbefore hdecided
      rw [hopen, hremark] at htable
      exact (congrArg Prod.snd htable).trans (congrArg Prod.snd halone).symm

/-- A visit comes to the same in both tables. -/
theorem synthesize (h : config.Follows alone table) (henabled : config.enabled = true)
    (id : DeclarationId) :
    config.Follows (config.synthesize alone id).table (config.synthesize table id).table ∧
      (config.synthesize table id).events = (config.synthesize alone id).events := by
  rcases (h.agrees id).get? with hget | ⟨hdecided, _⟩
  case inr =>
    -- The decision was made before, in both tables.
    refine ⟨?_, h.events_of_decided henabled hdecided⟩
    rw [(synthesize_of_decided hdecided).1, (synthesize_of_decided (h.decided hdecided)).1]
    exact h
  case inl =>
    -- The tables say the same of the declaration, so that the decision is the same.
    have hsame : alone.SameAt table id := ⟨hget, (h.agrees id).accessor?, (h.agrees id).isRejected⟩
    have hvisit : (config.synthesize alone id).SameAt (config.synthesize table id) id :=
      synthesize_sameAt hsame h.sameHeaders
    have hvisited := config.visited_synthesize alone id
    have hvisited' := config.visited_synthesize table id
    refine ⟨⟨fun other => ?_, granted_of_visited h.granted hvisited⟩, hvisit.events⟩
    by_cases hother : other = id
    · subst hother
      exact .of_sameAt hvisit.table
    · exact (h.agrees other).elsewhere (hvisited.sameAt hother) (hvisited'.sameAt hother)
        (config.kept_decided other _ _ _ _ _ hvisited)

end Follows
end Configuration

/-! ## Resolutions up to what the others added -/

namespace Transcript

variable {config : Configuration} {alone : Resolution} {transcript : Transcript}
variable {id : DeclarationId} {hosts : List ResolveExtension}

/-- The resolution came to the same as `alone` up to what the others added, and what the first
extension said is what was said there. -/
structure Follows (config : Configuration) (alone : Resolution) (transcript : Transcript) : Prop where
  table : config.Follows alone.table transcript.table
  events : transcript.saidBy 0 = alone.events

namespace Follows

theorem visit (h : transcript.Follows config alone) (henabled : config.enabled = true)
    (id : DeclarationId) :
    (transcript.visit id (config.resolveExtension, 0)).Follows config
      (alone.visit id config.resolveExtension) := by
  rcases h.table.synthesize henabled id with ⟨htable, hevents⟩
  refine ⟨htable, ?_⟩
  rw [saidBy_visit, h.events]
  exact congrArg (alone.events ++ ·) hevents

/-- The others speak for themselves, and reach the declaration after the decision about it. -/
theorem visitBy (h : transcript.Follows config alone) (hdecided : config.Decided alone.table id)
    (hhosts : ∀ extension ∈ hosts, ResolveExtension.AddsMembers extension) {first : Nat}
    (hfirst : 0 < first) :
    ((hosts.zipIdx first).foldl (fun transcript place => transcript.visit id place)
      transcript).Follows config alone := by
  induction hosts generalizing transcript first with
  | nil =>
      exact h
  | cons extension hosts ih =>
      rcases hhosts extension List.mem_cons_self transcript.table id with ⟨members, hmembers⟩
      have hnext : (transcript.visit id (extension, first)).Follows config alone := by
        refine ⟨?_, ?_⟩
        · show config.Follows alone.table (extension transcript.table id).1
          rw [hmembers]
          exact h.table.afterMembers hdecided members
        · rw [saidBy_visit, if_neg (Nat.ne_of_gt hfirst), List.append_nil, h.events]
      exact ih hnext (fun other hother => hhosts other (List.mem_cons_of_mem extension hother))
        (Nat.succ_pos first)

section

variable {registry : Registry} (henabled : config.enabled = true)
variable (hregistry : registry.resolve = config.resolveExtension :: hosts)
variable (hhosts : ∀ extension ∈ hosts, ResolveExtension.AddsMembers extension)
include henabled hregistry hhosts

theorem visitAll (h : transcript.Follows config alone) (id : DeclarationId) :
    (transcript.visitAll registry id).Follows config (alone.visitAll config.registry id) := by
  have hdecided : config.Decided (alone.visit id config.resolveExtension).table id :=
    config.decided_of_visited henabled (config.visited_synthesize alone.table id)
  unfold Transcript.visitAll
  rw [hregistry, List.zipIdx_cons, List.foldl_cons]
  exact (h.visit henabled id).visitBy hdecided hhosts (Nat.succ_pos 0)

theorem pass (h : transcript.Follows config alone) (ids : List DeclarationId) :
    (transcript.pass registry ids).Follows config (alone.pass config.registry ids) := by
  induction ids generalizing transcript alone with
  | nil =>
      exact h
  | cons id ids ih =>
      exact ih (h.visitAll henabled hregistry hhosts id)

theorem passes (h : transcript.Follows config alone) (ids : List DeclarationId) (count : Nat) :
    (transcript.passes registry ids count).Follows config
      (alone.passes config.registry ids count) := by
  induction count generalizing transcript alone with
  | zero =>
      exact h
  | succ count ih =>
      exact ih (h.pass henabled hregistry hhosts ids)

end

end Follows
end Transcript

/-! ## Class files with accessors -/

namespace ClassFile

variable {file later : ClassFile} {shape : Shape} {accessor : Accessor}

/-- No call takes the method of an accessor away. -/
theorem Leaves.hasAccessor (h : Leaves file later) (hfile : file.HasAccessor shape accessor) :
    later.HasAccessor shape accessor := by
  rcases hfile with ⟨method, hfound, haccessor⟩
  cases h with
  | grown hgrows =>
      refine ⟨method, ?_, haccessor.extends hgrows.pool.stable⟩
      rw [hgrows.method?_eq]
      exact hfound
  | @interface grown _ _ index hgrows hindex hnew =>
      refine ⟨method, ?_, haccessor.extends hgrows.pool.stable⟩
      rw [← hgrows.method?_eq] at hfound
      exact hfound
  | @method grown _ _ added hgrows hresolves hnew =>
      refine ⟨method, ?_, haccessor.extends hgrows.pool.stable⟩
      -- The method that is added comes behind those that are searched first.
      rw [← hgrows.method?_eq] at hfound
      unfold method? at hfound ⊢
      rw [List.find?_append, hfound]
      rfl

end ClassFile

variable {config : Configuration} {table : Table} {registry : Registry} {rest : List EmitExtension}
variable {id : DeclarationId} {declaration : Declaration} {accessor : Accessor}

/-- Where the configuration is the first to work on a class file, its accessor is there to stay. -/
theorem Table.hasAccessor_of_classFile {file : ClassFile}
    (hregistry : registry.emit = config.emit :: rest)
    (hrest : ∀ extension ∈ rest, EmitExtension.MakesCalls extension)
    (henabled : config.enabled = true) (hget : table.get? id = some declaration)
    (hgenerated : declaration.isGenerated config.accessorName = true)
    (haccessor : table.accessor? id = some accessor) (hname : accessor.name = config.accessorName)
    (h : (table.classFile registry id declaration).result = .ok file) :
    file.HasAccessor declaration.shape accessor := by
  rcases classFile_eq_ok_iff.1 h with ⟨skeleton, _, hemitted, rfl⟩
  rw [hregistry] at hemitted ⊢
  have hresult := result_of_emitAll_cons hemitted
  have hends := config.ends_emit henabled hget hgenerated haccessor hname skeleton
  rcases Registry.exists_calls_of_emitAll hrest table id (config.emit table id skeleton).file with
    ⟨calls, hcalls⟩
  rw [(emitAll_cons_of_ok hresult rest).1, hcalls]
  exact ClassFile.afterCalls_of_leaves (fun hleaves => hleaves.hasAccessor)
    (hends.ok_of_result hresult).hasAccessor calls

namespace ClassFile

/-- Both class files have a method for the accessor, with the same access word; either it has no body
in both of them, or it returns the accessor's text in both. -/
def ShareAccessor (file other : ClassFile) (accessor : Accessor) : Prop :=
  ∃ method same, file.method? accessor.name accessorDescriptor = some method ∧
    other.method? accessor.name accessorDescriptor = some same ∧ same.access = method.access ∧
    (method.body = none ∧ same.body = none ∨
      ∃ body again, method.body = some body ∧ same.body = some again ∧
        body.Returns file accessor.literal ∧ again.Returns other accessor.literal)

theorem HasAccessor.share {file other : ClassFile} {shape : Shape} {accessor : Accessor}
    (h : file.HasAccessor shape accessor) (hother : other.HasAccessor shape accessor) :
    file.ShareAccessor other accessor := by
  rcases h with ⟨method, hfound, haccessor⟩
  rcases hother with ⟨same, hsame, haccessor'⟩
  refine ⟨method, same, hfound, hsame, haccessor'.access.trans haccessor.access.symm, ?_⟩
  have hreturns : shape = .plainClass ∨ shape = .object →
      ∃ body again, method.body = some body ∧ same.body = some again ∧
        body.Returns file accessor.literal ∧ again.Returns other accessor.literal := by
    intro hshape
    rcases haccessor.concrete hshape with ⟨body, hbody, hreturn⟩
    rcases haccessor'.concrete hshape with ⟨again, hagain, hreturn'⟩
    exact ⟨body, again, hbody, hagain, hreturn, hreturn'⟩
  cases shape with
  | interface =>
      exact Or.inl ⟨haccessor.abstract rfl, haccessor'.abstract rfl⟩
  | plainClass =>
      exact Or.inr (hreturns (Or.inl rfl))
  | object =>
      exact Or.inr (hreturns (Or.inr rfl))
  | valueAggregate | wrapper =>
      exact absurd (by decide) haccessor.shape_ok

end ClassFile

/-- An accessor that was written is read back. -/
theorem Table.exists_hasAccessor_of_writes {bytes : ClassFile.Bytes}
    (hregistry : registry.emit = config.emit :: rest)
    (hrest : ∀ extension ∈ rest, EmitExtension.MakesCalls extension)
    (henabled : config.enabled = true) (hget : table.get? id = some declaration)
    (hgenerated : declaration.isGenerated config.accessorName = true)
    (haccessor : table.accessor? id = some accessor) (hname : accessor.name = config.accessorName)
    (h : table.Writes registry (id, declaration) bytes) :
    ∃ file, ClassFile.ofBytes bytes = .ok file ∧ file.HasAccessor declaration.shape accessor := by
  rcases h with ⟨file, hfile, hbytes⟩
  have hcalls : registry.MakesCalls := by
    intro extension hextension
    rw [hregistry] at hextension
    rcases List.mem_cons.1 hextension with rfl | hmem
    · exact config.makesCalls_emit
    · exact hrest extension hmem
  rcases hasAccessor_of_classFile hregistry hrest henabled hget hgenerated haccessor hname hfile with
    ⟨method, hfound, hmethod⟩
  refine ⟨file.noted, (wellFormed_of_classFile hcalls hfile).ofBytes_toBytes hbytes, method, hfound, ?_⟩
  -- What is noted when a class file is read does not concern the pool.
  exact hmethod.extends (.refl file.pool)

/-! ## Compilations with others and without -/

namespace Configuration

variable {hosts : Registry} {passes : Nat}

theorem install_eq (henabled : config.enabled = true) (hosts : Registry) :
    (config.install hosts).1
      = ⟨config.resolveExtension :: hosts.resolve, config.emit :: hosts.emit⟩ := by
  unfold install
  rw [henabled]
  rfl

theorem follows_transcript (henabled : config.enabled = true)
    (hresolve : ∀ extension ∈ hosts.resolve, ResolveExtension.AddsMembers extension)
    (hfresh : ∀ id, table.accessor? id = none) (passes : Nat) :
    (table.transcript (config.install hosts).1 passes).Follows config
      (table.resolve (config.install .empty).1 passes) := by
  have hgranted : config.Granted table := by
    intro id accessor haccessor
    rw [hfresh] at haccessor
    cases haccessor
  have hstart : Transcript.Follows config ⟨table, []⟩ ⟨table, []⟩ := ⟨.refl hgranted, rfl⟩
  rw [install_empty henabled, install_eq henabled]
  exact hstart.passes henabled rfl hresolve (table.compiled.map Prod.fst) passes

/-- Extensions behind the configuration do not disturb it.  They may say anything, add members to the
declarations that they visit and make calls on class files: accessors and refusals are those without
them, so is what the configuration says, and an accessor that is written is written as without
them. -/
theorem undisturbed {config : Configuration} {hosts : Registry} {table : Table} (passes : Nat)
    (henabled : config.enabled = true)
    (hresolve : ∀ extension ∈ hosts.resolve, ResolveExtension.AddsMembers extension)
    (hemit : hosts.MakesCalls) (hfresh : ∀ id, table.accessor? id = none) :
    (table.resolve (config.install hosts).1 passes).table.accessors
        = (table.resolve (config.install .empty).1 passes).table.accessors ∧
      (table.resolve (config.install hosts).1 passes).table.rejected
        = (table.resolve (config.install .empty).1 passes).table.rejected ∧
      (table.transcript (config.install hosts).1 passes).resolution
        = table.resolve (config.install hosts).1 passes ∧
      (table.transcript (config.install hosts).1 passes).saidBy 0
        = (table.resolve (config.install .empty).1 passes).events ∧
      ∀ id accessor declaration found bytes bytes',
        (table.resolve (config.install .empty).1 passes).table.accessor? id = some accessor →
        (table.resolve (config.install .empty).1 passes).table.get? id = some declaration →
        (table.resolve (config.install hosts).1 passes).table.get? id = some found →
        (table.resolve (config.install .empty).1 passes).table.Writes
          (config.install .empty).1 (id, declaration) bytes →
        (table.resolve (config.install hosts).1 passes).table.Writes
          (config.install hosts).1 (id, found) bytes' →
        ∃ file other, ClassFile.ofBytes bytes = .ok file ∧ ClassFile.ofBytes bytes' = .ok other ∧
          file.ShareAccessor other accessor := by
  have hfollows := follows_transcript henabled hresolve hfresh passes
  have hresolution := table.resolution_transcript (config.install hosts).1 passes
  have htable : config.Follows (table.resolve (config.install .empty).1 passes).table
      (table.resolve (config.install hosts).1 passes).table := by
    rw [← hresolution]
    exact hfollows.table
  refine ⟨htable.accessors, htable.rejected, hresolution, hfollows.events, ?_⟩
  intro id accessor declaration found bytes bytes' haccessor hget hfound hwrites hwrites'
  -- Granted accessors are generated members, and members stay in the declaration.
  rcases htable.granted id accessor haccessor with ⟨granted, hgranted, hname, hholds⟩
  cases hget.symm.trans hgranted
  have hcontinues := (htable.agrees id).continues hget hfound
  have hgenerated : declaration.isGenerated config.accessorName = true := hname ▸ hholds.generated
  have hshape : found.shape = declaration.shape :=
    Declaration.eq_of_header Declaration.shape (fun _ => rfl) hcontinues.header
  have hinstalled : ∀ hosts : Registry, (config.install hosts).1.emit = config.emit :: hosts.emit :=
    fun hosts => congrArg Registry.emit (install_eq henabled hosts)
  rcases Table.exists_hasAccessor_of_writes (hinstalled .empty) (fun _ => List.not_mem_nil.elim)
    henabled hget hgenerated haccessor hname hwrites with ⟨file, hread, hhas⟩
  rcases Table.exists_hasAccessor_of_writes (hinstalled hosts) hemit henabled hfound
    (hcontinues.isGenerated hgenerated) ((htable.agrees id).accessor?.trans haccessor) hname hwrites' with
    ⟨other, hread', hhas'⟩
  rw [hshape] at hhas'
  exact ⟨file, other, hread, hread', hhas.share hhas'⟩

/-- A class file is written if its skeleton takes the accessor and what the others add, and the bytes
of that can be told. -/
theorem exists_writes (hosts : Registry) (henabled : config.enabled = true)
    (hget : table.get? id = some declaration)
    (hgenerated : declaration.isGenerated config.accessorName = true)
    (haccessor : table.accessor? id = some accessor) (hname : accessor.name = config.accessorName)
    (h : (do
        let skeleton ← table.skeleton declaration
        let emission := skeleton.emitAccessor declaration.shape accessor
        let () ← emission.result
        let later := Registry.emitAll table id hosts.emit emission.file
        let () ← later.result
        later.file.toBytes.mapError EmitError.classFile).toOption.isSome = true) :
    ∃ bytes, table.Writes (config.install hosts).1 (id, declaration) bytes := by
  rcases exists_of_isSome h with ⟨bytes, hall⟩
  rcases bind_eq_ok_iff.1 hall with ⟨skeleton, hskeleton, hwritten⟩
  rcases bind_eq_ok_iff.1 hwritten with ⟨done, hemitted, hothers⟩
  rcases bind_eq_ok_iff.1 hothers with ⟨done', hlater, hbytes⟩
  rcases config.emit_of_accessor? henabled hget hgenerated haccessor hname skeleton with
    ⟨hfile, hresult⟩
  rcases emitAll_cons_of_ok (hresult.trans hemitted) hosts.emit with ⟨hfile', hresult'⟩
  rw [hfile] at hfile' hresult'
  refine ⟨bytes, (Registry.emitAll table id (config.emit :: hosts.emit) skeleton).file, ?_, ?_⟩
  · rw [classFile_eq_ok_iff, install_eq henabled]
    exact ⟨skeleton, hskeleton, hresult'.trans hlater, rfl⟩
  · rw [hfile']
    exact mapError_eq_ok_iff.1 hbytes

end Configuration

/-- Extensions that mention each declaration, add members to it and an interface to its class file.
One of the members has the name that accessors have by default. -/
def Registry.visiting : Registry where
  resolve := [fun table id =>
    (table.afterAll (["track", "visit"].map fun name =>
        .addMember id name ⟨.ofList [.pub], Table.accessorType, none⟩),
      [.message (.trace "visited")])]
  emit := [fun _ _ file =>
    match (ClassFile.addInterface "a/Visited").run.run file with
    | (result, file) => ⟨file, [], result.mapError .classFile⟩]

theorem Registry.addsMembers_visiting :
    ∀ extension ∈ visiting.resolve, ResolveExtension.AddsMembers extension := by
  intro extension hextension
  rw [List.mem_singleton.1 hextension]
  intro table id
  exact ⟨["track", "visit"].map fun name => (name, ⟨.ofList [.pub], Table.accessorType, none⟩), rfl⟩

theorem Registry.makesCalls_visiting : visiting.MakesCalls := by
  intro extension hextension
  rw [List.mem_singleton.1 hextension]
  intro table id file
  exact ⟨[.addInterface "a/Visited"], rfl⟩

/-- A class that carries the annotation and is compiled. -/
def Declaration.compiledClass : Declaration := { markedClass with span := some ⟨0, 3, 0⟩ }

/-- The class, visited twice with the others behind the configuration. -/
def Resolution.ofCompiledClass (hosts : Registry) : Resolution :=
  (Table.ofList [.compiledClass]).resolve (Configuration.standard.install hosts).1 2

theorem Configuration.undisturbed_compiledClass :
    ∃ accessor bytes bytes' file other,
      (Resolution.ofCompiledClass .visiting).table.accessor? 0 = some accessor ∧
      accessor.literal = "A" ∧
      ((Table.ofList [.compiledClass]).transcript (standard.install .visiting).1 2).saidBy 0
        = (Resolution.ofCompiledClass .empty).events ∧
      (Resolution.ofCompiledClass .empty).table.Writes (standard.install .empty).1
        (0, Declaration.compiledClass.withAccessor accessor) bytes ∧
      (Resolution.ofCompiledClass .visiting).table.Writes (standard.install .visiting).1
        (0, (Declaration.compiledClass.withAccessor accessor).withMember "visit"
          ⟨.ofList [.pub], Table.accessorType, none⟩) bytes' ∧
      ClassFile.ofBytes bytes = .ok file ∧ ClassFile.ofBytes bytes' = .ok other ∧
      file.ShareAccessor other accessor := by
  have hfresh : ∀ id, (Table.ofList [.compiledClass]).accessor? id = none :=
    fun id => Std.ExtTreeMap.getElem?_empty
  have henabled : standard.enabled = true := rfl
  rcases Configuration.undisturbed 2 henabled Registry.addsMembers_visiting
    Registry.makesCalls_visiting hfresh with ⟨haccessors, _, _, hsaid, hfiles⟩
  have haccessor : (Resolution.ofCompiledClass .empty).table.accessor? 0
      = some (standard.accessorOf 0 .compiledClass) := by
    cbv
  have haccessor' : (Resolution.ofCompiledClass .visiting).table.accessor? 0
      = some (standard.accessorOf 0 .compiledClass) :=
    (congrArg (·[0]?) haccessors).trans haccessor
  have hget : (Resolution.ofCompiledClass .empty).table.get? 0
      = some (Declaration.compiledClass.withAccessor (standard.accessorOf 0 .compiledClass)) := by
    cbv
  -- The member that would be in the way of the accessor comes too late.
  have hfound : (Resolution.ofCompiledClass .visiting).table.get? 0
      = some ((Declaration.compiledClass.withAccessor (standard.accessorOf 0 .compiledClass)).withMember
          "visit" ⟨.ofList [.pub], Table.accessorType, none⟩) := by
    cbv
  rcases exists_writes .empty henabled hget (by decide) haccessor rfl (by decide +kernel) with
    ⟨bytes, hwrites⟩
  rcases exists_writes .visiting henabled hfound (by decide) haccessor' rfl (by decide +kernel) with
    ⟨bytes', hwrites'⟩
  rcases hfiles 0 _ _ _ bytes bytes' haccessor hget hfound hwrites hwrites' with
    ⟨file, other, hread, hread', hshare⟩
  exact ⟨_, bytes, bytes', file, other, haccessor', rfl, hsaid, hwrites, hwrites', hread, hread',
    hshare⟩

end AccessorSynthesis
