import AccessorSynthesis.Proofs.Compilation.Accessors
import AccessorSynthesis.Proofs.Synthesis.Literal

/-!
# Dispatch — which accessor answers for a class

A call of an accessor is answered by the first class, from the given one upwards along the
superclasses, whose method has a body.  This file defines

* `Keyed.classFile? output name` — what a reader finds under a name;
* `Keyed.HasSuper output name other` — one step from a class to its superclass;
* `Keyed.dispatch? output accessor steps name` — the class that answers, and its answer;
* `Table.HasOwnNames table` — no class has the name of another one, or of the root class.

The declaration of a class with an accessor answers for itself, with the text that its annotation
gives or with its simple name (`Configuration.IsAnswer`), and above a declaration that is not
trackable there is none that could answer (`Configuration.dispatch_of_flush`).
-/

namespace AccessorSynthesis

open ClassFile (ConstantPool Instruction MethodBody accessorDescriptor rootClass)
open Relation (ReflTransGen)

/-! ## Running accessors -/

namespace ClassFile

theorem Instruction.constant?_loading (index : UInt16) : (loading index).constant? = some index := by
  unfold loading
  split
  · rename_i hsmall
    refine congrArg some (UInt16.toNat_inj.1 ?_)
    rw [UInt8.toNat_toUInt16, UInt8.toNat_ofNat']
    omega
  · rfl

/-- Runs instructions that load texts and return the last one.  Anything else ends the run. -/
def Instruction.runOnto (pool : ConstantPool) : List String → List Instruction → Option String
  | _, [] => none
  | stack, instruction :: rest =>
      match instruction with
      | .loadConstant _ | .loadConstantWide _ => do
          let text ← pool.stringAt? (← instruction.constant?)
          runOnto pool (text :: stack) rest
      | .returnReference => stack.head?
      | .loadThis | .invokeSpecial _ | .returnVoid => none

/-- Whichever of the two forms a load has, it pushes the text of the entry. -/
theorem Instruction.runOnto_loading (pool : ConstantPool) (stack : List String) (index : UInt16)
    (rest : List Instruction) : runOnto pool stack (loading index :: rest)
      = (pool.stringAt? index).bind fun text => runOnto pool (text :: stack) rest := by
  have hconstant := constant?_loading index
  unfold loading at hconstant ⊢
  split at hconstant
  · rename_i hsmall
    rw [if_pos hsmall, runOnto, hconstant]
    rfl
  · rename_i hlarge
    rw [if_neg hlarge, runOnto]
    rfl

/-- The text that a body returns. -/
def MethodBody.returned? (body : MethodBody) (pool : ConstantPool) : Option String :=
  Instruction.runOnto pool [] body.instructions

theorem MethodBody.Returns.returned? {body : MethodBody} {file : ClassFile} {text : String}
    (h : body.Returns file text) : body.returned? file.pool = some text := by
  rcases h with ⟨index, rfl, htext⟩
  rw [MethodBody.returned?, Instruction.runOnto_loading, htext]
  rfl

end ClassFile

/-! ## Going up -/

namespace Keyed

/-- The class file that a reader finds under a name. -/
def classFile? (output : Output) (name : String) : Option ClassFile :=
  (output.find? name).bind fun bytes => (ClassFile.ofBytes bytes).toOption

/-- The class has a class file, in which the other one is the superclass. -/
def HasSuper (output : Output) (name other : String) : Prop :=
  ∃ file, output.classFile? name = some file ∧ file.superName? = some other

/-- The class that answers to a call of the accessor on the given class, and its answer.  The search
ends after a number of steps, since nothing keeps superclasses from forming a cycle. -/
def dispatch? (output : Output) (accessor : String) : Nat → String → Option (String × String)
  | 0, _ => none
  | steps + 1, name => do
      let file ← output.classFile? name
      match (file.method? accessor accessorDescriptor).bind (·.body) with
      | some body => (body.returned? file.pool).map fun text => (name, text)
      | none => output.dispatch? accessor steps (← file.superName?)

variable {output : Output} {accessor name : String} {steps : Nat} {file : ClassFile}

theorem dispatch?_of_absent (h : output.classFile? name = none) :
    output.dispatch? accessor steps name = none := by
  cases steps with
  | zero =>
      rfl
  | succ steps =>
      rw [dispatch?, h]
      rfl

theorem dispatch?_of_body {body : MethodBody} (h : output.classFile? name = some file)
    (hbody : (file.method? accessor accessorDescriptor).bind (·.body) = some body) :
    output.dispatch? accessor (steps + 1) name
      = (body.returned? file.pool).map fun text => (name, text) := by
  simp [dispatch?, h, hbody]

theorem dispatch?_of_noBody (h : output.classFile? name = some file)
    (hbody : (file.method? accessor accessorDescriptor).bind (·.body) = none) :
    output.dispatch? accessor (steps + 1) name
      = file.superName?.bind (output.dispatch? accessor steps) := by
  simp [dispatch?, h, hbody]

end Keyed

/-- Every declaration has a class name of its own, which is not that of the root class. -/
structure Table.HasOwnNames (table : Table) : Prop where
  unique : ∀ first second a b, table.get? first = some a → table.get? second = some b →
    a.name.internalName = b.name.internalName → first = second
  notRoot : ∀ id declaration, table.get? id = some declaration →
    declaration.name.internalName ≠ rootClass

theorem Table.hasOwnNames_ofList {declarations : List Declaration}
    (hunique : (declarations.map fun declaration => declaration.name.internalName).Nodup)
    (hroot : ∀ declaration ∈ declarations, declaration.name.internalName ≠ rootClass) :
    (ofList declarations).HasOwnNames where
  unique := by
    intro first second a b hfirst hsecond hname
    have hat : ∀ {id : DeclarationId} {declaration : Declaration},
        (ofList declarations).get? id = some declaration →
        (declarations.map fun declaration => declaration.name.internalName)[id]?
          = some declaration.name.internalName := by
      intro id declaration hget
      have hlist : declarations[id]? = some declaration := by
        simpa [ofList, Table.get?] using hget
      rw [List.getElem?_map, hlist]
      rfl
    have hlt := (List.getElem?_eq_some_iff.1 (hat hfirst)).1
    refine (List.getElem?_inj hlt hunique).1 ?_
    rw [hat hfirst, hat hsecond, hname]
  notRoot := by
    intro id declaration hget
    have hmem : declaration ∈ declarations.toArray := Array.mem_of_getElem? hget
    exact hroot declaration (List.mem_toArray.1 hmem)

namespace Configuration

variable {config : Configuration} {start table : Table} {id : DeclarationId}
variable {declaration found : Declaration} {output : Output} {name other : String}
variable {file : ClassFile} {bytes : ClassFile.Bytes}

section

variable (henabled : config.enabled = true) (hfresh : start.IsFresh config.accessorName)
variable (hprogress : config.Progress start (start.compiled.map Prod.fst) table)
variable (houtput : (Resolution.generate table config.registry .empty table.compiled).result
  = .ok output)
include henabled hfresh hprogress houtput

omit henabled in
/-- Only compiled declarations have class files. -/
theorem exists_compiled_of_find? (hfind : output.find? name = some bytes) :
    ∃ id declaration, (id, declaration) ∈ start.compiled ∧ declaration.name.internalName = name := by
  -- Generation puts bytes under names of compiled declarations only.
  by_contra hnone
  have hother : ∀ item ∈ table.compiled, item.2.name.internalName ≠ name := by
    rintro ⟨id, found⟩ hmem hname
    rcases hprogress.exists_start hfresh hmem with ⟨declaration, hstart, hheader, _⟩
    refine hnone ⟨id, declaration, hstart, ?_⟩
    rw [← hname, Declaration.eq_of_header Declaration.name (fun _ => rfl) hheader]
  have hempty := Resolution.find?_of_generate
    (Resolution.namesAgree config.makesCalls_registry _ _) hother houtput
  rw [hfind] at hempty
  cases hempty

variable (hnames : start.HasOwnNames)
include hnames

theorem exists_classFile? (hmem : (id, declaration) ∈ start.compiled) :
    ∃ found file, found.header = declaration.header ∧
      table.IsClassFile found (config.grant? start id declaration) file ∧
      output.classFile? declaration.name.internalName = some file.noted := by
  have hlast : ∀ later other, (later, other) ∈ start.compiled → id < later →
      other.name.internalName ≠ declaration.name.internalName := by
    intro later other hlater hlt hname
    have hsame := hnames.unique later id other declaration (Table.mem_compiled_iff.1 hlater).1
      (Table.mem_compiled_iff.1 hmem).1 hname
    exact Nat.ne_of_lt hlt hsame.symm
  rcases exists_isClassFile henabled hfresh hprogress houtput hmem hlast with
    ⟨found, file, bytes, hheader, hclass, hbytes, hfind⟩
  refine ⟨found, file, hheader, hclass, ?_⟩
  rw [Keyed.classFile?, hfind, Option.bind_some, hclass.wellFormed.ofBytes_toBytes hbytes]
  rfl

/-- Whatever the output has under a name is the class file of a declaration. -/
theorem exists_of_find? (hfind : output.find? name = some bytes) :
    ∃ id declaration found file, (id, declaration) ∈ start.compiled ∧
      declaration.name.internalName = name ∧ found.header = declaration.header ∧
      table.IsClassFile found (config.grant? start id declaration) file ∧
      output.classFile? name = some file.noted := by
  rcases exists_compiled_of_find? hfresh hprogress houtput hfind with
    ⟨id, declaration, hmem, rfl⟩
  rcases exists_classFile? henabled hfresh hprogress houtput hnames hmem with
    ⟨found, file, hheader, hclass, hfile⟩
  exact ⟨id, declaration, found, file, hmem, rfl, hheader, hclass, hfile⟩

/-! ### Classes that are trackable -/

/-- A class with an accessor answers for itself, whatever is above it. -/
theorem dispatch?_of_granted (hmem : (id, declaration) ∈ start.compiled)
    (hgrant : (config.grant? start id declaration).isSome = true)
    (hshape : declaration.shape = .plainClass ∨ declaration.shape = .object) (steps : Nat) :
    output.dispatch? config.accessorName (steps + 1) declaration.name.internalName
      = some (declaration.name.internalName, config.literal declaration) := by
  rcases exists_classFile? henabled hfresh hprogress houtput hnames hmem with
    ⟨found, file, hheader, hclass, hfile⟩
  rcases Option.isSome_iff_exists.1 ((isSome_method?_iff hclass).2 hgrant) with ⟨method, hmethod⟩
  have haccessor := isAccessor_of_method? hclass hmethod
  rw [Declaration.eq_of_header Declaration.shape (fun _ => rfl) hheader] at haccessor
  rcases haccessor.concrete hshape with ⟨body, hbody, hreturns⟩
  have hfound : (file.noted.method? config.accessorName accessorDescriptor).bind (·.body)
      = some body := by
    show (file.method? config.accessorName accessorDescriptor).bind (·.body) = some body
    rw [hmethod]
    exact hbody
  have htext : body.returned? file.noted.pool = some (config.literal declaration) :=
    hreturns.returned?
  rw [Keyed.dispatch?_of_body hfile hfound, htext]
  rfl

/-! ### Classes that are not trackable -/

/-- No compiled declaration of that class name is trackable. -/
def IsUnmarked (config : Configuration) (start : Table) (name : String) : Prop :=
  ∀ id declaration, (id, declaration) ∈ start.compiled → declaration.name.internalName = name →
    ¬start.Inherits id config.mark

theorem without_of_isUnmarked (hunmarked : config.IsUnmarked start name) :
    output.find? name = none ∨ ∃ file, output.classFile? name = some file ∧
      file.method? config.accessorName accessorDescriptor = none := by
  cases hfind : output.find? name with
  | none =>
      exact Or.inl rfl
  | some bytes =>
      rcases exists_of_find? henabled hfresh hprogress houtput hnames hfind with
        ⟨id, declaration, found, file, hmem, hname, _, hclass, hfile⟩
      have hnone : config.grant? start id declaration = none :=
        if_neg fun hgrant => hunmarked id declaration hmem hname hgrant.1
      exact Or.inr ⟨file.noted, hfile, hclass.without hnone config.accessorName⟩

/-- A step leads from a declaration to its superclass, or to the root class. -/
theorem cases_of_hasSuper (hsuper : output.HasSuper name other) :
    ∃ id declaration, (id, declaration) ∈ start.compiled ∧ declaration.name.internalName = name ∧
      (other = rootClass ∨ ∃ super superDeclaration, start.HasSupertype id super ∧
        start.get? super = some superDeclaration ∧
        superDeclaration.name.internalName = other) := by
  rcases hsuper with ⟨read, hread, hother⟩
  rcases Option.bind_eq_some_iff.1 hread with ⟨bytes, hfind, _⟩
  rcases exists_of_find? henabled hfresh hprogress houtput hnames hfind with
    ⟨id, declaration, found, file, hmem, hname, hheader, hclass, hfile⟩
  rw [hfile] at hread
  cases hread
  -- The table at the end and the one at the start agree on the name of the superclass.
  rcases hclass.superName with ⟨superName, hsuperName, hindex⟩
  have hsame : superName = other := Option.some.inj (hindex.symm.trans hother)
  rw [hprogress.sameHeaders.superNameOf_eq hheader, hsame] at hsuperName
  refine ⟨id, declaration, hmem, hname, ?_⟩
  rcases Table.cases_of_superNameOf hsuperName with ⟨_, hroot⟩ | ⟨super, hsuper, hsuperName⟩
  · exact Or.inl hroot
  · rcases Option.map_eq_some_iff.1 hsuperName with ⟨superDeclaration, hget, hown⟩
    have hedge : super ∈ declaration.supertypes :=
      List.mem_append_left _ (Option.mem_toList.2 hsuper)
    exact Or.inr ⟨super, superDeclaration,
      ⟨declaration, (Table.mem_compiled_iff.1 hmem).1, hedge⟩, hget, hown⟩

/-- The superclass of a declaration that is not trackable is not trackable either. -/
theorem isUnmarked_of_hasSuper (hunmarked : config.IsUnmarked start name)
    (hsuper : output.HasSuper name other) : config.IsUnmarked start other := by
  intro id' declaration' hmem' hname' hmark
  have hget' := (Table.mem_compiled_iff.1 hmem').1
  rcases cases_of_hasSuper henabled hfresh hprogress houtput hnames hsuper with
    ⟨id, declaration, hmem, hname, hroot | ⟨super, superDeclaration, hedge, hget, hown⟩⟩
  · exact hnames.notRoot id' declaration' hget' (hname'.trans hroot)
  · -- Names are unique, so that this is the superclass; and what a superclass inherits, the
    -- declaration inherits through it.
    have hsame := hnames.unique id' super declaration' superDeclaration hget' hget
      (hname'.trans hown.symm)
    rw [hsame] at hmark
    exact hunmarked id declaration hmem hname (hmark.of_hasSupertype hedge)

theorem isUnmarked_of_reaches (hunmarked : config.IsUnmarked start name)
    (hreaches : ReflTransGen output.HasSuper name other) : config.IsUnmarked start other := by
  induction hreaches with
  | refl =>
      exact hunmarked
  | tail _ hsuper ih =>
      exact isUnmarked_of_hasSuper henabled hfresh hprogress houtput hnames ih hsuper

/-- A search that starts at a class that is not trackable ends without an answer. -/
theorem dispatch?_of_isUnmarked (hunmarked : config.IsUnmarked start name) (steps : Nat) :
    output.dispatch? config.accessorName steps name = none := by
  induction steps generalizing name with
  | zero =>
      rfl
  | succ steps ih =>
      rcases without_of_isUnmarked henabled hfresh hprogress houtput hnames hunmarked with
        hnone | ⟨file, hfile, hmethod⟩
      · refine Keyed.dispatch?_of_absent ?_
        rw [Keyed.classFile?, hnone]
        rfl
      rw [Keyed.dispatch?_of_noBody hfile (by rw [hmethod]; rfl)]
      cases hsuper : file.superName? with
      | none =>
          rfl
      | some superName =>
          exact ih (isUnmarked_of_hasSuper henabled hfresh hprogress houtput hnames hunmarked
            ⟨file, hfile, hsuper⟩)

end

end Configuration

/-- Which class answers to a call of the accessor.  If all classes have names of their own, a
declaration that is trackable and did not declare a member of the accessor's name answers for itself,
with its own text; and above a declaration that is not trackable there is no accessor at all,
however far the superclasses are followed. -/
theorem Configuration.dispatch_of_flush {config : Configuration} {table : Table} {passes : Nat}
    {output : Output} {id : DeclarationId} {declaration : Declaration}
    (henabled : config.enabled = true) (hfresh : table.IsFresh config.accessorName)
    (hnames : table.HasOwnNames) (hpasses : 1 ≤ passes)
    (hflush : ((table.resolve (config.install .empty).1 passes).flush
      (config.install .empty).1).result = .ok output)
    (hmem : (id, declaration) ∈ table.compiled) (hshape : declaration.shape ≠ .interface)
    (hfree : declaration.members.find? config.accessorName = none) :
    (table.Inherits id config.mark → ∃ text,
      (∀ other, config.IsAnswer declaration other ↔ other = text) ∧
      ∀ steps, output.dispatch? config.accessorName (steps + 1) declaration.name.internalName
        = some (declaration.name.internalName, text)) ∧
    (¬table.Inherits id config.mark →
      (∀ steps, output.dispatch? config.accessorName steps declaration.name.internalName = none) ∧
      ∀ other, ReflTransGen output.HasSuper declaration.name.internalName other →
        output.find? other = none ∨ ∃ file, output.classFile? other = some file ∧
          file.method? config.accessorName accessorDescriptor = none) := by
  have houtput := (generate_of_flush hflush).2
  have hsupported := not_isRestricted_of_flush henabled hfresh hpasses hflush
  rw [install_empty henabled] at houtput
  have hprogress := (resolved henabled hfresh hpasses).1
  rw [install_empty henabled] at hprogress
  constructor
  · intro hmark
    have hgrant := (grant?_isSome_iff hmem hsupported).2 ⟨hmark, hfree⟩
    have hconcrete : declaration.shape = .plainClass ∨ declaration.shape = .object :=
      Shape.hasCode (fun hrestricted => hsupported (id, declaration) hmem ⟨hmark, hrestricted⟩)
        hshape
    exact ⟨config.literal declaration, fun _ => isAnswer_iff,
      dispatch?_of_granted henabled hfresh hprogress houtput hnames hmem hgrant hconcrete⟩
  · intro hmark
    -- Only this declaration has its name, so that the name stands for it alone.
    have hunmarked : config.IsUnmarked table declaration.name.internalName := by
      intro other otherDeclaration hother hname
      have hsame := hnames.unique other id otherDeclaration declaration
        (Table.mem_compiled_iff.1 hother).1 (Table.mem_compiled_iff.1 hmem).1 hname
      rw [hsame]
      exact hmark
    refine ⟨dispatch?_of_isUnmarked henabled hfresh hprogress houtput hnames hunmarked, ?_⟩
    intro other hreaches
    exact without_of_isUnmarked henabled hfresh hprogress houtput hnames
      (isUnmarked_of_reaches henabled hfresh hprogress houtput hnames hunmarked hreaches)

/-- A subclass that does not carry the annotation. -/
def Declaration.plainSibling : Declaration :=
  ⟨⟨"a.Plain"⟩, .plainClass, false, false, [], some 0, [], .empty, some ⟨5, 9, 0⟩⟩

/-- A subclass whose annotation gives a text. -/
def Declaration.titledSibling : Declaration :=
  ⟨⟨"a.Titled"⟩, .plainClass, true, false,
    [(Mark.ofName Configuration.standard.mark).withArgument "trackWith" (.text "Title")], some 0, [],
    .empty, some ⟨10, 14, 0⟩⟩

/-- A subclass of the class with a text, which has none of its own. -/
def Declaration.titledLeaf : Declaration :=
  ⟨⟨"a.Leaf"⟩, .plainClass, false, false, [], some 2, [], .empty, some ⟨15, 19, 0⟩⟩

/-- A class and two subclasses, only one of which carries the annotation, and a subclass of this
one. -/
def Table.siblings : Table :=
  .ofList
    [⟨⟨"a.Base"⟩, .plainClass, true, false, [], none, [], .empty, some ⟨0, 4, 0⟩⟩, .plainSibling,
      .titledSibling, .titledLeaf]

theorem Configuration.isAnswer_titledSibling :
    Configuration.standard.IsAnswer .titledSibling "Title" :=
  .override ⟨[], _, [], [], [], rfl, rfl, by simp, rfl, by simp⟩

theorem Configuration.isAnswer_titledLeaf : Configuration.standard.IsAnswer .titledLeaf "Leaf" := by
  refine .simpleName ?_ ⟨by decide, Or.inr ⟨"a", by decide⟩⟩
  rintro other ⟨front, given, back, before, after, hmarks, _⟩
  simp [Declaration.titledLeaf] at hmarks

theorem Table.not_inherits_siblings : ¬Table.siblings.Inherits 1 Configuration.standard.mark := by
  -- Two declarations are reached from the plain one, itself and its superclass.
  have hclosed : ∀ {id : DeclarationId}, ReflTransGen Table.siblings.HasSupertype 1 id → id < 2 := by
    intro id hreaches
    induction hreaches with
    | refl =>
        decide
    | @tail middle id _ hedge ih =>
        have hsupertypes : ∀ middle < 2, ∀ super ∈
            ((Table.siblings.get? middle).map Declaration.supertypes).getD [], super < 2 := by
          decide
        exact hsupertypes middle ih id (mem_supertypes_iff.2 hedge)
  rintro ⟨carrier, declaration, hreaches, hget, hcarries⟩
  have hunmarked : ∀ carrier < 2, (Table.siblings.get? carrier).all fun declaration =>
      !declaration.carries Configuration.standard.mark := by
    decide
  have hnot := hunmarked carrier (hclosed hreaches)
  rw [hget, Option.all_some, hcarries] at hnot
  cases hnot

theorem Configuration.dispatch_of_siblings :
    ∃ output, ((Table.siblings.resolve (Configuration.standard.install .empty).1 1).flush
        (Configuration.standard.install .empty).1).result = .ok output ∧
      (∀ steps, output.dispatch? "track" (steps + 1) "a/Titled" = some ("a/Titled", "Title")) ∧
      (∀ steps, output.dispatch? "track" (steps + 1) "a/Leaf" = some ("a/Leaf", "Leaf")) ∧
      (∀ steps, output.dispatch? "track" steps "a/Plain" = none) := by
  have hfresh : Table.siblings.IsFresh Configuration.standard.accessorName := by
    refine Table.isFresh_ofList ?_
    decide
  have hnames : Table.siblings.HasOwnNames := Table.hasOwnNames_ofList (by decide) (by decide)
  have hpasses : 1 ≤ 1 := Nat.le_refl 1
  have hfits : Configuration.standard.Fits Table.siblings :=
    ⟨by decide, by decide, by decide, by decide, by decide, by decide⟩
  rcases hfits.exists_flush rfl hfresh hpasses with ⟨output, hflush⟩
  have hplain : (1, Declaration.plainSibling) ∈ Table.siblings.compiled := by decide
  have htitled : (2, Declaration.titledSibling) ∈ Table.siblings.compiled := by decide
  have hleaf : (3, Declaration.titledLeaf) ∈ Table.siblings.compiled := by decide
  have hmark : Table.siblings.Inherits 2 Configuration.standard.mark :=
    ⟨2, .titledSibling, .refl, rfl, rfl⟩
  have hedge : Table.siblings.HasSupertype 3 2 :=
    ⟨.titledLeaf, rfl, List.mem_singleton_self _⟩
  refine ⟨output, hflush, ?_, ?_, ?_⟩
  · rcases (Configuration.dispatch_of_flush rfl hfresh hnames hpasses hflush htitled (by decide)
      rfl).1 hmark with ⟨text, hanswer, hdispatch⟩
    rw [← (hanswer _).1 Configuration.isAnswer_titledSibling] at hdispatch
    exact hdispatch
  · rcases (Configuration.dispatch_of_flush rfl hfresh hnames hpasses hflush hleaf (by decide)
      rfl).1 (hmark.of_hasSupertype hedge) with ⟨text, hanswer, hdispatch⟩
    rw [← (hanswer _).1 Configuration.isAnswer_titledLeaf] at hdispatch
    exact hdispatch
  · exact ((Configuration.dispatch_of_flush rfl hfresh hnames hpasses hflush hplain (by decide)
      rfl).2 Table.not_inherits_siblings).1

end AccessorSynthesis
