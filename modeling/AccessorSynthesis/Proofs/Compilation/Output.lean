import AccessorSynthesis.Proofs.Compilation.Accessors

/-!
# Output — which class files there are, and whose they are

The table knows declarations by their names, the output by the names that class files spell with
slashes.  Declarations whose names differ in that spelling alone share one entry of the output.  This
file defines

* `Table.Writes table registry item bytes` — the class file of the declaration is made, and these
  are its bytes;
* `Resolution.IsOutput table registry items output` — the entries of the output in order, and which
  declarations they come from.

`isOutput_of_generate` holds for all extensions that make calls.  Names without slashes do not
coincide (`QualifiedName.eq_of_internalName`), so that then every declaration has its entry.
-/

namespace AccessorSynthesis

/-! ## Spelling -/

namespace QualifiedName

/-- A name without slashes can be read off its spelling with slashes. -/
theorem map_internalName {name : QualifiedName} (h : '/' ∉ name.text.toList) :
    name.internalName.toList.map (fun c => if c = '/' then '.' else c) = name.text.toList := by
  have hback : ∀ c ∈ name.text.toList,
      (if (if c = '.' then '/' else c) = '/' then '.' else if c = '.' then '/' else c) = c := by
    intro c hc
    have hslash : c ≠ '/' := fun hequal => h (hequal ▸ hc)
    by_cases hdot : c = '.'
    · simp [hdot]
    · simp [hdot, hslash]
  unfold internalName
  rw [String.toList_ofList, List.map_map]
  exact (List.map_congr_left hback).trans (List.map_id name.text.toList)

theorem eq_of_internalName {name other : QualifiedName} (hname : '/' ∉ name.text.toList)
    (hother : '/' ∉ other.text.toList) (h : name.internalName = other.internalName) :
    name = other := by
  have htext : name.text.toList = other.text.toList := by
    rw [← map_internalName hname, ← map_internalName hother, h]
  cases name
  cases other
  exact congrArg QualifiedName.mk (String.toList_injective htext)

end QualifiedName

namespace Table

/-- The declarations in the spelling of class files. -/
def classNames (items : List (DeclarationId × Declaration)) : List String :=
  items.map fun item => item.2.name.internalName

theorem nodup_classNames {items : List (DeclarationId × Declaration)}
    (hnames : (items.map fun item => item.2.name).Nodup)
    (hslash : ∀ item ∈ items, '/' ∉ item.2.name.text.toList) : (classNames items).Nodup := by
  have hclass : classNames items
      = (items.map fun item => item.2.name).map QualifiedName.internalName := by
    rw [List.map_map]
    rfl
  rw [hclass]
  refine hnames.map_on ?_
  intro name hname other hother hequal
  rcases List.mem_map.1 hname with ⟨item, hitem, rfl⟩
  rcases List.mem_map.1 hother with ⟨later, hlater, rfl⟩
  exact QualifiedName.eq_of_internalName (hslash item hitem) (hslash later hlater) hequal

/-- The class file of the declaration is made, and it has these bytes. -/
def Writes (table : Table) (registry : Registry) (item : DeclarationId × Declaration)
    (bytes : ClassFile.Bytes) : Prop :=
  ∃ file, (table.classFile registry item.1 item.2).result = .ok file ∧ file.toBytes = .ok bytes

end Table

namespace Resolution

variable {table : Table} {registry : Registry} {output final : Output}
variable {items : List (DeclarationId × Declaration)}

/-! ## Entries -/

/-- Keys come in the order in which they are first met. -/
theorem keys_of_generate (hnames : NamesAgree table registry items)
    (h : (generate table registry output items).result = .ok final) :
    final.keys = output.keys ++ ((Table.classNames items).removeAll output.keys).eraseDups := by
  induction items generalizing output with
  | nil =>
      cases h
      exact (List.append_nil _).symm
  | cons item items ih =>
      rcases item with ⟨id, declaration⟩
      rcases generate_cons_eq_ok h with ⟨file, bytes, hfile, _, hrest⟩
      have hname := hnames (id, declaration) List.mem_cons_self file hfile
      have hlater := ih (fun item hitem => hnames item (List.mem_cons_of_mem _ hitem)) hrest
      rw [Keyed.keys_put_append, hname] at hlater
      exact hlater

/-- Where no key is met twice, every declaration has an entry of its own. -/
theorem forall₂_of_generate (hnames : NamesAgree table registry items)
    (hnodup : (Table.classNames items).Nodup)
    (hnew : ∀ name ∈ Table.classNames items, name ∉ output.keys)
    (h : (generate table registry output items).result = .ok final) :
    ∃ entries, final.entries = output.entries ++ entries ∧
      List.Forall₂ (fun item entry => entry.1 = item.2.name.internalName ∧
        table.Writes registry item entry.2) items entries := by
  induction items generalizing output with
  | nil =>
      cases h
      exact ⟨[], (List.append_nil _).symm, .nil⟩
  | cons item items ih =>
      rcases item with ⟨id, declaration⟩
      rcases generate_cons_eq_ok h with ⟨file, bytes, hfile, hbytes, hrest⟩
      have hname := hnames (id, declaration) List.mem_cons_self file hfile
      have hfirst : (declaration.name.internalName) ∉ output.keys := hnew _ List.mem_cons_self
      rcases List.nodup_cons.1 hnodup with ⟨hnot, hnodup'⟩
      have hnew' : ∀ name ∈ Table.classNames items, name ∉ (output.put file.name bytes).keys := by
        intro name hmem
        rw [Keyed.keys_put, hname, if_neg hfirst, List.mem_append, List.mem_singleton]
        rintro (hold | rfl)
        · exact hnew name (List.mem_cons_of_mem _ hmem) hold
        · exact hnot hmem
      rcases ih (fun item hitem => hnames item (List.mem_cons_of_mem _ hitem)) hnodup' hnew' hrest with
        ⟨entries, hentries, hall⟩
      refine ⟨(file.name, bytes) :: entries, ?_, .cons ⟨hname, file, hfile, hbytes⟩ hall⟩
      rw [hentries, Keyed.entries_put_of_not_mem (hname ▸ hfirst), List.append_assoc]
      rfl

/-- What the output of declarations is like. -/
structure IsOutput (table : Table) (registry : Registry) (items : List (DeclarationId × Declaration))
    (output : Output) : Prop where
  /-- The keys are the names of the classes, each where it is met first. -/
  keys : output.keys = (Table.classNames items).eraseDups
  /-- Under a name are the bytes of the last declaration with that name. -/
  last : ∀ before item after, items = before ++ item :: after →
    (∀ later ∈ after, later.2.name.internalName ≠ item.2.name.internalName) →
    ∃ bytes, table.Writes registry item bytes ∧
      output.find? item.2.name.internalName = some bytes
  /-- Where the names are distinct, the entries are those of the declarations one by one. -/
  entries : (Table.classNames items).Nodup →
    List.Forall₂ (fun item entry => entry.1 = item.2.name.internalName ∧
      table.Writes registry item entry.2) items output.entries

theorem isOutput_of_generate (hnames : NamesAgree table registry items)
    (h : (generate table registry .empty items).result = .ok output) :
    IsOutput table registry items output where
  keys := by
    have hkeys := keys_of_generate hnames h
    rw [hkeys]
    exact congrArg List.eraseDups (List.filter_eq_self.2 fun _ _ => rfl)
  last := by
    rintro before ⟨id, declaration⟩ after rfl hlast
    rcases exists_of_generate hnames hlast h with ⟨file, bytes, hfile, hbytes, hfind⟩
    exact ⟨bytes, ⟨file, hfile, hbytes⟩, hfind⟩
  entries := by
    intro hnodup
    rcases forall₂_of_generate hnames hnodup (fun _ _ => List.not_mem_nil) h with
      ⟨entries, hentries, hall⟩
    rw [hentries]
    exact hall

end Resolution

/-- The output of a compilation.  Its keys are the names of the compiled declarations in the order of
the table, as class files spell them, where a name that is met again has no second entry; each entry
holds the bytes of the class file of the last declaration with that name.  If the names are distinct
in that spelling, which they are unless some have slashes, every declaration has one entry. -/
theorem Table.output_of_flush {table : Table} {configs : List Configuration} {passes : Nat}
    {output : Output}
    (hflush : ((table.resolve (.ofConfigurations configs) passes).flush
      (.ofConfigurations configs)).result = .ok output) :
    Resolution.IsOutput (table.resolve (.ofConfigurations configs) passes).table
        (.ofConfigurations configs)
        (table.resolve (.ofConfigurations configs) passes).table.compiled output ∧
      classNames (table.resolve (.ofConfigurations configs) passes).table.compiled
        = classNames table.compiled ∧
      ((table.compiled.map fun item => item.2.name).Nodup →
        (∀ item ∈ table.compiled, '/' ∉ item.2.name.text.toList) →
        (classNames table.compiled).Nodup) := by
  have houtput := (Configuration.generate_of_flush hflush).2
  have hnames := Resolution.namesAgree (Registry.makesCalls_ofConfigurations configs)
    (table.resolve (.ofConfigurations configs) passes).table
    (table.resolve (.ofConfigurations configs) passes).table.compiled
  have hheaders := table.sameHeaders_resolve configs passes
  exact ⟨Resolution.isOutput_of_generate hnames houtput,
    hheaders.map_compiled (fun same => same.name.internalName) (fun _ => rfl), nodup_classNames⟩

/-! ## Names that coincide -/

/-- A class of that name. -/
def Declaration.named (text : String) : Declaration :=
  ⟨⟨text⟩, .plainClass, false, false, [], none, [], .empty, some ⟨0, 1, 0⟩⟩

/-- Two classes whose names differ in the spelling alone, and a third one. -/
def Table.slashed : Table := .ofList [.named "a.B", .named "a/B", .named "c"]

theorem Configuration.exists_flush_slashed :
    ∃ output, ((Table.slashed.resolve (.ofConfigurations [.standard]) 1).flush
      (.ofConfigurations [.standard])).result = .ok output := by
  have hfresh : Table.slashed.IsFresh Configuration.standard.accessorName :=
    Table.isFresh_ofList (by decide)
  have hfits : Configuration.standard.Fits Table.slashed :=
    ⟨by decide, by decide, by decide, by decide, by decide, by decide⟩
  exact hfits.exists_flush rfl hfresh (Nat.le_refl 1)

/-- Three declarations are compiled, and there are two entries. -/
theorem Table.keys_of_slashed :
    ∃ output, ((slashed.resolve (.ofConfigurations [.standard]) 1).flush
        (.ofConfigurations [.standard])).result = .ok output ∧
      output.keys ≠ classNames slashed.compiled ∧ output.size ≠ slashed.compiled.length := by
  rcases Configuration.exists_flush_slashed with ⟨output, hflush⟩
  have hnames := Resolution.namesAgree (Registry.makesCalls_ofConfigurations [.standard])
  have hkeys : output.keys = ["a/B", "c"] := by
    have hall := (Resolution.isOutput_of_generate (hnames _ _)
      (Configuration.generate_of_flush hflush).2).keys
    have hsame : classNames (slashed.resolve (.ofConfigurations [.standard]) 1).table.compiled
        = classNames slashed.compiled :=
      (slashed.sameHeaders_resolve [.standard] 1).map_compiled
        (fun same => same.name.internalName) fun _ => rfl
    rw [hall, hsame]
    rfl
  have hsize : output.size = 2 := by
    have hlength := congrArg List.length hkeys
    unfold Keyed.keys at hlength
    rwa [List.length_map] at hlength
  refine ⟨output, hflush, ?_, ?_⟩
  · rw [hkeys]
    decide
  · rw [hsize]
    decide

theorem Table.output_of_slashed :
    ∃ output, ((slashed.resolve (.ofConfigurations [.standard]) 1).flush
        (.ofConfigurations [.standard])).result = .ok output ∧ output.keys = ["a/B", "c"] := by
  rcases Configuration.exists_flush_slashed with ⟨output, hflush⟩
  rcases Table.output_of_flush hflush with ⟨houtput, hsame, _⟩
  refine ⟨output, hflush, ?_⟩
  rw [houtput.keys, hsame]
  rfl

end AccessorSynthesis
