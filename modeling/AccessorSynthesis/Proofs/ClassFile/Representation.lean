import AccessorSynthesis.Proofs.ClassFile.Normalization

/-!
# Representation — what holds of every class file

Class files are created or read, and then changed by calls.  This file defines

* `ClassFile.IsCreated` — the class file is a new one;
* `ClassFile.Sound` — its names are those of the class file it started from, every index leads to
  what it stands for, and each method can be written;
* `ClassFile.Distinct` — no interface and no method is there twice;
* `ClassFile.IsReachable` — calls lead to the class file from a new one or one that was read.

Whatever calls are made, a class file stays sound, and one that was created has no duplicates
(`sound_afterCalls`).  Bytes may list things twice, so the second does not hold of what is read.
-/

namespace AccessorSynthesis
namespace ClassFile

variable {start file later : ClassFile}

/-! ## Duplicates -/

/-- The class file is a new one. -/
def IsCreated (file : ClassFile) : Prop :=
  ∃ name superName access, create name superName access = .ok file

/-- No interface is listed twice, and no two methods share both name and descriptor. -/
structure Distinct (file : ClassFile) : Prop where
  interfaces : file.interfaces.Nodup
  methods : (file.methods.map fun method => (method.name, method.descriptor)).Nodup

theorem IsCreated.distinct (h : file.IsCreated) : file.Distinct := by
  rcases h with ⟨name, superName, access, hcreate⟩
  have hbare := isBare_of_create hcreate
  refine ⟨?_, ?_⟩
  · rw [hbare.interfaces]
    exact List.nodup_nil
  · rw [hbare.methods]
    exact List.nodup_nil

/-- Calls add what is not there yet, so that a class file without duplicates keeps none. -/
theorem Leaves.distinct (h : Leaves file later) (hfile : file.Distinct) : later.Distinct := by
  cases h with
  | grown hgrows =>
      refine ⟨?_, ?_⟩
      · rw [hgrows.interfaces]
        exact hfile.interfaces
      · rw [hgrows.methods]
        exact hfile.methods
  | interface hgrows hindex hnew =>
      rw [hgrows.interfaces] at hnew ⊢
      refine ⟨?_, ?_⟩
      · exact hfile.interfaces.append (List.nodup_singleton _) (List.disjoint_singleton.2 hnew)
      · rw [hgrows.methods]
        exact hfile.methods
  | @method grown most texts method hgrows hresolves hnew =>
      rw [hgrows.methods]
      refine ⟨?_, ?_⟩
      · rw [hgrows.interfaces]
        exact hfile.interfaces
      · rw [List.map_append]
        refine hfile.methods.append (List.nodup_singleton _) (List.disjoint_singleton.2 ?_)
        -- A method of the same key would have been found before the new one was added.
        intro hmem
        rcases List.mem_map.1 hmem with ⟨other, hother, hkey⟩
        have hdifferent := List.find?_eq_none.1 hnew other hother
        rw [Prod.mk.injEq] at hkey
        exact hdifferent (decide_eq_true hkey)

theorem IsCreated.distinct_afterCalls (h : start.IsCreated) (calls : List Call) :
    (start.afterCalls calls).Distinct :=
  afterCalls_of_leaves Leaves.distinct h.distinct calls

/-! ## Soundness -/

/-- The class file is called and derived as the one it started from.  Its indices lead to what they
stand for, and its bodies have allowed sizes and a name to be stored under. -/
structure Sound (start file : ClassFile) : Prop where
  name : file.name = start.name ∧ file.pool.classNameAt? file.thisClass = some file.name
  superName : file.superName? = start.superName? ∧ file.superName?.isSome = true
  interfaces : file.interfaces.map file.pool.classNameAt? = file.interfaceNames.map some
  methods : ∀ method ∈ file.methods, file.pool.utf8At? method.nameIndex = some method.name ∧
    file.pool.utf8At? method.descriptorIndex = some method.descriptor
  bodies : ∀ method ∈ file.methods, ∀ body, method.body = some body →
    1 ≤ body.size ∧ body.size ≤ 65535 ∧
    ∃ index, file.codeName = some index ∧ file.pool.utf8At? index = some codeAttribute
  writable : ∀ method ∈ file.methods, ∃ written, method.encode? file.codeName = .ok written

theorem name_eq {name : String} (h : file.pool.classNameAt? file.thisClass = some name) :
    file.name = name := by
  rw [ClassFile.name, h]
  rfl

/-- A search that finds something for each item finds one thing for each, in order. -/
theorem map_eq_map_some_filterMap {α β : Type} {find? : α → Option β} {items : List α}
    (h : ∀ a ∈ items, (find? a).isSome = true) :
    items.map find? = (items.filterMap find?).map some := by
  induction items with
  | nil =>
      rfl
  | cons a items ih =>
      rcases Option.isSome_iff_exists.1 (h a List.mem_cons_self) with ⟨b, hb⟩
      rw [List.map_cons, List.filterMap_cons_some hb, List.map_cons, hb,
        ih fun other hother => h other (List.mem_cons_of_mem a hother)]

theorem WellFormed.sound {name superName : String} (h : file.WellFormed)
    (hname : start.pool.classNameAt? start.thisClass = some name)
    (hname' : file.pool.classNameAt? file.thisClass = some name)
    (hsuper : start.pool.classNameAt? start.superClass = some superName)
    (hsuper' : file.pool.classNameAt? file.superClass = some superName) : Sound start file where
  name := by
    rw [name_eq hname, name_eq hname']
    exact ⟨rfl, hname'⟩
  superName := by
    rw [superName?, superName?, hsuper, hsuper']
    exact ⟨rfl, rfl⟩
  interfaces := map_eq_map_some_filterMap h.interfaces
  methods := by
    intro method hmethod
    have hresolves := h.methods method hmethod
    exact ⟨hresolves.name, hresolves.descriptor⟩
  bodies := by
    intro method hmethod body hbody
    rcases (h.methods method hmethod).body body hbody with ⟨⟨hfilled, hsize⟩, hnoted⟩
    rcases Option.isSome_iff_exists.1 hnoted with ⟨index, hindex⟩
    exact ⟨hfilled, hsize, index, hindex, h.codeName index hindex⟩
  writable := by
    intro method hmethod
    rcases Method.exists_encode? (h.methods method hmethod) with ⟨written, hwritten, _⟩
    exact ⟨written, hwritten⟩

/-- Whatever calls are made of a class file that was created or read, it stays sound; one that was
created lists nothing twice. -/
theorem sound_afterCalls (h : start.IsCreated ∨ ∃ bytes, ofBytes bytes = .ok start)
    (calls : List Call) :
    Sound start (start.afterCalls calls) ∧
      (start.IsCreated → (start.afterCalls calls).Distinct) := by
  have hstart : start.WellFormed := by
    rcases h with ⟨name, superName, access, hcreate⟩ | ⟨bytes, hread⟩
    · exact wellFormed_of_create hcreate
    · exact wellFormed_of_ofBytes hread
  -- The two names are fixed at the start; no call moves the entries that they are found at.
  rcases Option.isSome_iff_exists.1 hstart.thisClass with ⟨name, hname⟩
  rcases Option.isSome_iff_exists.1 hstart.superClass with ⟨superName, hsuper⟩
  have hname' := afterCalls_of_leaves (fun hleaves => hleaves.classNameAt?_thisClass) hname calls
  have hsuper' := afterCalls_of_leaves (fun hleaves => hleaves.classNameAt?_superClass) hsuper calls
  refine ⟨(hstart.afterCalls calls).sound hname hname' hsuper hsuper', ?_⟩
  exact fun hcreated => hcreated.distinct_afterCalls calls

theorem sound_mixedCalls :
    (∃ start, create "a/A" rootClass (.ofList [.pub, .super]) = .ok start ∧
      Sound start (start.afterCalls mixedCalls) ∧ (start.afterCalls mixedCalls).Distinct) ∧
    ∃ start, ofBytes looseBytes = .ok start ∧ Sound start (start.afterCalls mixedCalls) := by
  refine ⟨?_, ?_⟩
  · rcases exists_create "a/A" rootClass (.ofList [.pub, .super]) with ⟨start, hcreate, _⟩
    have hcreated : start.IsCreated := ⟨_, _, _, hcreate⟩
    have hsound := sound_afterCalls (Or.inl hcreated) mixedCalls
    exact ⟨start, hcreate, hsound.1, hsound.2 hcreated⟩
  · rcases exists_ofBytes_looseBytes with ⟨start, hstart⟩
    exact ⟨start, hstart, (sound_afterCalls (Or.inr ⟨looseBytes, hstart⟩) mixedCalls).1⟩

/-! ## Reachable class files -/

/-- Calls lead to the class file from one that was created or read. -/
def IsReachable (file : ClassFile) : Prop :=
  ∃ start calls, (start.IsCreated ∨ ∃ bytes, ofBytes bytes = .ok start) ∧
    file = start.afterCalls calls

theorem IsReachable.of_create {name superName : String} {access : AccessFlags} {start : ClassFile}
    (created : create name superName access = .ok start) (calls : List Call) :
    (start.afterCalls calls).IsReachable :=
  ⟨start, calls, Or.inl ⟨name, superName, access, created⟩, rfl⟩

theorem IsReachable.of_ofBytes {bytes : Bytes} {start : ClassFile}
    (read : ofBytes bytes = .ok start) (calls : List Call) :
    (start.afterCalls calls).IsReachable :=
  ⟨start, calls, Or.inr ⟨bytes, read⟩, rfl⟩

theorem IsReachable.wellFormed {file : ClassFile} (h : file.IsReachable) : file.WellFormed := by
  rcases h with ⟨start, calls, ⟨name, superName, access, hcreate⟩ | ⟨bytes, hread⟩, rfl⟩
  · exact (wellFormed_of_create hcreate).afterCalls calls
  · exact (wellFormed_of_ofBytes hread).afterCalls calls

end ClassFile
end AccessorSynthesis
