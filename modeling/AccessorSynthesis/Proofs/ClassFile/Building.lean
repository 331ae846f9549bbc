import AccessorSynthesis.ClassFile.Basic
import AccessorSynthesis.Proofs.ClassFile.ConstantPool
import AccessorSynthesis.Proofs.ClassFile.Decoder

/-!
# Building — what additions to a class file end in

Every addition first makes pool entries and then, if nothing was refused, changes one list.  This
file defines

* `ClassFile.Grows file later most texts` — `later` is `file` with a grown pool, and perhaps with a
  note of where the name of the attribute for bodies is;
* `Method.Resolves method file` — what the format asks of a method in a class file.

For each of `addInterface`, `loadString` and `addMethod` there is one statement of what it ends in,
refusals included; callers need not look inside.
-/

namespace AccessorSynthesis
namespace ClassFile

variable {file later last : ClassFile} {α : Type}

/-- The later class file has a grown pool; all else is as before, except that it may note the index
of the name of the attribute for bodies. -/
structure Grows (file later : ClassFile) (most : Nat) (texts : List String) : Prop where
  pool : file.pool.Grows later.pool most texts
  codeName : later.codeName = file.codeName ∨
    ∃ index, later.codeName = some index ∧ later.pool.utf8At? index = some codeAttribute
  rest : later = { file with pool := later.pool, codeName := later.codeName }

namespace Grows

variable {most further : Nat} {texts others : List String}

theorem refl (file : ClassFile) : Grows file file 0 [] where
  pool := ConstantPool.Grows.refl file.pool
  codeName := Or.inl rfl
  rest := rfl

theorem of_pool {pool : ConstantPool} (h : file.pool.Grows pool most texts) :
    Grows file { file with pool } most texts where
  pool := h
  codeName := Or.inl rfl
  rest := rfl

theorem trans (h : Grows file later most texts) (h' : Grows later last further others) :
    Grows file last (most + further) (texts ++ others) where
  pool := h.pool.trans h'.pool
  codeName := by
    rcases h'.codeName with hsame | hnoted
    · rcases h.codeName with hsame' | ⟨index, hindex, hutf8⟩
      · exact Or.inl (hsame.trans hsame')
      · exact Or.inr ⟨index, hsame.trans hindex, h'.pool.stable.utf8At? hutf8⟩
    · exact Or.inr hnoted
  rest := by
    rw [h'.rest, h.rest]

theorem mono (h : Grows file later most texts) (hmost : most ≤ further)
    (htexts : ∀ text ∈ texts, text ∈ others) : Grows file later further others where
  pool := h.pool.mono hmost htexts
  codeName := h.codeName
  rest := h.rest

theorem methods (h : Grows file later most texts) : later.methods = file.methods := by
  rw [h.rest]

theorem interfaces (h : Grows file later most texts) : later.interfaces = file.interfaces := by
  rw [h.rest]

theorem thisClass (h : Grows file later most texts) : later.thisClass = file.thisClass := by
  rw [h.rest]

theorem superClass (h : Grows file later most texts) : later.superClass = file.superClass := by
  rw [h.rest]

theorem method?_eq (h : Grows file later most texts) : later.method? = file.method? := by
  unfold method?
  rw [h.methods]

theorem classNameAt?_thisClass {name : String} (h : Grows file later most texts)
    (hname : file.pool.classNameAt? file.thisClass = some name) :
    later.pool.classNameAt? later.thisClass = some name := by
  rw [h.thisClass]
  exact h.pool.stable.classNameAt? hname

theorem classNameAt?_superClass {name : String} (h : Grows file later most texts)
    (hname : file.pool.classNameAt? file.superClass = some name) :
    later.pool.classNameAt? later.superClass = some name := by
  rw [h.superClass]
  exact h.pool.stable.classNameAt? hname

theorem codeName_isSome (h : Grows file later most texts) (hcode : file.codeName.isSome = true) :
    later.codeName.isSome = true := by
  rcases h.codeName with hsame | ⟨index, hindex, _⟩
  · rw [hsame, hcode]
  · rw [hindex]
    rfl

end Grows

/-! ## Changes of the pool -/

/-- The pool was too full for `most` further entries. -/
def LacksRoom (file : ClassFile) (most : Nat) : Prop :=
  ConstantPool.capacity < file.pool.size + most

theorem LacksRoom.mono {most further : Nat} (h : file.LacksRoom most) (hmost : most ≤ further) :
    file.LacksRoom further :=
  Nat.lt_of_lt_of_le h (Nat.add_le_add_left hmost file.pool.size)

/-- What does not fit after the pool has grown did not fit before, together with the growth. -/
theorem Grows.lacksRoom {most further : Nat} {texts : List String}
    (h : Grows file later most texts) (hroom : later.LacksRoom further) :
    file.LacksRoom (most + further) := by
  have hsize : later.pool.size ≤ file.pool.size + most := h.pool.size_le
  have hfull : ConstantPool.capacity < later.pool.size + further := hroom
  show ConstantPool.capacity < file.pool.size + (most + further)
  omega

theorem Ends.of_pool {change : Update ConstantPool α} {ok : α → ClassFile → Prop}
    {refused : Error → ClassFile → Prop}
    (h : Ends change file.pool (fun a pool => ok a { file with pool })
      (fun e pool => refused e { file with pool })) :
    Ends (onPool change) file ok refused := by
  rcases heq : change file.pool with ⟨result, pool⟩
  have hrun : onPool change file = (result, { file with pool }) := by
    rw [onPool, heq]
  cases result with
  | ok a =>
      exact Ends.of_eq_ok hrun (h.ok_of_eq heq)
  | error e =>
      exact Ends.of_eq_error hrun (h.refused_of_eq heq)

theorem ends_onPool {change : Update ConstantPool α} {most : Nat} {texts : List String}
    {post : α → ConstantPool → Prop} (h : ConstantPool.Achieves change file.pool most texts post) :
    Ends (onPool change) file (fun a later => Grows file later most texts ∧ post a later.pool)
      (fun e later => Grows file later most texts ∧ e = .poolFull ∧ file.LacksRoom most) := by
  refine Ends.of_pool (Ends.mono h ?_ ?_)
  · rintro a pool ⟨hgrows, hpost⟩
    exact ⟨Grows.of_pool hgrows, hpost⟩
  · rintro e pool ⟨hgrows, hfull, hroom⟩
    exact ⟨Grows.of_pool hgrows, hfull, hroom⟩

/-! ## Interfaces and texts -/

theorem ends_addInterface (name : String) (file : ClassFile) :
    Ends (addInterface name) file
      (fun _ later => ∃ grown index, Grows file grown 2 [name] ∧
        grown.pool.classNameAt? index = some name ∧
        later = if index ∈ grown.interfaces then grown
          else { grown with interfaces := grown.interfaces ++ [index] })
      (fun e later => Grows file later 2 [name] ∧ e = .poolFull ∧ file.LacksRoom 2) := by
  refine Ends.bind ((ends_onPool (ConstantPool.achieves_addClass name file.pool)).mono ?_ ?_)
  · rintro index grown ⟨hgrows, hname⟩
    exact Ends.modify ⟨grown, index, hgrows, hname, rfl⟩
  · exact fun e later h => h

theorem ends_loadString (text : String) (file : ClassFile) :
    Ends (loadString text) file
      (fun instruction later => Grows file later 2 [text] ∧
        ∃ index, instruction = .loading index ∧ later.pool.stringAt? index = some text)
      (fun e later => Grows file later 2 [text] ∧ e = .poolFull ∧ file.LacksRoom 2) := by
  refine Ends.bind ((ends_onPool (ConstantPool.achieves_addString text file.pool)).mono ?_ ?_)
  · rintro index later ⟨hgrows, htext⟩
    exact Ends.pure ⟨hgrows, index, rfl, htext⟩
  · exact fun e later h => h

/-! ## Methods -/

/-- What the format asks of a method in a class file: its indices lead to its name and descriptor,
and its body has an allowed size and can be stored. -/
structure Method.Resolves (method : Method) (file : ClassFile) : Prop where
  name : file.pool.utf8At? method.nameIndex = some method.name
  descriptor : file.pool.utf8At? method.descriptorIndex = some method.descriptor
  body : ∀ body, method.body = some body →
    MethodBody.IsSize body.size ∧ file.codeName.isSome = true

theorem Method.Resolves.grows {method : Method} {most : Nat} {texts : List String}
    (h : method.Resolves file) (hgrows : Grows file later most texts) : method.Resolves later where
  name := hgrows.pool.stable.utf8At? h.name
  descriptor := hgrows.pool.stable.utf8At? h.descriptor
  body := fun body hbody => ⟨(h.body body hbody).1, hgrows.codeName_isSome (h.body body hbody).2⟩

/-- How many entries the pool lacks for the name of the attribute for bodies, if there is a body. -/
def missingCode (file : ClassFile) (body : Option MethodBody) : Nat :=
  if body.isSome then file.pool.missing codeAttribute else 0

theorem ends_prepareBody (body : Option MethodBody) (file : ClassFile) :
    Ends (prepareBody body) file
      (fun _ later => Grows file later (file.missingCode body) [codeAttribute] ∧
        ∀ b, body = some b → MethodBody.IsSize b.size ∧ later.codeName.isSome = true)
      (fun e later =>
        (∃ b, body = some b ∧ ¬MethodBody.IsSize b.size ∧ e = .badCodeLength b.size ∧ later = file) ∨
        (Grows file later (file.missingCode body) [codeAttribute] ∧ e = .poolFull ∧
          file.LacksRoom (file.missingCode body))) := by
  cases body with
  | none =>
      refine Ends.pure ⟨(Grows.refl file).mono (Nat.le_refl 0) ?_, ?_⟩
      · simp
      · intro b hb
        cases hb
  | some body =>
      have hmissing : file.missingCode (some body) = file.pool.missing codeAttribute := rfl
      rw [hmissing]
      -- The size is checked first, so that a bad one leaves the class file alone.
      by_cases hsize : MethodBody.IsSize body.size
      · refine Ends.bind (Ends.of_eq_ok (t := file) (a := ()) ?_ ?_)
        · show (MethodBody.checkSize body.size, file) = _
          rw [MethodBody.checkSize_eq_ok_iff.2 hsize]
        · refine Ends.bind ((ends_onPool
            (ConstantPool.achieves_addUtf8_missing codeAttribute file.pool)).mono ?_ ?_)
          · rintro index grown ⟨hgrows, hindex⟩
            refine Ends.modify ⟨⟨hgrows.pool, Or.inr ⟨index, rfl, hindex⟩, ?_⟩, ?_⟩
            · rw [hgrows.rest]
            · rintro b ⟨⟩
              exact ⟨hsize, rfl⟩
          · rintro e later hfull
            exact Or.inr hfull
      · refine Ends.bind (Ends.of_eq_error (t := file) ?_
          (Or.inl ⟨body, rfl, hsize, rfl, rfl⟩))
        show (MethodBody.checkSize body.size, file) = _
        rw [MethodBody.checkSize_eq_error hsize]

/-- How many entries the pool lacks for a method. -/
def missingMethod (file : ClassFile) (name descriptor : String) (body : Option MethodBody) : Nat :=
  file.missingCode body + (file.pool.missing name + file.pool.missing descriptor)

/-- The class file once a method is added: pool entries and the method are new. -/
inductive MethodAdded (file : ClassFile) (access : AccessFlags) (name descriptor : String)
    (body : Option MethodBody) : ClassFile → Prop where
  | intro (grown : ClassFile) (nameIndex descriptorIndex : UInt16)
      (hnew : file.method? name descriptor = none)
      (hgrows : Grows file grown (file.missingMethod name descriptor body)
        [codeAttribute, name, descriptor])
      (hresolves :
        Method.Resolves ⟨access, name, descriptor, nameIndex, descriptorIndex, body⟩ grown) :
      MethodAdded file access name descriptor body { grown with methods := grown.methods
        ++ [⟨access, name, descriptor, nameIndex, descriptorIndex, body⟩] }

/-- Why a method is not added, and what is left then. -/
inductive MethodRefused (file : ClassFile) (name descriptor : String) (body : Option MethodBody) :
    Error → ClassFile → Prop where
  | duplicate (h : (file.method? name descriptor).isSome = true) :
      MethodRefused file name descriptor body (.duplicateMethod name descriptor) file
  | badLength (b : MethodBody) (hbody : body = some b) (h : ¬MethodBody.IsSize b.size) :
      MethodRefused file name descriptor body (.badCodeLength b.size) file
  | full (later : ClassFile)
      (h : Grows file later (file.missingMethod name descriptor body)
        [codeAttribute, name, descriptor])
      (hroom : file.LacksRoom (file.missingMethod name descriptor body)) :
      MethodRefused file name descriptor body .poolFull later

theorem ends_addMethod (access : AccessFlags) (name descriptor : String) (body : Option MethodBody)
    (file : ClassFile) :
    Ends (addMethod access name descriptor body) file
      (fun _ => MethodAdded file access name descriptor body)
      (MethodRefused file name descriptor body) := by
  refine Ends.bind (Ends.of_eq_ok (a := file) (t := file) rfl ?_)
  by_cases hduplicate : (file.method? name descriptor).isSome = true
  · rw [if_pos hduplicate]
    exact Ends.bind (Ends.throw (.duplicate hduplicate))
  rw [if_neg hduplicate]
  have hnew : file.method? name descriptor = none := by simpa using hduplicate
  -- Three additions follow one another.  What each of them needs is counted in the pool that it
  -- meets; the name and the descriptor cannot be missing more by then than they were at first.
  refine Ends.bind ((ends_prepareBody body file).mono ?_ ?_)
  · rintro ⟨⟩ prepared ⟨hprepared, hbody⟩
    have hnameLe := hprepared.pool.stable.missing_le name
    refine Ends.bind ((ends_onPool
      (ConstantPool.achieves_addUtf8_missing name prepared.pool)).mono ?_ ?_)
    · rintro nameIndex named ⟨hnamed, hname⟩
      have hdescriptorLe := (hprepared.pool.stable.trans hnamed.pool.stable).missing_le descriptor
      have hmost : file.missingCode body + (prepared.pool.missing name
          + named.pool.missing descriptor) ≤ file.missingMethod name descriptor body := by
        unfold missingMethod
        omega
      refine Ends.bind ((ends_onPool
        (ConstantPool.achieves_addUtf8_missing descriptor named.pool)).mono ?_ ?_)
      · rintro descriptorIndex grown ⟨hdescribed, hdescriptor⟩
        refine Ends.modify (.intro grown nameIndex descriptorIndex hnew ?_ ?_)
        · exact (hprepared.trans (hnamed.trans hdescribed)).mono hmost fun _ => id
        · refine ⟨hdescribed.pool.stable.utf8At? hname, hdescriptor, ?_⟩
          intro b hb
          refine ⟨(hbody b hb).1, ?_⟩
          exact (hnamed.trans hdescribed).codeName_isSome (hbody b hb).2
      · rintro e later ⟨hdescribed, rfl, hroom⟩
        have hgrows := hprepared.trans (hnamed.trans hdescribed)
        have hlacks := hprepared.lacksRoom (hnamed.lacksRoom hroom)
        exact .full later (hgrows.mono hmost fun _ => id) (hlacks.mono hmost)
    · rintro e later ⟨hnamed, rfl, hroom⟩
      have hmost : file.missingCode body + prepared.pool.missing name
          ≤ file.missingMethod name descriptor body := by
        unfold missingMethod
        omega
      have hlacks := (hprepared.lacksRoom hroom).mono hmost
      exact .full later ((hprepared.trans hnamed).mono hmost (by simp)) hlacks
  · rintro e later (⟨b, hb, hsize, rfl, rfl⟩ | ⟨hgrows, rfl, hroom⟩)
    · exact .badLength b hb hsize
    · have hmost : file.missingCode body ≤ file.missingMethod name descriptor body :=
        Nat.le_add_right _ _
      exact .full later (hgrows.mono hmost (by simp)) (hroom.mono hmost)

/-! ## New class files -/

/-- The class file has the given names and nothing else yet. -/
structure IsBare (file : ClassFile) (name superName : String) (access : AccessFlags) : Prop where
  pool : ConstantPool.empty.Grows file.pool 4 [name, superName]
  thisClass : file.pool.classNameAt? file.thisClass = some name
  superClass : file.pool.classNameAt? file.superClass = some superName
  access : file.access = access
  interfaces : file.interfaces = []
  methods : file.methods = []
  codeName : file.codeName = none

/-- The pool entries that a class file starts with. -/
def addNames (name superName : String) : Update ConstantPool (UInt16 × UInt16) := do
  let thisClass ← ConstantPool.addClass name
  let superClass ← ConstantPool.addClass superName
  return (thisClass, superClass)

theorem achieves_addNames (name superName : String) (pool : ConstantPool) :
    ConstantPool.Achieves (addNames name superName) pool 4 [name, superName]
      fun indices later => later.classNameAt? indices.1 = some name ∧
        later.classNameAt? indices.2 = some superName := by
  show ConstantPool.Achieves _ pool (2 + (2 + 0)) ([name] ++ ([superName] ++ [])) _
  refine (ConstantPool.achieves_addClass name pool).bind ?_
  intro thisClass named _ hthis
  refine (ConstantPool.achieves_addClass superName named).bind ?_
  intro superClass later hgrows hsuper
  exact Ends.pure ⟨ConstantPool.Grows.refl later, hgrows.stable.classNameAt? hthis, hsuper⟩

theorem create_eq (name superName : String) (access : AccessFlags) :
    create name superName access = match addNames name superName ConstantPool.empty with
      | (.error error, _) => .error error
      | (.ok (thisClass, superClass), pool) =>
          .ok ⟨0, 52, pool, access, thisClass, superClass, [], [], none⟩ :=
  rfl

/-- An empty pool has room for two names, so nothing is refused. -/
theorem exists_create (name superName : String) (access : AccessFlags) :
    ∃ file, create name superName access = .ok file ∧ file.IsBare name superName access := by
  have hnames := achieves_addNames name superName ConstantPool.empty
  rcases heq : addNames name superName ConstantPool.empty with ⟨e | ⟨thisClass, superClass⟩, pool⟩
  · have hroom := (hnames.refused_of_eq heq).2.2
    exact absurd hroom (by decide)
  · rcases hnames.ok_of_eq heq with ⟨hgrows, hthis, hsuper⟩
    rw [create_eq, heq]
    exact ⟨_, rfl, hgrows, hthis, hsuper, rfl, rfl, rfl, rfl⟩

theorem isBare_of_create {name superName : String} {access : AccessFlags}
    (h : create name superName access = .ok file) : file.IsBare name superName access := by
  rcases exists_create name superName access with ⟨created, hcreate, hbare⟩
  rw [h] at hcreate
  cases hcreate
  exact hbare

end ClassFile
end AccessorSynthesis
