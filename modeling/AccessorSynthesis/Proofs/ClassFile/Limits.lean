import AccessorSynthesis.Proofs.ClassFile.Representation

/-!
# Limits — what does not fit in a class file

Every length and every count of a class file is stored in a field of two or four bytes.  This file
defines

* `Says width n field` — the field has so many bytes, and they say the number;
* `ClassFile.Stored file bytes` — the bytes are those of the class file, and each of their fields
  says the whole length or count that belongs there;
* `ClassFile.Fits file` — texts, interfaces and methods are within the limits;
* `ClassFile.Oversize file e` — what exceeds the limits first, as an error;
* `ClassFile.Writes file` — a class file is written if it fits, and else refused for that reason.

The limits need not be compared with the fields one by one: a field of two bytes says nothing above
65535 (`Says.le_65535`), so that what is stored fits (`fits_of_toBytes`).
-/

namespace AccessorSynthesis
namespace ClassFile

/-! ## Fields -/

/-- The field has so many bytes, and these say the number, the high byte first. -/
structure Says (width n : Nat) (field : Bytes) : Prop where
  length : field.length = width
  value : field.foldl (fun high byte => high * 256 + byte.toNat) 0 = n

theorem Says.le_65535 {n : Nat} {field : Bytes} (h : Says 2 n field) : n ≤ 65535 := by
  match field, h with
  | [high, low], ⟨_, hvalue⟩ =>
      have hhigh := high.toNat_lt
      have hlow := low.toNat_lt
      simp at hvalue
      omega

theorem says_ofWord16 (word : UInt16) : Says 2 word.toNat (Bytes.ofWord16 word) where
  length := rfl
  value := by
    have hword := word.toNat_lt
    simp [Bytes.ofWord16]
    omega

theorem says_ofWord32 (word : UInt32) : Says 4 word.toNat (Bytes.ofWord32 word) where
  length := rfl
  value := by
    have hword := word.toNat_lt
    simp [Bytes.ofWord32]
    omega

/-- A length that was checked is stored in full. -/
theorem says_ofWord16_ofNat {n : Nat} (h : n < 65536) : Says 2 n (Bytes.ofWord16 (.ofNat n)) := by
  have hsays := says_ofWord16 (.ofNat n)
  rwa [UInt16.toNat_ofNat', Nat.mod_eq_of_lt h] at hsays

theorem says_ofWord32_ofNat {n : Nat} (h : n < 4294967296) :
    Says 4 n (Bytes.ofWord32 (.ofNat n)) := by
  have hsays := says_ofWord32 (.ofNat n)
  rwa [UInt32.toNat_ofNat', Nat.mod_eq_of_lt h] at hsays

theorem says_of_encodeCount? {count : Nat} {field : Bytes} (h : encodeCount? count = .ok field) :
    Says 2 count field := by
  rcases encodeCount?_eq_ok h with ⟨hcount, rfl⟩
  have hsays := says_ofWord16 (.ofNat count)
  rwa [hcount] at hsays

/-! ## What is stored -/

/-- The bytes of a constant.  The length of a text is that of its bytes. -/
inductive Constant.Stored : Constant → Bytes → Prop where
  | utf8 {text : String} {length : Bytes}
      (hlength : Says 2 (ModifiedUtf8.encode text).length length) :
      Stored (.utf8 text) (1 :: length ++ ModifiedUtf8.encode text)
  | className {index : UInt16} {field : Bytes} (hindex : Says 2 index.toNat field) :
      Stored (.className index) (7 :: field)
  | stringLiteral {index : UInt16} {field : Bytes} (hindex : Says 2 index.toNat field) :
      Stored (.stringLiteral index) (8 :: field)
  | methodRef {first second : UInt16} {field other : Bytes} (hfirst : Says 2 first.toNat field)
      (hsecond : Says 2 second.toNat other) : Stored (.methodRef first second) (10 :: field ++ other)
  | nameAndType {first second : UInt16} {field other : Bytes} (hfirst : Says 2 first.toNat field)
      (hsecond : Says 2 second.toNat other) :
      Stored (.nameAndType first second) (12 :: field ++ other)

/-- The bytes of a pool.  The count is one more than the number of entries. -/
inductive ConstantPool.Stored (pool : ConstantPool) : Bytes → Prop where
  | intro {count : Bytes} {parts : List Bytes} (hcount : Says 2 (pool.size + 1) count)
      (hparts : List.Forall₂ Constant.Stored pool.entries.toList parts) :
      Stored pool (count ++ parts.flatten)

/-- The contents of the attribute that stores a body.  The length is that of the instructions. -/
inductive MethodBody.Stored (body : MethodBody) : Bytes → Prop where
  | intro {maxStack maxLocals length handlers attributes : Bytes}
      (hmaxStack : Says 2 body.maxStack.toNat maxStack)
      (hmaxLocals : Says 2 body.maxLocals.toNat maxLocals)
      (hlength : Says 4 (body.instructions.flatMap Instruction.encode).length length)
      (hhandlers : Says 2 0 handlers) (hattributes : Says 2 0 attributes) :
      Stored body (maxStack ++ maxLocals ++ length ++ body.instructions.flatMap Instruction.encode
        ++ handlers ++ attributes)

/-- The attribute that stores a body.  The length is that of the contents. -/
inductive MethodBody.Attached (codeName : Option UInt16) (body : MethodBody) : Bytes → Prop where
  | intro {index : UInt16} {name length contents : Bytes} (hindex : codeName = some index)
      (hname : Says 2 index.toNat name) (hlength : Says 4 contents.length length)
      (hcontents : body.Stored contents) : Attached codeName body (name ++ length ++ contents)

/-- The bytes of a method.  It has an attribute for its body, or none. -/
inductive Method.Stored (codeName : Option UInt16) (method : Method) : Bytes → Prop where
  | intro {access name descriptor count : Bytes} {attributes : List Bytes}
      (haccess : Says 2 method.access.bits.toNat access)
      (hname : Says 2 method.nameIndex.toNat name)
      (hdescriptor : Says 2 method.descriptorIndex.toNat descriptor)
      (hattributes : List.Forall₂ (MethodBody.Attached codeName) method.body.toList attributes)
      (hcount : Says 2 attributes.length count) :
      Stored codeName method (access ++ name ++ descriptor ++ count ++ attributes.flatten)

/-- The bytes of a class file.  The counts are those of its interfaces and methods; it has no fields
and no attributes. -/
inductive Stored (file : ClassFile) : Bytes → Prop where
  | intro {marking minor major pool access thisClass superClass interfaceCount fieldCount methodCount
        attributeCount : Bytes} {interfaces methods : List Bytes}
      (hmarking : Says 4 magic.toNat marking)
      (hminor : Says 2 file.minorVersion.toNat minor)
      (hmajor : Says 2 file.majorVersion.toNat major)
      (hpool : file.pool.Stored pool)
      (haccess : Says 2 file.access.bits.toNat access)
      (hthisClass : Says 2 file.thisClass.toNat thisClass)
      (hsuperClass : Says 2 file.superClass.toNat superClass)
      (hinterfaceCount : Says 2 file.interfaces.length interfaceCount)
      (hinterfaces : List.Forall₂ (fun index => Says 2 index.toNat) file.interfaces interfaces)
      (hfieldCount : Says 2 0 fieldCount)
      (hmethodCount : Says 2 file.methods.length methodCount)
      (hmethods : List.Forall₂ (Method.Stored file.codeName) file.methods methods)
      (hattributeCount : Says 2 0 attributeCount) :
      Stored file (marking ++ minor ++ major ++ pool ++ access ++ thisClass ++ superClass
        ++ interfaceCount ++ interfaces.flatten ++ fieldCount ++ methodCount ++ methods.flatten
        ++ attributeCount)

theorem Constant.stored_of_encode? {constant : Constant} {bytes : Bytes}
    (h : constant.encode? = .ok bytes) : constant.Stored bytes := by
  cases constant with
  | utf8 text =>
      simp only [encode?] at h
      split at h
      · rename_i hlength
        cases h
        exact .utf8 (says_ofWord16_ofNat hlength)
      · cases h
  | className index =>
      cases h
      exact .className (says_ofWord16 index)
  | stringLiteral index =>
      cases h
      exact .stringLiteral (says_ofWord16 index)
  | methodRef first second =>
      cases h
      exact .methodRef (says_ofWord16 first) (says_ofWord16 second)
  | nameAndType first second =>
      cases h
      exact .nameAndType (says_ofWord16 first) (says_ofWord16 second)

theorem ConstantPool.stored_of_encode? {pool : ConstantPool} {bytes : Bytes}
    (h : pool.encode? = .ok bytes) : pool.Stored bytes := by
  rcases bind_eq_ok_iff.1 h with ⟨parts, hparts, hbytes⟩
  cases hbytes
  have hsize : pool.size ≤ 65534 := pool.size_le
  refine .intro (says_ofWord16_ofNat (by omega)) ?_
  exact (forall₂_of_mapM_eq_ok hparts).imp fun _ _ => Constant.stored_of_encode?

theorem MethodBody.stored_encode {body : MethodBody} (h : IsSize body.size) :
    body.Stored body.encode := by
  have hlength : Says 4 (body.instructions.flatMap Instruction.encode).length
      (Bytes.ofWord32 (.ofNat body.size)) := by
    rw [length_flatMap_encode]
    have := h.2
    exact says_ofWord32_ofNat (by omega)
  exact .intro (says_ofWord16 _) (says_ofWord16 _) hlength (says_ofWord16 0) (says_ofWord16 0)

theorem MethodBody.attached_encode {codeName : Option UInt16} {body : MethodBody} {index : UInt16}
    (h : IsSize body.size) (hindex : codeName = some index) :
    body.Attached codeName
      (Bytes.ofWord16 index ++ Bytes.ofWord32 (.ofNat (body.size + 12)) ++ body.encode) := by
  have hlength : Says 4 body.encode.length (Bytes.ofWord32 (.ofNat (body.size + 12))) := by
    rw [length_encode]
    have := h.2
    exact says_ofWord32_ofNat (by omega)
  exact .intro hindex (says_ofWord16 index) hlength (stored_encode h)

theorem Method.stored_of_encode? {codeName : Option UInt16} {method : Method} {bytes : Bytes}
    (h : method.encode? codeName = .ok bytes) : method.Stored codeName bytes := by
  have haccess := says_ofWord16 method.access.bits
  have hname := says_ofWord16 method.nameIndex
  have hdescriptor := says_ofWord16 method.descriptorIndex
  unfold encode? at h
  cases hbody : method.body with
  | none =>
      rw [hbody] at h
      cases h
      have hnone : List.Forall₂ (MethodBody.Attached codeName) method.body.toList [] := by
        simp [hbody]
      have hstored := Stored.intro haccess hname hdescriptor hnone (says_ofWord16 0)
      simpa using hstored
  | some body =>
      rw [hbody] at h
      cases hindex : codeName with
      | none =>
          simp only [hindex] at h
          cases h
      | some index =>
          simp only [hindex] at h
          -- The size was checked before the body was written.
          rcases bind_eq_ok_iff.1 h with ⟨⟨⟩, hsize, hmade⟩
          cases hmade
          have hattached := MethodBody.attached_encode (MethodBody.checkSize_eq_ok_iff.1 hsize) hindex
          have hone := List.Forall₂.cons hattached List.Forall₂.nil
          have hlist : method.body.toList = [body] := by
            simp [hbody]
          rw [← hlist] at hone
          have hstored := Stored.intro haccess hname hdescriptor hone (says_ofWord16 1)
          simpa [hindex] using hstored

theorem stored_of_toBytes {file : ClassFile} {bytes : Bytes} (h : file.toBytes = .ok bytes) :
    file.Stored bytes := by
  rcases bind_eq_ok_iff.1 h with ⟨pool, hpool, hrest⟩
  rcases bind_eq_ok_iff.1 hrest with ⟨interfaceCount, hinterfaceCount, hrest⟩
  rcases bind_eq_ok_iff.1 hrest with ⟨methodCount, hmethodCount, hrest⟩
  rcases bind_eq_ok_iff.1 hrest with ⟨methods, hmethods, hmade⟩
  cases hmade
  have hinterfaces : List.Forall₂ (fun index => Says 2 index.toNat) file.interfaces
      (file.interfaces.map Bytes.ofWord16) := by
    simp [says_ofWord16]
  rw [List.flatMap_def]
  exact .intro (says_ofWord32 magic) (says_ofWord16 _) (says_ofWord16 _)
    (ConstantPool.stored_of_encode? hpool) (says_ofWord16 _) (says_ofWord16 _) (says_ofWord16 _)
    (says_of_encodeCount? hinterfaceCount) hinterfaces (says_ofWord16 0)
    (says_of_encodeCount? hmethodCount)
    ((forall₂_of_mapM_eq_ok hmethods).imp fun _ _ => Method.stored_of_encode?) (says_ofWord16 0)

variable {file later : ClassFile} {e : Error}

/-! ## What fits -/

/-- All that is counted when the class file is written is within the limits. -/
structure Fits (file : ClassFile) : Prop where
  texts : ∀ text, .utf8 text ∈ file.pool → ¬IsTooLong text
  interfaces : file.interfaces.length ≤ 65535
  methods : file.methods.length ≤ 65535

theorem Constant.exists_encode?_iff {constant : Constant} :
    (∃ bytes, constant.encode? = .ok bytes) ↔ ∀ text, constant = .utf8 text → ¬IsTooLong text := by
  constructor
  · rintro ⟨bytes, hbytes⟩ text rfl
    cases stored_of_encode? hbytes with
    | utf8 hlength =>
        exact Nat.not_lt.2 hlength.le_65535
  · intro h
    cases hencode : constant.encode? with
    | ok bytes =>
        exact ⟨bytes, rfl⟩
    | error e =>
        rcases exists_of_encode?_eq_error hencode with ⟨text, hutf8, hlong, _⟩
        exact absurd hlong (h text hutf8)

theorem ConstantPool.exists_encode?_iff {pool : ConstantPool} :
    (∃ bytes, pool.encode? = .ok bytes) ↔ ∀ text, .utf8 text ∈ pool → ¬IsTooLong text := by
  constructor
  · rintro ⟨bytes, hbytes⟩ text hmem
    rcases bind_eq_ok_iff.1 hbytes with ⟨parts, hparts, _⟩
    rcases exists_part_of_mem (forall₂_of_mapM_eq_ok hparts).flip (Array.mem_toList_iff.2 hmem) with
      ⟨part, _, hpart⟩
    exact Constant.exists_encode?_iff.1 ⟨part, hpart⟩ text rfl
  · intro h
    have hall : ∀ constant ∈ pool.entries.toList, ∃ bytes, constant.encode? = .ok bytes := by
      intro constant hmem
      apply Constant.exists_encode?_iff.2
      rintro text rfl
      exact h text (Array.mem_toList_iff.1 hmem)
    rcases exists_mapM_eq_ok hall with ⟨parts, hparts⟩
    exact ⟨_, bind_eq_ok_iff.2 ⟨parts, hparts, rfl⟩⟩

theorem fits_of_toBytes {bytes : Bytes} (h : file.toBytes = .ok bytes) : file.Fits := by
  rcases bind_eq_ok_iff.1 h with ⟨pool, hpool, _⟩
  -- The counts were stored in full, in two bytes each.
  cases stored_of_toBytes h with
  | intro _ _ _ _ _ _ _ hinterfaceCount _ _ hmethodCount =>
      exact ⟨ConstantPool.exists_encode?_iff.1 ⟨pool, hpool⟩, hinterfaceCount.le_65535,
        hmethodCount.le_65535⟩

theorem Grows.fits {most : Nat} {texts : List String} (h : Grows file later most texts)
    (hlater : later.Fits) : file.Fits where
  texts := fun text hmem => hlater.texts text (h.pool.stable.mem hmem)
  interfaces := by
    simpa [h.interfaces] using hlater.interfaces
  methods := by
    simpa [h.methods] using hlater.methods

/-- Calls add and never take away, so that none of them makes a class file small enough again. -/
theorem Leaves.not_fits (h : Leaves file later) (hfile : ¬file.Fits) : ¬later.Fits := by
  intro hlater
  apply hfile
  cases h with
  | grown hgrows =>
      exact hgrows.fits hlater
  | interface hgrows _ _ =>
      have hfewer := Nat.le_trans (List.prefix_append _ _).length_le hlater.interfaces
      exact hgrows.fits ⟨hlater.texts, hfewer, hlater.methods⟩
  | method hgrows _ _ =>
      have hfewer := Nat.le_trans (List.prefix_append _ _).length_le hlater.methods
      exact hgrows.fits ⟨hlater.texts, hlater.interfaces, hfewer⟩

theorem not_fits_afterCalls (h : ¬file.Fits) (calls : List Call) : ¬(file.afterCalls calls).Fits :=
  afterCalls_of_leaves Leaves.not_fits h calls

/-! ## What does not fit -/

/-- The text at the index is too long, and no text at an earlier index is. -/
structure ConstantPool.IsFirstTooLong (pool : ConstantPool) (index : UInt16) (text : String) :
    Prop where
  found : pool.get? index = some (.utf8 text)
  long : IsTooLong text
  first : ∀ earlier other, earlier < index → pool.get? earlier = some (.utf8 other) →
    ¬IsTooLong other

/-- Why a class file cannot be written: texts come before interfaces, and these before methods. -/
inductive Oversize (file : ClassFile) : Error → Prop where
  | text {index : UInt16} {text : String} (hfirst : file.pool.IsFirstTooLong index text) :
      Oversize file (.textTooLong (ModifiedUtf8.encode text).length)
  | interfaces (htexts : ∀ text, .utf8 text ∈ file.pool → ¬IsTooLong text)
      (hmany : 65535 < file.interfaces.length) :
      Oversize file (.tooManyEntries file.interfaces.length)
  | methods (htexts : ∀ text, .utf8 text ∈ file.pool → ¬IsTooLong text)
      (hinterfaces : file.interfaces.length ≤ 65535) (hmany : 65535 < file.methods.length) :
      Oversize file (.tooManyEntries file.methods.length)

theorem Oversize.not_fits (h : file.Oversize e) : ¬file.Fits := by
  intro hfits
  cases h with
  | text hfirst =>
      exact hfits.texts _ (ConstantPool.mem_of_get? hfirst.found) hfirst.long
  | interfaces _ hmany =>
      exact absurd hmany (Nat.not_lt.2 hfits.interfaces)
  | methods _ _ hmany =>
      exact absurd hmany (Nat.not_lt.2 hfits.methods)

theorem Constant.encode?_of_isTooLong {text : String} (h : IsTooLong text) :
    Constant.encode? (.utf8 text) = .error (.textTooLong (ModifiedUtf8.encode text).length) :=
  if_neg (Nat.not_lt.2 h)

namespace ConstantPool

variable {pool : ConstantPool}

/-- Indices are in the order of the entries. -/
theorem lt_indexOf_iff {constant other : Constant} {place position : Nat}
    (hplace : pool.entries[place]? = some other)
    (hposition : pool.entries[position]? = some constant) :
    indexOf place < indexOf position ↔ place < position := by
  rw [UInt16.lt_iff_toNat_lt, toNat_indexOf (lt_capacity_of_getElem? hplace),
    toNat_indexOf (lt_capacity_of_getElem? hposition), Nat.succ_lt_succ_iff]

theorem encode?_eq_error_iff : pool.encode? = .error e ↔
    ∃ index text, pool.IsFirstTooLong index text ∧
      e = .textTooLong (ModifiedUtf8.encode text).length := by
  constructor
  · intro h
    rcases bind_eq_error_iff.1 h with hentries | ⟨_, _, hmade⟩
    · rcases mapM_eq_error_iff.1 hentries with ⟨position, constant, hat, herror, hearlier⟩
      rcases Constant.exists_of_encode?_eq_error herror with ⟨text, rfl, hlong, rfl⟩
      rw [Array.getElem?_toList] at hat
      refine ⟨indexOf position, text, ⟨get?_eq_some_iff.2 ⟨position, hat, rfl⟩, hlong, ?_⟩, rfl⟩
      intro earlier other hlt hother
      rcases get?_eq_some_iff.1 hother with ⟨place, hplace, rfl⟩
      have hwritten := hearlier place ((lt_indexOf_iff hplace hat).1 hlt) (.utf8 other)
        (by simpa using hplace)
      exact Constant.exists_encode?_iff.1 hwritten other rfl
    · cases hmade
  · rintro ⟨index, text, hfirst, rfl⟩
    rcases get?_eq_some_iff.1 hfirst.found with ⟨position, hposition, rfl⟩
    have herror := Constant.encode?_of_isTooLong hfirst.long
    refine bind_eq_error_iff.2 (Or.inl (mapM_eq_error_iff.2
      ⟨position, .utf8 text, by simpa using hposition, herror, ?_⟩))
    intro earlier hlt constant hconstant
    apply Constant.exists_encode?_iff.2
    rintro other rfl
    rw [Array.getElem?_toList] at hconstant
    exact hfirst.first (indexOf earlier) other ((lt_indexOf_iff hconstant hposition).2 hlt)
      (get?_eq_some_iff.2 ⟨earlier, hconstant, rfl⟩)

end ConstantPool

/-! ## Writing -/

namespace WellFormed

theorem toBytes_eq_error_iff (h : file.WellFormed) : file.toBytes = .error e ↔ file.Oversize e := by
  constructor
  · intro herror
    rcases bind_eq_error_iff.1 herror with hpool | ⟨pool, hpool, hrest⟩
    · rcases ConstantPool.encode?_eq_error_iff.1 hpool with ⟨index, text, hfirst, rfl⟩
      exact .text hfirst
    have htexts := ConstantPool.exists_encode?_iff.1 ⟨pool, hpool⟩
    rcases bind_eq_error_iff.1 hrest with hcount | ⟨interfaceCount, hcount, hrest⟩
    · rcases encodeCount?_eq_error_iff.1 hcount with ⟨hmany, rfl⟩
      exact .interfaces htexts hmany
    have hinterfaces := (says_of_encodeCount? hcount).le_65535
    rcases bind_eq_error_iff.1 hrest with hcount | ⟨methodCount, hcount, hrest⟩
    · rcases encodeCount?_eq_error_iff.1 hcount with ⟨hmany, rfl⟩
      exact .methods htexts hinterfaces hmany
    -- Methods that resolve are never refused.
    rcases bind_eq_error_iff.1 hrest with hmethods | ⟨methods, _, hmade⟩
    · rcases exists_of_mapM_eq_error hmethods with ⟨method, hmem, hmethod⟩
      exact absurd hmethod (Method.encode?_ne_error (h.methods method hmem))
    · cases hmade
  · intro hoversize
    -- Whatever comes before the reason is written, so that the reason is what is met first.
    cases hoversize with
    | text hfirst =>
        exact bind_eq_error_iff.2 (Or.inl (ConstantPool.encode?_eq_error_iff.2 ⟨_, _, hfirst, rfl⟩))
    | interfaces htexts hmany =>
        rcases ConstantPool.exists_encode?_iff.2 htexts with ⟨pool, hpool⟩
        have hcount : encodeCount? file.interfaces.length = .error _ :=
          encodeCount?_eq_error_iff.2 ⟨hmany, rfl⟩
        exact bind_eq_error_iff.2 (Or.inr ⟨pool, hpool, bind_eq_error_iff.2 (Or.inl hcount)⟩)
    | methods htexts hinterfaces hmany =>
        rcases ConstantPool.exists_encode?_iff.2 htexts with ⟨pool, hpool⟩
        have hinterfaceCount : encodeCount? file.interfaces.length = .ok _ :=
          if_pos (Nat.lt_succ_of_le hinterfaces)
        have hcount : encodeCount? file.methods.length = .error _ :=
          encodeCount?_eq_error_iff.2 ⟨hmany, rfl⟩
        exact bind_eq_error_iff.2 (Or.inr ⟨pool, hpool, bind_eq_error_iff.2
          (Or.inr ⟨_, hinterfaceCount, bind_eq_error_iff.2 (Or.inl hcount)⟩)⟩)

theorem exists_toBytes_iff (h : file.WellFormed) : (∃ bytes, file.toBytes = .ok bytes) ↔ file.Fits := by
  constructor
  · rintro ⟨bytes, hbytes⟩
    exact fits_of_toBytes hbytes
  · intro hfits
    cases hwritten : file.toBytes with
    | ok bytes =>
        exact ⟨bytes, rfl⟩
    | error e =>
        exact absurd hfits (h.toBytes_eq_error_iff.1 hwritten).not_fits

end WellFormed

/-- The class file is written if it fits, with every length and count in full, and else refused for
what does not fit.  Its references and the sizes of its bodies are never the reason. -/
structure Writes (file : ClassFile) : Prop where
  fits : (∃ bytes, file.toBytes = .ok bytes) ↔ file.Fits
  oversize : ∀ e, file.toBytes = .error e ↔ file.Oversize e
  reference : ∀ index, file.toBytes ≠ .error (.badReference index)
  codeLength : ∀ size, file.toBytes ≠ .error (.badCodeLength size)
  stored : ∀ bytes, file.toBytes = .ok bytes → file.Stored bytes

theorem IsReachable.writes (h : file.IsReachable) : file.Writes where
  fits := h.wellFormed.exists_toBytes_iff
  oversize := fun _ => h.wellFormed.toBytes_eq_error_iff
  reference := by
    intro index herror
    cases h.wellFormed.toBytes_eq_error_iff.1 herror
  codeLength := by
    intro size herror
    cases h.wellFormed.toBytes_eq_error_iff.1 herror
  stored := fun _ => stored_of_toBytes

theorem writes_mixedCalls :
    (∃ start, create "a/A" rootClass (.ofList [.pub, .super]) = .ok start ∧
      (start.afterCalls mixedCalls).Writes) ∧
    ∃ start, ofBytes looseBytes = .ok start ∧ (start.afterCalls mixedCalls).Writes := by
  refine ⟨?_, ?_⟩
  · rcases exists_create "a/A" rootClass (.ofList [.pub, .super]) with ⟨start, hcreate, _⟩
    have hcreated : start.IsCreated := ⟨_, _, _, hcreate⟩
    exact ⟨start, hcreate, IsReachable.writes ⟨start, mixedCalls, Or.inl hcreated, rfl⟩⟩
  · rcases exists_ofBytes_looseBytes with ⟨start, hstart⟩
    exact ⟨start, hstart,
      IsReachable.writes ⟨start, mixedCalls, Or.inr ⟨looseBytes, hstart⟩, rfl⟩⟩

end ClassFile
end AccessorSynthesis
