import AccessorSynthesis.ClassFile.Codec
import AccessorSynthesis.ClassFile.Listing
import AccessorSynthesis.Proofs.ClassFile.Invariant
import AccessorSynthesis.Proofs.ClassFile.ModifiedUtf8
import AccessorSynthesis.Proofs.Refusable

/-!
# RoundTrip — reading back what was written

A well-formed class file is read back from its bytes, except that its note of the index of the name
of the attribute for bodies is made afresh (`WellFormed.reads_decode`).  The parts are

* constants and pools, which are read back whatever their entries name;
* methods, whose indices lead to what they should (`Method.Resolves`);
* class files.

Together with the invariant this covers every class file that calls can make
(`ofBytes_toBytes_afterCalls`).
-/

namespace AccessorSynthesis
namespace ClassFile

open Decoder

/-! ## Constants and pools -/

/-- The stored form of a text entry whose contents are spelled with these bytes. -/
def Constant.spelled (spelling : Bytes) : Bytes :=
  1 :: (Bytes.ofWord16 (UInt16.ofNat spelling.length) ++ spelling)

theorem Constant.reads_spelled {spelling : Bytes} {text : String}
    (htext : ModifiedUtf8.decode spelling = some text) (hlength : spelling.length < 65536) :
    Reads Constant.decode (spelled spelling) (.utf8 text) := by
  -- The length fits its field, so that the field holds all of it.
  have hcount : (UInt16.ofNat spelling.length).toNat = spelling.length := by
    rw [UInt16.toNat_ofNat']
    omega
  show Reads Constant.decode ([1] ++ (Bytes.ofWord16 _ ++ spelling)) _
  refine (reads_byte 1).bind ((reads_word16 _).bind ?_)
  rw [← List.append_nil spelling]
  refine (reads_take ?_).bind ?_
  · simp [hcount]
  · rw [htext]
    exact Reads.pure _

theorem Constant.reads_decode {constant : Constant} {bytes : Bytes}
    (h : constant.encode? = .ok bytes) : Reads Constant.decode bytes constant := by
  cases constant with
  | utf8 text =>
      simp only [encode?] at h
      split at h
      · rename_i hlength
        cases h
        exact reads_spelled (ModifiedUtf8.decode_encode text) hlength
      · cases h
  | className index =>
      cases h
      show Reads Constant.decode ([7] ++ (Bytes.ofWord16 index ++ [])) _
      exact (reads_byte 7).bind ((reads_word16 index).bind (Reads.pure _))
  | stringLiteral index =>
      cases h
      show Reads Constant.decode ([8] ++ (Bytes.ofWord16 index ++ [])) _
      exact (reads_byte 8).bind ((reads_word16 index).bind (Reads.pure _))
  | methodRef first second =>
      cases h
      show Reads Constant.decode ([10] ++ (Bytes.ofWord16 first ++ (Bytes.ofWord16 second ++ []))) _
      exact (reads_byte 10).bind
        ((reads_word16 first).bind ((reads_word16 second).bind (Reads.pure _)))
  | nameAndType first second =>
      cases h
      show Reads Constant.decode ([12] ++ (Bytes.ofWord16 first ++ (Bytes.ofWord16 second ++ []))) _
      exact (reads_byte 12).bind
        ((reads_word16 first).bind ((reads_word16 second).bind (Reads.pure _)))

namespace ConstantPool

theorem size_lt_of_room {pool : ConstantPool} {count : Nat}
    (room : pool.size + (count + 1) ≤ capacity) : pool.size < capacity := by
  omega

theorem room_push {pool : ConstantPool} {constant : Constant} {count : Nat}
    (room : pool.size + (count + 1) ≤ capacity) (absent : pool.positions[constant]? = none) :
    (pool.push constant absent (size_lt_of_room room)).size + count ≤ capacity := by
  rw [size_push]
  omega

/-- One entry is read, and unless the pool has it already the others follow. -/
theorem decodeOnto_succ (count : Nat) (pool : ConstantPool)
    (room : pool.size + (count + 1) ≤ capacity) :
    decodeOnto (count + 1) pool room = Constant.decode >>= fun constant =>
      if found : constant ∈ pool then Decoder.fail .duplicateConstant
      else
        have absent := positions_eq_none_iff.2 found
        decodeOnto count (pool.push constant absent (size_lt_of_room room)) (room_push room absent) := by
  funext bytes
  show decodeOnto (count + 1) pool room bytes = (Constant.decode bytes).bind _
  rw [decodeOnto]
  cases Constant.decode bytes with
  | error error =>
      rfl
  | ok read =>
      dsimp only [Except.bind]
      split
      · rename_i position hposition
        have hfound : read.1 ∈ pool := by
          by_contra habsent
          simp [positions_eq_none_iff.2 habsent] at hposition
        rw [dif_pos hfound]
        rfl
      · rename_i habsent
        rw [dif_neg (positions_eq_none_iff.1 habsent)]

/-- The entries of a pool are read behind those that are there; none of them is there already, since
the entries of a pool are distinct. -/
theorem reads_decodeOnto {constants : List Constant} {parts : List Bytes}
    (h : List.Forall₂ (Reads Constant.decode) parts constants) {pool whole : ConstantPool}
    (hwhole : whole.entries.toList = pool.entries.toList ++ constants) {count : Nat}
    (hcount : count = constants.length) (room : pool.size + count ≤ capacity) :
    Reads (decodeOnto count pool room) parts.flatten whole := by
  -- The induction is over the entries that are still to come; the others are in `pool`.
  induction h generalizing pool count with
  | nil =>
      intro rest
      subst hcount
      have hsame : pool = whole := by
        apply eq_of_entries_eq
        apply Array.toList_inj.1
        simpa using hwhole.symm
      subst hsame
      rfl
  | @cons part constant parts constants hpart _ ih =>
      rcases count with _ | count
      · cases hcount
      -- Among the entries of the whole pool the constant comes behind those of `pool`.
      have habsent : constant ∉ pool := by
        have hnodup := whole.nodup_entries
        rw [hwhole, List.nodup_append] at hnodup
        intro hmem
        exact hnodup.2.2 constant (Array.mem_toList_iff.2 hmem) constant List.mem_cons_self rfl
      rw [decodeOnto_succ, List.flatten_cons]
      refine hpart.bind ?_
      rw [dif_neg habsent]
      refine ih ?_ (Nat.succ.inj hcount) _
      simp [hwhole, push]

theorem toNat_indexOf_size (pool : ConstantPool) :
    (indexOf pool.size).toNat = pool.size + 1 := by
  have hsize : pool.size ≤ 65534 := pool.size_le
  rw [indexOf, UInt16.toNat_ofNat']
  omega

theorem reads_decode {pool : ConstantPool} {bytes : Bytes} (h : pool.encode? = .ok bytes) :
    Reads ConstantPool.decode bytes pool := by
  rcases bind_eq_ok_iff.1 h with ⟨parts, hparts, hbytes⟩
  cases hbytes
  have hentries : List.Forall₂ (Reads Constant.decode) parts pool.entries.toList :=
    List.Forall₂.flip ((forall₂_of_mapM_eq_ok hparts).imp fun _ _ => Constant.reads_decode)
  refine (reads_word16 _).bind (reads_decodeOnto hentries ?_ ?_ _)
  · simp [empty]
  · rw [toNat_indexOf_size]
    simp [size]

end ConstantPool

/-! ## Methods -/

namespace Method

variable {file : ClassFile} {method : Method} {bytes : Bytes}

theorem reads_decodeAttribute {index : UInt16} {body : MethodBody} (length : UInt32)
    (hindex : file.pool.utf8At? index = some codeAttribute) (hsize : MethodBody.IsSize body.size) :
    Reads (decodeAttribute file.pool)
      (Bytes.ofWord16 index ++ (Bytes.ofWord32 length ++ body.encode)) (some body) := by
  have hname : Reads (decodeUtf8 file.pool) (Bytes.ofWord16 index ++ []) (index, codeAttribute) := by
    refine (reads_word16 index).bind ?_
    rw [hindex]
    exact Reads.pure _
  have hbody : Reads (do return some (← MethodBody.decode)) (body.encode ++ []) (some body) :=
    (MethodBody.reads_decode hsize).bind (Reads.pure _)
  rw [List.append_nil] at hname hbody
  refine hname.bind ((reads_word32 length).bind ?_)
  rw [if_pos rfl]
  exact hbody

/-- The attributes of a method in the stored form. -/
theorem reads_attributes (h : method.Resolves file)
    (hcode : ∀ index, file.codeName = some index → file.pool.utf8At? index = some codeAttribute)
    (hbytes : method.encode? file.codeName = .ok bytes) :
    ∃ parts attributes, List.Forall₂ (Reads (decodeAttribute file.pool)) parts attributes ∧
      attributes.length < 65536 ∧ (attributes.filterMap id).getLast? = method.body ∧
      bytes = Bytes.ofWord16 method.access.bits ++ (Bytes.ofWord16 method.nameIndex
        ++ (Bytes.ofWord16 method.descriptorIndex
        ++ (Bytes.ofWord16 (UInt16.ofNat attributes.length) ++ parts.flatten))) := by
  unfold encode? at hbytes
  cases hbody : method.body with
  | none =>
      rw [hbody] at hbytes
      cases hbytes
      refine ⟨[], [], List.Forall₂.nil, by simp, rfl, ?_⟩
      simp
  | some body =>
      rw [hbody] at hbytes
      -- The name of the attribute was noted when the body was added.
      rcases h.body body hbody with ⟨hsize, hsome⟩
      rcases Option.isSome_iff_exists.1 hsome with ⟨index, hindex⟩
      rw [hindex] at hbytes
      rcases bind_eq_ok_iff.1 hbytes with ⟨_, _, hmade⟩
      cases hmade
      have hread := reads_decodeAttribute (UInt32.ofNat (body.size + 12)) (hcode index hindex) hsize
      refine ⟨[_], [some body], List.Forall₂.cons hread List.Forall₂.nil, by simp, rfl, ?_⟩
      simp

theorem reads_decode (h : method.Resolves file)
    (hcode : ∀ index, file.codeName = some index → file.pool.utf8At? index = some codeAttribute)
    (hbytes : method.encode? file.codeName = .ok bytes) :
    Reads (Method.decode file.pool) bytes method := by
  rcases reads_attributes h hcode hbytes with ⟨parts, attributes, hread, hlength, hlast, rfl⟩
  have hcount : (UInt16.ofNat attributes.length).toNat = attributes.length := by
    rw [UInt16.toNat_ofNat']
    omega
  refine (reads_word16 _).bind ((reads_word16 _).bind ((reads_word16 _).bind ?_))
  rw [h.name]
  dsimp only
  rw [h.descriptor]
  refine (reads_word16 _).bind ?_
  rw [hcount, ← List.append_nil parts.flatten]
  refine (Reads.times hread).bind ?_
  rw [hlast]
  exact Reads.pure method

end Method

/-! ## Class files -/

/-- The class file as it is read back: its note of the index of the name of the attribute for bodies
is made from the pool. -/
def noted (file : ClassFile) : ClassFile :=
  { file with codeName := file.pool.indexOfUtf8? codeAttribute }

theorem encodeCount?_eq_ok {count : Nat} {bytes : Bytes} (h : encodeCount? count = .ok bytes) :
    (UInt16.ofNat count).toNat = count ∧ bytes = Bytes.ofWord16 (UInt16.ofNat count) := by
  unfold encodeCount? at h
  split at h
  · rename_i hcount
    cases h
    refine ⟨?_, rfl⟩
    rw [UInt16.toNat_ofNat']
    omega
  · cases h

theorem reads_decodeMagic : Reads decodeMagic (Bytes.ofWord32 magic) () := by
  rw [← List.append_nil (Bytes.ofWord32 magic)]
  refine (reads_word32 magic).bind ?_
  rw [if_pos rfl]
  exact Reads.pure ()

theorem reads_decodeClass {pool : ConstantPool} {index : UInt16}
    (h : (pool.classNameAt? index).isSome = true) :
    Reads (decodeClass pool) (Bytes.ofWord16 index) index := by
  rcases Option.isSome_iff_exists.1 h with ⟨name, hname⟩
  rw [← List.append_nil (Bytes.ofWord16 index)]
  refine (reads_word16 index).bind ?_
  rw [hname]
  exact Reads.pure index

/-- Reads a class file with another reader in the place of that for methods, and returns it without
methods, next to what the other reader made of each of them. -/
def decodeWith {α : Type} (item : ConstantPool → Decoder α) : Decoder (ClassFile × List α) := do
  decodeMagic
  let minorVersion ← Decoder.word16
  let majorVersion ← Decoder.word16
  let pool ← ConstantPool.decode
  let access ← Decoder.word16
  let thisClass ← decodeClass pool
  let superClass ← decodeClass pool
  let interfaceCount ← Decoder.word16
  let interfaces ← Decoder.times interfaceCount.toNat (decodeClass pool)
  let fieldCount ← Decoder.word16
  Decoder.skipTimes skipField fieldCount.toNat
  let methodCount ← Decoder.word16
  let items ← Decoder.times methodCount.toNat (item pool)
  skipAttributes
  return ({
    minorVersion
    majorVersion
    pool
    access := ⟨access⟩
    thisClass
    superClass
    interfaces
    methods := []
    codeName := pool.indexOfUtf8? codeAttribute
  }, items)

theorem decode_eq : decode = (do
    let (front, methods) ← decodeWith Method.decode
    return { front with methods }) := by
  simp only [decode, decodeWith, bind_assoc, pure_bind]

namespace WellFormed

variable {file : ClassFile} {bytes : Bytes}

/-- A class file is read back by every reader that makes something of each of its methods. -/
theorem reads_decodeWith (h : file.WellFormed) (hbytes : file.toBytes = .ok bytes) :
    ∃ parts, file.methods.mapM (Method.encode? file.codeName) = .ok parts ∧
      ∀ {α : Type} {item : ConstantPool → Decoder α} {items : List α},
        List.Forall₂ (Reads (item file.pool)) parts items →
          Reads (decodeWith item) bytes ({ file.noted with methods := [] }, items) := by
  rcases bind_eq_ok_iff.1 hbytes with ⟨pool, hpool, hrest⟩
  rcases bind_eq_ok_iff.1 hrest with ⟨interfaceCount, hinterfaces, hrest⟩
  rcases bind_eq_ok_iff.1 hrest with ⟨methodCount, hmethods, hrest⟩
  rcases bind_eq_ok_iff.1 hrest with ⟨parts, hparts, hmade⟩
  cases hmade
  rcases encodeCount?_eq_ok hinterfaces with ⟨hinterfaceCount, rfl⟩
  rcases encodeCount?_eq_ok hmethods with ⟨hmethodCount, rfl⟩
  refine ⟨parts, hparts, ?_⟩
  intro α item items hitems
  have hindices : List.Forall₂ (Reads (decodeClass file.pool))
      (file.interfaces.map Bytes.ofWord16) file.interfaces := by
    rw [List.forall₂_map_left_iff, List.forall₂_same]
    exact fun index hindex => reads_decodeClass (h.interfaces index hindex)
  have hcount : (UInt16.ofNat file.methods.length).toNat = items.length := by
    rw [hmethodCount, (forall₂_of_mapM_eq_ok hparts).length_eq, hitems.length_eq]
  -- The bytes are bracketed as the decoder takes them apart, one bind after the other.
  have hread : Reads (decodeWith item)
      (Bytes.ofWord32 magic ++ (Bytes.ofWord16 file.minorVersion
        ++ (Bytes.ofWord16 file.majorVersion ++ (pool ++ (Bytes.ofWord16 file.access.bits
        ++ (Bytes.ofWord16 file.thisClass ++ (Bytes.ofWord16 file.superClass
        ++ (Bytes.ofWord16 (UInt16.ofNat file.interfaces.length)
        ++ ((file.interfaces.map Bytes.ofWord16).flatten ++ (Bytes.ofWord16 0 ++ ([]
        ++ (Bytes.ofWord16 (UInt16.ofNat file.methods.length)
        ++ (parts.flatten ++ (Bytes.ofWord16 0 ++ []))))))))))))))
      ({ file.noted with methods := [] }, items) := by
    refine reads_decodeMagic.bind ((reads_word16 _).bind ((reads_word16 _).bind ?_))
    refine (ConstantPool.reads_decode hpool).bind ((reads_word16 _).bind ?_)
    refine (reads_decodeClass h.thisClass).bind ((reads_decodeClass h.superClass).bind ?_)
    refine (reads_word16 _).bind ?_
    rw [hinterfaceCount]
    refine (Reads.times hindices).bind ?_
    -- No fields are written.
    refine (reads_word16 0).bind (Reads.bind (a := ()) (fun rest => rfl) ((reads_word16 _).bind ?_))
    rw [hcount]
    exact (Reads.times hitems).bind (reads_skipAttributes.bind (Reads.pure _))
  simpa [List.append_assoc, List.flatMap_def] using hread

theorem reads_methods (h : file.WellFormed) {parts : List Bytes}
    (hparts : file.methods.mapM (Method.encode? file.codeName) = .ok parts) :
    List.Forall₂ (Reads (Method.decode file.pool)) parts file.methods := by
  have hall := (List.forall₂_and_left _ _).2 ⟨h.methods, forall₂_of_mapM_eq_ok hparts⟩
  exact List.Forall₂.flip (hall.imp fun method part hpart =>
    Method.reads_decode hpart.1 h.codeName hpart.2)

theorem reads_decode (h : file.WellFormed) (hbytes : file.toBytes = .ok bytes) :
    Reads ClassFile.decode bytes file.noted := by
  rcases h.reads_decodeWith hbytes with ⟨parts, hparts, hread⟩
  rw [decode_eq, ← List.append_nil bytes]
  exact (hread (h.reads_methods hparts)).bind (Reads.pure file.noted)

theorem ofBytes_toBytes (h : file.WellFormed) (hbytes : file.toBytes = .ok bytes) :
    ofBytes bytes = .ok file.noted := by
  have hread := h.reads_decode hbytes []
  rw [List.append_nil] at hread
  rw [ofBytes, hread]
  rfl

/-- The note matters only for bodies, and a class file with a body has the right one. -/
theorem encode?_noted (h : file.WellFormed) {method : Method} (hmethod : method ∈ file.methods) :
    method.encode? file.noted.codeName = method.encode? file.codeName := by
  unfold Method.encode?
  cases hbody : method.body with
  | none =>
      rfl
  | some body =>
      rcases Option.isSome_iff_exists.1 ((h.methods method hmethod).body body hbody).2 with
        ⟨index, hindex⟩
      have hat := ConstantPool.utf8At?_eq_some_iff.1 (h.codeName index hindex)
      have hnoted : file.noted.codeName = some index := ConstantPool.indexOfUtf8?_eq_some_iff.2 hat
      rw [hnoted, hindex]

theorem toBytes_noted (h : file.WellFormed) : file.noted.toBytes = file.toBytes := by
  have hmethods : file.noted.methods.mapM (Method.encode? file.noted.codeName)
      = file.methods.mapM (Method.encode? file.codeName) :=
    mapM_congr fun _ hmethod => h.encode?_noted hmethod
  unfold toBytes
  rw [hmethods]
  rfl

end WellFormed

/-- Whatever calls have made of a new class file: if it can be written, it is read back, with its
note of the attribute for bodies made from the pool; it is listed and written as before. -/
theorem ofBytes_toBytes_afterCalls {name superName : String} {access : AccessFlags}
    {start : ClassFile} (created : create name superName access = .ok start) (calls : List Call)
    {bytes : Bytes} (written : (start.afterCalls calls).toBytes = .ok bytes) :
    ∃ read, ofBytes bytes = .ok read ∧
      read = { start.afterCalls calls with codeName := read.codeName } ∧
      (∀ index, read.codeName = some index ↔
        read.pool.get? index = some (.utf8 codeAttribute)) ∧
      read.listing = (start.afterCalls calls).listing ∧
      read.toBytes = .ok bytes := by
  have hwell := (wellFormed_of_create created).afterCalls calls
  refine ⟨(start.afterCalls calls).noted, hwell.ofBytes_toBytes written, rfl, ?_, rfl, ?_⟩
  · intro index
    exact ConstantPool.indexOfUtf8?_eq_some_iff
  · rw [hwell.toBytes_noted]
    exact written

/-- Calls on a class file of which some are refused: an index without an entry, a method of no bytes
and a second method of one name. -/
def mixedCalls : List Call :=
  [.onPool (.add (.className 999)), .loadString "Code", .addInterface "a/I", .addInterface "a/I",
    .addMethod (.ofList [.pub]) "empty" "()V" (some ⟨0, 0, []⟩),
    .emitAccessor .plainClass ⟨0, "track", "A", .ofList [.pub, .synthetic]⟩,
    .emitAccessor .plainClass ⟨0, "track", "B", .ofList [.pub]⟩]

theorem ofBytes_toBytes_mixedCalls :
    ∃ start bytes, create "a/A" rootClass (.ofList [.pub, .super]) = .ok start ∧
      (start.afterCalls mixedCalls).toBytes = .ok bytes ∧
      ∃ read, ofBytes bytes = .ok read ∧
        read = { start.afterCalls mixedCalls with codeName := read.codeName } ∧
        (∀ index, read.codeName = some index ↔
          read.pool.get? index = some (.utf8 codeAttribute)) ∧
        read.listing = (start.afterCalls mixedCalls).listing ∧
        read.toBytes = .ok bytes := by
  have hwritten : (create "a/A" rootClass (.ofList [.pub, .super])
      >>= fun start => (start.afterCalls mixedCalls).toBytes).toOption.isSome = true := by
    decide +kernel
  rcases exists_of_isSome_bind hwritten with ⟨start, bytes, hcreate, hbytes⟩
  exact ⟨start, bytes, hcreate, hbytes, ofBytes_toBytes_afterCalls hcreate mixedCalls hbytes⟩

end ClassFile
end AccessorSynthesis
