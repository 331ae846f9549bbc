import AccessorSynthesis.Proofs.ClassFile.Acceptance
import AccessorSynthesis.Proofs.ClassFile.Spelling
import AccessorSynthesis.Proofs.ClassFile.Writing

/-!
# Normalization — what is read can be written

The reader passes over much that the writer never makes: fields, attributes, handlers, over-long
forms of characters, bytes behind the end.  Whatever it accepts is a well-formed class file that can
be written, in no more bytes than were read (`takes_decode`).  Writing thus brings class files into
a normal form, which is read and written without a change (`toBytes_of_ofBytes`).
-/

namespace AccessorSynthesis
namespace ClassFile

open Decoder

/-! ## Constants and pools -/

theorem Constant.takes_decode : Takes Constant.decode (WritesWithin Constant.encode?) := by
  refine takes_byte.bind ?_
  rintro _ tag rfl
  -- Only texts have forms of several lengths; other constants are written as they were read.
  split
  · refine takes_word16.bind ?_
    rintro _ length rfl
    refine (takes_take length.toNat).bind ?_
    rintro _ bytes ⟨rfl, hlength⟩
    split
    · rename_i text htext
      -- The form of the text is no longer than the one that was read, whose length fits its field.
      have hwritten := ModifiedUtf8.length_encode_le_of_decode htext
      have hfits : (ModifiedUtf8.encode text).length < 65536 := by
        have := length.toNat_lt
        omega
      refine Takes.pure ⟨_, if_pos hfits, ?_⟩
      simp only [List.length_append, List.length_cons, List.length_nil, Bytes.length_ofWord16]
      omega
    · exact Takes.fail
  · exact takes_word16.bind fun _ index hindex => Takes.pure ⟨_, rfl, by simp [hindex]⟩
  · exact takes_word16.bind fun _ index hindex => Takes.pure ⟨_, rfl, by simp [hindex]⟩
  · exact takes_word16.bind fun _ owner howner => takes_word16.bind fun _ pair hpair =>
      Takes.pure ⟨_, rfl, by simp [howner, hpair]⟩
  · exact takes_word16.bind fun _ name hname => takes_word16.bind fun _ descriptor hdescriptor =>
      Takes.pure ⟨_, rfl, by simp [hname, hdescriptor]⟩
  · exact Takes.fail

namespace ConstantPool

theorem takes_decodeOnto (count : Nat) (pool : ConstantPool) (room : pool.size + count ≤ capacity) :
    Takes (decodeOnto count pool room) fun front whole => ∃ parts constants,
      front = parts.flatten ∧ whole.entries.toList = pool.entries.toList ++ constants ∧
      List.Forall₂ (WritesWithin Constant.encode?) parts constants := by
  -- Entries go to the end of the pool, one by one; a repeated one ends the reading.
  induction count generalizing pool with
  | zero =>
      exact Takes.pure ⟨[], [], rfl, (List.append_nil _).symm, List.Forall₂.nil⟩
  | succ count ih =>
      rw [decodeOnto_succ]
      refine Constant.takes_decode.bind fun part constant hpart => ?_
      split
      · exact Takes.fail
      · refine (ih _ _).mono ?_
        rintro _ whole ⟨parts, constants, rfl, hwhole, hparts⟩
        refine ⟨part :: parts, constant :: constants, rfl, ?_, List.Forall₂.cons hpart hparts⟩
        simp [hwhole, push]

theorem takes_decode : Takes ConstantPool.decode (WritesWithin ConstantPool.encode?) := by
  refine takes_word16.bind ?_
  rintro _ count rfl
  refine (takes_decodeOnto (count.toNat - 1) empty _).mono ?_
  rintro _ pool ⟨parts, constants, rfl, hentries, hparts⟩
  have hall : pool.entries.toList = constants := by
    rw [hentries]
    simp [empty]
  rcases exists_mapM_of_writesWithin hparts with ⟨written, hwritten, hlength⟩
  refine ⟨Bytes.ofWord16 (indexOf pool.size) ++ written.flatten, ?_, ?_⟩
  · rw [encode?, hall, hwritten]
    rfl
  · simp only [List.length_append, Bytes.length_ofWord16]
    omega

end ConstantPool

/-! ## Methods -/

namespace Method

theorem takes_decodeUtf8 (pool : ConstantPool) : Takes (decodeUtf8 pool) fun front read =>
    front = Bytes.ofWord16 read.1 ∧ pool.utf8At? read.1 = some read.2 := by
  refine takes_word16.bind ?_
  rintro _ index rfl
  split
  · rename_i text htext
    exact Takes.pure ⟨List.append_nil _, htext⟩
  · exact Takes.fail

/-- A body that an attribute stores has an allowed size, and its name is in the pool. -/
theorem takes_decodeAttribute (pool : ConstantPool) :
    Takes (decodeAttribute pool) fun front stored => ∀ body, stored = some body →
      MethodBody.IsSize body.size ∧ (pool.indexOfUtf8? codeAttribute).isSome = true ∧
      body.size + 18 ≤ front.length := by
  refine (takes_decodeUtf8 pool).bind ?_
  rintro _ ⟨index, name⟩ ⟨rfl, hindex⟩
  refine takes_word32.bind ?_
  rintro _ length rfl
  split
  · rename_i hname
    subst hname
    refine MethodBody.takes_decode.bind ?_
    rintro bodyBytes body ⟨hsize, hbodyBytes⟩
    refine Takes.pure ?_
    rintro _ ⟨⟩
    have hnoted := ConstantPool.indexOfUtf8?_eq_some_iff.2 (ConstantPool.utf8At?_eq_some_iff.1 hindex)
    refine ⟨hsize, by rw [hnoted]; rfl, ?_⟩
    simp only [List.length_append, Bytes.length_ofWord16, Bytes.length_ofWord32]
    omega
  · refine (takes_skip length.toNat).bind fun _ _ _ => Takes.pure ?_
    rintro body ⟨⟩

/-- A method resolves in every class file of its pool that has the note of the pool, and it can be
written there. -/
theorem takes_decode (file : ClassFile)
    (hcode : file.codeName = file.pool.indexOfUtf8? codeAttribute) :
    Takes (Method.decode file.pool) fun front method =>
      method.Resolves file ∧ WritesWithin (Method.encode? file.codeName) front method := by
  refine takes_word16.bind ?_
  rintro _ access rfl
  refine takes_word16.bind ?_
  rintro _ nameIndex rfl
  refine takes_word16.bind ?_
  rintro _ descriptorIndex rfl
  split
  · exact Takes.fail
  rename_i name hname
  split
  · exact Takes.fail
  rename_i descriptor hdescriptor
  refine takes_word16.bind ?_
  rintro _ count rfl
  refine ((takes_decodeAttribute file.pool).times count.toNat).bind ?_
  rintro _ attributes ⟨parts, rfl, _, hparts⟩
  refine Takes.pure ?_
  -- The last body is kept, and it was stored by one of the attributes.
  have hbody : ∀ body, (attributes.filterMap id).getLast? = some body →
      MethodBody.IsSize body.size ∧ file.codeName.isSome = true ∧
      body.size + 18 ≤ parts.flatten.length := by
    intro body hlast
    have hmem : some body ∈ attributes := by
      simpa using List.mem_of_getLast? hlast
    rcases exists_part_of_mem hparts hmem with ⟨part, hpart, hstored⟩
    rcases hstored body rfl with ⟨hsize, hnoted, hlength⟩
    rw [hcode]
    exact ⟨hsize, hnoted, Nat.le_trans hlength hpart⟩
  have hresolves : Method.Resolves ⟨⟨access⟩, name, descriptor, nameIndex, descriptorIndex,
      (attributes.filterMap id).getLast?⟩ file :=
    ⟨hname, hdescriptor, fun body hlast => ⟨(hbody body hlast).1, (hbody body hlast).2.1⟩⟩
  rcases Method.exists_encode? hresolves with ⟨written, hwritten, hlength⟩
  refine ⟨hresolves, written, hwritten, ?_⟩
  simp only [List.length_append, Bytes.length_ofWord16, List.length_nil]
  -- The attributes that were read have room for the one that is written, or none is written.
  cases hlast : (attributes.filterMap id).getLast? with
  | none =>
      rw [hlast] at hlength
      simp only [Option.map_none, Option.getD_none] at hlength
      omega
  | some body =>
      have hstored := (hbody body hlast).2.2
      rw [hlast] at hlength
      simp only [Option.map_some, Option.getD_some] at hlength
      omega

end Method

/-! ## Class files -/

theorem takes_decodeClass (pool : ConstantPool) : Takes (decodeClass pool) fun front index =>
    front = Bytes.ofWord16 index ∧ (pool.classNameAt? index).isSome = true := by
  refine takes_word16.bind ?_
  rintro _ index rfl
  split
  · rename_i name hname
    exact Takes.pure ⟨List.append_nil _, by rw [hname]; rfl⟩
  · exact Takes.fail

theorem takes_skipField : Takes skipField fun _ _ => True :=
  (takes_skip 6).bind fun _ _ _ => takes_skipAttributes.mono fun _ _ _ => trivial

theorem takes_decodeMagic : Takes decodeMagic fun front _ => front.length = 4 := by
  refine takes_word32.bind ?_
  rintro _ found rfl
  split
  · exact Takes.pure (by simp)
  · exact Takes.fail

theorem length_flatMap_ofWord16 (words : List UInt16) :
    (words.flatMap Bytes.ofWord16).length = 2 * words.length := by
  simp [List.length_flatMap, Nat.mul_comm]

/-- The bytes of a class file whose pool and methods can be written and whose tables are not too
long: twenty-two bytes surround the pool, the interfaces and the methods. -/
theorem exists_toBytes (file : ClassFile) {pool : Bytes} {methods : List Bytes}
    (hpool : file.pool.encode? = .ok pool) (hinterfaces : file.interfaces.length < 65536)
    (hcount : file.methods.length < 65536)
    (hmethods : file.methods.mapM (Method.encode? file.codeName) = .ok methods) :
    ∃ written, file.toBytes = .ok written ∧ written.length
      = pool.length + 2 * file.interfaces.length + methods.flatten.length + 22 := by
  have hinterfaceCount : encodeCount? file.interfaces.length = .ok _ := if_pos hinterfaces
  have hmethodCount : encodeCount? file.methods.length = .ok _ := if_pos hcount
  unfold toBytes
  rw [hpool, hinterfaceCount, hmethodCount, hmethods]
  refine ⟨_, rfl, ?_⟩
  simp only [List.length_append, Bytes.length_ofWord16, Bytes.length_ofWord32,
    length_flatMap_ofWord16]
  omega

/-- What is accepted is a well-formed class file with the note of its pool, and it can be written in
the bytes that were taken for it. -/
theorem takes_decode : Takes ClassFile.decode fun front file => file.WellFormed ∧
    file.codeName = file.pool.indexOfUtf8? codeAttribute ∧ WritesWithin toBytes front file := by
  refine takes_decodeMagic.bind ?_
  intro magicBytes _ hmagic
  refine takes_word16.bind ?_
  rintro _ minorVersion rfl
  refine takes_word16.bind ?_
  rintro _ majorVersion rfl
  refine ConstantPool.takes_decode.bind ?_
  rintro poolBytes pool ⟨poolWritten, hpool, hpoolLength⟩
  refine takes_word16.bind ?_
  rintro _ access rfl
  refine (takes_decodeClass pool).bind ?_
  rintro _ thisClass ⟨rfl, hthis⟩
  refine (takes_decodeClass pool).bind ?_
  rintro _ superClass ⟨rfl, hsuper⟩
  refine takes_word16.bind ?_
  rintro _ interfaceCount rfl
  refine ((takes_decodeClass pool).times interfaceCount.toNat).bind ?_
  rintro _ interfaces ⟨interfaceParts, rfl, hinterfaceCount, hinterfaces⟩
  refine takes_word16.bind ?_
  rintro _ fieldCount rfl
  refine (takes_skipField.skipTimes fieldCount.toNat).bind ?_
  intro fieldBytes _ _
  refine takes_word16.bind ?_
  rintro _ methodCount rfl
  -- The methods are compared with a class file that has all but them.
  let header : ClassFile := ⟨minorVersion, majorVersion, pool, ⟨access⟩, thisClass, superClass,
    interfaces, [], pool.indexOfUtf8? codeAttribute⟩
  have hmethod : Takes (Method.decode pool) fun front method =>
      method.Resolves header ∧ WritesWithin (Method.encode? header.codeName) front method :=
    Method.takes_decode header rfl
  refine (hmethod.times methodCount.toNat).bind ?_
  rintro _ methods ⟨methodParts, rfl, hmethodCount, hmethods⟩
  refine takes_skipAttributes.bind ?_
  intro attributeBytes _ hattributes
  -- Well-formedness was checked part by part: interfaces, methods, and the note of the pool.
  refine Takes.pure ⟨⟨hthis, hsuper, ?_, ?_, ?_⟩, rfl, ?_⟩
  · intro index hindex
    rcases exists_part_of_mem hinterfaces hindex with ⟨_, _, _, hclass⟩
    exact hclass
  · intro method hmethod
    rcases exists_part_of_mem hmethods hmethod with ⟨_, _, hresolves, _⟩
    exact ⟨hresolves.name, hresolves.descriptor, hresolves.body⟩
  · intro index hindex
    exact ConstantPool.utf8At?_eq_some_iff.2 (ConstantPool.indexOfUtf8?_eq_some_iff.1 hindex)
  · rcases exists_mapM_of_writesWithin (hmethods.imp fun _ _ h => h.2) with
      ⟨methodsWritten, hmethodsWritten, hmethodsLength⟩
    rcases exists_toBytes { header with methods } hpool
      (by rw [hinterfaceCount]; exact interfaceCount.toNat_lt)
      (by rw [hmethodCount]; exact methodCount.toNat_lt) hmethodsWritten with
      ⟨written, hwritten, hlength⟩
    -- Each interface was read from the two bytes that are written for it.
    have hindices : interfaceParts = interfaces.map Bytes.ofWord16 := by
      have hsame := List.forall₂_map_right_iff.2 (hinterfaces.imp fun _ _ h => h.1)
      rwa [List.forall₂_eq_eq_eq] at hsame
    refine ⟨written, hwritten, ?_⟩
    rw [hlength, hindices, ← List.flatMap_def]
    simp only [List.length_append, Bytes.length_ofWord16, length_flatMap_ofWord16, hmagic, header]
    omega

variable {bytes : Bytes} {file : ClassFile}

theorem exists_rest_of_ofBytes (h : ofBytes bytes = .ok file) :
    ∃ rest, ClassFile.decode bytes = .ok (file, rest) := by
  rcases map_eq_ok_iff.1 h with ⟨⟨_, rest⟩, hread, ⟨⟩⟩
  exact ⟨rest, hread⟩

theorem wellFormed_of_ofBytes (h : ofBytes bytes = .ok file) : file.WellFormed := by
  rcases exists_rest_of_ofBytes h with ⟨rest, hread⟩
  rcases takes_decode bytes file rest hread with ⟨_, _, hwell, _⟩
  exact hwell

/-- Whatever is read can be written, in no more bytes than it was read from, and is read back from
these without a change; so writing it once more yields the same bytes. -/
theorem toBytes_of_ofBytes (h : ofBytes bytes = .ok file) :
    ∃ written, file.toBytes = .ok written ∧ written.length ≤ bytes.length ∧
      ofBytes written = .ok file ∧ (ofBytes written >>= toBytes) = .ok written := by
  rcases exists_rest_of_ofBytes h with ⟨rest, hread⟩
  rcases takes_decode bytes file rest hread with
    ⟨front, hfront, hwell, hcode, written, hwritten, hlength⟩
  -- A reader notes where the pool has its name for bodies, so that noting it again is no change.
  have hnoted : file.noted = file := by
    rw [noted, ← hcode]
  have hback : ofBytes written = .ok file := by
    rw [hwell.ofBytes_toBytes hwritten, hnoted]
  refine ⟨written, hwritten, ?_, hback, ?_⟩
  · rw [hfront, List.length_append]
    omega
  · rw [hback]
    exact hwritten

/-- Bytes that are not in normal form: an over-long text, a field, a repeated and an unknown
attribute of a method, a method twice, handlers, an attribute of the class and a byte at the end. -/
def looseBytes : Bytes :=
  -- The marking number, the version, and a pool of five entries: the class `a`, `Code`, `m`, `()V`.
  [0xCA, 0xFE, 0xBA, 0xBE, 0, 0, 0, 52, 0, 6, 1, 0, 2, 0xC1, 0xA1, 7, 0, 1,
    1, 0, 4, 0x43, 0x6F, 0x64, 0x65, 1, 0, 1, 0x6D, 1, 0, 3, 0x28, 0x29, 0x56,
    -- The access word, the class, its superclass and its interface, and a field with an attribute.
    0, 0x21, 0, 2, 0, 2, 0, 1, 0, 2, 0, 1, 0, 2, 0, 4, 0, 5, 0, 1, 0, 4, 0, 0, 0, 1, 9,
    -- Two methods `m`, the first of which has two bodies and an unknown attribute.
    0, 2, 0, 1, 0, 4, 0, 5, 0, 3,
    0, 3, 0, 0, 0, 0, 0, 0, 0, 0, 0, 0, 0, 1, 0xB1, 0, 1, 1, 2, 3, 4, 5, 6, 7, 8, 0, 0,
    0, 4, 0, 0, 0, 1, 9,
    0, 3, 0, 0, 0, 0, 0, 1, 0, 1, 0, 0, 0, 2, 0x2A, 0xB0, 0, 0, 0, 0,
    0, 1, 0, 4, 0, 5, 0, 0,
    -- An attribute of the class, and one byte too many.
    0, 1, 0, 4, 0, 0, 0, 0, 7]

theorem exists_ofBytes_looseBytes : ∃ file, ofBytes looseBytes = .ok file := by
  have hread : (ofBytes looseBytes).toOption.isSome = true := by
    decide +kernel
  exact exists_of_isSome hread

theorem toBytes_looseBytes : ∃ file, ofBytes looseBytes = .ok file ∧
    ∃ written, file.toBytes = .ok written ∧ written.length ≤ looseBytes.length ∧
      ofBytes written = .ok file ∧ (ofBytes written >>= toBytes) = .ok written := by
  rcases exists_ofBytes_looseBytes with ⟨file, hfile⟩
  exact ⟨file, hfile, toBytes_of_ofBytes hfile⟩

end ClassFile
end AccessorSynthesis
