import AccessorSynthesis.Proofs.ClassFile.Skimming
import AccessorSynthesis.Proofs.ClassFile.Truncation

/-!
# DeclaredLength — what attributes of methods declare, and what is taken for them

Each attribute of a method declares the length of its contents.  The decoder goes by it where it
passes over an attribute, and does not use it where it reads a body: the body says itself where it
ends.  This file defines

* `Extent` — the name of an attribute, the length it declares and the number of bytes taken for its
  contents;
* `Method.decodeExtent` — reads an attribute of a method as the decoder does, and returns its extent;
* `attributesWith item` — reads the attributes of a method with another reader;
* `Framed item bytes read` — other methods may stand in the place of those that were read.

For the attributes that are passed over, both numbers agree.  For those that store bodies they may
differ (`extents_misdeclaredBytes`), and a reader that goes by the declared lengths takes the same
bytes for each attribute as the decoder if and only if they agree everywhere
(`extents_of_ofBytes`).
-/

namespace AccessorSynthesis
namespace ClassFile

namespace Decoder

variable {α β : Type} {decoder : Decoder α} {post : Bytes → α → Prop} {front : Bytes} {a : α}

/-! ## Decoders and the bytes they take -/

theorem IsIncremental.takes (h : IsIncremental decoder) : Takes decoder (Reads decoder) := by
  intro bytes a rest hread
  rcases h.accepts bytes a rest hread with ⟨front, hbytes, hreads, _⟩
  exact ⟨front, hbytes, hreads⟩

theorem Reads.map (h : Reads decoder front a) (f : α → β) :
    Reads (decoder >>= fun a => Pure.pure (f a)) front (f a) := by
  rw [← List.append_nil front]
  exact h.bind (Reads.pure (f a))

theorem Takes.of_reads (h : Takes decoder post) (hreads : Reads decoder front a) : post front a := by
  rcases h front a [] hreads.eq_ok with ⟨taken, htaken, hpost⟩
  rw [List.append_nil] at htaken
  rw [htaken]
  exact hpost

theorem Takes.taken (h : Takes decoder post) :
    Takes (Decoder.taken decoder) fun front part => part = front ∧ ∃ a, post front a := by
  intro bytes part _ hread
  rcases map_eq_ok_iff.1 hread with ⟨⟨a, rest⟩, hfirst, hmade⟩
  cases hmade
  rcases h bytes a rest hfirst with ⟨front, rfl, hpost⟩
  exact ⟨front, rfl, by simp, a, hpost⟩

theorem IsIncremental.taken (h : IsIncremental decoder) :
    IsIncremental (Decoder.taken decoder) where
  accepts := by
    intro bytes part _ hread
    rcases map_eq_ok_iff.1 hread with ⟨⟨a, rest⟩, hfirst, hmade⟩
    cases hmade
    rcases h.accepts bytes a rest hfirst with ⟨front, rfl, hreads, hcut⟩
    refine ⟨front, rfl, ?_, ?_⟩
    · simpa using hreads.taken
    · intro cut missing hfront hmissing
      exact map_eq_error_iff.2 (hcut cut missing hfront hmissing)
  refuses := by
    intro bytes e hread hcause more
    exact map_eq_error_iff.2 (h.refuses bytes e (map_eq_error_iff.1 hread) hcause more)

end Decoder

open Decoder

/-! ## Attributes -/

/-- The name of an attribute, the length it declares and the number of bytes that its contents
take. -/
structure Extent where
  name : String
  declared : Nat
  taken : Nat
deriving DecidableEq

/-- The bytes are those of an attribute of a method, and this is its extent. -/
inductive Covers (pool : ConstantPool) : Bytes → Extent → Prop where
  | body {index : UInt16} {declared : UInt32} {contents : Bytes} {body : MethodBody} :
      pool.utf8At? index = some codeAttribute → Reads MethodBody.decode contents body →
      Covers pool (Bytes.ofWord16 index ++ (Bytes.ofWord32 declared ++ contents))
        ⟨codeAttribute, declared.toNat, contents.length⟩
  | other {index : UInt16} {name : String} {declared : UInt32} {contents : Bytes} :
      pool.utf8At? index = some name → name ≠ codeAttribute →
      contents.length = declared.toNat →
      Covers pool (Bytes.ofWord16 index ++ (Bytes.ofWord32 declared ++ contents))
        ⟨name, declared.toNat, contents.length⟩

/-- Reads an attribute of a method as `Method.decodeAttribute` does, and returns its extent. -/
def Method.decodeExtent (pool : ConstantPool) : Decoder Extent := do
  let (_, name) ← decodeUtf8 pool
  let length ← Decoder.word32
  let contents ← Decoder.taken
    (if name = codeAttribute then do let _ ← MethodBody.decode else Decoder.skip length.toNat)
  return ⟨name, length.toNat, contents.length⟩

theorem takes_decodeAttribute (pool : ConstantPool) :
    Takes (Method.decodeAttribute pool) fun part _ => ∃ extent, Covers pool part extent := by
  refine (Method.takes_decodeUtf8 pool).bind ?_
  rintro _ ⟨index, name⟩ ⟨rfl, hindex⟩
  refine takes_word32.bind ?_
  rintro _ declared rfl
  split
  · rename_i hname
    subst hname
    refine MethodBody.isIncremental_decode.takes.bind ?_
    intro contents body hbody
    exact Takes.pure ⟨_, by simpa using Covers.body hindex hbody⟩
  · rename_i hname
    refine (takes_skip declared.toNat).bind ?_
    intro contents _ hlength
    exact Takes.pure ⟨_, by simpa using Covers.other hindex hname hlength⟩

theorem reads_decodeUtf8 {pool : ConstantPool} {index : UInt16} {name : String}
    (h : pool.utf8At? index = some name) :
    Reads (Method.decodeUtf8 pool) (Bytes.ofWord16 index) (index, name) := by
  rw [← List.append_nil (Bytes.ofWord16 index)]
  refine (reads_word16 index).bind ?_
  rw [h]
  exact Reads.pure (index, name)

namespace Covers

variable {pool : ConstantPool} {part : Bytes} {extent : Extent}

theorem length_eq (h : Covers pool part extent) : part.length = 6 + extent.taken := by
  cases h <;> simp only [List.length_append, Bytes.length_ofWord16, Bytes.length_ofWord32] <;> omega

/-- An attribute that is passed over takes as many bytes as it declares. -/
theorem declared_eq (h : Covers pool part extent) (hname : extent.name ≠ codeAttribute) :
    extent.declared = extent.taken := by
  cases h with
  | body _ _ =>
      exact absurd rfl hname
  | other _ _ hlength =>
      exact hlength.symm

theorem exists_reads (h : Covers pool part extent) :
    ∃ stored, Reads (Method.decodeAttribute pool) part stored := by
  cases h with
  | @body index declared contents body hindex hbody =>
      refine ⟨some body, (reads_decodeUtf8 hindex).bind ((reads_word32 declared).bind ?_)⟩
      rw [if_pos rfl]
      exact hbody.map some
  | @other index name declared contents hindex hname hlength =>
      refine ⟨none, (reads_decodeUtf8 hindex).bind ((reads_word32 declared).bind ?_)⟩
      rw [if_neg hname]
      exact (reads_skip hlength).map fun _ => none

theorem reads_decodeExtent (h : Covers pool part extent) :
    Reads (Method.decodeExtent pool) part extent := by
  cases h with
  | @body index declared contents body hindex hbody =>
      refine (reads_decodeUtf8 hindex).bind ((reads_word32 declared).bind ?_)
      rw [if_pos rfl]
      exact (hbody.map fun _ => ()).taken.map fun contents =>
        Extent.mk codeAttribute declared.toNat contents.length
  | @other index name declared contents hindex hname hlength =>
      refine (reads_decodeUtf8 hindex).bind ((reads_word32 declared).bind ?_)
      rw [if_neg hname]
      exact (reads_skip hlength).taken.map fun contents =>
        Extent.mk name declared.toNat contents.length

/-- Going by the declared length leads to the end of the attribute if it is the right one. -/
theorem reads_skipAttribute_iff (h : Covers pool part extent) :
    Reads skipAttribute part () ↔ extent.declared = extent.taken := by
  have hends : ∃ (index : UInt16) (declared : UInt32) (contents : Bytes),
      part = Bytes.ofWord16 index ++ (Bytes.ofWord32 declared ++ contents) ∧
      extent.declared = declared.toNat ∧ extent.taken = contents.length := by
    cases h with
    | body _ _ => exact ⟨_, _, _, rfl, rfl, rfl⟩
    | other _ _ _ => exact ⟨_, _, _, rfl, rfl, rfl⟩
  rcases hends with ⟨index, declared, contents, rfl, hdeclared, htaken⟩
  rw [hdeclared, htaken]
  constructor
  · intro hskip
    have hread := hskip.eq_ok
    rw [skipAttribute, (reads_word16 index).bind_apply, (reads_word32 declared).bind_apply] at hread
    rcases takes_skip declared.toNat contents () [] hread with ⟨front, hfront, hlength⟩
    rw [hfront, List.append_nil, hlength]
  · intro hlength
    exact (reads_word16 index).bind ((reads_word32 declared).bind (reads_skip hlength.symm))

end Covers

/-! ## Methods -/

/-- Reads the attributes of a method with another reader, and passes over what precedes them. -/
def attributesWith {α : Type} (item : Decoder α) : Decoder (List α) := do
  Decoder.skip 6
  let count ← Decoder.word16
  Decoder.times count.toNat item

/-- The bytes of a method, whose attributes these are. -/
def Holds (pool : ConstantPool) (method : Bytes) (attributes : List (Bytes × Extent)) : Prop :=
  (∃ (front : Bytes) (count : UInt16),
    method = front ++ (Bytes.ofWord16 count ++ (attributes.map Prod.fst).flatten) ∧
    front.length = 6 ∧ count.toNat = attributes.length) ∧
  ∀ held ∈ attributes, Covers pool held.1 held.2

theorem takes_decode_holds (pool : ConstantPool) :
    Takes (Method.decode pool) fun method _ => ∃ attributes, Holds pool method attributes := by
  refine takes_word16.bind ?_
  rintro _ access rfl
  refine takes_word16.bind ?_
  rintro _ nameIndex rfl
  refine takes_word16.bind ?_
  rintro _ descriptorIndex rfl
  split
  · exact Takes.fail
  split
  · exact Takes.fail
  refine takes_word16.bind ?_
  rintro _ count rfl
  refine ((takes_decodeAttribute pool).times count.toNat).bind ?_
  rintro _ stored ⟨parts, rfl, hcount, hparts⟩
  refine Takes.pure ?_
  have hcovered : ∃ attributes : List (Bytes × Extent), attributes.map Prod.fst = parts ∧
      ∀ held ∈ attributes, Covers pool held.1 held.2 := by
    clear hcount
    induction hparts with
    | nil =>
        exact ⟨[], rfl, by simp⟩
    | @cons part _ _ _ hpart _ ih =>
        rcases hpart with ⟨extent, hextent⟩
        rcases ih with ⟨attributes, rfl, hattributes⟩
        exact ⟨(part, extent) :: attributes, rfl, List.forall_mem_cons.2 ⟨hextent, hattributes⟩⟩
  rcases hcovered with ⟨attributes, rfl, hattributes⟩
  refine ⟨attributes, ⟨Bytes.ofWord16 access ++ (Bytes.ofWord16 nameIndex
    ++ Bytes.ofWord16 descriptorIndex), count, by simp, by simp, ?_⟩, hattributes⟩
  rw [← hcount, ← hparts.length_eq, List.length_map]

namespace Holds

variable {α : Type} {pool : ConstantPool} {method : Bytes} {attributes : List (Bytes × Extent)}

/-- A reader of each attribute is a reader of the attributes of the method. -/
theorem reads_attributesWith (h : Holds pool method attributes) {item : Decoder α}
    {value : Bytes × Extent → α}
    (hitem : ∀ held ∈ attributes, Reads item held.1 (value held)) :
    Reads (attributesWith item) method (attributes.map value) := by
  rcases h with ⟨⟨front, count, rfl, hfront, hcount⟩, _⟩
  have hitems : List.Forall₂ (Reads item) (attributes.map Prod.fst) (attributes.map value) := by
    rw [List.forall₂_map_left_iff, List.forall₂_map_right_iff, List.forall₂_same]
    exact hitem
  refine (reads_skip hfront).bind ((reads_word16 count).bind ?_)
  rw [hcount, ← List.length_map value]
  exact Reads.times hitems

end Holds

theorem takes_attributesWith {α : Type} {item : Decoder α} {post : α → Prop}
    (h : Takes item fun _ a => post a) :
    Takes (attributesWith item) fun _ values => ∀ a ∈ values, post a := by
  refine (takes_skip 6).bind fun _ _ _ => takes_word16.bind fun _ count _ => ?_
  refine (h.times count.toNat).mono ?_
  rintro _ values ⟨parts, rfl, _, hvalues⟩ a ha
  rcases exists_part_of_mem hvalues ha with ⟨_, _, hpost⟩
  exact hpost

theorem isIncremental_attributesWith {α : Type} {item : Decoder α} (h : IsIncremental item) :
    IsIncremental (attributesWith item) :=
  (isIncremental_skip 6).bind fun _ => .bind isIncremental_word16 fun count => h.times count.toNat

/-! ## Class files -/

/-- The methods that were read may be exchanged in these bytes for others, which are read in their
place. -/
def Framed {α : Type} (item : ConstantPool → Decoder α) (bytes : Bytes)
    (read : ClassFile × List α) : Prop :=
  ∃ (head tail : Bytes) (parts : List Bytes), bytes = head ++ (parts.flatten ++ tail) ∧
    List.Forall₂ (Reads (item read.1.pool)) parts read.2 ∧
    ∀ {β : Type} {other : ConstantPool → Decoder β} {parts : List Bytes} {values : List β},
      List.Forall₂ (Reads (other read.1.pool)) parts values → values.length = read.2.length →
        Reads (decodeWith other) (head ++ (parts.flatten ++ tail)) (read.1, values)

theorem takes_decodeWith {α : Type} {item : ConstantPool → Decoder α}
    (h : ∀ pool, IsIncremental (item pool)) : Takes (decodeWith item) (Framed item) := by
  refine isIncremental_decodeMagic.takes.bind fun magicBytes _ hmagic => ?_
  refine isIncremental_word16.takes.bind fun minorBytes minorVersion hminor => ?_
  refine isIncremental_word16.takes.bind fun majorBytes majorVersion hmajor => ?_
  refine ConstantPool.isIncremental_decode.takes.bind fun poolBytes pool hpool => ?_
  refine isIncremental_word16.takes.bind fun accessBytes access haccess => ?_
  have hclass := isIncremental_decodeClass pool
  refine hclass.takes.bind fun thisBytes thisClass hthis => ?_
  refine hclass.takes.bind fun superBytes superClass hsuper => ?_
  refine isIncremental_word16.takes.bind fun interfaceCountBytes interfaceCount hcount => ?_
  refine (hclass.times interfaceCount.toNat).takes.bind fun interfaceBytes interfaces hinterfaces => ?_
  refine isIncremental_word16.takes.bind fun fieldCountBytes fieldCount hfieldCount => ?_
  have hfield := isIncremental_skipField.skipTimes fieldCount.toNat
  refine hfield.takes.bind fun fieldBytes _ hfields => ?_
  refine takes_word16.bind ?_
  rintro _ methodCount rfl
  refine ((h pool).takes.times methodCount.toNat).bind ?_
  rintro _ items ⟨parts, rfl, hlength, hitems⟩
  refine isIncremental_skipAttributes.takes.bind fun attributeBytes _ hattributes => ?_
  refine Takes.pure ⟨magicBytes ++ (minorBytes ++ (majorBytes ++ (poolBytes ++ (accessBytes
    ++ (thisBytes ++ (superBytes ++ (interfaceCountBytes ++ (interfaceBytes ++ (fieldCountBytes
    ++ (fieldBytes ++ Bytes.ofWord16 methodCount)))))))))), attributeBytes ++ [], parts,
    by simp [List.append_assoc], hitems, ?_⟩
  intro β other parts values hvalues hsame
  simp only [List.append_assoc]
  refine hmagic.bind (hminor.bind (hmajor.bind (hpool.bind (haccess.bind (hthis.bind ?_)))))
  refine hsuper.bind (hcount.bind (hinterfaces.bind (hfieldCount.bind (hfields.bind ?_))))
  refine (reads_word16 methodCount).bind ?_
  rw [← hlength, ← hsame]
  exact (Reads.times hvalues).bind (hattributes.bind (Reads.pure _))

variable {bytes : Bytes} {file : ClassFile}

/-- What another reader takes for an attribute is what it reads there. -/
theorem exists_reads_of_taken {α : Type} {item : Decoder α} (h : IsIncremental item)
    {front : ClassFile} {parts : List (List Bytes)} {rest : Bytes}
    (hread : decodeWith (fun _ => attributesWith (taken item)) bytes = .ok ((front, parts), rest))
    {part : Bytes} (hpart : part ∈ parts.flatten) : ∃ a, Reads item part a := by
  rcases List.mem_flatten.1 hpart with ⟨ofMethod, hofMethod, hmem⟩
  rcases takes_decodeWith (fun _ => isIncremental_attributesWith h.taken) bytes _ rest hread with
    ⟨_, _, head, tail, methods, _, hmethods, _⟩
  rcases exists_part_of_mem hmethods hofMethod with ⟨method, _, hmethod⟩
  have hitem : Takes (taken item) fun _ part => ∃ a, Reads item part a :=
    h.takes.taken.mono fun _ _ htaken => htaken.1 ▸ htaken.2
  exact (takes_attributesWith hitem).of_reads hmethod part hmem

/-- The attributes of the methods of an accepted class file, and how other readers may read them. -/
theorem exists_attributes (h : ofBytes bytes = .ok file) :
    ∃ (front : ClassFile) (attributes : List (List (Bytes × Extent))) (rest : Bytes),
      decodeWith Method.decode bytes = .ok ((front, file.methods), rest) ∧
      (∀ held ∈ attributes.flatten, Covers front.pool held.1 held.2) ∧
      ∀ {α : Type} (item : ConstantPool → Decoder α) (value : Bytes × Extent → α),
        (∀ held ∈ attributes.flatten, Reads (item front.pool) held.1 (value held)) →
          decodeWith (fun pool => attributesWith (item pool)) bytes
            = .ok ((front, attributes.map (List.map value)), rest) := by
  rcases exists_rest_of_ofBytes h with ⟨rest, hdecode⟩
  rw [decode_eq] at hdecode
  rcases bind_eq_ok_iff.1 hdecode with ⟨⟨⟨front, methods⟩, _⟩, hread, hmade⟩
  cases hmade
  rcases takes_decodeWith Method.isIncremental_decode bytes (front, methods) rest hread with
    ⟨_, rfl, head, tail, parts, rfl, hparts, hframe⟩
  dsimp only at hparts hframe
  -- Each method consists of its attributes and what precedes them.
  have hheld : ∃ attributes, List.Forall₂ (Holds front.pool) parts attributes := by
    clear hframe hread hdecode h
    induction hparts with
    | nil =>
        exact ⟨[], List.Forall₂.nil⟩
    | cons hmethod _ ih =>
        rcases (takes_decode_holds front.pool).of_reads hmethod with ⟨held, hheld⟩
        rcases ih with ⟨attributes, hattributes⟩
        exact ⟨held :: attributes, List.Forall₂.cons hheld hattributes⟩
  rcases hheld with ⟨attributes, hattributes⟩
  refine ⟨front, attributes, rest, hread, ?_, ?_⟩
  · intro held hmem
    rcases List.mem_flatten.1 hmem with ⟨ofMethod, hofMethod, hheld⟩
    rcases exists_part_of_mem hattributes hofMethod with ⟨_, _, hholds⟩
    exact hholds.2 held hheld
  · intro α item value hitem
    have hmethods : List.Forall₂ (Reads (attributesWith (item front.pool))) parts
        (attributes.map (List.map value)) := by
      rw [List.forall₂_map_right_iff]
      have hboth := (List.forall₂_and_left _ _).2
        ⟨fun ofMethod hofMethod held hheld =>
          hitem held (List.mem_flatten.2 ⟨ofMethod, hofMethod, hheld⟩), hattributes.flip⟩
      exact hboth.flip.imp fun _ _ hmethod => Holds.reads_attributesWith hmethod.2 hmethod.1
    refine hframe hmethods ?_ rest
    rw [List.length_map, ← hattributes.length_eq, hparts.length_eq]

/-- The extents of the attributes of the methods of an accepted class file.  Each attribute is taken
with as many bytes as its extent says, and those that are passed over declare this number.  All of
them declare it if and only if a reader that goes by the declared lengths takes the same bytes for
each attribute, and so ends where the decoder ends. -/
theorem extents_of_ofBytes (accepted : ofBytes bytes = .ok file) :
    ∃ front parts extents rest,
      decodeWith Method.decode bytes = .ok ((front, file.methods), rest) ∧
      decodeWith (fun pool => attributesWith (taken (Method.decodeAttribute pool))) bytes
        = .ok ((front, parts), rest) ∧
      decodeWith (fun pool => attributesWith (Method.decodeExtent pool)) bytes
        = .ok ((front, extents), rest) ∧
      List.Forall₂ (List.Forall₂ fun part extent => part.length = 6 + extent.taken) parts extents ∧
      (∀ extent ∈ extents.flatten, extent.name ≠ codeAttribute → extent.declared = extent.taken) ∧
      ((∀ extent ∈ extents.flatten, extent.declared = extent.taken) ↔
        decodeWith (fun _ => attributesWith (taken skipAttribute)) bytes
          = .ok ((front, parts), rest)) := by
  rcases exists_attributes accepted with ⟨front, attributes, rest, hread, hcovers, hframe⟩
  have hextents : (attributes.map (List.map Prod.snd)).flatten
      = attributes.flatten.map Prod.snd := by
    rw [List.map_flatten]
  refine ⟨front, attributes.map (List.map Prod.fst), attributes.map (List.map Prod.snd), rest,
    hread, ?_, ?_, ?_, ?_, ?_⟩
  · refine hframe _ _ fun held hheld => ?_
    rcases (hcovers held hheld).exists_reads with ⟨_, hstored⟩
    exact hstored.taken
  · exact hframe _ _ fun held hheld => (hcovers held hheld).reads_decodeExtent
  · rw [List.forall₂_map_left_iff, List.forall₂_map_right_iff, List.forall₂_same]
    intro ofMethod hofMethod
    rw [List.forall₂_map_left_iff, List.forall₂_map_right_iff, List.forall₂_same]
    intro held hheld
    exact (hcovers held (List.mem_flatten.2 ⟨ofMethod, hofMethod, hheld⟩)).length_eq
  · rw [hextents, List.forall_mem_map]
    exact fun held hheld => (hcovers held hheld).declared_eq
  · rw [hextents, List.forall_mem_map]
    constructor
    · intro hdeclared
      refine hframe _ _ fun held hheld => ?_
      exact ((hcovers held hheld).reads_skipAttribute_iff.2 (hdeclared held hheld)).taken
    · intro hskip held hheld
      have hmem : held.1 ∈ (attributes.map (List.map Prod.fst)).flatten := by
        rw [← List.map_flatten]
        exact List.mem_map_of_mem hheld
      rcases exists_reads_of_taken isIncremental_skipAttribute hskip hmem with ⟨_, hreads⟩
      exact (hcovers held hheld).reads_skipAttribute_iff.1 hreads

theorem extents_looseBytes :
    ∃ file, ofBytes looseBytes = .ok file ∧ ∃ front parts extents rest,
      decodeWith Method.decode looseBytes = .ok ((front, file.methods), rest) ∧
      decodeWith (fun pool => attributesWith (taken (Method.decodeAttribute pool))) looseBytes
        = .ok ((front, parts), rest) ∧
      decodeWith (fun pool => attributesWith (Method.decodeExtent pool)) looseBytes
        = .ok ((front, extents), rest) ∧
      List.Forall₂ (List.Forall₂ fun part extent => part.length = 6 + extent.taken) parts extents ∧
      (∀ extent ∈ extents.flatten, extent.name ≠ codeAttribute → extent.declared = extent.taken) ∧
      ((∀ extent ∈ extents.flatten, extent.declared = extent.taken) ↔
        decodeWith (fun _ => attributesWith (taken skipAttribute)) looseBytes
          = .ok ((front, parts), rest)) := by
  rcases exists_ofBytes_looseBytes with ⟨file, hfile⟩
  exact ⟨file, hfile, extents_of_ofBytes hfile⟩

/-- The bytes of a class file, whose only body takes fewer bytes than it declares and than there
are. -/
def misdeclaredBytes : Bytes :=
  -- The marking number, the version, and a pool of three entries: `a`, the class `a` and `Code`.
  [0xCA, 0xFE, 0xBA, 0xBE, 0, 0, 0, 52, 0, 4, 1, 0, 1, 0x61, 7, 0, 1, 1, 0, 4, 0x43, 0x6F, 0x64, 0x65,
    -- The access word, the class and its superclass, no interface and no field, and one method.
    0, 0x21, 0, 2, 0, 2, 0, 0, 0, 0, 0, 1, 0, 1, 0, 1, 0, 1, 0, 1,
    -- Its body, which declares 100 bytes and takes 13, and no attribute of the class.
    0, 3, 0, 0, 0, 100, 0, 1, 0, 1, 0, 0, 0, 1, 0xB1, 0, 0, 0, 0, 0, 0]

/-- The decoder accepts bodies that declare another length than they take, and then reads what a
reader that goes by the declared lengths refuses. -/
theorem extents_misdeclaredBytes :
    ∃ file front extents rest,
      ofBytes misdeclaredBytes = .ok file ∧
      decodeWith (fun pool => attributesWith (Method.decodeExtent pool)) misdeclaredBytes
        = .ok ((front, extents), rest) ∧
      (∃ extent ∈ extents.flatten, extent.name = codeAttribute ∧ extent.declared ≠ extent.taken) ∧
      decodeWith (fun _ => attributesWith (taken skipAttribute)) misdeclaredBytes
        = .error .truncated := by
  have haccepted : (ofBytes misdeclaredBytes).toOption.isSome = true := by
    decide +kernel
  have hextents : (decodeWith (fun pool => attributesWith (Method.decodeExtent pool))
      misdeclaredBytes).map (fun read => read.1.2) = .ok [[⟨codeAttribute, 100, 13⟩]] := by
    decide +kernel
  have hskipped : (decodeWith (fun _ => attributesWith (taken skipAttribute))
      misdeclaredBytes).map (fun read => read.1.2) = .error .truncated := by
    decide +kernel
  rcases exists_of_isSome haccepted with ⟨file, hfile⟩
  rcases map_eq_ok_iff.1 hextents with ⟨⟨⟨front, extents⟩, rest⟩, hread, hmade⟩
  cases hmade
  exact ⟨file, front, _, rest, hfile, hread, ⟨⟨codeAttribute, 100, 13⟩, by simp, rfl, by decide⟩,
    map_eq_error_iff.1 hskipped⟩

end ClassFile
end AccessorSynthesis
