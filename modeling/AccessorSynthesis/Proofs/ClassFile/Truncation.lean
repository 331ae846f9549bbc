import Mathlib
import AccessorSynthesis.Proofs.ClassFile.Representation

/-!
# Truncation — class files that end early, and bytes that follow them

A reader looks at its input from the front and never ahead.  So what it reads it reads whatever
follows, what it refuses it refuses whatever follows, and only input that ends too early leaves both
open.  This file defines

* `Decoder.CutsOff d front` — `d` takes each shorter front of `front` for input that ends too early;
* `Decoder.IsIncremental d` — the three properties above;
* `ClassFile.EndsAt bytes file n` — the class file takes the first `n` bytes;
* `ClassFile.ReadsFront bytes` — reading class files has these properties at `bytes`.

`IsIncremental` is kept by the steps of a decoder (`IsIncremental.bind` and its like), whatever the
format; each part of the stored form then needs one line for each of its fields.
-/

namespace AccessorSynthesis
namespace ClassFile

namespace Decoder

variable {α β : Type} {decoder : Decoder α} {next : α → Decoder β}

/-- Each shorter front of the bytes is taken for input that ends too early. -/
def CutsOff (decoder : Decoder α) (front : Bytes) : Prop :=
  ∀ cut missing, front = cut ++ missing → missing ≠ [] → decoder cut = .error .truncated

/-- The decoder never looks ahead.  It reads the same from what it takes whatever follows, less than
that is cut off, and what it refuses for another reason stays refused whatever follows. -/
structure IsIncremental (decoder : Decoder α) : Prop where
  accepts : ∀ bytes a rest, decoder bytes = .ok (a, rest) →
    ∃ front, bytes = front ++ rest ∧ Reads decoder front a ∧ CutsOff decoder front
  refuses : ∀ bytes e, decoder bytes = .error e → e ≠ .truncated →
    ∀ more, decoder (bytes ++ more) = .error e

theorem CutsOff.bind {front back : Bytes} {a : α} (hreads : Reads decoder front a)
    (hfront : CutsOff decoder front) (hback : CutsOff (next a) back) :
    CutsOff (decoder >>= next) (front ++ back) := by
  intro cut missing hcut hmissing
  refine bind_eq_error_iff.2 ?_
  rcases List.append_eq_append_iff.1 hcut with ⟨extra, rfl, hextra⟩ | ⟨lost, hlost, rfl⟩
  · -- The first step is whole, and the second is cut off.
    exact Or.inr ⟨(a, extra), hreads extra, hback extra missing hextra hmissing⟩
  · by_cases hempty : lost = []
    · subst hempty
      rw [List.append_nil] at hlost
      subst hlost
      refine Or.inr ⟨(a, []), ?_, hback [] back rfl (by simpa using hmissing)⟩
      simpa using hreads []
    · exact Or.inl (hfront cut lost hlost hempty)

namespace IsIncremental

/-- What is read in front of any bytes is read in front of none, so that it is all that was taken. -/
theorem cutsOff {front : Bytes} {a : α} (h : IsIncremental decoder)
    (hreads : Reads decoder front a) : CutsOff decoder front := by
  have hread := hreads []
  rcases h.accepts (front ++ []) a [] hread with ⟨taken, htaken, _, hcut⟩
  have hsame : front = taken := by
    simpa using htaken
  rw [hsame]
  exact hcut

theorem pure (a : α) : IsIncremental (Pure.pure a : Decoder α) where
  accepts := by
    intro bytes b rest hread
    cases hread
    refine ⟨[], rfl, Reads.pure a, ?_⟩
    intro cut missing hcut hmissing
    simp_all
  refuses := by
    intro bytes e hread
    cases hread

theorem fail (error : Error) : IsIncremental (Decoder.fail error : Decoder α) where
  accepts := by
    intro bytes a rest hread
    cases hread
  refuses := by
    intro bytes e hread _ more
    cases hread
    rfl

theorem bind (h : IsIncremental decoder) (hnext : ∀ a, IsIncremental (next a)) :
    IsIncremental (decoder >>= next) where
  accepts := by
    intro bytes b rest hread
    rcases bind_eq_ok_iff.1 hread with ⟨⟨a, middle⟩, hfirst, hsecond⟩
    rcases h.accepts bytes a middle hfirst with ⟨front, rfl, hreads, hfront⟩
    rcases (hnext a).accepts middle b rest hsecond with ⟨back, rfl, hreads', hback⟩
    exact ⟨front ++ back, by simp, hreads.bind hreads', hfront.bind hreads hback⟩
  refuses := by
    intro bytes e hread hcause more
    refine bind_eq_error_iff.2 ?_
    rcases bind_eq_error_iff.1 hread with hfirst | ⟨⟨a, middle⟩, hfirst, hsecond⟩
    · exact Or.inl (h.refuses bytes e hfirst hcause more)
    · rcases h.accepts bytes a middle hfirst with ⟨front, rfl, hreads, _⟩
      have hfirst' : decoder (front ++ middle ++ more) = .ok (a, middle ++ more) := by
        rw [List.append_assoc]
        exact hreads (middle ++ more)
      exact Or.inr ⟨(a, middle ++ more), hfirst', (hnext a).refuses middle e hsecond hcause more⟩

theorem timesOnto {item : Decoder α} (h : IsIncremental item) (count : Nat) (found : List α) :
    IsIncremental (Decoder.timesOnto item count found) := by
  induction count generalizing found with
  | zero =>
      exact pure found.reverse
  | succ count ih =>
      rw [timesOnto_succ]
      exact h.bind fun a => ih (a :: found)

theorem times {item : Decoder α} (h : IsIncremental item) (count : Nat) :
    IsIncremental (Decoder.times count item) :=
  h.timesOnto count []

theorem skipTimes {item : Decoder Unit} (h : IsIncremental item) (count : Nat) :
    IsIncremental (Decoder.skipTimes item count) := by
  induction count with
  | zero =>
      exact pure ()
  | succ count ih =>
      rw [skipTimes_succ]
      exact h.bind fun _ => ih

/-- A decoder of a fixed number of bytes refuses nothing but fewer of them. -/
theorem of_width (width : Nat)
    (hshort : ∀ bytes : Bytes, bytes.length < width → decoder bytes = .error .truncated)
    (hwhole : ∀ front : Bytes, front.length = width → ∃ a, Reads decoder front a) :
    IsIncremental decoder := by
  have hsplit : ∀ bytes : Bytes, width ≤ bytes.length →
      ∃ front a, bytes = front ++ bytes.drop width ∧ front.length = width ∧
        Reads decoder front a ∧ decoder bytes = .ok (a, bytes.drop width) := by
    intro bytes hlength
    have hfront : (bytes.take width).length = width := List.length_take_of_le hlength
    rcases hwhole (bytes.take width) hfront with ⟨a, hreads⟩
    have hread := hreads (bytes.drop width)
    rw [List.take_append_drop] at hread
    exact ⟨bytes.take width, a, by simp, hfront, hreads, hread⟩
  refine ⟨?_, ?_⟩
  · intro bytes a rest hread
    by_cases hlength : bytes.length < width
    · simp [hshort bytes hlength] at hread
    rcases hsplit bytes (Nat.not_lt.1 hlength) with ⟨front, a', hbytes, hwidth, hreads, hread'⟩
    rw [hread'] at hread
    cases hread
    refine ⟨front, hbytes, hreads, ?_⟩
    intro cut missing hcut hmissing
    have hlost : 0 < missing.length := List.length_pos_iff.2 hmissing
    apply hshort
    rw [hcut, List.length_append] at hwidth
    omega
  · intro bytes e hread hcause
    by_cases hlength : bytes.length < width
    · rw [hshort bytes hlength] at hread
      cases hread
      exact absurd rfl hcause
    · rcases hsplit bytes (Nat.not_lt.1 hlength) with ⟨_, _, _, _, _, hread'⟩
      simp [hread'] at hread

end IsIncremental

/-! ## Words and bytes of known length -/

theorem isIncremental_byte : IsIncremental byte := by
  refine .of_width 1 ?_ ?_
  · intro bytes hlength
    match bytes with
    | [] => rfl
  · intro front hlength
    match front with
    | [b] => exact ⟨b, reads_byte b⟩

theorem isIncremental_word16 : IsIncremental word16 := by
  refine .of_width 2 ?_ ?_
  · intro bytes hlength
    match bytes with
    | [] | [_] => rfl
  · intro front hlength
    match front with
    | [_, _] => exact ⟨_, fun _ => rfl⟩

theorem isIncremental_word32 : IsIncremental word32 := by
  refine .of_width 4 ?_ ?_
  · intro bytes hlength
    match bytes with
    | [] | [_] | [_, _] | [_, _, _] => rfl
  · intro front hlength
    match front with
    | [_, _, _, _] => exact ⟨_, fun _ => rfl⟩

theorem isIncremental_take (count : Nat) : IsIncremental (take count) := by
  refine .of_width count ?_ ?_
  · intro bytes hlength
    have hfront : (bytes.take count).length ≠ count := by
      rw [List.length_take]
      omega
    exact if_neg hfront
  · intro front hlength
    exact ⟨front, reads_take hlength⟩

theorem isIncremental_skip (count : Nat) : IsIncremental (skip count) :=
  (isIncremental_take count).bind fun _ => .pure ()

end Decoder

open Decoder

/-! ## Constants and pools -/

theorem Constant.isIncremental_decode : IsIncremental Constant.decode := by
  refine .bind isIncremental_byte fun tag => ?_
  split
  · refine .bind isIncremental_word16 fun length => .bind (isIncremental_take length.toNat) ?_
    intro bytes
    split
    · exact .pure _
    · exact .fail _
  · exact .bind isIncremental_word16 fun _ => .pure _
  · exact .bind isIncremental_word16 fun _ => .pure _
  · exact .bind isIncremental_word16 fun _ => .bind isIncremental_word16 fun _ => .pure _
  · exact .bind isIncremental_word16 fun _ => .bind isIncremental_word16 fun _ => .pure _
  · exact .fail _

namespace ConstantPool

theorem isIncremental_decodeOnto (count : Nat) (pool : ConstantPool)
    (room : pool.size + count ≤ capacity) : IsIncremental (decodeOnto count pool room) := by
  induction count generalizing pool with
  | zero =>
      exact .pure pool
  | succ count ih =>
      rw [decodeOnto_succ]
      refine .bind Constant.isIncremental_decode fun constant => ?_
      split
      · exact .fail _
      · exact ih _ _

theorem isIncremental_decode : IsIncremental ConstantPool.decode :=
  .bind isIncremental_word16 fun count => isIncremental_decodeOnto (count.toNat - 1) empty _

end ConstantPool

/-! ## Attributes and methods -/

theorem isIncremental_skipAttribute : IsIncremental skipAttribute :=
  .bind isIncremental_word16 fun _ => .bind isIncremental_word32 fun length =>
    isIncremental_skip length.toNat

theorem isIncremental_skipAttributes : IsIncremental skipAttributes :=
  .bind isIncremental_word16 fun count => .skipTimes isIncremental_skipAttribute count.toNat

/-- The instructions are scanned in bytes of their own, which were taken as a whole: one that is cut
short there is refused whatever follows. -/
theorem MethodBody.isIncremental_decode : IsIncremental MethodBody.decode := by
  refine .bind isIncremental_word16 fun maxStack => .bind isIncremental_word16 fun maxLocals => ?_
  refine .bind isIncremental_word32 fun length => ?_
  split
  · exact .fail _
  refine .bind (isIncremental_take length.toNat) fun code => ?_
  split
  · exact .fail _
  refine .bind isIncremental_word16 fun handlers => ?_
  exact .bind (isIncremental_skip _) fun _ => .bind isIncremental_skipAttributes fun _ => .pure _

namespace Method

theorem isIncremental_decodeUtf8 (pool : ConstantPool) : IsIncremental (decodeUtf8 pool) := by
  refine .bind isIncremental_word16 fun index => ?_
  split
  · exact .pure _
  · exact .fail _

theorem isIncremental_decodeAttribute (pool : ConstantPool) :
    IsIncremental (decodeAttribute pool) := by
  refine .bind (isIncremental_decodeUtf8 pool) fun read => .bind isIncremental_word32 fun length => ?_
  split
  · exact .bind MethodBody.isIncremental_decode fun body => .pure _
  · exact .bind (isIncremental_skip length.toNat) fun _ => .pure _

theorem isIncremental_decode (pool : ConstantPool) : IsIncremental (Method.decode pool) := by
  refine .bind isIncremental_word16 fun access => .bind isIncremental_word16 fun nameIndex => ?_
  refine .bind isIncremental_word16 fun descriptorIndex => ?_
  split
  · exact .fail _
  split
  · exact .fail _
  refine .bind isIncremental_word16 fun count => ?_
  exact .bind (.times (isIncremental_decodeAttribute pool) count.toNat) fun attributes => .pure _

end Method

/-! ## Class files -/

theorem isIncremental_decodeMagic : IsIncremental decodeMagic := by
  refine .bind isIncremental_word32 fun found => ?_
  split
  · exact .pure ()
  · exact .fail _

theorem isIncremental_decodeClass (pool : ConstantPool) : IsIncremental (decodeClass pool) := by
  refine .bind isIncremental_word16 fun index => ?_
  split
  · exact .pure _
  · exact .fail _

theorem isIncremental_skipField : IsIncremental skipField :=
  .bind (isIncremental_skip 6) fun _ => isIncremental_skipAttributes

theorem isIncremental_decode : IsIncremental ClassFile.decode := by
  refine .bind isIncremental_decodeMagic fun _ => ?_
  refine .bind isIncremental_word16 fun minorVersion => .bind isIncremental_word16 fun majorVersion => ?_
  refine .bind ConstantPool.isIncremental_decode fun pool => .bind isIncremental_word16 fun access => ?_
  have hclass := isIncremental_decodeClass pool
  refine hclass.bind fun thisClass => hclass.bind fun superClass => ?_
  refine .bind isIncremental_word16 fun interfaceCount => ?_
  refine .bind (hclass.times interfaceCount.toNat) fun interfaces => ?_
  refine .bind isIncremental_word16 fun fieldCount => ?_
  refine .bind (.skipTimes isIncremental_skipField fieldCount.toNat) fun _ => ?_
  refine .bind isIncremental_word16 fun methodCount => ?_
  refine .bind (.times (Method.isIncremental_decode pool) methodCount.toNat) fun methods => ?_
  exact .bind isIncremental_skipAttributes fun _ => .pure _

/-- The first `n` bytes are those of the class file: fewer end too early, and any more of them are
read as the same class file. -/
structure EndsAt (bytes : Bytes) (file : ClassFile) (n : Nat) : Prop where
  le : n ≤ bytes.length
  cut : ∀ m < n, ofBytes (bytes.take m) = .error .truncated
  whole : ∀ m, n ≤ m → m ≤ bytes.length → ofBytes (bytes.take m) = .ok file

theorem EndsAt.eq {bytes : Bytes} {file : ClassFile} {n m : Nat} (hn : EndsAt bytes file n)
    (hm : EndsAt bytes file m) : n = m := by
  -- Where one of them ends, the other would be cut off.
  have hle : ∀ {a b : Nat}, EndsAt bytes file a → EndsAt bytes file b → a ≤ b := by
    intro a b ha hb
    by_contra hlt
    have hread := hb.whole b (Nat.le_refl b) hb.le
    rw [ha.cut b (Nat.not_le.1 hlt)] at hread
    cases hread
  exact Nat.le_antisymm (hle hn hm) (hle hm hn)

theorem ofBytes_of_reads {front : Bytes} {file : ClassFile}
    (h : Reads ClassFile.decode front file) (rest : Bytes) : ofBytes (front ++ rest) = .ok file := by
  simp [ofBytes, h rest, Except.map]

theorem ofBytes_eq_error_iff {bytes : Bytes} {error : Error} :
    ofBytes bytes = .error error ↔ ClassFile.decode bytes = .error error :=
  map_eq_error_iff

theorem endsAt_length {front : Bytes} {file : ClassFile} (hreads : Reads ClassFile.decode front file)
    (hcut : CutsOff ClassFile.decode front) (rest : Bytes) :
    EndsAt (front ++ rest) file front.length where
  le := by simp
  cut := by
    intro m hm
    rw [List.take_append_of_le_length (Nat.le_of_lt hm)]
    refine ofBytes_eq_error_iff.2 (hcut _ (front.drop m) (List.take_append_drop m front).symm ?_)
    simpa using hm
  whole := by
    intro m hm _
    rw [List.take_append, List.take_of_length_le hm]
    exact ofBytes_of_reads hreads _

/-- Class files are read from the front of the bytes.  What is accepted ends at one place, before
which the bytes are too few and behind which any may follow; at the end of the bytes, if they are
those of a class file.  What is refused for more than its length is refused whatever follows. -/
structure ReadsFront (bytes : Bytes) : Prop where
  accepted : ∀ file, ofBytes bytes = .ok file →
    (∃! n, EndsAt bytes file n) ∧ ∀ more, ofBytes (bytes ++ more) = .ok file
  written : ∀ file : ClassFile, file.IsReachable → file.toBytes = .ok bytes →
    EndsAt bytes file.noted bytes.length
  refused : ∀ error, ofBytes bytes = .error error → error ≠ .truncated →
    ∀ more, ofBytes (bytes ++ more) = .error error

theorem readsFront (bytes : Bytes) : ReadsFront bytes where
  accepted := by
    intro file hread
    rcases exists_rest_of_ofBytes hread with ⟨rest, hdecode⟩
    -- The class file ends where the bytes end that were taken for it.
    rcases isIncremental_decode.accepts bytes file rest hdecode with ⟨front, rfl, hreads, hcut⟩
    have hends := endsAt_length hreads hcut rest
    refine ⟨⟨front.length, hends, fun n hn => hn.eq hends⟩, ?_⟩
    intro more
    rw [List.append_assoc]
    exact ofBytes_of_reads hreads (rest ++ more)
  written := by
    intro file hfile hbytes
    -- What was written is read in front of any bytes, so that all of it is taken.
    have hreads := hfile.wellFormed.reads_decode hbytes
    have hends := endsAt_length hreads (isIncremental_decode.cutsOff hreads) []
    rwa [List.append_nil] at hends
  refused := by
    intro error hread hcause more
    rw [ofBytes_eq_error_iff] at hread ⊢
    exact isIncremental_decode.refuses bytes error hread hcause more

/-- The bytes of a class file but for one: the only instruction lacks its operand. -/
def cutInstruction : Bytes :=
  -- The marking number, the version, and a pool of three entries: `a`, the class `a` and `Code`.
  [0xCA, 0xFE, 0xBA, 0xBE, 0, 0, 0, 52, 0, 4, 1, 0, 1, 0x61, 7, 0, 1, 1, 0, 4, 0x43, 0x6F, 0x64, 0x65,
    -- The access word, the class and its superclass, no interface and no field, and one method.
    0, 0x21, 0, 2, 0, 2, 0, 0, 0, 0, 0, 1, 0, 1, 0, 1, 0, 1, 0, 1,
    -- Its body, of one byte that loads a constant, and no attribute of the class.
    0, 3, 0, 0, 0, 13, 0, 1, 0, 1, 0, 0, 0, 1, 0x12, 0, 0, 0, 0, 0, 0]

/-- Not all that is refused as too short can be completed, so that `ReadsFront.refused` has to leave
this error out: more bytes are of no use to a body that ends inside an instruction. -/
theorem ofBytes_cutInstruction_append (more : Bytes) :
    ofBytes (cutInstruction ++ more) = .error .truncated := by
  cbv

end ClassFile
end AccessorSynthesis
