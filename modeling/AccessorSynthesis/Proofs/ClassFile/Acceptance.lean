import AccessorSynthesis.Proofs.ClassFile.Decoder
import AccessorSynthesis.Proofs.Refusable

/-!
# Acceptance — what a decoder has read when it succeeds

`Decoder.Reads` is about bytes that an encoder made.  Here the input is arbitrary, and all that is
known is that a decoder accepted it.  This file defines

* `Decoder.Takes d post` — whatever `d` reads, it takes from the front of its input, and `post`
  holds of the bytes taken and of the value;
* `WritesWithin encode? front a` — the encoder has a form of the value no longer than `front`;
* the rules of `Takes` along `do` blocks and repetitions, and its instances up to method bodies.
-/

namespace AccessorSynthesis
namespace ClassFile

namespace Decoder

variable {α β : Type}

/-! ## Repetitions, one item at a time -/

theorem timesOnto_succ (item : Decoder α) (count : Nat) (found : List α) :
    timesOnto item (count + 1) found = item >>= fun a => timesOnto item count (a :: found) := by
  funext bytes
  show timesOnto item (count + 1) found bytes
    = (item bytes).bind fun read => timesOnto item count (read.1 :: found) read.2
  rw [timesOnto]
  cases item bytes with
  | error error => rfl
  | ok read => rfl

theorem skipTimes_succ (item : Decoder Unit) (count : Nat) :
    skipTimes item (count + 1) = item >>= fun _ => skipTimes item count := by
  funext bytes
  show skipTimes item (count + 1) bytes = (item bytes).bind fun read => skipTimes item count read.2
  rw [skipTimes]
  cases item bytes with
  | error error => rfl
  | ok read => rfl

/-! ## Accepted bytes -/

/-- Whatever the decoder reads, it takes bytes from the front of its input, and the condition holds
of these bytes and of the value. -/
def Takes (decoder : Decoder α) (post : Bytes → α → Prop) : Prop :=
  ∀ bytes a rest, decoder bytes = .ok (a, rest) → ∃ front, bytes = front ++ rest ∧ post front a

namespace Takes

variable {decoder : Decoder α} {next : α → Decoder β}
variable {post weaker : Bytes → α → Prop} {after : Bytes → β → Prop}

theorem pure {a : α} (h : post [] a) : Takes (Pure.pure a : Decoder α) post := by
  intro bytes b rest hread
  cases hread
  exact ⟨[], rfl, h⟩

theorem fail {error : Error} : Takes (Decoder.fail error : Decoder α) post := by
  intro bytes a rest hread
  cases hread

theorem mono (h : Takes decoder post) (hpost : ∀ front a, post front a → weaker front a) :
    Takes decoder weaker := by
  intro bytes a rest hread
  rcases h bytes a rest hread with ⟨front, hbytes, hfront⟩
  exact ⟨front, hbytes, hpost front a hfront⟩

theorem bind (h : Takes decoder post)
    (hnext : ∀ front a, post front a → Takes (next a) fun back b => after (front ++ back) b) :
    Takes (decoder >>= next) after := by
  intro bytes b rest hread
  rcases bind_eq_ok_iff.1 hread with ⟨⟨a, middle⟩, hfirst, hsecond⟩
  rcases h bytes a middle hfirst with ⟨front, rfl, hfront⟩
  rcases hnext front a hfront middle b rest hsecond with ⟨back, rfl, hback⟩
  exact ⟨front ++ back, (List.append_assoc front back rest).symm, hback⟩

theorem timesOnto {item : Decoder α} (h : Takes item post) (count : Nat) (found : List α) :
    Takes (Decoder.timesOnto item count found) fun front values =>
      ∃ parts later, front = parts.flatten ∧ values = found.reverse ++ later ∧
        later.length = count ∧ List.Forall₂ post parts later := by
  -- The items found so far are held in reverse; each step takes one more part.
  induction count generalizing found with
  | zero =>
      exact Takes.pure ⟨[], [], rfl, (List.append_nil _).symm, rfl, List.Forall₂.nil⟩
  | succ count ih =>
      rw [timesOnto_succ]
      refine h.bind fun part a hpart => (ih (a :: found)).mono ?_
      rintro _ _ ⟨parts, later, rfl, rfl, rfl, hlater⟩
      exact ⟨part :: parts, a :: later, rfl, by simp, rfl, List.Forall₂.cons hpart hlater⟩

/-- The bytes taken by a repetition are those of its items, one after the other. -/
theorem times {item : Decoder α} (h : Takes item post) (count : Nat) :
    Takes (Decoder.times count item) fun front values =>
      ∃ parts, front = parts.flatten ∧ values.length = count ∧ List.Forall₂ post parts values := by
  refine (h.timesOnto count []).mono ?_
  rintro front values ⟨parts, later, rfl, rfl, hlength, hlater⟩
  exact ⟨parts, rfl, hlength, hlater⟩

theorem skipTimes {item : Decoder Unit} {post : Bytes → Unit → Prop} (h : Takes item post)
    (count : Nat) : Takes (Decoder.skipTimes item count) fun _ _ => True := by
  induction count with
  | zero =>
      exact Takes.pure trivial
  | succ count ih =>
      rw [skipTimes_succ]
      exact h.bind fun _ _ _ => ih

end Takes

/-! ## Words and bytes of known length -/

theorem takes_byte : Takes byte fun front b => front = [b] :=
  fun _ b _ hread => ⟨[b], byte_eq_ok.1 hread, rfl⟩

theorem takes_word16 : Takes word16 fun front word => front = Bytes.ofWord16 word :=
  fun _ word _ hread => ⟨Bytes.ofWord16 word, word16_eq_ok.1 hread, rfl⟩

theorem takes_word32 : Takes word32 fun front word => front = Bytes.ofWord32 word := by
  intro bytes word rest hread
  match bytes with
  | [] | [_] | [_, _] | [_, _, _] =>
      cases hread
  | a :: b :: c :: d :: tail =>
      cases hread
      refine ⟨[a, b, c, d], rfl, ?_⟩
      have ha := a.toNat_lt
      have hb := b.toNat_lt
      have hc := c.toNat_lt
      have hd := d.toNat_lt
      simp only [Bytes.ofWord32, UInt32.toNat_ofNat', List.cons.injEq, ← UInt8.toNat_inj,
        UInt8.toNat_ofNat', and_true]
      omega

theorem takes_take (count : Nat) :
    Takes (take count) fun front taken => front = taken ∧ taken.length = count := by
  intro bytes taken rest hread
  simp only [take] at hread
  split at hread
  · rename_i hlength
    cases hread
    exact ⟨bytes.take count, (List.take_append_drop count bytes).symm, rfl, hlength⟩
  · cases hread

theorem takes_skip (count : Nat) : Takes (skip count) fun front _ => front.length = count :=
  (takes_take count).bind fun front _ hfront => Takes.pure (by
    rw [List.append_nil, hfront.1, hfront.2])

end Decoder

/-- Each value of a repetition was read from a part of the bytes. -/
theorem exists_part_of_mem {α : Type} {post : Bytes → α → Prop} {parts : List Bytes}
    {values : List α} (h : List.Forall₂ post parts values) {a : α} (hmem : a ∈ values) :
    ∃ part, part.length ≤ parts.flatten.length ∧ post part a := by
  induction h with
  | nil =>
      cases hmem
  | @cons part first parts values hfirst _ ih =>
      rw [List.flatten_cons, List.length_append]
      rcases List.mem_cons.1 hmem with rfl | hlater
      · exact ⟨part, Nat.le_add_right _ _, hfirst⟩
      · rcases ih hlater with ⟨other, hother, hpost⟩
        exact ⟨other, Nat.le_add_left_of_le hother, hpost⟩

/-! ## Writing within a number of bytes -/

/-- The encoder writes the value, and in no more bytes than these. -/
def WritesWithin {α : Type} (encode? : α → Except Error Bytes) (front : Bytes) (a : α) : Prop :=
  ∃ written, encode? a = .ok written ∧ written.length ≤ front.length

/-- Values that can be written one by one can be written one after the other. -/
theorem exists_mapM_of_writesWithin {α : Type} {encode? : α → Except Error Bytes}
    {parts : List Bytes} {values : List α} (h : List.Forall₂ (WritesWithin encode?) parts values) :
    ∃ written, values.mapM encode? = .ok written ∧
      written.flatten.length ≤ parts.flatten.length := by
  induction h with
  | nil =>
      exact ⟨[], rfl, Nat.le_refl 0⟩
  | @cons part a parts values hfirst _ ih =>
      rcases hfirst with ⟨first, hencode, hlength⟩
      rcases ih with ⟨others, hothers, hlengths⟩
      refine ⟨first :: others, ?_, ?_⟩
      · rw [List.mapM_cons, hencode, hothers]
        rfl
      · rw [List.flatten_cons, List.flatten_cons, List.length_append, List.length_append]
        omega

/-! ## Method bodies -/

open Decoder

theorem takes_skipAttribute : Takes skipAttribute fun _ _ => True :=
  takes_word16.bind fun _ _ _ => takes_word32.bind fun _ length _ =>
    (takes_skip length.toNat).mono fun _ _ _ => trivial

theorem takes_skipAttributes : Takes skipAttributes fun front _ => 2 ≤ front.length := by
  refine takes_word16.bind ?_
  rintro _ count rfl
  refine (takes_skipAttribute.skipTimes count.toNat).mono ?_
  intro back done _
  simp

namespace MethodBody

/-- A body that was read has an allowed size, and twelve further bytes were taken for it at least. -/
theorem takes_decode : Takes MethodBody.decode fun front body =>
    IsSize body.size ∧ body.size + 12 ≤ front.length := by
  refine takes_word16.bind ?_
  rintro _ maxStack rfl
  refine takes_word16.bind ?_
  rintro _ maxLocals rfl
  refine takes_word32.bind ?_
  rintro _ length rfl
  split
  · exact Takes.fail
  · rename_i hcheck
    refine (takes_take length.toNat).bind ?_
    rintro _ code ⟨rfl, hcode⟩
    split
    · exact Takes.fail
    · rename_i instructions hscan
      refine takes_word16.bind ?_
      rintro _ handlers rfl
      refine (takes_skip (8 * handlers.toNat)).bind ?_
      intro table _ _
      refine takes_skipAttributes.bind ?_
      intro attributes _ hattributes
      refine Takes.pure ?_
      -- The instructions take as many bytes as the body says.
      have hsize : MethodBody.size ⟨maxStack, maxLocals, instructions⟩ = length.toNat := by
        rw [← length_flatMap_encode, ← Instruction.scan_eq_none_iff.1 hscan, hcode]
      constructor
      · rw [hsize]
        exact checkSize_eq_ok_iff.1 hcheck
      · simp only [List.length_append, Bytes.length_ofWord16, Bytes.length_ofWord32]
        omega

end MethodBody

end ClassFile
end AccessorSynthesis
