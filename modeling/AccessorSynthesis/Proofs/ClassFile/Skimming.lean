import AccessorSynthesis.Proofs.ClassFile.Limits

/-!
# Skimming — passing over methods by their declared lengths

The decoder of class files reads the length of the attribute that stores a body and does not use it,
so that reading back what was written says nothing about this length.  Other readers rely on it.
This file defines

* `Decoder.taken d` — the bytes that `d` takes.

A reader may pass over methods as the decoder passes over fields: six bytes, then every attribute by
its declared length.  It takes the same bytes for each method as the decoder does
(`decodeWith_taken_of_toBytes`), since what is stored says its whole length (`Method.Stored`).
-/

namespace AccessorSynthesis
namespace ClassFile

namespace Decoder

variable {α : Type} {decoder : Decoder α} {bytes : Bytes} {a : α}

/-- The bytes that the decoder takes from the front of its input. -/
def taken (decoder : Decoder α) : Decoder Bytes := fun bytes =>
  (decoder bytes).map fun read => (bytes.take (bytes.length - read.2.length), read.2)

theorem Reads.taken (h : Reads decoder bytes a) : Reads (taken decoder) bytes bytes := by
  intro rest
  have hfront : (bytes ++ rest).take ((bytes ++ rest).length - rest.length) = bytes := by
    simp
  rw [Decoder.taken, h rest, Except.map, hfront]

theorem Reads.eq_ok (h : Reads decoder bytes a) : decoder bytes = .ok (a, []) := by
  simpa using h []

/-- A decoder that reads each part takes all of it. -/
theorem Reads.taken_each {β : Type} {value : β → α} {parts : List Bytes} {values : List β}
    (h : List.Forall₂ (fun part b => Reads decoder part (value b)) parts values) :
    List.Forall₂ (Reads (Decoder.taken decoder)) parts parts := by
  induction h with
  | nil =>
      exact .nil
  | cons hpart _ ih =>
      exact .cons hpart.taken ih

theorem Reads.skipTimes {β : Type} {item : Decoder Unit} {parts : List Bytes} {values : List β}
    (h : List.Forall₂ (fun part _ => Reads item part ()) parts values) :
    Reads (Decoder.skipTimes item parts.length) parts.flatten () := by
  induction h with
  | nil =>
      exact Reads.pure ()
  | cons hpart _ ih =>
      simpa only [List.length_cons, skipTimes_succ, List.flatten_cons] using hpart.bind ih

end Decoder

open Decoder

/-! ## Fields -/

theorem Says.exists_reads_word16 {n : Nat} {field : Bytes} (h : Says 2 n field) :
    ∃ word : UInt16, word.toNat = n ∧ Reads word16 field word := by
  match field, h with
  | [high, low], ⟨_, hvalue⟩ =>
      have hhigh := high.toNat_lt
      have hlow := low.toNat_lt
      refine ⟨.ofNat (high.toNat * 256 + low.toNat), ?_, fun rest => rfl⟩
      rw [UInt16.toNat_ofNat']
      simp at hvalue
      omega

theorem Says.exists_reads_word32 {n : Nat} {field : Bytes} (h : Says 4 n field) :
    ∃ word : UInt32, word.toNat = n ∧ Reads word32 field word := by
  match field, h with
  | [a, b, c, d], ⟨_, hvalue⟩ =>
      have ha := a.toNat_lt
      have hb := b.toNat_lt
      have hc := c.toNat_lt
      have hd := d.toNat_lt
      refine ⟨.ofNat (((a.toNat * 256 + b.toNat) * 256 + c.toNat) * 256 + d.toNat), ?_,
        fun rest => rfl⟩
      rw [UInt32.toNat_ofNat']
      simp at hvalue
      omega

/-! ## Methods -/

/-- The declared length leads to the end of the attribute. -/
theorem MethodBody.Attached.reads_skipAttribute {codeName : Option UInt16} {body : MethodBody}
    {bytes : Bytes} (h : body.Attached codeName bytes) : Reads skipAttribute bytes () := by
  cases h with
  | @intro index name length contents _ hname hlength _ =>
      rcases hname.exists_reads_word16 with ⟨nameWord, _, hname⟩
      rcases hlength.exists_reads_word32 with ⟨lengthWord, hcontents, hlength⟩
      rw [List.append_assoc]
      exact hname.bind (hlength.bind (reads_skip hcontents.symm))

/-- Passing over a method as if it were a field ends where the method ends. -/
theorem Method.Stored.reads_skipField {codeName : Option UInt16} {method : Method} {bytes : Bytes}
    (h : method.Stored codeName bytes) : Reads skipField bytes () := by
  cases h with
  | @intro access name descriptor count attributes haccess hname hdescriptor hattributes hcount =>
      have hsix : (access ++ name ++ descriptor).length = 6 := by
        rw [List.length_append, List.length_append, haccess.length, hname.length,
          hdescriptor.length]
      have hskip : List.Forall₂ (fun part _ => Reads skipAttribute part ()) attributes
          method.body.toList :=
        List.Forall₂.flip (hattributes.imp fun _ _ => MethodBody.Attached.reads_skipAttribute)
      rcases hcount.exists_reads_word16 with ⟨countWord, hcountWord, hcount⟩
      rw [List.append_assoc]
      refine (reads_skip hsix).bind (hcount.bind ?_)
      rw [hcountWord]
      exact Reads.skipTimes hskip

/-! ## Class files -/

/-- Whatever class file is written: a reader that passes over each method as if it were a field takes
the same bytes for it as the decoder does, and both end where the bytes end.  These bytes are those
of the method, and each length in them is the whole length of what it belongs to. -/
theorem decodeWith_taken_of_toBytes {file : ClassFile} (reachable : file.IsReachable)
    {bytes : Bytes} (written : file.toBytes = .ok bytes) :
    ∃ front parts,
      decode bytes = .ok ({ front with methods := file.methods }, []) ∧
      decodeWith (fun pool => taken (Method.decode pool)) bytes = .ok ((front, parts), []) ∧
      decodeWith (fun _ => taken skipField) bytes = .ok ((front, parts), []) ∧
      List.Forall₂ (Method.Stored file.codeName) file.methods parts := by
  have hwell := reachable.wellFormed
  rcases hwell.reads_decodeWith written with ⟨parts, hparts, hread⟩
  have hstored : List.Forall₂ (Method.Stored file.codeName) file.methods parts :=
    (forall₂_of_mapM_eq_ok hparts).imp fun _ _ => Method.stored_of_encode?
  -- Each part is read as a method and passed over as a field; both readers take all of it.
  have hmethods := Reads.taken_each (hwell.reads_methods hparts)
  have hfields := Reads.taken_each
    (List.Forall₂.flip (hstored.imp fun _ _ => Method.Stored.reads_skipField))
  exact ⟨_, parts, (hwell.reads_decode written).eq_ok, (hread hmethods).eq_ok,
    (hread hfields).eq_ok, hstored⟩

theorem decodeWith_taken_mixedCalls :
    ∃ start bytes, create "a/A" rootClass (.ofList [.pub, .super]) = .ok start ∧
      (start.afterCalls mixedCalls).toBytes = .ok bytes ∧
      ∃ front parts,
        decode bytes
          = .ok ({ front with methods := (start.afterCalls mixedCalls).methods }, []) ∧
        decodeWith (fun pool => taken (Method.decode pool)) bytes = .ok ((front, parts), []) ∧
        decodeWith (fun _ => taken skipField) bytes = .ok ((front, parts), []) ∧
        List.Forall₂ (Method.Stored (start.afterCalls mixedCalls).codeName)
          (start.afterCalls mixedCalls).methods parts := by
  have hwritten : (create "a/A" rootClass (.ofList [.pub, .super])
      >>= fun start => (start.afterCalls mixedCalls).toBytes).toOption.isSome = true := by
    decide +kernel
  rcases exists_of_isSome_bind hwritten with ⟨start, bytes, hcreate, hbytes⟩
  exact ⟨start, bytes, hcreate, hbytes,
    decodeWith_taken_of_toBytes (.of_create hcreate mixedCalls) hbytes⟩

end ClassFile
end AccessorSynthesis
