import Mathlib.Data.List.Chain
import Mathlib.Data.List.Forall2
import AccessorSynthesis.Proofs.ClassFile.RoundTrip

/-!
# Spelling — the bytes that a text is read from

The reader of modified UTF-8 takes a code unit in any form that has room for it, while the writer
gives it the shortest one (for zero, the one of two bytes).  This file defines

* `Form bytes unit` — the bytes are a form in which the unit is read;
* `IsShortest bytes` — no form among the bytes is longer than its unit needs, which shows in
  neighbouring bytes (`Follows`);
* `Excludes one other` — no class file is read whose pool stores a constant in each of these ways;
* `IsSpelling bytes text` — what is said of the bytes from which a text is read.

Form by form, a text is written in the bytes it was read from or in fewer
(`encode_cases_of_decode`).  So each text has one spelling in shortest forms and perhaps longer ones
(`encode_ne_overlongLetter`), and constants with the same text never become one entry
(`isSpelling_of_decode`).
-/

namespace AccessorSynthesis
namespace ClassFile
namespace ModifiedUtf8

/-! ## Forms of code units -/

/-- The forms in which a code unit is read. -/
inductive Form : Bytes → UInt16 → Prop where
  | one {lead : UInt8} : 0x01 ≤ lead.toNat → lead.toNat < 0x80 →
      Form [lead] (UInt16.ofNat lead.toNat)
  | two {lead second : UInt8} : 0xC0 ≤ lead.toNat → lead.toNat < 0xE0 →
      isContinuation second = true →
      Form [lead, second] (UInt16.ofNat (lead.toNat % 0x20 * 0x40 + second.toNat % 0x40))
  | three {lead second third : UInt8} : 0xE0 ≤ lead.toNat → lead.toNat < 0xF0 →
      isContinuation second = true → isContinuation third = true →
      Form [lead, second, third] (UInt16.ofNat (lead.toNat % 0x10 * 0x1000
        + second.toNat % 0x40 * 0x40 + third.toNat % 0x40))

/-- The bytes are forms of the units that stand behind those in `found`, which holds the earlier ones
in reverse. -/
def Consists (found : List UInt16) (bytes : Bytes) (units : List UInt16) : Prop :=
  ∃ forms later, bytes = forms.flatten ∧ units = found.reverse ++ later ∧
    List.Forall₂ Form forms later

theorem Consists.cons {form rest : Bytes} {unit : UInt16} {found units : List UInt16}
    (h : Consists (unit :: found) rest units) (hform : Form form unit) :
    Consists found (form ++ rest) units := by
  rcases h with ⟨forms, later, rfl, rfl, hforms⟩
  exact ⟨form :: forms, unit :: later, rfl, by simp, hforms.cons hform⟩

/-- Whatever is read as code units consists of forms of these. -/
theorem consists_of_unitsOnto {found units : List UInt16} {bytes : Bytes}
    (h : unitsOnto found bytes = some units) : Consists found bytes units := by
  fun_induction unitsOnto found bytes with
  | case1 found =>
      cases h
      exact ⟨[], [], rfl, by simp, List.Forall₂.nil⟩
  | case2 found lead rest n hone ih =>
      exact (ih h).cons (Form.one hone.1 hone.2)
  | case3 found lead n hone htwo second rest hsecond ih =>
      exact (ih h).cons (Form.two htwo.1 htwo.2 hsecond)
  | case6 found lead n hone htwo hthree second third rest hboth ih =>
      rw [Bool.and_eq_true] at hboth
      exact (ih h).cons (Form.three hthree.1 hthree.2 hboth.1 hboth.2)
  | case4 | case5 | case7 | case8 | case9 =>
      cases h

/-! ## Shortest forms -/

/-- May `next` stand behind `lead` if every form is the shortest one of its unit? Units below 0x80
need one byte, except that zero is written with 0xC0 and 0x80; units below 0x800 need two. -/
def Follows (lead next : UInt8) : Prop :=
  lead ≠ 0xC1 ∧ (lead = 0xC0 → next = 0x80) ∧ (lead = 0xE0 → 0xA0 ≤ next)

instance (lead next : UInt8) : Decidable (Follows lead next) :=
  inferInstanceAs (Decidable (_ ∧ _ ∧ _))

/-- No form among the bytes is longer than its code unit needs. -/
def IsShortest (bytes : Bytes) : Prop := bytes.IsChain Follows

instance (bytes : Bytes) : Decidable (IsShortest bytes) :=
  inferInstanceAs (Decidable (bytes.IsChain Follows))

theorem follows_iff {lead next : UInt8} : Follows lead next ↔ lead.toNat ≠ 0xC1 ∧
    (lead.toNat = 0xC0 → next.toNat = 0x80) ∧ (lead.toNat = 0xE0 → 0xA0 ≤ next.toNat) := by
  simp [Follows, ← UInt8.toNat_inj, UInt8.le_iff_toNat_le]

theorem lt_of_isContinuation {byte : UInt8} (h : isContinuation byte = true) :
    0x80 ≤ byte.toNat ∧ byte.toNat < 0xC0 := by
  simpa [isContinuation] using h

namespace Form

variable {form : Bytes} {unit : UInt16}

/-- Forms do not depend on what stands behind them. -/
theorem isShortest_append (h : Form form unit) (rest : Bytes) :
    IsShortest (form ++ rest) ↔ IsShortest form ∧ IsShortest rest := by
  -- The last byte of a form begins no other.
  have hlast : ∀ last ∈ form.getLast?, last.toNat < 0xC0 := by
    intro last hlast
    cases h with
    | one hlow hhigh =>
        cases hlast
        exact Nat.lt_trans hhigh (by decide)
    | two hlow hhigh hsecond =>
        cases hlast
        exact (lt_of_isContinuation hsecond).2
    | three hlow hhigh hsecond hthird =>
        cases hlast
        exact (lt_of_isContinuation hthird).2
  unfold IsShortest
  rw [List.isChain_append]
  constructor
  · rintro ⟨hform, hrest, _⟩
    exact ⟨hform, hrest⟩
  · rintro ⟨hform, hrest⟩
    refine ⟨hform, hrest, ?_⟩
    intro last hmem next _
    have hlow := hlast last hmem
    rw [follows_iff]
    omega

/-- A form that is not the shortest is longer than the one its unit is written in. -/
theorem cases (h : Form form unit) : IsShortest form ∧ encodeUnit unit = form ∨
    ¬IsShortest form ∧ (encodeUnit unit).length < form.length := by
  cases h with
  | @one lead hlow hhigh =>
      left
      constructor
      · simp [IsShortest]
      · have hzero : lead.toNat ≠ 0 := by omega
        rw [encodeUnit_ofNat (by omega), if_neg hzero, if_pos hhigh, UInt8.ofNat_toNat]
  | @two lead second hlow hhigh hsecond =>
      have hsecond := lt_of_isContinuation hsecond
      have hpair : IsShortest [lead, second] ↔ Follows lead second := by
        simp [IsShortest]
      rw [hpair, follows_iff]
      rw [encodeUnit_ofNat (by omega)]
      -- The form is too long for the units below 0x80, unless it is that of zero.
      by_cases hzero : lead.toNat % 0x20 * 0x40 + second.toNat % 0x40 = 0
      · left
        rw [if_pos hzero]
        simp only [List.cons.injEq, ← UInt8.toNat_inj, and_true]
        refine ⟨by omega, ?_, ?_⟩
        · show 0xC0 = _
          omega
        · show 0x80 = _
          omega
      by_cases hsmall : lead.toNat % 0x20 * 0x40 + second.toNat % 0x40 < 0x80
      · right
        rw [if_neg hzero, if_pos hsmall]
        refine ⟨by omega, ?_⟩
        simp
      · left
        rw [if_neg hzero, if_neg hsmall, if_pos (by omega)]
        simp only [List.cons.injEq, ← UInt8.toNat_inj, UInt8.toNat_ofNat', and_true]
        omega
  | @three lead second third hlow hhigh hsecond hthird =>
      have hsecond := lt_of_isContinuation hsecond
      have hthird := lt_of_isContinuation hthird
      have htriple : IsShortest [lead, second, third] ↔ Follows lead second := by
        have hfollows : Follows second third := by
          rw [follows_iff]
          omega
        simp [IsShortest, hfollows]
      rw [htriple, follows_iff]
      -- The form is too long for the units below 0x800.
      by_cases hsmall : lead.toNat % 0x10 * 0x1000 + second.toNat % 0x40 * 0x40
          + third.toNat % 0x40 < 0x800
      · right
        refine ⟨by omega, ?_⟩
        rw [length_encodeUnit_ofNat (by omega)]
        grind
      · left
        rw [encodeUnit_ofNat (by omega), if_neg (by omega), if_neg (by omega), if_neg hsmall]
        simp only [List.cons.injEq, ← UInt8.toNat_inj, UInt8.toNat_ofNat', and_true]
        omega

end Form

theorem flatMap_encodeUnit_cases {forms : List Bytes} {units : List UInt16}
    (h : List.Forall₂ Form forms units) :
    IsShortest forms.flatten ∧ units.flatMap encodeUnit = forms.flatten ∨
      ¬IsShortest forms.flatten ∧ (units.flatMap encodeUnit).length < forms.flatten.length := by
  induction h with
  | nil =>
      exact Or.inl ⟨List.IsChain.nil, rfl⟩
  | @cons form unit forms units hform _ ih =>
      rw [List.flatten_cons, List.flatMap_cons, hform.isShortest_append, List.length_append,
        List.length_append]
      rcases hform.cases with ⟨hshort, hsame⟩ | ⟨hlong, hless⟩
      · rcases ih with ⟨hshorts, hsames⟩ | ⟨hlongs, hlesses⟩
        · exact Or.inl ⟨⟨hshort, hshorts⟩, by rw [hsame, hsames]⟩
        · exact Or.inr ⟨fun hboth => hlongs hboth.2, by rw [hsame]; omega⟩
      · refine Or.inr ⟨fun hboth => hlong hboth.1, ?_⟩
        rcases ih with ⟨_, hsames⟩ | ⟨_, hlesses⟩
        · rw [hsames]
          omega
        · omega

/-- A text is written in the bytes it was read from, or in fewer if these can be shortened. -/
theorem encode_cases_of_decode {bytes : Bytes} {text : String} (h : decode bytes = some text) :
    IsShortest bytes ∧ encode text = bytes ∨
      ¬IsShortest bytes ∧ (encode text).length < bytes.length := by
  simp only [decode, Option.bind_eq_bind, Option.bind_eq_some_iff] at h
  rcases h with ⟨units, hunits, chars, hchars, hmade⟩
  cases hmade
  rcases consists_of_unitsOnto hunits with ⟨forms, later, rfl, hlater, hforms⟩
  -- Characters lose nothing of their units, so that all that can change is the form of a unit.
  have hsource : chars.flatMap Utf16.units = units := Utf16.flatMap_units_of_decodeOnto hchars
  rw [encode_eq_flatMap, String.toList_ofList, hsource, hlater]
  exact flatMap_encodeUnit_cases hforms

theorem length_encode_le_of_decode {bytes : Bytes} {text : String} (h : decode bytes = some text) :
    (encode text).length ≤ bytes.length := by
  rcases encode_cases_of_decode h with ⟨_, hsame⟩ | ⟨_, hless⟩
  · rw [hsame]
  · exact Nat.le_of_lt hless

theorem encode_eq_iff_of_decode {bytes : Bytes} {text : String} (h : decode bytes = some text) :
    encode text = bytes ↔ IsShortest bytes := by
  rcases encode_cases_of_decode h with ⟨hshort, hsame⟩ | ⟨hlong, hless⟩
  · exact ⟨fun _ => hshort, fun _ => hsame⟩
  · constructor
    · intro hsame
      rw [hsame] at hless
      exact absurd hless (Nat.lt_irrefl _)
    · intro hshort
      exact absurd hshort hlong

end ModifiedUtf8

/-! ## Constants that spell the same text -/

open Decoder

theorem Decoder.Reads.unique {α : Type} {decoder : Decoder α} {front : Bytes} {a b : α}
    (ha : Reads decoder front a) (hb : Reads decoder front b) : a = b := by
  have hsame := (ha []).symm.trans (hb [])
  cases hsame
  rfl

theorem Decoder.Reads.getElem?_of_forall₂ {α : Type} {decoder : Decoder α} {parts : List Bytes}
    {values : List α} (h : List.Forall₂ (Reads decoder) parts values) {i : Nat} {part : Bytes} {a : α}
    (hpart : parts[i]? = some part) (ha : Reads decoder part a) : values[i]? = some a := by
  induction h generalizing i with
  | nil =>
      cases hpart
  | cons hfirst _ ih =>
      cases i with
      | zero =>
          cases hpart
          rw [ha.unique hfirst]
          rfl
      | succ i =>
          exact ih hpart

/-- When constants are stored that are not all different, a later one is in the pool already. -/
theorem ConstantPool.decodeOnto_of_repeated {parts : List Bytes} {constants : List Constant}
    (h : List.Forall₂ (Reads Constant.decode) parts constants) {pool : ConstantPool}
    (hrepeated : ¬(pool.entries.toList ++ constants).Nodup) {count : Nat}
    (hcount : parts.length ≤ count) (room : pool.size + count ≤ capacity) (rest : Bytes) :
    decodeOnto count pool room (parts.flatten ++ rest) = .error .duplicateConstant := by
  induction h generalizing pool count with
  | nil =>
      rw [List.append_nil] at hrepeated
      exact absurd pool.nodup_entries hrepeated
  | @cons part constant parts constants hpart _ ih =>
      rcases count with _ | count
      · cases hcount
      rw [decodeOnto_succ, List.flatten_cons, List.append_assoc, hpart.bind_apply]
      split
      · rfl
      · apply ih
        · simpa [push] using hrepeated
        · exact Nat.le_of_succ_le_succ hcount

/-- The bytes of a class file up to the end of its pool, whose constants are stored in these parts. -/
def frontBytes (minorVersion majorVersion count : UInt16) (parts : List Bytes) : Bytes :=
  Bytes.ofWord32 magic ++ (Bytes.ofWord16 minorVersion ++ (Bytes.ofWord16 majorVersion
    ++ (Bytes.ofWord16 count ++ parts.flatten)))

theorem ofBytes_of_repeated {parts : List Bytes} {constants : List Constant}
    (h : List.Forall₂ (Reads Constant.decode) parts constants) (hrepeated : ¬constants.Nodup)
    {count : UInt16} (hcount : parts.length < count.toNat) (minorVersion majorVersion : UInt16)
    (rest : Bytes) : ofBytes (frontBytes minorVersion majorVersion count parts ++ rest)
      = .error .duplicateConstant := by
  have hpool : ConstantPool.decode (Bytes.ofWord16 count ++ (parts.flatten ++ rest))
      = .error .duplicateConstant := by
    rw [ConstantPool.decode, (reads_word16 count).bind_apply]
    exact ConstantPool.decodeOnto_of_repeated h (by simpa [ConstantPool.empty] using hrepeated)
      (Nat.le_sub_one_of_lt hcount) _ rest
  have hdecode : decode (frontBytes minorVersion majorVersion count parts ++ rest)
      = .error .duplicateConstant := by
    simp only [frontBytes, List.append_assoc]
    rw [decode, reads_decodeMagic.bind_apply, (reads_word16 minorVersion).bind_apply,
      (reads_word16 majorVersion).bind_apply]
    exact bind_eq_error_iff.2 (Or.inl hpool)
  exact map_eq_error_iff.2 hdecode

/-- No class file is read whose pool stores a constant in each of these two ways. -/
def Excludes (one other : Bytes) : Prop :=
  ∀ (parts : List Bytes) (constants : List Constant) (i j : Nat), i ≠ j →
    parts[i]? = some one → parts[j]? = some other →
    List.Forall₂ (Reads Constant.decode) parts constants →
    ∀ (minorVersion majorVersion count : UInt16) (rest : Bytes), parts.length < count.toNat →
    ofBytes (frontBytes minorVersion majorVersion count parts ++ rest) = .error .duplicateConstant

theorem excludes_of_reads {one other : Bytes} {constant : Constant}
    (hone : Reads Constant.decode one constant) (hother : Reads Constant.decode other constant) :
    Excludes one other := by
  intro parts constants i j hne hi hj h minorVersion majorVersion count rest hcount
  refine ofBytes_of_repeated h ?_ hcount minorVersion majorVersion rest
  intro hnodup
  have hi := Reads.getElem?_of_forall₂ h hi hone
  have hj := Reads.getElem?_of_forall₂ h hj hother
  rcases List.getElem?_eq_some_iff.1 hi with ⟨hlength, _⟩
  exact hne ((List.getElem?_inj hlength hnodup).1 (hi.trans hj.symm))

namespace ModifiedUtf8

/-- What holds of bytes from which a text is read. -/
structure IsSpelling (bytes : Bytes) (text : String) : Prop where
  /-- They are the written form of the text just if they are in the shortest form. -/
  same_iff : encode text = bytes ↔ IsShortest bytes
  /-- Otherwise the written form is shorter. -/
  shorter : ¬IsShortest bytes → (encode text).length < bytes.length
  /-- No other bytes in the shortest form spell the text. -/
  unique : IsShortest bytes → ∀ other, decode other = some text → IsShortest other → other = bytes
  /-- Two constants of a class file that spell the text do not become one entry: the class file is
  refused. -/
  excludes : ∀ other, decode other = some text → bytes.length < 65536 → other.length < 65536 →
    Excludes (Constant.spelled bytes) (Constant.spelled other)

theorem isSpelling_of_decode {bytes : Bytes} {text : String} (h : decode bytes = some text) :
    IsSpelling bytes text where
  same_iff := encode_eq_iff_of_decode h
  shorter := by
    intro hlong
    rcases encode_cases_of_decode h with ⟨hshort, _⟩ | ⟨_, hless⟩
    · exact absurd hshort hlong
    · exact hless
  unique := by
    intro hshort other hother hothers
    calc
      other = encode text := ((encode_eq_iff_of_decode hother).2 hothers).symm
      _ = bytes := (encode_eq_iff_of_decode h).2 hshort
  excludes := by
    intro other hother hlength hlengths
    exact excludes_of_reads (Constant.reads_spelled h hlength)
      (Constant.reads_spelled hother hlengths)

theorem isSpelling_ofNull :
    decode [0x61, 0xC0, 0x80] = some "a\x00" ∧ IsSpelling [0x61, 0xC0, 0x80] "a\x00" := by
  have hdecode : decode [0x61, 0xC0, 0x80] = some "a\x00" := by
    decide
  exact ⟨hdecode, isSpelling_of_decode hdecode⟩

/-- The letter is also read from a form of two bytes, in which it is not written. -/
theorem encode_ne_overlongLetter :
    decode [0xC1, 0xA1] = some "a" ∧ encode "a" ≠ [0xC1, 0xA1] := by
  decide

end ModifiedUtf8
end ClassFile
end AccessorSynthesis
