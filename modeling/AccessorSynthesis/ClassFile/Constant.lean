import Std.Data.ExtTreeMap
import AccessorSynthesis.ClassFile.ModifiedUtf8

/-!
# Constants

An entry of a constant pool is a text, or names other entries by their indices. This file defines

* `Constant.encode?`, `Constant.decode` — the stored form, a tag byte and the contents;
* `Constant.order` — a linear order in which only equal constants compare as equal, so that
  ordered maps can look constants up.
-/

namespace AccessorSynthesis
namespace ClassFile

/-- An entry of a constant pool. -/
inductive Constant where
  | utf8 (text : String)
  | className (text : UInt16)
  | stringLiteral (text : UInt16)
  | methodRef (owner nameAndType : UInt16)
  | nameAndType (name descriptor : UInt16)
deriving DecidableEq

namespace Constant

/-- The byte that marks the kind of an entry. -/
def tag : Constant → UInt8
  | .utf8 _ => 1
  | .className _ => 7
  | .stringLiteral _ => 8
  | .methodRef _ _ => 10
  | .nameAndType _ _ => 12

/-- The text of an entry, empty for the kinds without one. -/
def text : Constant → String
  | .utf8 text => text
  | _ => ""

/-- The indices that an entry names, zero where it has none. -/
def operands : Constant → UInt16 × UInt16
  | .utf8 _ => (0, 0)
  | .className index | .stringLiteral index => (index, 0)
  | .methodRef first second | .nameAndType first second => (first, second)

/-! ## The order of constants -/

/-- Compares the kinds, then the indices named, then the texts. -/
def order : Constant → Constant → Ordering :=
  compareLex (compareOn tag)
    (compareLex (compareOn (·.operands.1)) (compareLex (compareOn (·.operands.2)) (compareOn text)))

instance : Std.TransCmp order := by
  unfold order
  infer_instance

theorem eq_of_order_eq {a b : Constant} (h : order a b = .eq) : a = b := by
  simp only [order, compareLex_eq_eq, compareOn, Std.LawfulEqOrd.compare_eq_iff_eq] at h
  obtain ⟨sameTag, sameFirst, sameSecond, sameText⟩ := h
  cases a <;> cases b <;> simp_all [tag, operands, text]

instance : Std.LawfulEqCmp order where
  eq_of_compare := eq_of_order_eq

/-! ## The stored form -/

/-- The tag and the contents, unless the text is too long for its length field. -/
def encode? (constant : Constant) : Except Error Bytes :=
  match constant with
  | .utf8 text =>
      let bytes := ModifiedUtf8.encode text
      if bytes.length < 65536 then
        .ok (constant.tag :: Bytes.ofWord16 (UInt16.ofNat bytes.length) ++ bytes)
      else .error (.textTooLong bytes.length)
  | .className index | .stringLiteral index => .ok (constant.tag :: Bytes.ofWord16 index)
  | .methodRef first second | .nameAndType first second =>
      .ok (constant.tag :: Bytes.ofWord16 first ++ Bytes.ofWord16 second)

/-- Reads one entry. -/
def decode : Decoder Constant := do
  let tag ← Decoder.byte
  match tag.toNat with
  | 1 => do
      let length ← Decoder.word16
      let bytes ← Decoder.take length.toNat
      match ModifiedUtf8.decode bytes with
      | some text => return .utf8 text
      | none => Decoder.fail .invalidText
  | 7 => return .className (← Decoder.word16)
  | 8 => return .stringLiteral (← Decoder.word16)
  | 10 => return .methodRef (← Decoder.word16) (← Decoder.word16)
  | 12 => return .nameAndType (← Decoder.word16) (← Decoder.word16)
  | _ => Decoder.fail (.unsupportedConstant tag)

end Constant

end ClassFile
end AccessorSynthesis
