import Mathlib.Algebra.Ring.Nat
import Mathlib.Data.List.Basic
import Mathlib.Tactic.Common

/-!
# Framed byte streams

A frame is a sequence of bytes after its length in eight bytes. Frames that stand one after
another can be told apart as long as their lengths fit: the encoding is prefix-free
(`framed_append_inj`).

`PrefixFree` is that property for any way of encoding values as bytes, and values that are encoded
one after another in a prefix-free way are determined by the stream (`PrefixFree.list`).
-/

set_option autoImplicit false

namespace Foundation

/-- A byte. -/
abbrev Byte := Fin 256

/-- A sequence of bytes. -/
abbrev Bytes := List Byte

/-! ## Numbers -/

/-- `n.to_bytes(width, "big")`, for a number that fits. -/
def bigEndian : Nat → Nat → Bytes
  | 0, _ => []
  | width + 1, n => bigEndian width (n / 256) ++ [⟨n % 256, Nat.mod_lt n (by decide)⟩]

theorem length_bigEndian (width : Nat) : ∀ n, (bigEndian width n).length = width := by
  induction width with
  | zero => exact fun _ => rfl
  | succ width ih =>
      intro n
      rw [bigEndian, List.length_append, ih]
      rfl

/-- Numbers that fit are determined by their bytes. -/
theorem bigEndian_inj {width : Nat} : ∀ {n m : Nat}, n < 256 ^ width → m < 256 ^ width →
    bigEndian width n = bigEndian width m → n = m := by
  induction width with
  | zero =>
      intro n m small small' _
      rw [Nat.pow_zero, Nat.lt_one_iff] at small small'
      rw [small, small']
  | succ width ih =>
      intro n m small small' same
      rw [bigEndian, bigEndian] at same
      obtain ⟨high, low⟩ := List.append_inj' same rfl
      have quotients : n / 256 = m / 256 := by
        refine ih ?_ ?_ high
        · rw [Nat.pow_succ] at small
          exact Nat.div_lt_of_lt_mul (by rwa [Nat.mul_comm] at small)
        · rw [Nat.pow_succ] at small'
          exact Nat.div_lt_of_lt_mul (by rwa [Nat.mul_comm] at small')
      have remainders : n % 256 = m % 256 := congrArg Fin.val (List.cons.inj low).1
      rw [← Nat.div_add_mod n 256, ← Nat.div_add_mod m 256, quotients, remainders]

/-! ## Frames -/

/-- The length of a frame fits into eight bytes. -/
def Framable (bytes : Bytes) : Prop := bytes.length < 256 ^ 8

instance (bytes : Bytes) : Decidable (Framable bytes) := inferInstanceAs (Decidable (_ < _))

/-- A length in eight bytes and as many bytes. -/
def framed (bytes : Bytes) : Bytes := bigEndian 8 bytes.length ++ bytes

/-- **Frames are prefix-free.** -/
theorem framed_append_inj {bytes bytes' rest rest' : Bytes} (fits : Framable bytes)
    (fits' : Framable bytes') (same : framed bytes ++ rest = framed bytes' ++ rest') :
    bytes = bytes' ∧ rest = rest' := by
  rw [framed, framed, List.append_assoc, List.append_assoc] at same
  obtain ⟨lengths, tails⟩ := List.append_inj same (by rw [length_bigEndian, length_bigEndian])
  exact List.append_inj tails (bigEndian_inj fits fits' lengths)

/-! ## Streams -/

/-- The encodings of values can be told apart in front of anything. -/
def PrefixFree {α : Type} (encodes : α → Bytes → Prop) : Prop :=
  ∀ ⦃a b : α⦄ ⦃bytes bytes' rest rest' : Bytes⦄, encodes a bytes → encodes b bytes' →
    bytes ++ rest = bytes' ++ rest' → a = b ∧ rest = rest'

/-- The encodings of values, one after another. -/
inductive EncodesAll {α : Type} (encodes : α → Bytes → Prop) : List α → Bytes → Prop
  | nil : EncodesAll encodes [] []
  | cons {a : α} {items : List α} {bytes rest : Bytes} (first : encodes a bytes)
      (others : EncodesAll encodes items rest) : EncodesAll encodes (a :: items) (bytes ++ rest)

/-- **A stream determines its values**, when no encoding is empty. -/
theorem PrefixFree.list {α : Type} {encodes : α → Bytes → Prop} (free : PrefixFree encodes)
    (some_ : ∀ a, ¬encodes a []) {items items' : List α} {bytes : Bytes}
    (stream : EncodesAll encodes items bytes) (stream' : EncodesAll encodes items' bytes) :
    items = items' := by
  induction stream generalizing items' with
  | nil =>
      generalize empty : ([] : Bytes) = bytes at stream'
      cases stream' with
      | nil => rfl
      | cons first others =>
          obtain ⟨rfl, -⟩ := List.append_eq_nil_iff.mp empty.symm
          exact absurd first (some_ _)
  | @cons a items bytes rest first others ih =>
      generalize whole : bytes ++ rest = both at stream'
      cases stream' with
      | nil =>
          obtain ⟨rfl, -⟩ := List.append_eq_nil_iff.mp whole
          exact absurd first (some_ _)
      | cons first' others' =>
          obtain ⟨rfl, rfl⟩ := free first first' whole
          rw [ih others']

end Foundation
