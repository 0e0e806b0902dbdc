import Mathlib.Logic.Function.Basic
import TextAdventure.ActionTable.Packed

/-!
# Packed fields

A row of the action table packs two fields into one number: the lower field is a digit to some
radix, and the upper field is what remains.  Where both fields are kept as they are, nothing of the
number is lost, and so it is with triggers and conditions.  Of a pair of commands the first opcode
keeps 16 bits only.  The pairs therefore repeat themselves, and what is kept of a number is its
remainder by the length of this period.

Main results:

- Theorems `ofNat_pack_unpack` and `unpack_pack_iff`: two fields to any radix.
- Definition `OpcodePair.period` and theorem `OpcodePair.decode_eq_decode_iff`: the numbers that
  stand for the same pair of commands.
- Theorem `packing_recovered`: what is recovered of each kind of field, in both directions.
-/

namespace TextAdventure

/-! ## Two fields to a radix -/

/-- A number that is taken apart to a radix and put together again is the same number. -/
theorem ofNat_pack_unpack (raw : UInt32) (radix : Nat) :
    UInt32.ofNat (raw.toNat / radix * radix + raw.toNat % radix) = raw := by
  rw [Nat.div_add_mod', UInt32.ofNat_toNat]

/-- Two fields that are put together to a radix are recovered exactly when the lower one is a digit
and both fit into 32 bits together. -/
theorem unpack_pack_iff {radix : Nat} (hradix : 0 < radix) (upper lower : Nat) :
    (UInt32.ofNat (upper * radix + lower)).toNat / radix = upper ∧
      (UInt32.ofNat (upper * radix + lower)).toNat % radix = lower ↔
    lower < radix ∧ upper * radix + lower < UInt32.size := by
  constructor
  · rintro ⟨hupper, hlower⟩
    have hdigit := Nat.mod_lt (UInt32.ofNat (upper * radix + lower)).toNat hradix
    have hsum := Nat.div_add_mod' (UInt32.ofNat (upper * radix + lower)).toNat radix
    have hfits := (UInt32.ofNat (upper * radix + lower)).toNat_lt_size
    rw [hlower] at hdigit
    rw [hupper, hlower] at hsum
    rw [← hsum] at hfits
    exact ⟨hdigit, hfits⟩
  · rintro ⟨hdigit, hfits⟩
    rw [UInt32.toNat_ofNat_of_lt' hfits, Nat.add_comm]
    constructor
    · rw [Nat.add_mul_div_right _ _ hradix, Nat.div_eq_of_lt hdigit, Nat.zero_add]
    · rw [Nat.add_mul_mod_self_right, Nat.mod_eq_of_lt hdigit]

/-! ## Triggers and conditions -/

namespace Trigger

/-- A number is recovered from the trigger that it stands for. -/
theorem encode_decode (raw : UInt32) : (decode raw).encode = raw :=
  ofNat_pack_unpack raw 150

/-- A trigger is recovered exactly when its noun is a digit and it fits into 32 bits. -/
theorem decode_encode_iff (t : Trigger) :
    decode t.encode = t ↔ t.noun < 150 ∧ t.verb * 150 + t.noun < UInt32.size := by
  cases t with
  | mk verb noun =>
    rw [← unpack_pack_iff (by decide) verb noun]
    simp only [decode, encode, Trigger.mk.injEq]

end Trigger

namespace CodedCondition

/-- A number is recovered from the condition that it stands for. -/
theorem encode_decode (raw : UInt32) : (decode raw).encode = raw :=
  ofNat_pack_unpack raw 20

/-- A condition is recovered exactly when its code is a digit and it fits into 32 bits. -/
theorem decode_encode_iff (c : CodedCondition) :
    decode c.encode = c ↔ c.code < 20 ∧ c.parameter * 20 + c.code < UInt32.size := by
  cases c with
  | mk code parameter =>
    rw [← unpack_pack_iff (by decide) parameter code, And.comm]
    simp only [decode, encode, CodedCondition.mk.injEq]

end CodedCondition

/-! ## Pairs of commands -/

namespace OpcodePair

/-- The number of pairs in which the first opcode has 16 bits. -/
def period : Nat :=
  150 * 0x10000

/-- A pair of commands only depends on the remainder by the period, of which nothing is lost. -/
theorem decode_eq_mk (raw : UInt32) :
    decode raw = ⟨raw.toNat % period / 150, raw.toNat % period % 150⟩ := by
  rw [period, Nat.mod_mul_right_div_self, Nat.mod_mod_of_dvd _ (Nat.dvd_mul_right 150 0x10000)]
  rfl

/-- What is recovered from the pair of commands that a number stands for is its remainder. -/
theorem toNat_encode_decode (raw : UInt32) :
    (decode raw).encode.toNat = raw.toNat % period := by
  have hfits : raw.toNat % period < UInt32.size :=
    Nat.lt_of_le_of_lt (Nat.mod_le _ _) raw.toNat_lt_size
  rw [decode_eq_mk, encode, Nat.div_add_mod', UInt32.toNat_ofNat_of_lt' hfits]

/-- A number is recovered from the pair of commands that it stands for exactly when it is below the
period. -/
theorem encode_decode_iff (raw : UInt32) :
    (decode raw).encode = raw ↔ raw.toNat < period := by
  rw [← UInt32.toNat_inj, toNat_encode_decode]
  constructor
  · intro h
    rw [← h]
    exact Nat.mod_lt _ (by decide)
  · exact Nat.mod_eq_of_lt

/-- Numbers stand for the same pair of commands exactly when their remainders agree. -/
theorem decode_eq_decode_iff (a b : UInt32) :
    decode a = decode b ↔ a.toNat % period = b.toNat % period := by
  constructor
  · intro h
    rw [← toNat_encode_decode, h, toNat_encode_decode]
  · intro h
    rw [decode_eq_mk, h, ← decode_eq_mk]

/-- A pair of commands is recovered exactly when the second opcode is a digit and the first one has
16 bits, with which it fits into 32 bits. -/
theorem decode_encode_iff (p : OpcodePair) :
    decode p.encode = p ↔ p.first < 0x10000 ∧ p.second < 150 := by
  cases p with
  | mk first second =>
    constructor
    · intro h
      obtain ⟨hfirst, hsecond⟩ := OpcodePair.mk.inj h
      rw [← hfirst, ← hsecond]
      exact ⟨Nat.mod_lt _ (by decide), Nat.mod_lt _ (by decide)⟩
    · rintro ⟨hfirst, hsecond⟩
      have hfits : first * 150 + second < UInt32.size := by
        have hsize : UInt32.size = 0x100000000 := rfl
        simp only at hfirst hsecond
        omega
      obtain ⟨hupper, hlower⟩ := (unpack_pack_iff (by decide) first second).2 ⟨hsecond, hfits⟩
      simp only [decode, encode, hupper, hlower, Nat.mod_eq_of_lt hfirst]

end OpcodePair

/-! ## All packed fields -/

/-- A number of 32 bits is recovered from the trigger and from the condition that it stands for, and
no other number stands for the same one.  It is recovered from its pair of commands exactly when it
is below the period, and another number stands for the same pair exactly when the two agree up to
multiples of the period.  In the other direction a trigger, a condition and a pair of commands are
recovered exactly when the lower field is a digit and both fields fit into 32 bits, where the first
opcode of a pair has 16 bits. -/
theorem packing_recovered (raw other : UInt32) (t : Trigger) (c : CodedCondition) (p : OpcodePair) :
    ((Trigger.decode raw).encode = raw ∧
      (Trigger.decode raw = Trigger.decode other ↔ raw = other)) ∧
    ((CodedCondition.decode raw).encode = raw ∧
      (CodedCondition.decode raw = CodedCondition.decode other ↔ raw = other)) ∧
    (((OpcodePair.decode raw).encode = raw ↔ raw.toNat < OpcodePair.period) ∧
      (OpcodePair.decode raw = OpcodePair.decode other ↔
        raw.toNat % OpcodePair.period = other.toNat % OpcodePair.period)) ∧
    (Trigger.decode t.encode = t ↔ t.noun < 150 ∧ t.verb * 150 + t.noun < UInt32.size) ∧
    (CodedCondition.decode c.encode = c ↔
      c.code < 20 ∧ c.parameter * 20 + c.code < UInt32.size) ∧
    (OpcodePair.decode p.encode = p ↔ p.first < 0x10000 ∧ p.second < 150) := by
  have htrigger : Function.LeftInverse Trigger.encode Trigger.decode := Trigger.encode_decode
  have hcondition : Function.LeftInverse CodedCondition.encode CodedCondition.decode :=
    CodedCondition.encode_decode
  exact ⟨⟨htrigger raw, htrigger.injective.eq_iff⟩, ⟨hcondition raw, hcondition.injective.eq_iff⟩,
    ⟨OpcodePair.encode_decode_iff raw, OpcodePair.decode_eq_decode_iff raw other⟩,
    Trigger.decode_encode_iff t, CodedCondition.decode_encode_iff c,
    OpcodePair.decode_encode_iff p⟩

/-- Not every number is recovered from its pair of commands.  The period stands for two opcodes of
zero, as zero does. -/
theorem not_packing_recovered :
    (¬∀ raw, (OpcodePair.decode raw).encode = raw) ∧ ¬Function.Injective OpcodePair.decode := by
  constructor
  · intro h
    exact absurd (h 9830400) (by decide)
  · intro h
    exact absurd (@h 9830400 0 (by decide)) (by decide)

end TextAdventure
