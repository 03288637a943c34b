import AirStation.Barometer.Calibration
import AirStation.Proofs.Frame.Sealed
import Mathlib.Algebra.Group.Nat.Defs
import Mathlib.Data.List.OfFn

/-! What is read out of the barometer's registers. The trimming words stand one after the other,
low byte first, and making bytes of them and reading them back undo each other. A channel has
three bytes and twenty bits, the upper ones of the three; what stands in the lower half of its
last byte is never seen. A raw word that is too long for a channel loses its upper bits. -/

namespace AirStation

/-! ### Words of two bytes -/

namespace Bytes

theorem toNat_littleEndian (low high : UInt8) :
    (littleEndian low high).toNat = low.toNat + 256 * high.toNat := by
  rw [littleEndian, toNat_bigEndian]
  omega

theorem littleEndian_toLittleEndian (w : UInt16) :
    littleEndian w.toUInt8 (w >>> 8).toUInt8 = w :=
  bigEndian_toBigEndian w

theorem toLittleEndian_littleEndian (low high : UInt8) :
    toLittleEndian (littleEndian low high) = [low, high] := by
  have hlt := UInt8.toNat_lt low
  have hlt' := UInt8.toNat_lt high
  have hword := toNat_littleEndian low high
  have hlow : (littleEndian low high).toUInt8 = low := by
    apply UInt8.toNat_inj.1
    rw [UInt16.toNat_toUInt8, hword]
    omega
  have hhigh : (littleEndian low high >>> 8).toUInt8 = high := by
    apply UInt8.toNat_inj.1
    simp only [UInt16.toNat_toUInt8, UInt16.toNat_shiftRight, UInt16.reduceToNat, Nat.reduceMod,
      Nat.shiftRight_eq_div_pow, hword]
    omega
  rw [toLittleEndian, hlow, hhigh]

end Bytes

namespace Barometer

open Bytes

/-! ### Trimming words -/

namespace Calibration

theorem toList_encode (c : Calibration) : c.encode.toList = c.words.flatMap toLittleEndian := rfl

theorem words_decode (b : Vector UInt8 24) :
    (decode b).words = List.ofFn fun i : Fin 12 => littleEndian b[2 * i.1] b[2 * i.1 + 1] := rfl

theorem decode_encode (c : Calibration) : decode c.encode = c := by
  simp [decode, encode, words, toLittleEndian, littleEndian_toLittleEndian]

theorem encode_decode (b : Vector UInt8 24) : (decode b).encode = b := by
  have hbytes : b.toList = List.ofFn fun i : Fin (12 * 2) => b[i] := calc
    b.toList = (Vector.ofFn fun i : Fin 24 => b[i]).toList :=
      congrArg Vector.toList Vector.ofFn_getElem.symm
    _ = List.ofFn fun i : Fin 24 => b[i] := Vector.toList_ofFn
  apply Vector.toList_inj.1
  -- both sides run through the words, two bytes at a time
  rw [toList_encode, words_decode, hbytes, List.ofFn_mul]
  simp [List.flatMap, toLittleEndian_littleEndian]

/-- Word number `i` of a block of trimming words. -/
def stored (b : Vector UInt8 24) (i : Fin 12) : Nat :=
  b[2 * i.1].toNat + 256 * b[2 * i.1 + 1].toNat

/-- The first word of each channel is plain, all others are signed. -/
theorem toList_decode (b : Vector UInt8 24) :
    (decode b).toList =
      List.ofFn fun i => if i = 0 ∨ i = 3 then (stored b i : Int)
        else (stored b i : Int).bmod 65536 := by
  have hsigned (w : UInt16) : w.toInt16.toInt = (w.toNat : Int).bmod 65536 :=
    BitVec.toInt_eq_toNat_bmod w.toBitVec
  simp [toList, decode, stored, List.ofFn_succ, hsigned, toNat_littleEndian]

end Calibration

/-! ### Samples -/

namespace RawSample

/-- The upper twenty of the twenty-four bits of a channel. -/
def upper (msb lsb xlsb : UInt8) : Nat :=
  (65536 * msb.toNat + 256 * lsb.toNat + xlsb.toNat) / 16

theorem upper_lt (msb lsb xlsb : UInt8) : upper msb lsb xlsb < 2 ^ 20 := by
  have hmsb := UInt8.toNat_lt msb
  have hlsb := UInt8.toNat_lt lsb
  have hxlsb := UInt8.toNat_lt xlsb
  rw [upper]
  omega

theorem upper_congr {xlsb xlsb' : UInt8} (msb lsb : UInt8) (h : xlsb >>> 4 = xlsb' >>> 4) :
    upper msb lsb xlsb = upper msb lsb xlsb' := by
  have hnat := congrArg UInt8.toNat h
  simp only [UInt8.toNat_shiftRight, UInt8.reduceToNat, Nat.reduceMod,
    Nat.shiftRight_eq_div_pow] at hnat
  rw [upper, upper]
  omega

theorem toNat_joined (msb lsb xlsb : UInt8) :
    (msb.toUInt32 <<< 12 ||| lsb.toUInt32 <<< 4 ||| xlsb.toUInt32 >>> 4).toNat =
      upper msb lsb xlsb := by
  have hmsb := UInt8.toNat_lt msb
  have hlsb := UInt8.toNat_lt lsb
  have hxlsb := UInt8.toNat_lt xlsb
  -- nothing is shifted out, and the three pieces do not overlap
  have hhigh : msb.toNat <<< 12 % 2 ^ 32 = (msb.toNat <<< 8) <<< 4 := by
    rw [Nat.shiftLeft_eq, Nat.shiftLeft_eq, Nat.shiftLeft_eq]
    omega
  have hmid : lsb.toNat <<< 4 % 2 ^ 32 = lsb.toNat <<< 4 := by
    rw [Nat.shiftLeft_eq]
    omega
  have hlow : xlsb.toNat >>> 4 < 2 ^ 4 := by
    rw [Nat.shiftRight_eq_div_pow]
    omega
  simp only [UInt32.toNat_or, UInt32.toNat_shiftLeft, UInt32.toNat_shiftRight,
    UInt8.toNat_toUInt32, UInt32.reduceToNat, Nat.reduceMod, hhigh, hmid]
  rw [← Nat.shiftLeft_or_distrib, ← Nat.shiftLeft_add_eq_or_of_lt hlow,
    ← Nat.shiftLeft_add_eq_or_of_lt hlsb]
  simp only [Nat.shiftLeft_eq, Nat.shiftRight_eq_div_pow, upper]
  omega

theorem toInt_join (msb lsb xlsb : UInt8) : (join msb lsb xlsb).toInt = upper msb lsb xlsb := by
  have hbits (w : UInt32) : w.toInt32.toInt = (w.toNat : Int).bmod (2 ^ 32) :=
    BitVec.toInt_eq_toNat_bmod w.toBitVec
  have hlt := upper_lt msb lsb xlsb
  rw [join, hbits, toNat_joined]
  apply Int.bmod_eq_of_le <;> omega

theorem join_bounds (msb lsb xlsb : UInt8) :
    0 ≤ (join msb lsb xlsb).toInt ∧ (join msb lsb xlsb).toInt < 0x100000 := by
  have hlt := upper_lt msb lsb xlsb
  rw [toInt_join]
  omega

theorem join_congr {xlsb xlsb' : UInt8} (msb lsb : UInt8) (h : xlsb >>> 4 = xlsb' >>> 4) :
    join msb lsb xlsb = join msb lsb xlsb' := by
  apply Int32.toInt_inj.1
  rw [toInt_join, toInt_join, upper_congr msb lsb h]

theorem join_eq_skipped_iff (msb lsb xlsb : UInt8) :
    join msb lsb xlsb = skipped ↔ upper msb lsb xlsb = 0x80000 := by
  have hskipped : skipped.toInt = 0x80000 := rfl
  rw [← Int32.toInt_inj, toInt_join, hskipped]
  omega

theorem upper_split (w : UInt32) :
    upper (w >>> 12).toUInt8 (w >>> 4).toUInt8 ((w &&& 0x0F) <<< 4).toUInt8 =
      w.toNat % 2 ^ 20 := by
  have hmask (n : Nat) : n &&& 15 = n % 16 := Nat.and_two_pow_sub_one_eq_mod n 4
  simp only [upper, UInt32.toNat_toUInt8, UInt32.toNat_shiftRight, UInt32.toNat_shiftLeft,
    UInt32.toNat_and, UInt32.reduceToNat, Nat.reduceMod, hmask, Nat.shiftRight_eq_div_pow,
    Nat.shiftLeft_eq]
  omega

end RawSample

namespace Calibration

/-- What the pressure formula divides by. -/
def divisor (c : Calibration) (raw : RawSample) : Float :=
  let (v1, v2) := c.temperatureTerms raw.temperature.toFloat
  (c.pressureTerms (v1 + v2).toInt32.toFloat).1

theorem compensate_eq_none_iff (c : Calibration) (raw : RawSample) :
    c.compensate raw = none ↔ raw.hasSkipped = true ∨ (c.divisor raw == 0.0) = true := by
  unfold compensate divisor
  by_cases hskip : raw.hasSkipped = true
  · simp [hskip]
  · simp [hskip]

end Calibration

/-! ### Whole blocks -/

namespace RawSample

/-- One of the two channels in six data registers was skipped. -/
def SkipsOne (b : Vector UInt8 6) : Prop :=
  upper (b.get 0) (b.get 1) (b.get 2) = 0x80000 ∨ upper (b.get 3) (b.get 4) (b.get 5) = 0x80000

/-- What is made of six data registers, whatever they hold. Those that differ only in the lower
half of the last byte of a channel are the same sample. -/
structure Sampled (b : Vector UInt8 6) : Prop where
  pressure : (decode b).pressure.toInt = upper (b.get 0) (b.get 1) (b.get 2)
  temperature : (decode b).temperature.toInt = upper (b.get 3) (b.get 4) (b.get 5)
  pressure_bounds : 0 ≤ (decode b).pressure.toInt ∧ (decode b).pressure.toInt < 0x100000
  temperature_bounds : 0 ≤ (decode b).temperature.toInt ∧ (decode b).temperature.toInt < 0x100000
  unseen (b' : Vector UInt8 6) : (∀ i, i ≠ 2 → i ≠ 5 → b'.get i = b.get i) →
    b'.get 2 >>> 4 = b.get 2 >>> 4 → b'.get 5 >>> 4 = b.get 5 >>> 4 → decode b' = decode b
  skipped_iff : (decode b).hasSkipped = true ↔ SkipsOne b
  rejected_iff (c : Calibration) :
    c.compensate (decode b) = none ↔ SkipsOne b ∨ (c.divisor (decode b) == 0.0) = true

theorem decode_eq (b : Vector UInt8 6) :
    decode b = ⟨join (b.get 0) (b.get 1) (b.get 2), join (b.get 3) (b.get 4) (b.get 5)⟩ := rfl

theorem hasSkipped_iff (b : Vector UInt8 6) : (decode b).hasSkipped = true ↔ SkipsOne b := by
  rw [decode_eq, hasSkipped, Bool.or_eq_true, beq_iff_eq, beq_iff_eq, or_comm,
    join_eq_skipped_iff, join_eq_skipped_iff, SkipsOne]

theorem sampled (b : Vector UInt8 6) : Sampled b where
  pressure := toInt_join _ _ _
  temperature := toInt_join _ _ _
  pressure_bounds := join_bounds _ _ _
  temperature_bounds := join_bounds _ _ _
  unseen b' hsame hpressure htemperature := by
    rw [decode_eq, decode_eq, join_congr _ _ hpressure, join_congr _ _ htemperature,
      hsame 0 (by decide) (by decide), hsame 1 (by decide) (by decide),
      hsame 3 (by decide) (by decide), hsame 4 (by decide) (by decide)]
  skipped_iff := hasSkipped_iff b
  rejected_iff c := by
    rw [Calibration.compensate_eq_none_iff, hasSkipped_iff]

end RawSample

/-- The trimming words and the samples are read as they are written, whatever they are. -/
theorem registers_read_back :
    (∀ c : Calibration, Calibration.decode c.encode = c) ∧
      (∀ b : Vector UInt8 24, (Calibration.decode b).encode = b ∧
        (Calibration.decode b).toList =
          List.ofFn fun i => if i = 0 ∨ i = 3 then (Calibration.stored b i : Int)
            else (Calibration.stored b i : Int).bmod 65536) ∧
      (∀ p t : UInt32,
        let raw := RawSample.decode ⟨(RawSample.split p ++ RawSample.split t).toArray, rfl⟩
        raw.pressure.toInt = (p.toNat % 2 ^ 20 : Nat) ∧
          raw.temperature.toInt = (t.toNat % 2 ^ 20 : Nat)) ∧
      ∀ b : Vector UInt8 6, RawSample.Sampled b := by
  refine ⟨Calibration.decode_encode, fun b => ?_, fun p t => ?_, RawSample.sampled⟩
  · exact ⟨Calibration.encode_decode b, Calibration.toList_decode b⟩
  · constructor
    · rw [← RawSample.upper_split p]
      exact RawSample.toInt_join _ _ _
    · rw [← RawSample.upper_split t]
      exact RawSample.toInt_join _ _ _

/-- Data registers of a part that does not measure the pressure. -/
def pressureless : Vector UInt8 6 := #v[0x80, 0, 0, 0x7E, 0xED, 0]

/-- The same with something in the lower halves of the last bytes. -/
def pressureless' : Vector UInt8 6 := #v[0x80, 0, 0x0F, 0x7E, 0xED, 0x09]

theorem registers_read_back_pressureless :
    (∀ c : Calibration, c.compensate (RawSample.decode pressureless) = none) ∧
      RawSample.decode pressureless' = RawSample.decode pressureless := by
  have hsampled := registers_read_back.2.2.2 pressureless
  constructor
  · intro c
    exact (hsampled.rejected_iff c).2 (.inl (.inl rfl))
  · exact hsampled.unseen pressureless' (by decide) rfl rfl

end Barometer

end AirStation
