import AirStation.Proofs.Frame.Sealed

/-! What the two frame formats accept, exactly. A sum of bytes is taken without wrapping, and
every condition is stated in it: thirty bytes never wrap a sum of sixteen bits, and one byte
that changes moves the sum by less than 256, so neither check overlooks a single altered byte.
The start byte of a carbon dioxide answer is outside of its check. -/

namespace AirStation

/-! ### Sums of bytes -/

namespace Bytes

/-- The sum of the bytes, without wrapping. -/
def total : Bytes → Nat
  | [] => 0
  | b :: bs => b.toNat + total bs

theorem total_concat (bs : Bytes) (b : UInt8) : total (bs ++ [b]) = total bs + b.toNat := by
  induction bs with
  | nil => exact Nat.add_comm _ _
  | cons c bs ih => rw [List.cons_append, total, ih, total, Nat.add_assoc]

theorem toNat_sum16 (bs : Bytes) : (sum16 bs).toNat = total bs % 65536 := by
  have hfold (acc : UInt16) : (bs.foldl (fun acc b => acc + b.toUInt16) acc).toNat =
      (acc.toNat + total bs) % 65536 := by
    induction bs generalizing acc with
    | nil => exact (Nat.mod_eq_of_lt (UInt16.toNat_lt acc)).symm
    | cons b bs ih =>
      rw [List.foldl_cons, ih, UInt16.toNat_add, UInt8.toNat_toUInt16, total]
      omega
  exact (hfold 0).trans (by simp)

theorem toNat_sum8 (bs : Bytes) : (sum8 bs).toNat = total bs % 256 := by
  have hfold (acc : UInt8) : (bs.foldl (· + ·) acc).toNat = (acc.toNat + total bs) % 256 := by
    induction bs generalizing acc with
    | nil => exact (Nat.mod_eq_of_lt (UInt8.toNat_lt acc)).symm
    | cons b bs ih =>
      rw [List.foldl_cons, ih, UInt8.toNat_add, total]
      omega
  exact (hfold 0).trans (by simp)

theorem total_le (bs : Bytes) : total bs ≤ 255 * bs.length := by
  induction bs with
  | nil => exact Nat.le_refl 0
  | cons b bs ih =>
    have hb := UInt8.toNat_lt b
    rw [total, List.length_cons]
    omega

/-- One byte in place of another moves the sum by their difference. -/
theorem total_set (bs : Bytes) {i : Nat} (hi : i < bs.length) (b : UInt8) :
    total (bs.set i b) + bs[i].toNat = total bs + b.toNat := by
  induction bs generalizing i with
  | nil => exact absurd hi (Nat.not_lt_zero i)
  | cons c bs ih =>
    cases i with
    | zero =>
      rw [List.set_cons_zero, List.getElem_cons_zero, total, total]
      omega
    | succ i =>
      have hrest := ih (Nat.lt_of_succ_lt_succ hi)
      rw [List.set_cons_succ, List.getElem_cons_succ, total, total]
      omega

variable {n : Nat}

/-- Two bytes of a frame as a number, the first one high. -/
def word (f : Vector UInt8 n) (i : Nat) (h : i + 1 < n := by decide) : Nat :=
  256 * f[i].toNat + f[i + 1].toNat

theorem toNat_word (f : Vector UInt8 n) (i : Nat) (h : i + 1 < n) :
    (bigEndian f[i] f[i + 1]).toNat = word f i h := by
  rw [toNat_bigEndian, Nat.mul_comm, word]

end Bytes

/-! ### Carbon dioxide -/

namespace Co2Frame

open Bytes

/-- What the check covers: all bytes but the first. -/
def covered (f : Raw) : Bytes := f.toList.drop 1

theorem covered_eq (f : Raw) : covered f = body f ++ [f.get 8] := by
  rw [covered, body_eq, Simulation.Uart.toList_eq_concat f, List.drop_append_of_le_length (by simp),
    List.take_left' (by simp)]
  rfl

theorem total_covered (f : Raw) : total (covered f) = total (body f) + (f.get 8).toNat := by
  rw [covered_eq, total_concat]

theorem toNat_checksum (f : Raw) : (checksum f).toNat = (256 - total (body f) % 256) % 256 := by
  have hlt := Nat.mod_lt (total (body f)) (show 256 > 0 by decide)
  have h255 : (0xFF : UInt8).toNat = 255 := rfl
  have h1 : (1 : UInt8).toNat = 1 := rfl
  rw [checksum, UInt8.toNat_add, UInt8.toNat_sub, toNat_sum8, h255, h1]
  omega

theorem checksum_eq_iff (f : Raw) : checksum f = f.get 8 ↔ total (covered f) % 256 = 0 := by
  have h8 := UInt8.toNat_lt (f.get 8)
  rw [← UInt8.toNat_inj, toNat_checksum, total_covered]
  omega

theorem decode_eq (f : Raw) :
    decode f = if checksum f = f.get 8 then .ok ⟨ppm f⟩
      else .error ⟨(checksum f).toUInt16, (f.get 8).toUInt16⟩ := rfl

theorem decode_eq_ok_iff (f : Raw) (r : CarbonDioxide) :
    decode f = .ok r ↔ total (covered f) % 256 = 0 ∧ r = ⟨ppm f⟩ := by
  rw [decode_eq, ← checksum_eq_iff]
  by_cases h : checksum f = f.get 8
  · simp [h, eq_comm]
  · simp [h]

theorem decode_eq_error_iff (f : Raw) (e : ChecksumMismatch) :
    decode f = .error e ↔
      total (covered f) % 256 ≠ 0 ∧ e = ⟨(checksum f).toUInt16, (f.get 8).toUInt16⟩ := by
  rw [decode_eq, Ne, ← checksum_eq_iff]
  by_cases h : checksum f = f.get 8
  · simp [h]
  · simp [h, eq_comm]

/-- An answer is judged by what its check covers. -/
theorem decode_congr {f g : Raw} (h : covered f = covered g) : decode f = decode g := by
  have hbody : body f = body g := congrArg (List.take 7) h
  have hat (i : Nat) (hi : i + 1 < 9) : f[i + 1] = g[i + 1] := by
    have hi' : i < 8 := by omega
    have hith := congrArg (·[i]?) h
    simpa [covered, Nat.add_comm 1 i, hi] using hith
  rw [decode, decode, checksum, checksum, ppm, ppm, hbody, hat 7, hat 1, hat 2]

theorem covered_set_zero (f : Raw) (b : UInt8) : covered (f.set 0 b) = covered f := by
  rw [covered, Vector.toList_set, List.drop_set, if_pos Nat.one_pos, covered]

theorem total_covered_set (f : Raw) {i : Nat} (hi : i + 1 < 9) (b : UInt8) :
    total (covered (f.set (i + 1) b)) + f[i + 1].toNat = total (covered f) + b.toNat := by
  have hset : covered (f.set (i + 1) b) = (covered f).set i b := by
    rw [covered, Vector.toList_set, List.drop_set, if_neg (by omega), Nat.add_sub_cancel, covered]
  have hlt : i < (covered f).length := by
    simp only [covered, List.length_drop, Vector.length_toList]
    omega
  have hbyte : (covered f)[i] = f[i + 1] := by
    simp [covered]
  rw [hset, ← hbyte]
  exact total_set _ hlt b

theorem toNat_ppm (f : Raw) : (ppm f).toNat = word f 2 := toNat_word f 2 (by decide)

theorem ppm_sealed (f : Raw) : ppm (sealed f) = ppm f := by
  simp [ppm, sealed]

/-- The checksum decides what becomes of an answer, whatever its bytes: when it passes, what is
then read, what is told of one that does not pass, what altering a byte does to one that passes,
and which ones pass by the way they were made. -/
structure ChecksumDecides (f : Raw) : Prop where
  accepted_iff : (∃ r, decode f = .ok r) ↔ total (covered f) % 256 = 0
  accepted (r : CarbonDioxide) : decode f = .ok r →
    r.ppm.toNat = word f 2
  refused (e : ChecksumMismatch) : decode f = .error e →
    e.computed.toNat = (256 - total (body f) % 256) % 256 ∧ e.carried.toNat = (f.get 8).toNat ∧
      e.computed ≠ e.carried
  altered (r : CarbonDioxide) : decode f = .ok r → ∀ (i : Nat) (hi : i < 9) (b : UInt8),
    0 < i → b ≠ f[i] → ∃ e, decode (f.set i b) = .error e
  restarted (b : UInt8) : decode (f.set 0 b) = decode f
  sealed (ppm : UInt16) : word f 2 = ppm.toNat → decode (sealed f) = .ok ⟨ppm⟩

/-- An answer passes exactly if what its check covers sums to zero. -/
theorem answers_checksumDecides (f : Raw) : ChecksumDecides f where
  accepted_iff := by
    simp only [decode_eq_ok_iff, exists_and_left, exists_eq, and_true]
  accepted r h := by
    obtain ⟨-, rfl⟩ := (decode_eq_ok_iff f r).1 h
    exact toNat_ppm f
  refused e h := by
    obtain ⟨hsum, rfl⟩ := (decode_eq_error_iff f e).1 h
    refine ⟨?_, UInt8.toNat_toUInt16 _, fun heq => hsum ?_⟩
    · rw [UInt8.toNat_toUInt16, toNat_checksum]
    · exact (checksum_eq_iff f).1 (UInt8.toUInt16_inj.1 heq)
  altered r h i hi b hpos hne := by
    obtain ⟨i, rfl⟩ : ∃ k, i = k + 1 := ⟨i - 1, by omega⟩
    have hzero := ((decode_eq_ok_iff f r).1 h).1
    have hmoved := total_covered_set f hi b
    have hne' : b.toNat ≠ f[i + 1].toNat := fun h => hne (UInt8.toNat_inj.1 h)
    have hb := UInt8.toNat_lt b
    have hf := UInt8.toNat_lt f[i + 1]
    exact ⟨_, (decode_eq_error_iff _ _).2 ⟨by omega, rfl⟩⟩
  restarted b := decode_congr (covered_set_zero f b)
  sealed w hppm := by
    obtain rfl : ppm f = w := UInt16.toNat_inj.1 ((toNat_ppm f).trans hppm)
    refine (decode_eq_ok_iff _ _).2 ⟨?_, by rw [ppm_sealed]⟩
    exact (checksum_eq_iff _).1 ((checksum_sealed f).trans (Vector.getElem_set_self _).symm)

/-- An answer that carries 800 ppm. -/
def eightHundred : Raw := #v[0xFF, 0x86, 0x03, 0x20, 0, 0, 0, 0, 0x57]

theorem answers_checksumDecides_eightHundred :
    decode eightHundred = .ok ⟨800⟩ ∧ ∀ (i : Nat) (hi : i < 9) (b : UInt8),
      0 < i → b ≠ eightHundred[i] → ∃ e, decode (eightHundred.set i b) = .error e :=
  ⟨rfl, (answers_checksumDecides eightHundred).altered ⟨800⟩ rfl⟩

end Co2Frame

/-! ### Particles -/

namespace DustFrame

open Bytes

theorem total_body_lt (f : Raw) : total (body f) < 65536 := by
  have hle := total_le (body f)
  have hlength : (body f).length = 30 := by simp [body]
  omega

theorem toNat_computed (f : Raw) : (computed f).toNat = total (body f) := by
  rw [computed, toNat_sum16, Nat.mod_eq_of_lt (total_body_lt f)]

theorem toNat_carried (f : Raw) : (carried f).toNat = word f 30 := toNat_word f 30 (by decide)

theorem computed_eq_iff (f : Raw) : computed f = carried f ↔ total (body f) = word f 30 := by
  rw [← UInt16.toNat_inj, toNat_computed, toNat_carried]

theorem decode_eq_ok_iff (f : Raw) (p : Particulates) :
    decode f = .ok p ↔ total (body f) = word f 30 ∧ p = particulates f := by
  rw [decode, ← computed_eq_iff]
  by_cases h : computed f = carried f
  · simp [h, eq_comm]
  · simp [h]

theorem decode_eq_error_iff (f : Raw) (e : ChecksumMismatch) :
    decode f = .error e ↔ total (body f) ≠ word f 30 ∧ e = ⟨computed f, carried f⟩ := by
  rw [decode, Ne, ← computed_eq_iff]
  by_cases h : computed f = carried f
  · simp [h]
  · simp [h, eq_comm]

/-- A byte of the body moves the sum and leaves the trailer alone. -/
theorem total_body_set (f : Raw) {i : Nat} (hi : i < 30) (b : UInt8) :
    total (body (f.set i b)) + f[i].toNat = total (body f) + b.toNat ∧
      word (f.set i b) 30 = word f 30 := by
  have hset : body (f.set i b) = (body f).set i b := by
    rw [body, Vector.toList_set, List.take_set, body]
  have hlt : i < (body f).length := by simpa [body] using by omega
  have hbyte : (body f)[i] = f[i] := by simp [body]
  constructor
  · rw [hset, ← hbyte]
    exact total_set _ hlt b
  · rw [word, word, Vector.getElem_set_ne _ _ (by omega), Vector.getElem_set_ne _ _ (by omega)]

/-- A byte of the trailer changes its value and leaves the sum alone. -/
theorem word_set (f : Raw) {i : Nat} (hi : i < 32) (h30 : 30 ≤ i) {b : UInt8} (hne : b ≠ f[i]) :
    body (f.set i b) = body f ∧ word (f.set i b) 30 ≠ word f 30 := by
  have hne' : b.toNat ≠ f[i].toNat := fun h => hne (UInt8.toNat_inj.1 h)
  constructor
  · rw [body, Vector.toList_set, List.take_set_of_le h30, body]
  · have hword : word f 30 = 256 * f[30].toNat + f[31].toNat := rfl
    obtain rfl | rfl : i = 30 ∨ i = 31 := by omega
    · have hhigh : word (f.set 30 b) 30 = 256 * b.toNat + f[31].toNat := by simp [word]
      omega
    · have hlow : word (f.set 31 b) 30 = 256 * f[30].toNat + b.toNat := by simp [word]
      omega

theorem decode_set {f : Raw} {p : Particulates} (h : decode f = .ok p) {i : Nat} (hi : i < 32)
    {b : UInt8} (hne : b ≠ f[i]) : ∃ e, decode (f.set i b) = .error e := by
  have hsum := ((decode_eq_ok_iff f p).1 h).1
  refine ⟨_, (decode_eq_error_iff _ _).2 ⟨?_, rfl⟩⟩
  rcases Nat.lt_or_ge i 30 with hbody | htrailer
  · obtain ⟨hmoved, hword⟩ := total_body_set f hbody b
    have hne' : b.toNat ≠ f[i].toNat := fun h => hne (UInt8.toNat_inj.1 h)
    omega
  · obtain ⟨hbody, hword⟩ := word_set f hi htrailer hne
    rw [hbody, hsum]
    exact hword.symm

/-- The checksum decides what becomes of a frame, whatever its bytes: when it passes, what is then
read, what is told of one that does not pass, what altering a byte does to one that passes, and
which ones pass by the way they were made. -/
structure ChecksumDecides (f : Raw) : Prop where
  unwrapped : total (body f) < 65536
  accepted_iff : (∃ p, decode f = .ok p) ↔ total (body f) = word f 30
  accepted (p : Particulates) : decode f = .ok p →
    p.pm25.toNat = word f 12 ∧ p.pm100.toNat = word f 14
  refused (e : ChecksumMismatch) : decode f = .error e →
    e.computed.toNat = total (body f) ∧ e.carried.toNat = word f 30
  altered (p : Particulates) : decode f = .ok p → ∀ (i : Nat) (hi : i < 32) (b : UInt8),
    b ≠ f[i] → ∃ e, decode (f.set i b) = .error e
  composed (p : Particulates) : word f 12 = p.pm25.toNat → word f 14 = p.pm100.toNat →
    word f 30 = (sum16 (body f)).toNat → decode f = .ok p
  sealed (p : Particulates) : decode (sealed (withParticulates f p)) = .ok p

theorem checksumDecides (f : Raw) : ChecksumDecides f where
  unwrapped := total_body_lt f
  accepted_iff := by
    simp only [decode_eq_ok_iff, exists_and_left, exists_eq, and_true]
  accepted p h := by
    obtain ⟨-, rfl⟩ := (decode_eq_ok_iff f p).1 h
    exact ⟨toNat_word f 12 (by decide), toNat_word f 14 (by decide)⟩
  refused e h := by
    obtain ⟨-, rfl⟩ := (decode_eq_error_iff f e).1 h
    exact ⟨toNat_computed f, toNat_carried f⟩
  altered p h i hi b hne := decode_set h hi hne
  composed p h25 h100 hsum := by
    have hpm25 : (particulates f).pm25 = p.pm25 :=
      UInt16.toNat_inj.1 ((toNat_word f 12 (by decide)).trans h25)
    have hpm100 : (particulates f).pm100 = p.pm100 :=
      UInt16.toNat_inj.1 ((toNat_word f 14 (by decide)).trans h100)
    have hp : p = particulates f := congr (congrArg Particulates.mk hpm25.symm) hpm100.symm
    have hfits : total (body f) = word f 30 := (toNat_computed f).symm.trans hsum.symm
    exact (decode_eq_ok_iff f p).2 ⟨hfits, hp⟩
  sealed p := by
    refine (decode_eq_ok_iff _ _).2 ⟨?_, (particulates_sealed f p).symm⟩
    exact (computed_eq_iff _).1 (carried_sealed _).symm

/-- A frame passes exactly if it carries the sum of what stands before its trailer; a frame made
for a reading does, whichever other bytes it was made from. -/
theorem frames_checksumDecides :
    (∀ f : Raw, ChecksumDecides f) ∧
      (∀ p : Particulates, encode p = sealed (withParticulates blank p) ∧
        Simulation.dustModel.encode p = sealed (withParticulates blank p)) ∧
      ∀ bs : Bytes, (sum16 bs).toNat = total bs % 65536 :=
  ⟨checksumDecides, fun _ => ⟨rfl, rfl⟩, toNat_sum16⟩

theorem frames_checksumDecides_encoded :
    decode (encode ⟨12, 34⟩) = .ok ⟨12, 34⟩ ∧ ∀ (i : Nat) (hi : i < 32) (b : UInt8),
      b ≠ (encode ⟨12, 34⟩)[i] → ∃ e, decode ((encode ⟨12, 34⟩).set i b) = .error e :=
  ⟨decode_encode _, (frames_checksumDecides.1 _).altered _ (decode_encode _)⟩

end DustFrame

end AirStation
