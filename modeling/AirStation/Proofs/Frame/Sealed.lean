import AirStation.Simulation.Uart

/-! Frames of the simulated sensors. A frame that was made for a reading decodes to it, and with
its last byte spoiled it never passes its check. -/

namespace AirStation

namespace Bytes

theorem toNat_bigEndian (high low : UInt8) :
    (bigEndian high low).toNat = high.toNat * 256 + low.toNat := by
  have hhigh := UInt8.toNat_lt high
  have hlow := UInt8.toNat_lt low
  have hshift : high.toNat <<< 8 % 2 ^ 16 = high.toNat <<< 8 := by
    rw [Nat.shiftLeft_eq]
    omega
  simp only [bigEndian, UInt16.toNat_or, UInt16.toNat_shiftLeft, UInt8.toNat_toUInt16]
  have h8 : (8 : UInt16).toNat % 16 = 8 := rfl
  rw [h8, hshift, ← Nat.shiftLeft_add_eq_or_of_lt hlow, Nat.shiftLeft_eq]

theorem bigEndian_toBigEndian (w : UInt16) :
    bigEndian (toBigEndian w).1 (toBigEndian w).2 = w := by
  have hlt := UInt16.toNat_lt w
  refine UInt16.toNat_inj.1 ?_
  rw [toNat_bigEndian, toBigEndian]
  simp only [UInt16.toNat_toUInt8, UInt16.toNat_shiftRight]
  have h8 : (8 : UInt16).toNat % 16 = 8 := rfl
  rw [h8, Nat.shiftRight_eq_div_pow]
  omega

/-- A word with another low byte is another word. -/
theorem bigEndian_right_inj {high low low' : UInt8}
    (h : bigEndian high low = bigEndian high low') : low = low' := by
  have hnat := congrArg UInt16.toNat h
  rw [toNat_bigEndian, toNat_bigEndian] at hnat
  exact UInt8.toNat_inj.1 (Nat.add_left_cancel hnat)

end Bytes

/-! ### A spoiled last byte -/

namespace Simulation.Uart

theorem length_spoil (bs : Bytes) : (spoil bs).length = bs.length := by
  induction bs using spoil.induct with
  | case1 => rfl
  | case2 b => rfl
  | case3 b bs hne ih =>
    cases bs with
    | nil => exact absurd rfl hne
    | cons c bs => exact congrArg (· + 1) ih

theorem spoil_concat (bs : Bytes) (b : UInt8) : spoil (bs ++ [b]) = bs ++ [b ^^^ 0x5A] := by
  induction bs with
  | nil => rfl
  | cons c bs ih =>
    have hne : bs ++ [b] ≠ [] := by simp
    cases h : bs ++ [b] with
    | nil => exact absurd h hne
    | cons d ds =>
      rw [List.cons_append, h, spoil, ← h, ih]
      · rfl
      · simp

variable {n : Nat} {v e : Vector UInt8 (n + 1)}

theorem toList_eq_concat (e : Vector UInt8 (n + 1)) : e.toList = e.toList.take n ++ [e[n]] := by
  have hn : n < e.toList.length := by simp
  have hlast : e[n] = e.toList[n] := by simp
  rw [hlast, List.take_append_getElem, List.take_of_length_le (by simp)]

theorem toList_of_spoiled (h : v.toList = spoil e.toList) :
    v.toList = e.toList.take n ++ [e[n] ^^^ 0x5A] := by
  exact h.trans ((congrArg spoil (toList_eq_concat e)).trans (spoil_concat _ _))

theorem take_of_spoiled (h : v.toList = spoil e.toList) : v.toList.take n = e.toList.take n := by
  rw [toList_of_spoiled h, List.take_left' (by simp)]

theorem last_of_spoiled (h : v.toList = spoil e.toList) : v[n] = e[n] ^^^ 0x5A := by
  have hlists := (toList_eq_concat v).symm.trans (toList_of_spoiled h)
  exact List.singleton_inj.1 (List.append_inj_right hlists (by simp))

theorem xor_ne (b : UInt8) : b ^^^ 0x5A ≠ b := by
  intro h
  have hzero : b ^^^ (b ^^^ 0x5A) = 0 := by rw [h, UInt8.xor_self]
  rw [← UInt8.xor_assoc, UInt8.xor_self, UInt8.zero_xor] at hzero
  exact absurd hzero (by decide)

end Simulation.Uart

/-! ### Carbon dioxide -/

namespace Co2Frame

/-- The body stands before the last byte. -/
theorem body_eq (f : Raw) : body f = (f.toList.take 8).drop 1 := by
  rw [List.drop_take]
  rfl

theorem checksum_congr {f g : Raw} (h : f.toList.take 8 = g.toList.take 8) :
    checksum f = checksum g := by
  rw [checksum, checksum, body_eq, body_eq, h]

theorem checksum_sealed (f : Raw) : checksum (sealed f) = checksum f := by
  refine checksum_congr ?_
  rw [sealed, Vector.toList_set, List.take_set_of_le (Nat.le_refl 8)]

theorem decode_encode (ppm : UInt16) : decode (encode ppm) = .ok ⟨ppm⟩ := by
  have hppm : Co2Frame.ppm (encode ppm) = ppm := Bytes.bigEndian_toBigEndian ppm
  have hseal : checksum (encode ppm) = (encode ppm)[8] :=
    (checksum_sealed _).trans (Vector.getElem_set_self _).symm
  rw [decode, if_pos hseal, hppm]

theorem decode_spoiled {ppm : UInt16} {f : Raw}
    (h : f.toList = Simulation.Uart.spoil (encode ppm).toList) : ∃ e, decode f = .error e := by
  have hcongr : checksum f = checksum (encode ppm) :=
    checksum_congr (Simulation.Uart.take_of_spoiled h)
  have hsum : checksum f = (encode ppm)[8] :=
    (hcongr.trans (checksum_sealed _)).trans (Vector.getElem_set_self _).symm
  have hlast : f[8] = (encode ppm)[8] ^^^ 0x5A := Simulation.Uart.last_of_spoiled h
  have hne : checksum f ≠ f[8] := by
    rw [hsum, hlast]
    exact (Simulation.Uart.xor_ne _).symm
  exact ⟨_, if_neg hne⟩

end Co2Frame

/-! ### Particles -/

namespace DustFrame

theorem computed_congr {f g : Raw} (h : f.toList.take 30 = g.toList.take 30) :
    computed f = computed g := by
  rw [computed, computed, body, body, h]

theorem carried_writeWord (f : Raw) (w : UInt16) : carried (writeWord f 30 w) = w := by
  have hhigh : (writeWord f 30 w)[30] = (Bytes.toBigEndian w).1 := by
    simp [writeWord]
  have hlow : (writeWord f 30 w)[31] = (Bytes.toBigEndian w).2 := by
    simp [writeWord]
  rw [carried, hhigh, hlow, Bytes.bigEndian_toBigEndian]

theorem carried_sealed (f : Raw) : carried (sealed f) = computed (sealed f) := by
  rw [sealed, carried_writeWord]
  refine computed_congr ?_
  rw [writeWord, Vector.toList_set, Vector.toList_set, List.take_set_of_le (by decide),
    List.take_set_of_le (by decide)]

/-- The readings stand clear of the trailer and of each other. -/
theorem particulates_sealed (f : Raw) (p : Particulates) :
    particulates (sealed (withParticulates f p)) = p := by
  have h12 : (sealed (withParticulates f p))[12] = (Bytes.toBigEndian p.pm25).1 := by
    simp [sealed, withParticulates, writeWord]
  have h13 : (sealed (withParticulates f p))[13] = (Bytes.toBigEndian p.pm25).2 := by
    simp [sealed, withParticulates, writeWord]
  have h14 : (sealed (withParticulates f p))[14] = (Bytes.toBigEndian p.pm100).1 := by
    simp [sealed, withParticulates, writeWord]
  have h15 : (sealed (withParticulates f p))[15] = (Bytes.toBigEndian p.pm100).2 := by
    simp [sealed, withParticulates, writeWord]
  rw [particulates, h12, h13, h14, h15, Bytes.bigEndian_toBigEndian,
    Bytes.bigEndian_toBigEndian]

theorem decode_encode (p : Particulates) : decode (encode p) = .ok p := by
  have hseal : computed (encode p) = carried (encode p) := (carried_sealed _).symm
  rw [decode, if_pos hseal, encode, particulates_sealed]

theorem decode_spoiled {p : Particulates} {f : Raw}
    (h : f.toList = Simulation.Uart.spoil (encode p).toList) : ∃ e, decode f = .error e := by
  have htake : f.toList.take 31 = (encode p).toList.take 31 := Simulation.Uart.take_of_spoiled h
  have hsum : computed f = carried (encode p) := by
    refine Eq.trans (computed_congr ?_) (carried_sealed _).symm
    have hless := congrArg (List.take 30) htake
    rwa [List.take_take, List.take_take] at hless
  have hhigh : f[30] = (encode p)[30] := by
    have hat := congrArg (·[30]?) htake
    simpa using hat
  have hlast : f[31] = (encode p)[31] ^^^ 0x5A := Simulation.Uart.last_of_spoiled h
  have hne : computed f ≠ carried f := by
    rw [hsum, carried, carried, hhigh, hlast]
    exact fun h => Simulation.Uart.xor_ne _ (Bytes.bigEndian_right_inj h).symm
  exact ⟨_, if_neg hne⟩

end DustFrame

/-! ### Models and their codecs -/

/-- A simulated sensor answers with frames its codec reads back, and refuses when spoiled. -/
structure Simulation.Model.Faithful {ρ : Type} (m : Simulation.Model ρ) : Prop where
  size_pos : 0 < m.codec.size
  request_ne_nil : m.codec.request ≠ []
  decode_encode (r : ρ) : m.codec.decode (m.encode r) = .ok r
  decode_spoiled {r : ρ} {v : Vector UInt8 m.codec.size} :
    v.toList = Simulation.Uart.spoil (m.encode r).toList → ∃ e, m.codec.decode v = .error e

theorem Simulation.co2Model_faithful : co2Model.Faithful where
  size_pos := Nat.succ_pos 8
  request_ne_nil := List.cons_ne_nil _ _
  decode_encode r := by
    dsimp only [co2Model, Co2Frame.codec]
    exact Co2Frame.decode_encode r.ppm
  decode_spoiled {r v} h := by
    dsimp only [co2Model, Co2Frame.codec] at h ⊢
    exact Co2Frame.decode_spoiled h

theorem Simulation.dustModel_faithful : dustModel.Faithful where
  size_pos := Nat.succ_pos 31
  request_ne_nil := List.cons_ne_nil _ _
  decode_encode r := by
    dsimp only [dustModel, DustFrame.codec]
    exact DustFrame.decode_encode r
  decode_spoiled {r v} h := by
    dsimp only [dustModel, DustFrame.codec] at h ⊢
    exact DustFrame.decode_spoiled h

end AirStation
