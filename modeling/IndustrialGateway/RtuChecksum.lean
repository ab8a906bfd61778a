import IndustrialGateway.Lib.ShiftRegister
import IndustrialGateway.RtuFraming

/-!
# Detected errors

The CRC of a frame is the checksum of a shift register. A frame that passes the
check leaves the register empty, and one that differs from it within two
neighbouring bytes does not.
-/

namespace IndustrialGateway

namespace RtuMonitor

open ShiftRegister

def polynomial : BitVec 16 := 0xA001

theorem toBitVec_crcShift (crc : UInt16) :
    (crcShift crc).toBitVec = shift polynomial crc.toBitVec := by
  have hlow : crc &&& 1 = 1 ↔ crc.toBitVec.getLsbD 0 = true := by
    rw [← UInt16.toNat_inj, UInt16.toNat_and, BitVec.getLsbD, Nat.testBit_zero, decide_eq_true_eq]
    exact Iff.of_eq (congrArg (· = 1) (Nat.and_one_is_mod _))
  by_cases h : crc &&& 1 = 1
  · rw [crcShift, if_pos h, shift, if_pos (hlow.mp h)]
    rfl
  · rw [crcShift, if_neg h, shift, if_neg (mt hlow.mpr h)]
    rfl

theorem toBitVec_crcByte (crc : UInt16) (byte : UInt8) :
    (crcByte crc byte).toBitVec = feed polynomial crc.toBitVec byte.toBitVec := by
  have hiterate (n : Nat) (crc : UInt16) :
      (crcShift^[n] crc).toBitVec = (shift polynomial)^[n] crc.toBitVec := by
    induction n generalizing crc with
    | zero => rfl
    | succ n ih => rw [Function.iterate_succ_apply, Function.iterate_succ_apply, ih, toBitVec_crcShift]
  exact hiterate 8 _

theorem toBitVec_crc (crc : UInt16) (data : List UInt8) :
    (data.foldl crcByte crc).toBitVec =
      checksum polynomial crc.toBitVec (data.map UInt8.toBitVec) := by
  induction data generalizing crc with
  | nil => rfl
  | cons byte data ih => rw [List.foldl_cons, ih, toBitVec_crcByte, List.map_cons, checksum_cons]

theorem toBitVec_actualCrc (data : List UInt8) (low high : UInt8) :
    (actualCrc (data ++ [low, high])).toBitVec = twoSymbols 16 low.toBitVec high.toBitVec := by
  have hlow : byteAt (data ++ [low, high]) ((data ++ [low, high]).length - 2) = low := by
    simp [byteAt]
  have hhigh : byteAt (data ++ [low, high]) ((data ++ [low, high]).length - 1) = high := by
    simp [byteAt]
  rw [actualCrc, hlow, hhigh, twoSymbols]
  refine BitVec.eq_of_getLsbD_eq fun i hi => ?_
  by_cases h : i < 8
  · simp [h]
  · have habove : low.toBitVec.getLsbD i = false := BitVec.getLsbD_of_ge _ _ (by omega)
    simp [h, habove]

theorem exists_two {frame : List UInt8} {i : Nat} (h : i + 2 ≤ frame.length) :
    ∃ low high, frame = frame.take i ++ low :: high :: frame.drop (i + 2) := by
  refine ⟨frame[i], frame[i + 1], ?_⟩
  rw [← List.drop_eq_getElem_cons, ← List.drop_eq_getElem_cons, List.take_append_drop]

/-- A frame passes the check exactly when its own CRC is zero. -/
theorem crc_ok_iff {frame : List UInt8} (hlength : 2 ≤ frame.length) :
    expectedCrc frame = actualCrc frame ↔ crc16Modbus frame = 0 := by
  have hlast : frame.length - 2 + 2 ≤ frame.length := by omega
  obtain ⟨low, high, hframe⟩ := exists_two hlast
  rw [List.drop_eq_nil_of_le (by omega)] at hframe
  generalize frame.take (frame.length - 2) = data at hframe
  subst hframe
  have hdata : expectedCrc (data ++ [low, high]) = crc16Modbus data := by
    simp [expectedCrc]
  rw [hdata, ← UInt16.toBitVec_inj, ← UInt16.toBitVec_inj, toBitVec_actualCrc, crc16Modbus, crc16Modbus,
    toBitVec_crc, toBitVec_crc, List.map_append]
  exact (checksum_trailer polynomial (by decide) (by decide) _ _ _ _).symm

/-- Two sequences with one CRC that differ within the bytes `i` and `i + 1` at most
are the same. -/
theorem crc_burst {f g : List UInt8} (hlength : g.length = f.length) {i : Nat} (hi : i + 2 ≤ f.length)
    (hwithin : ∀ j, j ≠ i → j ≠ i + 1 → g[j]? = f[j]?) (hcrc : crc16Modbus g = crc16Modbus f) :
    g = f := by
  have hbefore : g.take i = f.take i := by
    refine List.ext_getElem? fun j => ?_
    rw [List.getElem?_take, List.getElem?_take]
    split
    · exact hwithin j (by omega) (by omega)
    · rfl
  have hafter : g.drop (i + 2) = f.drop (i + 2) := by
    refine List.ext_getElem? fun j => ?_
    rw [List.getElem?_drop, List.getElem?_drop]
    exact hwithin _ (by omega) (by omega)
  obtain ⟨low, high, hf⟩ := exists_two hi
  obtain ⟨low', high', hg⟩ := exists_two (hi.trans hlength.ge)
  rw [hbefore, hafter] at hg
  have hpieces : crc16Modbus (f.take i ++ low' :: high' :: f.drop (i + 2)) =
      crc16Modbus (f.take i ++ low :: high :: f.drop (i + 2)) := by
    rw [← hf, ← hg, hcrc]
  rw [← UInt16.toBitVec_inj, crc16Modbus, crc16Modbus, toBitVec_crc, toBitVec_crc, List.map_append,
    List.map_append, List.map_cons, List.map_cons, List.map_cons, List.map_cons] at hpieces
  obtain ⟨hlow, hhigh⟩ := checksum_burst polynomial (by decide) (by decide) _ _ _ hpieces
  rw [hg, UInt8.toBitVec_inj.mp hlow, UInt8.toBitVec_inj.mp hhigh, ← hf]

/-- A frame that differs from one that passes the check within the bytes `i` and
`i + 1` is refused. -/
theorem parseRtuFrame_changed {f g : List UInt8} (hlength : 4 ≤ f.length)
    (hpass : expectedCrc f = actualCrc f) (hsame : g.length = f.length) (hne : g ≠ f) {i : Nat}
    (hwithin : ∀ j, j ≠ i → j ≠ i + 1 → g[j]? = f[j]?) :
    parseRtuFrame g = .error (valueError ("CRC mismatch: expected 0x" ++
      hexText 4 (expectedCrc g).toNat ++ ", got 0x" ++ hexText 4 (actualCrc g).toNat)) := by
  have hmismatch : expectedCrc g ≠ actualCrc g := by
    intro hg
    rw [crc_ok_iff (by omega)] at hpass hg
    have hcrc : crc16Modbus g = crc16Modbus f := hg.trans hpass.symm
    by_cases hi : i + 2 ≤ f.length
    · exact hne (crc_burst hsame hi hwithin hcrc)
    · -- the second of the two bytes is not there
      refine hne (crc_burst (i := f.length - 2) hsame (by omega) (fun j hj hj' => ?_) hcrc)
      by_cases hlast : j < f.length
      · exact hwithin j (by omega) (by omega)
      · rw [List.getElem?_eq_none (by omega), List.getElem?_eq_none (by omega)]
  rw [parseRtuFrame, if_neg (by omega), if_pos hmismatch]

/-- The response of the repository's test, and the same with two changed bytes. -/
theorem response_changed :
    parseRtuFrame [0x01, 0x03, 0x04, 0x00, 0x7C, 0xFF, 0x2D, 0x4A, 0x37] =
      .error (valueError ("CRC mismatch: expected 0x" ++
        hexText 4 (expectedCrc [0x01, 0x03, 0x04, 0x00, 0x7C, 0xFF, 0x2D, 0x4A, 0x37]).toNat ++
        ", got 0x" ++
        hexText 4 (actualCrc [0x01, 0x03, 0x04, 0x00, 0x7C, 0xFF, 0x2D, 0x4A, 0x37]).toNat)) :=
  parseRtuFrame_changed (f := [0x01, 0x03, 0x04, 0x00, 0x7B, 0x00, 0x2D, 0x4A, 0x37]) (i := 4)
    (by decide) (by decide +kernel) rfl (by decide) fun j hi hi' => by
      match j with
      | 0 | 1 | 2 | 3 | 6 | 7 | 8 => rfl
      | 4 => exact absurd rfl hi
      | 5 => exact absurd rfl hi'
      | j + 9 => rfl

end RtuMonitor

end IndustrialGateway
