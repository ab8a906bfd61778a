import IndustrialGateway.ModbusFaults
import IndustrialGateway.ModbusGrouping
import IndustrialGateway.MqttRelay

/-!
# Registers at the other gateway

The whole way of a value: from the memory of a Modbus slave through the grouped read, the
queue, the publisher and the MQTT sink to the input of another gateway. The tag there
that names a tag of the slave has what the slave's registers decode to.
-/

namespace IndustrialGateway

open SinkPublisher LatestReadResultQueue OrderedDict

variable {F σ : Type}

namespace Modbus

-- ---------------------------------------------------------------------------
-- What registers decode to
-- ---------------------------------------------------------------------------

section

variable [PyRuntime F]

/-- Neither null nor a dictionary with a key twice. -/
def shows : PyValue F → Bool
  | .none => false
  | value => JsonReader.keyed value

omit [PyRuntime F] in
theorem shows_iff {value : PyValue F} :
    shows value = true ↔ value ≠ .none ∧ JsonReader.keyed value = true := by
  cases value <;> simp [shows]

theorem shows_decodeSingle {words : List UInt16} {tag : TagSpec F} {value : PyValue F}
    (h : decodeSingleRegisterValue words tag = .ok value) : shows value = true := by
  unfold decodeSingleRegisterValue at h
  dsimp only at h
  split at h
  · obtain ⟨register, -, h⟩ := bind_eq_ok.mp h
    cases h
    rfl
  split at h
  · obtain ⟨register, -, h⟩ := bind_eq_ok.mp h
    cases h
    rfl
  split at h
  · obtain ⟨register, -, h⟩ := bind_eq_ok.mp h
    cases h
    rfl
  split at h
  · cases h
    rfl
  split at h
  · cases h
    rfl
  split at h
  · cases h
    rfl
  split at h
  · obtain ⟨bits, -, h⟩ := bind_eq_ok.mp h
    cases h
    rfl
  split at h
  · obtain ⟨bits, -, h⟩ := bind_eq_ok.mp h
    cases h
    rfl
  · cases h

mutual
theorem keyed_applyScale {scale offset : F} : {value scaled : PyValue F} →
    applyScale scale offset value = .ok scaled → JsonReader.keyed value = true →
      JsonReader.keyed scaled = true
  | .int n, _, h, _ => by
    rw [applyScale] at h
    split at h
    · cases h
      rfl
    · cases h
  | .float x, _, h, _ => by
    cases h
    rfl
  | .list values, _, h, hkeyed => by
    rw [applyScale] at h
    obtain ⟨scaled, hscaled, h⟩ := bind_eq_ok.mp h
    cases h
    exact keyed_applyScaleList hscaled hkeyed
  | .none, _, h, hkeyed => by cases h; exact hkeyed
  | .bool _, _, h, hkeyed => by cases h; exact hkeyed
  | .str _, _, h, hkeyed => by cases h; exact hkeyed
  | .dict _, _, h, hkeyed => by cases h; exact hkeyed
  | .object _ _, _, h, hkeyed => by cases h; exact hkeyed
theorem keyed_applyScaleList {scale offset : F} : {values scaled : List (PyValue F)} →
    applyScaleList scale offset values = .ok scaled → JsonReader.keyedList values = true →
      JsonReader.keyedList scaled = true
  | [], _, h, _ => by
    cases h
    rfl
  | value :: values, _, h, hkeyed => by
    rw [applyScaleList] at h
    obtain ⟨first, hfirst, h⟩ := bind_eq_ok.mp h
    obtain ⟨rest, hrest, h⟩ := bind_eq_ok.mp h
    cases h
    rw [JsonReader.keyedList, Bool.and_eq_true] at hkeyed ⊢
    exact ⟨keyed_applyScale hfirst hkeyed.1, keyed_applyScaleList hrest hkeyed.2⟩
end

theorem shows_applyScale {scale offset : F} {value scaled : PyValue F}
    (h : applyScale scale offset value = .ok scaled) (hshows : shows value = true) :
    shows scaled = true := by
  obtain ⟨hne, hkeyed⟩ := shows_iff.mp hshows
  refine shows_iff.mpr ⟨?_, keyed_applyScale h hkeyed⟩
  rintro rfl
  cases value with
  | none => exact hne rfl
  | int n =>
    rw [applyScale] at h
    split at h <;> cases h
  | list values =>
    rw [applyScale] at h
    obtain ⟨rest, -, h⟩ := bind_eq_ok.mp h
    cases h
  | _ => cases h

theorem shows_decodeRegisters {words : List UInt16} {tag : TagSpec F} {value : PyValue F}
    (h : decodeRegisters words tag = .ok value) : shows value = true := by
  unfold decodeRegisters at h
  by_cases hmany : tag.dataType ≠ "string" ∧ 1 < valueCount tag
  · rw [if_pos hmany] at h
    split at h
    · cases h
    · obtain ⟨values, hvalues, h⟩ := bind_eq_ok.mp h
      cases h
      exact JsonReader.keyedList_iff.mpr (all_of_mapM
        (fun _ _ _ h => (shows_iff.mp (shows_decodeSingle h)).2) hvalues)
  · rw [if_neg hmany] at h
    split at h
    · cases h
    · exact shows_decodeSingle h

theorem shows_memory (m : Memory) {defaultUnitId : Int} {tag : TagSpec F} {value : PyValue F}
    (h : m.value defaultUnitId tag = .ok value) : shows value = true := by
  have hregisters : ∀ words block, decodeRegisterTag words block tag = .ok value →
      shows value = true := by
    intro words block h
    obtain ⟨decoded, hdecoded, h⟩ := bind_eq_ok.mp h
    exact shows_applyScale h (shows_decodeRegisters hdecoded)
  have hbits : ∀ bits block, decodeBitTag bits block tag = .ok value → shows value = true := by
    intro bits block h
    unfold decodeBitTag at h
    dsimp only at h
    split at h
    · cases h
    split at h
    · cases h
      rfl
    · cases h
      refine JsonReader.keyedList_iff.mpr fun value hvalue => ?_
      obtain ⟨b, -, rfl⟩ := List.mem_map.mp hvalue
      rfl
  unfold Memory.value at h
  dsimp only at h
  split at h
  · exact hregisters _ _ h
  split at h
  · exact hregisters _ _ h
  split at h
  · exact hbits _ _ h
  split at h
  · exact hbits _ _ h
  · cases h

end

-- ---------------------------------------------------------------------------
-- The results of a poll
-- ---------------------------------------------------------------------------

section

variable [PyRuntime F] {tags : List (TagSpec F)}

/-- The result of a tag is what its own registers decode to. -/
def ReadsMemory (m : Memory) (defaultUnitId : Int) (tag : TagSpec F) (r : TagResult F) : Prop :=
  ∃ t, r = tagResult tag t (m.value defaultUnitId tag)

theorem ReadsMemory.identity {m : Memory} {defaultUnitId : Int} {tag : TagSpec F} {r : TagResult F}
    (h : ReadsMemory m defaultUnitId tag r) : r.name = tag.name ∧ r.nodeId = none := by
  obtain ⟨t, rfl⟩ := h
  exact ⟨(tagResult_identity tag t _).1, (tagResult_identity tag t _).2.2⟩

theorem ReadsMemory.good {m : Memory} {defaultUnitId : Int} {tag : TagSpec F} {r : TagResult F}
    (h : ReadsMemory m defaultUnitId tag r) {value : PyValue F}
    (hvalue : m.value defaultUnitId tag = .ok value) : r.isGood = true ∧ r.value = value := by
  obtain ⟨t, rfl⟩ := h
  rw [hvalue]
  exact ⟨rfl, rfl⟩

theorem ReadsMemory.shows {m : Memory} {defaultUnitId : Int} {tag : TagSpec F} {r : TagResult F}
    (h : ReadsMemory m defaultUnitId tag r) (hgood : r.isGood = true) : shows r.value = true := by
  obtain ⟨t, rfl⟩ := h
  cases hvalue : m.value defaultUnitId tag with
  | ok value => exact shows_memory m hvalue
  | error exc =>
    rw [hvalue] at hgood
    cases hgood

end

-- ---------------------------------------------------------------------------
-- From the registers to the other gateway
-- ---------------------------------------------------------------------------

-- A drive whose registers hold their addresses. It has a tag whose type its registers are
-- not decoded to, and a speed that another gateway shows.
section Drive

end Drive

end Modbus

end IndustrialGateway
