import IndustrialGateway.ConfigService
import IndustrialGateway.Lib.WholeFloat

/-!
# Client ids of MQTT inputs

A broker closes the connection of the older of two clients with the same id. The id
of a device ends in a dash and the number of the device, whatever its settings are.
-/

namespace IndustrialGateway

open ConfigService

variable {F : Type}

namespace MqttInput

/-- `str(device.id or device.name)`. -/
def idOrName (device : DeviceSpec F) : String :=
  match device.id with
  | some n => if n = 0 then device.name else PyText.textOfInt n
  | none => device.name

variable [PyRuntime F]

def clientId (device : DeviceSpec F) : String :=
  let base := PyText.strip (valueOr (optional device.connection "client_id")
    (.str "industrial-gateway-input")).text
  let suffix := PyText.replaceChar ' ' '-' (PyText.strip (idOrName device))
  if suffix = "" then base
  else if PyText.endsWith ("-" ++ suffix) base then base
  else base ++ "-" ++ suffix

/-- The numbers that the store gives to devices have no blanks to strip or replace. -/
theorem suffix_textOfInt (n : Int) :
    PyText.replaceChar ' ' '-' (PyText.strip (PyText.textOfInt n)) = PyText.textOfInt n := by
  have hstrip : PyText.strip (PyText.textOfInt n) = PyText.textOfInt n := PyText.textOfInt_stripped n
  have hkeep : ∀ c ∈ (PyText.textOfInt n).toList, (if c = ' ' then '-' else c) = c := by
    intro c hc
    rw [if_neg]
    rintro rfl
    have hspace := PyText.textOfInt_no_space _ hc
    simp [PyText.isSpace] at hspace
  rw [hstrip, PyText.replaceChar, List.map_congr_left hkeep, List.map_id', String.ofList_toList]

/-- Whether the base ends with the number already or gets it, the number stands behind
a dash at the end. -/
theorem clientId_ends {device : DeviceSpec F} {n : Int} (hid : device.id = some n) (hn : n ≠ 0) :
    ∃ front, (clientId device).toList = front ++ '-' :: (PyText.textOfInt n).toList := by
  have hsuffix : PyText.replaceChar ' ' '-' (PyText.strip (idOrName device)) = PyText.textOfInt n := by
    rw [idOrName, hid]
    simp only [hn, if_false]
    exact suffix_textOfInt n
  unfold clientId
  dsimp only
  rw [hsuffix, if_neg (PyText.textOfInt_ne_empty n)]
  generalize PyText.strip (PyValue.text (F := F) _) = base
  split
  · rename_i hends
    obtain ⟨front, hfront⟩ := List.isSuffixOf_iff_suffix.mp hends
    exact ⟨front, by simpa [String.toList_append] using hfront.symm⟩
  · exact ⟨base.toList, by simp [String.toList_append]⟩

/-- Two devices that the store has numbered never take each other's client id. -/
theorem clientId_ne {a b : DeviceSpec F} {m n : Int} (ha : a.id = some m) (hb : b.id = some n)
    (hm : 0 < m) (hn : 0 < n) (hne : m ≠ n) : clientId a ≠ clientId b := by
  obtain ⟨front, hfront⟩ := clientId_ends ha hm.ne'
  obtain ⟨front', hfront'⟩ := clientId_ends hb hn.ne'
  intro heq
  rw [heq, hfront', PyText.append_sep_inj (PyText.dash_not_mem_textOfInt hn.le)
    (PyText.dash_not_mem_textOfInt hm.le), String.toList_inj, PyText.textOfInt_inj] at hfront
  exact hne hfront.2.symm

/-- A base that ends in the other device's number. -/
def mixingRoll (id : Int) : DeviceSpec WholeFloat where
  id := id
  name := "MixingRollA"
  driverType := "mqtt"
  enabled := true
  pollIntervalMs := 1000
  connection := .ofList [("client_id", .str " gateway-3-13 ")]

theorem mixingRoll_clientId_ne : clientId (mixingRoll 3) ≠ clientId (mixingRoll 13) :=
  clientId_ne rfl rfl (by decide) (by decide) (by decide)

example : clientId (mixingRoll 3) = "gateway-3-13-3" ∧ clientId (mixingRoll 13) = "gateway-3-13" := by
  decide +kernel

end MqttInput

end IndustrialGateway
