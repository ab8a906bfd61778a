import IndustrialGateway.Lib.Scripts
import IndustrialGateway.StoredRows

/-!
# Tag requests between store calls

The requests that write tags, cut at their calls of the store: each call opens a
connection of its own, and the store is open to other requests before the next.
Alone, each script is the method of the service.
-/

namespace IndustrialGateway

open ConfigService ConfigStore Fallible

variable {F : Type} [PyRuntime F]

-- ---------------------------------------------------------------------------
-- Calls
-- ---------------------------------------------------------------------------

inductive StoreCall (F : Type) where
  | listDevices
  | saveDevice (device : DeviceSpec F)
  | listTags (deviceId : Int)
  | driverTypeForDevice (deviceId : Option Int)
  | validateUniqueTagName (deviceId : Int) (tag : TagSpec F)
  | writeTag (deviceId : Int) (tag : TagSpec F)

namespace StoreCall

@[reducible]
def Answer : StoreCall F → Type
  | listDevices => List (DeviceSpec F)
  | saveDevice _ => Int
  | listTags _ => List (TagSpec F)
  | driverTypeForDevice _ => String
  | validateUniqueTagName .. => Unit
  | writeTag .. => Int

def act : (call : StoreCall F) → StoreAct F call.Answer
  | listDevices => .read ConfigStore.listDevices
  | saveDevice device => ConfigStore.saveDevice device
  | listTags deviceId => .read fun store => store.listTags deviceId
  | driverTypeForDevice deviceId => ConfigStore.driverTypeForDevice deviceId
  | validateUniqueTagName deviceId tag => ConfigStore.validateUniqueTagName deviceId tag
  | writeTag deviceId tag => .commit (ConfigStore.writeTag deviceId tag)

end StoreCall

abbrev StoreScript (F α : Type) : Type := Script PyException (StoreCall.Answer (F := F)) α

-- ---------------------------------------------------------------------------
-- Scripts
-- ---------------------------------------------------------------------------

namespace StoreScript

open Script

def listDevices : StoreScript F (List (DeviceSpec F)) := ask (StoreCall.listDevices : StoreCall F)

def saveDevice (device : DeviceSpec F) : StoreScript F Int := ask (StoreCall.saveDevice device)

def listTags (deviceId : Int) : StoreScript F (List (TagSpec F)) :=
  ask (StoreCall.listTags deviceId : StoreCall F)

def driverTypeForDevice (deviceId : Option Int) : StoreScript F String :=
  ask (StoreCall.driverTypeForDevice deviceId : StoreCall F)

def validateUniqueTagName (deviceId : Int) (tag : TagSpec F) : StoreScript F Unit :=
  ask (StoreCall.validateUniqueTagName deviceId tag)

def writeTag (deviceId : Int) (tag : TagSpec F) : StoreScript F Int :=
  ask (StoreCall.writeTag deviceId tag)

def getDevice (deviceId : Int) : StoreScript F (DeviceSpec F) := do
  match (← listDevices).find? fun d => d.id = some deviceId with
  | some device => pure device
  | none => .raised ⟨.keyError, "'device not found: " ++ PyText.textOfInt deviceId ++ "'"⟩

/-- The tags of one device after the other, until the tag is found. -/
def findTag (tagId : Int) : List (DeviceSpec F) → StoreScript F (TagSpec F)
  | [] => .raised ⟨.keyError, "'tag not found: " ++ PyText.textOfInt tagId ++ "'"⟩
  | device :: devices => do
    match (← listTags (device.id.getD 0)).find? fun tag => tag.id = some tagId with
    | some tag => pure tag
    | none => findTag tagId devices

def getTag (tagId : Int) : StoreScript F (TagSpec F) := do
  findTag tagId (← listDevices)

/-- `save_tag` after the driver type has been read. -/
def saveTagOf (driverType : String) (tag : TagSpec F) : StoreScript F Int := do
  .lift (validateTag driverType tag)
  match tag.deviceId with
  | none => .raised ⟨.valueError, "tag device_id is required"⟩
  | some deviceId => do
    validateUniqueTagName deviceId tag
    writeTag deviceId tag

def saveTag (tag : TagSpec F) : StoreScript F Int := do
  saveTagOf (← driverTypeForDevice tag.deviceId) tag

def saveTagDraft (draft : TagDraft F) : StoreScript F Int := do
  let driverType ← driverTypeForDevice draft.tag.deviceId
  saveTagOf driverType (← .lift (draft.spec driverType))

def createTag (deviceId : Int) (payload : Settings F) : StoreScript F (TagSpec F) := do
  let _ ← getDevice deviceId
  getTag (← saveTagDraft (← .lift (tagFromPayload none deviceId payload)))

def updateTag (tagId : Int) (payload : Settings F) : StoreScript F (TagSpec F) := do
  let existing ← getTag tagId
  let deviceId ← .lift
    (valueOr (ConfigService.optional payload "device_id") (.int (existing.deviceId.getD 0))).toInt
  let _ ← saveTagDraft (← .lift (tagFromPayload (some tagId) deviceId payload))
  getTag tagId

def upsertTag (deviceId : Int) (tag : TagSpec F) : StoreScript F Int := do
  let existingId := existingTagId (← listTags deviceId) tag
  saveTag { tag with id := existingId, deviceId }

def forRows {β : Type} (csvText : String) (init : β) (body : β → Csv.Row → StoreScript F β) :
    StoreScript F β :=
  let reader := Csv.dictReader csvText
  match reader.fieldnames with
  | .error message => .raised ⟨.csvError, message⟩
  | .ok none => .raised ⟨.valueError, "CSV header is required"⟩
  | .ok (some _) => do
    let result ← reader.rows.foldlM body init
    match reader.error with
    | some message => .raised ⟨.csvError, message⟩
    | none => pure result

def importTagsRow (deviceId : Int) (driverType : String) (imported : Nat) (row : Csv.Row) :
    StoreScript F Nat := do
  let _ ← upsertTag deviceId (← .lift (tagFromCsvRow row driverType "name"))
  return imported + 1

def importTagsCsv (deviceId : Int) (csvText : String) : StoreScript F Nat := do
  let device ← getDevice deviceId
  forRows csvText 0 (importTagsRow deviceId device.driverType)

def importDevice (state : DeviceImport F) (device : DeviceSpec F) :
    StoreScript F (DeviceSpec F × DeviceImport F) := do
  let key := deviceImportKey device
  match state.devicesByKey.get? key with
  | none =>
    let existing := { device with id := some (← saveDevice device) }
    return (existing, { state with
      devicesByKey := state.devicesByKey.set key existing
      devices := state.devices + 1 })
  | some existing =>
    .lift (validateSameDeviceConfig existing device)
    return (existing, state)

def importDevicesRow (state : DeviceImport F) (row : Csv.Row) : StoreScript F (DeviceImport F) := do
  let (existing, state) ← importDevice state (← .lift (deviceFromCsvRow row))
  if PyText.strip (cellOr row "tag_name") = "" then return state
  let tag ← .lift (tagFromCsvRow row existing.driverType "tag_name")
  let _ ← upsertTag (existing.id.getD 0) tag
  return { state with tags := state.tags + 1 }

def importDevicesCsv (csvText : String) : StoreScript F (Nat × Nat) := do
  let devices := (← listDevices).map fun device => (deviceImportKey device, device)
  let result ← forRows csvText ⟨.ofList devices, 0, 0⟩ importDevicesRow
  return (result.devices, result.tags)

-- ---------------------------------------------------------------------------
-- Alone
-- ---------------------------------------------------------------------------

theorem run_getDevice (deviceId : Int) :
    run StoreCall.act (getDevice deviceId : StoreScript F (DeviceSpec F)) =
      ConfigService.getDevice deviceId := by
  funext s
  rw [getDevice, run_bind, listDevices, run_ask, StoreCall.act, read_bind, ConfigService.getDevice,
    read_bind]
  cases s.listDevices.find? fun d => d.id = some deviceId <;> rfl

theorem run_findTag (tagId : Int) (devices : List (DeviceSpec F)) (s : ConfigStore F) :
    run StoreCall.act (findTag tagId devices) s =
      match (devices.flatMap fun device => s.listTags (device.id.getD 0)).find?
        fun tag => tag.id = some tagId with
      | some tag => (.ok tag, s)
      | none => (.error ⟨.keyError, "'tag not found: " ++ PyText.textOfInt tagId ++ "'"⟩, s) := by
  induction devices with
  | nil => rfl
  | cons device devices ih =>
    rw [findTag, run_bind, listTags, run_ask, StoreCall.act, read_bind, List.flatMap_cons,
      List.find?_append]
    cases (s.listTags (device.id.getD 0)).find? fun tag => tag.id = some tagId with
    | some tag => rfl
    | none => exact ih

theorem run_getTag (tagId : Int) :
    run StoreCall.act (getTag tagId : StoreScript F (TagSpec F)) = ConfigService.getTag tagId := by
  funext s
  rw [getTag, run_bind, listDevices, run_ask, StoreCall.act, read_bind, run_findTag,
    ConfigService.getTag, read_bind, allTags]
  cases (s.listDevices.flatMap fun device => s.listTags (device.id.getD 0)).find?
    fun tag => tag.id = some tagId <;> rfl

theorem run_saveTagOf (driverType : String) (tag : TagSpec F) :
    run StoreCall.act (saveTagOf driverType tag) = .lift (validateTag driverType tag) >>= fun _ =>
      requiredDeviceId tag.deviceId >>= fun deviceId =>
        ConfigStore.validateUniqueTagName deviceId tag >>= fun _ =>
          .commit (ConfigStore.writeTag deviceId tag) := by
  rw [saveTagOf, run_bind, run_lift]
  refine bind_congr fun _ => ?_
  cases tag.deviceId with
  | none => rfl
  | some deviceId =>
    simp only [run_bind]
    rw [validateUniqueTagName, writeTag, run_ask]
    exact bind_congr fun _ => run_ask _

theorem run_saveTag (tag : TagSpec F) :
    run StoreCall.act (saveTag tag) = ConfigStore.saveTag tag := by
  rw [saveTag, run_bind, driverTypeForDevice, run_ask]
  exact bind_congr fun driverType => run_saveTagOf driverType tag

/-- A draft and its tag have one device. -/
theorem spec_deviceId {draft : TagDraft F} {driverType : String} {tag : TagSpec F}
    (h : draft.spec driverType = .ok tag) : tag.deviceId = draft.tag.deviceId := by
  obtain ⟨function, dataType, nodeId, rfl, -⟩ := TagDraft.spec_ok h
  rfl

theorem run_saveTagDraft (draft : TagDraft F) :
    run StoreCall.act (saveTagDraft draft) = ConfigService.saveTagDraft draft := by
  funext s
  rw [saveTagDraft, run_bind, driverTypeForDevice, run_ask, StoreCall.act,
    ConfigService.saveTagDraft, bind_apply, bind_apply]
  have hread := readOnly_driverTypeForDevice draft.tag.deviceId s
  cases hdriver : ConfigStore.driverTypeForDevice draft.tag.deviceId s with
  | mk answer t =>
    rw [hdriver] at hread
    obtain rfl : t = s := hread
    cases answer with
    | error e => rfl
    | ok driverType =>
      simp only [run_bind, run_lift]
      cases hspec : draft.spec driverType with
      | error e => rfl
      | ok tag =>
        have hsave : ConfigStore.saveTag tag =
            ConfigStore.driverTypeForDevice tag.deviceId >>= fun driverType =>
              run StoreCall.act (saveTagOf driverType tag) := by
          rw [← run_saveTag, saveTag, run_bind, driverTypeForDevice, run_ask]
          rfl
        rw [lift_ok_bind, lift_ok_bind, hsave, spec_deviceId hspec, bind_eq_of_ok hdriver]

theorem run_createTag (deviceId : Int) (payload : Settings F) :
    run StoreCall.act (createTag deviceId payload) = ConfigService.createTag deviceId payload := by
  rw [createTag, run_bind, run_getDevice]
  refine bind_congr fun _ => ?_
  rw [run_bind, run_lift]
  refine bind_congr fun draft => ?_
  rw [run_bind, run_saveTagDraft]
  exact bind_congr fun tagId => run_getTag tagId

theorem run_updateTag (tagId : Int) (payload : Settings F) :
    run StoreCall.act (updateTag tagId payload) = ConfigService.updateTag tagId payload := by
  rw [updateTag, run_bind, run_getTag]
  refine bind_congr fun existing => ?_
  rw [run_bind, run_lift]
  refine bind_congr fun deviceId => ?_
  rw [run_bind, run_lift]
  refine bind_congr fun draft => ?_
  rw [run_bind, run_saveTagDraft]
  exact bind_congr fun _ => run_getTag tagId

theorem run_upsertTag (deviceId : Int) (tag : TagSpec F) :
    run StoreCall.act (upsertTag deviceId tag) = ConfigService.upsertTag deviceId tag := by
  funext s
  rw [upsertTag, run_bind, listTags, run_ask, StoreCall.act, read_bind, run_saveTag,
    ConfigService.upsertTag, read_bind]

theorem run_forRows {β : Type} (csvText : String) (init : β) {body : β → Csv.Row → StoreScript F β}
    {body' : β → Csv.Row → StoreAct F β}
    (h : ∀ state row, run StoreCall.act (body state row) = body' state row) :
    run StoreCall.act (forRows csvText init body) = ConfigService.forRows csvText init body' := by
  simp only [forRows, ConfigService.forRows]
  rcases (Csv.dictReader csvText).fieldnames with message | _ | names
  · rfl
  · rfl
  · simp only [run_bind, run_foldlM h]
    refine bind_congr fun result => ?_
    cases (Csv.dictReader csvText).error <;> rfl

theorem run_importTagsCsv (deviceId : Int) (csvText : String) :
    run StoreCall.act (importTagsCsv (F := F) deviceId csvText) =
      ConfigService.importTagsCsv deviceId csvText := by
  rw [importTagsCsv, run_bind, run_getDevice]
  refine bind_congr fun device => run_forRows csvText 0 fun imported row => ?_
  rw [importTagsRow, run_bind, run_lift]
  refine bind_congr fun tag => ?_
  rw [run_bind, run_upsertTag]
  rfl

theorem run_importDevice (state : DeviceImport F) (device : DeviceSpec F) :
    run StoreCall.act (importDevice state device) = ConfigService.importDevice state device := by
  rw [importDevice, ConfigService.importDevice]
  cases state.devicesByKey.get? (deviceImportKey device) with
  | none =>
    simp only [run_bind]
    rw [saveDevice, run_ask]
    rfl
  | some existing =>
    simp only [run_bind, run_lift]
    rfl

theorem run_importDevicesRow (state : DeviceImport F) (row : Csv.Row) :
    run StoreCall.act (importDevicesRow state row) = ConfigService.importDevicesRow state row := by
  rw [importDevicesRow, run_bind, run_lift]
  refine bind_congr fun device => ?_
  rw [run_bind, run_importDevice]
  refine bind_congr fun ⟨existing, state⟩ => ?_
  by_cases hname : PyText.strip (cellOr row "tag_name") = ""
  · simp only [hname, if_true]
    rfl
  · simp only [hname, if_false, run_bind, run_lift, run_upsertTag]
    rfl

theorem run_importDevicesCsv (csvText : String) :
    run StoreCall.act (importDevicesCsv (F := F) csvText) =
      ConfigService.importDevicesCsv csvText := by
  funext s
  rw [importDevicesCsv, run_bind, listDevices, run_ask, StoreCall.act, read_bind, run_bind,
    run_forRows _ _ run_importDevicesRow, ConfigService.importDevicesCsv, read_bind, devicesByKey]
  rfl

end StoreScript

end IndustrialGateway
