import IndustrialGateway.TagRequests
import IndustrialGateway.TagValidity

/-!
# Clients that write tags

The requests of any number of clients over one store, in any order of their
store calls. A name is looked up in one transaction and written in the next, and
the table has no constraint of its own: names stay apart as long as no client
writes a name that another client has looked up and is about to write.
-/

namespace IndustrialGateway

open ConfigService ConfigStore Fallible

variable {F : Type} [PyRuntime F] {s t u : ConfigStore F}

-- ---------------------------------------------------------------------------
-- Requests
-- ---------------------------------------------------------------------------

inductive TagRequest (F : Type) where
  | createTag (deviceId : Int) (payload : Settings F)
  | updateTag (tagId : Int) (payload : Settings F)
  | importTagsCsv (deviceId : Int) (csvText : String)
  | importDevicesCsv (csvText : String)

inductive TagResponse (F : Type) where
  | tag (tag : TagSpec F)
  | tags (imported : Nat)
  | devices (devices tags : Nat)

namespace TagRequest

def script : TagRequest F → StoreScript F (TagResponse F)
  | createTag deviceId payload => do return .tag (← StoreScript.createTag deviceId payload)
  | updateTag tagId payload => do return .tag (← StoreScript.updateTag tagId payload)
  | importTagsCsv deviceId csvText => do return .tags (← StoreScript.importTagsCsv deviceId csvText)
  | importDevicesCsv csvText => do
    let (devices, tags) ← StoreScript.importDevicesCsv csvText
    return .devices devices tags

/-- The method of the service. -/
def method : TagRequest F → StoreAct F (TagResponse F)
  | createTag deviceId payload => do return .tag (← ConfigService.createTag deviceId payload)
  | updateTag tagId payload => do return .tag (← ConfigService.updateTag tagId payload)
  | importTagsCsv deviceId csvText => do
    return .tags (← ConfigService.importTagsCsv deviceId csvText)
  | importDevicesCsv csvText => do
    let (devices, tags) ← ConfigService.importDevicesCsv csvText
    return .devices devices tags

/-- The calls of a request make up the method. -/
theorem run_script (request : TagRequest F) : request.script.run StoreCall.act = request.method := by
  cases request with
  | createTag deviceId payload =>
    rw [script, Script.run_bind, StoreScript.run_createTag]
    rfl
  | updateTag tagId payload =>
    rw [script, Script.run_bind, StoreScript.run_updateTag]
    rfl
  | importTagsCsv deviceId csvText =>
    rw [script, Script.run_bind, StoreScript.run_importTagsCsv]
    rfl
  | importDevicesCsv csvText =>
    rw [script, Script.run_bind, StoreScript.run_importDevicesCsv]
    rfl

/-- Alone, the steps of a request are the method. -/
theorem step_script (request : TagRequest F) (s : ConfigStore F) :
    ∃ n, (fun x => Script.step StoreCall.act x.1 x.2)^[n] (request.script, s) =
      (Script.lift (request.method s).1, (request.method s).2) := by
  rw [← run_script]
  exact Script.step_run request.script s

end TagRequest

-- ---------------------------------------------------------------------------
-- Checks and writes
-- ---------------------------------------------------------------------------

namespace StoreCall

def Writes : StoreCall F → Prop
  | writeTag .. => True
  | _ => False

def Checks : StoreCall F → StoreCall F → Prop
  | validateUniqueTagName deviceId tag, writeTag deviceId' tag' => deviceId' = deviceId ∧ tag' = tag
  | _, _ => False

/-- Two writes of one name to different rows. -/
def Clash : StoreCall F → StoreCall F → Prop
  | writeTag deviceId tag, writeTag deviceId' tag' =>
    deviceId = deviceId' ∧ tag.tagGroup = tag'.tagGroup ∧ tag.name = tag'.name ∧
      ¬ ∃ id, tag.id = some id ∧ tag'.id = some id
  | _, _ => False

/-- The name of a write is free. -/
def Fit : StoreCall F → ConfigStore F → Prop
  | writeTag deviceId tag, s => s.hasTagName deviceId tag = false
  | _, _ => True

theorem tags_of_not_writes {call : StoreCall F} (h : ¬ call.Writes) :
    (call.act s).2.tags = s.tags := by
  cases call with
  | listDevices => rfl
  | saveDevice device =>
    rw [act]
    cases hsave : ConfigStore.saveDevice device s with
    | mk answer t =>
      cases answer with
      | error e => rw [atomic_saveDevice device s e t hsave]
      | ok id =>
        cases hid : device.id with
        | none =>
          obtain ⟨-, row, -, -, rfl⟩ := (saveDevice_insert hid).mp hsave
          rfl
        | some i =>
          obtain ⟨-, row, -, -, -, rfl⟩ := (saveDevice_update hid).mp hsave
          rfl
  | listTags deviceId => rfl
  | driverTypeForDevice deviceId => rw [act, readOnly_driverTypeForDevice deviceId s]
  | validateUniqueTagName deviceId tag => rw [act, readOnly_validateUniqueTagName deviceId tag s]
  | writeTag deviceId tag => exact absurd trivial h

theorem act_writeTag (deviceId : Int) (tag : TagSpec F) (s : ConfigStore F) :
    ((writeTag deviceId tag).act s).2 = s ∨
      ∃ id, ConfigStore.writeTag deviceId tag s = .ok (id, ((writeTag deviceId tag).act s).2) := by
  rw [act, commit]
  cases h : ConfigStore.writeTag deviceId tag s with
  | error e => exact .inl rfl
  | ok result => exact .inr ⟨result.1, rfl⟩

end StoreCall

/-- The rows after a write: the written one under its id, the others as before. -/
theorem writeTag_row {deviceId id i : Int} {tag : TagSpec F} {row : TagRow F}
    (h : writeTag deviceId tag s = .ok (id, t)) (hrow : t.tags.get? i = some row) :
    s.tags.get? i = some row ∨ (row.deviceId = deviceId ∧ row.tagGroup = tag.tagGroup ∧
      row.name = tag.name ∧ (tag.id = none ∨ tag.id = some i)) := by
  obtain ⟨-, written, hwritten, htags⟩ := writeTag_rows h
  obtain ⟨hdevice, hspec⟩ := tagRow_eq_ok hwritten
  have hgroup : written.tagGroup = tag.tagGroup := congrArg TagSpec.tagGroup (hspec 0)
  have hname : written.name = tag.name := congrArg TagSpec.name (hspec 0)
  rcases htags with ⟨hid, -, htags⟩ | ⟨hid, htags⟩
  · rw [htags, Table.get?_insert] at hrow
    split at hrow
    · cases hrow
      exact .inr ⟨hdevice, hgroup, hname, .inl hid⟩
    · exact .inl hrow
  · rw [htags, Table.get?_update] at hrow
    split at hrow
    · rename_i hij
      obtain ⟨old, -, rfl⟩ := Option.map_eq_some_iff.mp hrow
      exact .inr ⟨hdevice, hgroup, hname, .inr (hij ▸ hid)⟩
    · exact .inl hrow

/-- A name stays free when a write that does not clash comes between. -/
theorem hasTagName_writeTag {deviceId deviceId' id : Int} {tag tag' : TagSpec F}
    (hclash : ¬ StoreCall.Clash (.writeTag deviceId tag) (.writeTag deviceId' tag'))
    (hfree : s.hasTagName deviceId' tag' = false)
    (hwrite : writeTag deviceId tag s = .ok (id, t)) : t.hasTagName deviceId' tag' = false := by
  rw [hasTagName_eq_false] at hfree ⊢
  intro i row hrow hdevice hgroup hname
  rcases writeTag_row hwrite hrow with hbefore | ⟨hdevice', hgroup', hname', hid⟩
  · exact hfree i row hbefore hdevice hgroup hname
  · have hsame : ∃ id, tag.id = some id ∧ tag'.id = some id := by
      by_contra hnone
      exact hclash ⟨hdevice'.symm.trans hdevice, hgroup'.symm.trans hgroup,
        hname'.symm.trans hname, hnone⟩
    obtain ⟨id, hid₁, hid₂⟩ := hsame
    rcases hid with hid | hid
    · rw [hid] at hid₁
      cases hid₁
    · rw [hid₂, ← hid₁, hid]

theorem tagGuards : Pool.Guards StoreCall.act (StoreCall.Checks (F := F)) StoreCall.Writes
    StoreCall.Clash (fun s => UniqueTagNames s.tags) StoreCall.Fit where
  checksWrite {c w} h := by
    cases c with
    | validateUniqueTagName deviceId tag =>
      cases w with
      | writeTag deviceId' tag' => trivial
      | _ => cases h
    | _ => cases h
  check {c w s t r} h hcall := by
    cases c with
    | validateUniqueTagName deviceId tag =>
      cases w with
      | writeTag deviceId' tag' =>
        obtain ⟨rfl, rfl⟩ := h
        obtain ⟨-, hfree, rfl⟩ := validateUniqueTagName_eq_ok.mp hcall
        exact hfree
      | _ => cases h
    | _ => cases h
  write {w s} hw hfit hgood := by
    cases w with
    | writeTag deviceId tag =>
      rcases StoreCall.act_writeTag deviceId tag s with hsame | ⟨id, hwrite⟩
      · rw [hsame]
        exact hgood
      · exact hgood.writeTag hfit hwrite
    | _ => cases hw
  other {c s} hc hgood := by
    rw [StoreCall.tags_of_not_writes hc]
    exact hgood
  writesFit {w w' s} hw hclash hfit hfit' := by
    cases w with
    | writeTag deviceId tag =>
      cases w' with
      | writeTag deviceId' tag' =>
        rcases StoreCall.act_writeTag deviceId tag s with hsame | ⟨id, hwrite⟩
        · rw [hsame]
          exact hfit'
        · exact hasTagName_writeTag hclash hfit' hwrite
      | _ => trivial
    | _ => cases hw
  otherFit {c w s} hc hfit := by
    cases w with
    | writeTag deviceId tag =>
      have htags := StoreCall.tags_of_not_writes hc (s := s)
      rw [StoreCall.Fit, hasTagName, htags]
      exact hfit
    | _ => trivial

-- ---------------------------------------------------------------------------
-- Every write is checked
-- ---------------------------------------------------------------------------

/-- Every write of a tag comes right after the look for its name. -/
def StoreScript.Checked {α : Type} (script : StoreScript F α) : Prop :=
  Script.Checked StoreCall.Checks StoreCall.Writes script

namespace StoreScript

omit [PyRuntime F] in
theorem checked_getDevice (deviceId : Int) :
    (getDevice deviceId : StoreScript F (DeviceSpec F)).Checked := by
  refine Script.Checked.bind (.ask id) fun devices => ?_
  cases devices.find? fun d => d.id = some deviceId with
  | some device => exact .done device
  | none => exact .raised _

omit [PyRuntime F] in
theorem checked_findTag (tagId : Int) (devices : List (DeviceSpec F)) :
    (findTag tagId devices).Checked := by
  induction devices with
  | nil => exact .raised _
  | cons device devices ih =>
    refine Script.Checked.bind (.ask id) fun tags => ?_
    cases tags.find? fun tag => tag.id = some tagId with
    | some tag => exact .done tag
    | none => exact ih

omit [PyRuntime F] in
theorem checked_getTag (tagId : Int) : (getTag tagId : StoreScript F (TagSpec F)).Checked :=
  Script.Checked.bind (.ask id) fun devices => checked_findTag tagId devices

theorem checked_saveTagOf (driverType : String) (tag : TagSpec F) :
    (saveTagOf driverType tag).Checked := by
  refine Script.Checked.bind (.lift _) fun _ => ?_
  cases tag.deviceId with
  | none => exact .raised _
  | some deviceId =>
    have hcheck : (StoreCall.validateUniqueTagName deviceId tag).Checks (.writeTag deviceId tag) :=
      ⟨rfl, rfl⟩
    exact .write id hcheck fun _ tagId => .done tagId

theorem checked_saveTag (tag : TagSpec F) : (saveTag tag).Checked :=
  Script.Checked.bind (.ask id) fun driverType => checked_saveTagOf driverType tag

theorem checked_saveTagDraft (draft : TagDraft F) : (saveTagDraft draft).Checked :=
  Script.Checked.bind (.ask id) fun driverType =>
    Script.Checked.bind (.lift _) fun tag => checked_saveTagOf driverType tag

theorem checked_createTag (deviceId : Int) (payload : Settings F) :
    (createTag deviceId payload).Checked :=
  (checked_getDevice deviceId).bind fun _ => Script.Checked.bind (.lift _) fun draft =>
    (checked_saveTagDraft draft).bind fun tagId => checked_getTag tagId

theorem checked_updateTag (tagId : Int) (payload : Settings F) :
    (updateTag tagId payload).Checked :=
  (checked_getTag tagId).bind fun _ => Script.Checked.bind (.lift _) fun _ =>
    Script.Checked.bind (.lift _) fun draft =>
      (checked_saveTagDraft draft).bind fun _ => checked_getTag tagId

theorem checked_upsertTag (deviceId : Int) (tag : TagSpec F) : (upsertTag deviceId tag).Checked :=
  Script.Checked.bind (.ask id) fun _ => checked_saveTag _

omit [PyRuntime F] in
theorem checked_forRows {β : Type} (csvText : String) (init : β)
    {body : β → Csv.Row → StoreScript F β} (h : ∀ state row, (body state row).Checked) :
    (forRows csvText init body).Checked := by
  rw [forRows]
  cases (Csv.dictReader csvText).fieldnames with
  | error message => exact .raised _
  | ok names =>
    cases names with
    | none => exact .raised _
    | some names =>
      refine Script.Checked.bind (.foldlM h _ init) fun result => ?_
      cases (Csv.dictReader csvText).error with
      | some message => exact .raised _
      | none => exact .done result

theorem checked_importTagsCsv (deviceId : Int) (csvText : String) :
    (importTagsCsv (F := F) deviceId csvText).Checked :=
  (checked_getDevice deviceId).bind fun _ => checked_forRows csvText 0 fun imported _ =>
    Script.Checked.bind (.lift _) fun tag =>
      (checked_upsertTag deviceId tag).bind fun _ => .done (imported + 1)

theorem checked_importDevice (state : DeviceImport F) (device : DeviceSpec F) :
    (importDevice state device).Checked := by
  rw [importDevice]
  cases state.devicesByKey.get? (deviceImportKey device) with
  | none => exact Script.Checked.bind (.ask id) fun _ => .done _
  | some existing => exact Script.Checked.bind (.lift _) fun _ => .done _

theorem checked_importDevicesRow (state : DeviceImport F) (row : Csv.Row) :
    (importDevicesRow state row).Checked := by
  refine Script.Checked.bind (.lift _) fun device => ?_
  refine (checked_importDevice state device).bind fun ⟨existing, state⟩ => ?_
  by_cases hname : PyText.strip (cellOr row "tag_name") = ""
  · simp only [hname, if_true]
    exact .done state
  · simp only [hname, if_false]
    exact Script.Checked.bind (.lift _) fun tag =>
      (checked_upsertTag _ tag).bind fun _ => .done _

theorem checked_importDevicesCsv (csvText : String) :
    (importDevicesCsv (F := F) csvText).Checked :=
  Script.Checked.bind (.ask id) fun _ =>
    (checked_forRows csvText _ checked_importDevicesRow).bind fun _ => .done _

end StoreScript

theorem TagRequest.checked_script (request : TagRequest F) : request.script.Checked := by
  cases request with
  | createTag deviceId payload =>
    exact (StoreScript.checked_createTag deviceId payload).bind fun _ => .done _
  | updateTag tagId payload =>
    exact (StoreScript.checked_updateTag tagId payload).bind fun _ => .done _
  | importTagsCsv deviceId csvText =>
    exact (StoreScript.checked_importTagsCsv deviceId csvText).bind fun _ => .done _
  | importDevicesCsv csvText =>
    exact (StoreScript.checked_importDevicesCsv csvText).bind fun _ => .done _

-- ---------------------------------------------------------------------------
-- Runs
-- ---------------------------------------------------------------------------

abbrev TagClients (ι F : Type) : Type :=
  Pool ι PyException (ConfigStore F) (StoreCall.Answer (F := F)) (TagResponse F)

variable {ι : Type} [DecidableEq ι]

namespace TagClients

/-- Every client before its first call. -/
def start (requests : ι → TagRequest F) (s : ConfigStore F) : TagClients ι F :=
  ⟨fun i => (requests i).script, s⟩

def step : TagClients ι F → ι → TagClients ι F := Pool.step StoreCall.act

/-- A client may take its next call when that is not the write of a name which
another client has found free and is about to write to another row. -/
def Clear : TagClients ι F → ι → Prop := Pool.Clear StoreCall.Writes StoreCall.Clash

/-- The runs that `allowed` lets through, of any requests from any store. -/
def Reaches (allowed : TagClients ι F → ι → Prop) (requests : ι → TagRequest F)
    (s : ConfigStore F) : TagClients ι F → Prop :=
  Runs.Reaches step allowed (start requests s)

end TagClients

theorem tag_names_stay_unique {requests : ι → TagRequest F} {clients : TagClients ι F}
    (hs : UniqueTagNames s.tags) (h : TagClients.Reaches TagClients.Clear requests s clients) :
    UniqueTagNames clients.state.tags := by
  have hchecked : ∀ i, Script.Checked StoreCall.Checks StoreCall.Writes
      ((TagClients.start requests s).tasks i) := fun i => (requests i).checked_script
  exact Pool.checked_writes tagGuards hs hchecked h

/-- A write that goes through leaves its row, and the rows of other ids as they were. -/
theorem writeTag_written {deviceId id : Int} {tag : TagSpec F}
    (hstored : ∀ i, tag.id = some i → (s.tags.get? i).isSome)
    (h : writeTag deviceId tag s = .ok (id, t)) :
    (∀ i, tag.id = some i → i = id) ∧ (tag.id = none → s.tags.get? id = none) ∧
      (∀ i, i ≠ id → t.tags.get? i = s.tags.get? i) ∧
        ∃ row, t.tags.get? id = some row ∧ row.deviceId = deviceId ∧
          row.tagGroup = tag.tagGroup ∧ row.name = tag.name := by
  cases hid : tag.id with
  | none =>
    obtain ⟨row, hrow, hfresh, hput⟩ := (writeTag_insert hid).mp h
    obtain ⟨hdevice, hspec⟩ := tagRow_eq_ok hrow
    obtain ⟨-, rfl⟩ := nextRowId_eq_ok.mp hfresh
    obtain ⟨-, htags⟩ := insertTag_eq_ok hput
    refine ⟨(fun i hi => by cases hi), fun _ => s.tags.get?_nextId, fun i hi => ?_, row, ?_, hdevice,
      congrArg TagSpec.tagGroup (hspec 0), congrArg TagSpec.name (hspec 0)⟩
    · rw [htags, Table.get?_insert, if_neg (Ne.symm hi)]
    · rw [htags, Table.get?_insert, if_pos rfl]
  | some j =>
    obtain ⟨row, hrow, hput, rfl⟩ := (writeTag_update hid).mp h
    obtain ⟨hdevice, hspec⟩ := tagRow_eq_ok hrow
    obtain ⟨-, htags⟩ := updateTag_eq_ok hput
    refine ⟨fun i hi => (Option.some.inj hi).symm, (fun hnone => by cases hnone), fun i hi => ?_,
      row, ?_, hdevice, congrArg TagSpec.tagGroup (hspec 0), congrArg TagSpec.name (hspec 0)⟩
    · rw [htags, Table.get?_update, if_neg (Ne.symm hi)]
    · obtain ⟨old, hold⟩ := Option.isSome_iff_exists.mp (hstored j hid)
      rw [htags, Table.get?_update, if_pos rfl, hold]
      rfl

/-- The condition leaves out nothing else: clashing writes that both go through
leave two rows of one name. -/
theorem duplicate_of_clash {deviceId deviceId' id id' : Int} {tag tag' : TagSpec F}
    (hclash : StoreCall.Clash (.writeTag deviceId tag) (.writeTag deviceId' tag'))
    (hstored : ∀ i, tag.id = some i ∨ tag'.id = some i → (s.tags.get? i).isSome)
    (h : writeTag deviceId tag s = .ok (id, t)) (h' : writeTag deviceId' tag' t = .ok (id', u)) :
    ¬ UniqueTagNames u.tags := by
  obtain ⟨rfl, hgroup, hname, hrows⟩ := hclash
  obtain ⟨hid, hfresh, hkept, row, hrow, hdevice, hrowGroup, hrowName⟩ :=
    writeTag_written (fun i hi => hstored i (.inl hi)) h
  have hstored' : ∀ i, tag'.id = some i → (t.tags.get? i).isSome := by
    intro i hi
    by_cases hii : i = id
    · rw [hii, hrow]
      rfl
    · rw [hkept i hii]
      exact hstored i (.inr hi)
  obtain ⟨hid', hfresh', hkept', row', hrow', hdevice', hrowGroup', hrowName'⟩ :=
    writeTag_written hstored' h'
  have hne : id ≠ id' := by
    rintro rfl
    cases htag' : tag'.id with
    | none =>
      rw [hfresh' htag'] at hrow
      cases hrow
    | some j =>
      obtain rfl := hid' j htag'
      cases htag : tag.id with
      | none =>
        have hsome := hstored j (.inr htag')
        rw [hfresh htag] at hsome
        cases hsome
      | some i =>
        obtain rfl := hid i htag
        exact hrows ⟨i, htag, htag'⟩
  intro hunique
  refine hne (hunique id id' row row' ((hkept' id hne).trans hrow) hrow' ?_ ?_ ?_)
  · exact hdevice.trans hdevice'.symm
  · exact hrowGroup.trans (hgroup.trans hrowGroup'.symm)
  · exact hrowName.trans (hname.trans hrowName'.symm)

/-- A client may go on alone while no other one is about to write. -/
theorem TagClients.reaches_turn {requests : ι → TagRequest F} {clients : TagClients ι F}
    (h : Reaches Clear requests s clients) {i : ι}
    (hidle : ∀ j, j ≠ i → ∀ w, (clients.tasks j).next? = some w → ¬ w.Writes) (n : Nat) :
    Reaches Clear requests s ((fun clients => clients.step i)^[n] clients) := by
  induction n generalizing clients with
  | zero => exact h
  | succ n ih =>
    rw [Function.iterate_succ_apply]
    have hclear : clients.Clear i := fun _ _ _ j hj w hnext hw => absurd hw (hidle j hj w hnext)
    refine ih (h.step i hclear) fun j hj w hnext => hidle j hj w ?_
    simpa [step, Pool.step, hj] using hnext

def plcStore : ConfigStore WholeFloat :=
  (Operation.createDevice (plcPayload "modbus_tcp")).run initialized

theorem plcStore_names : UniqueTagNames plcStore.tags := by
  intro i j row row' hrow
  have hstore : plcStore.tags.rows.entries = [] := by decide +kernel
  have hmem := OrderedDict.get?_eq_some.mp hrow
  rw [hstore] at hmem
  cases hmem

/-- Two users create the same tag. -/
def sameTag (_ : Bool) : TagRequest WholeFloat := .createTag 1 speedPayload

def firstDone : TagClients Bool WholeFloat :=
  (fun clients => clients.step false)^[6] (.start sameTag plcStore)

theorem names_unique_in_turn :
    UniqueTagNames ((fun clients : TagClients Bool WholeFloat => clients.step true)^[3]
      firstDone).state.tags := by
  have hfirst : TagClients.Reaches TagClients.Clear sameTag plcStore firstDone := by
    refine TagClients.reaches_turn .start (fun j hj w hnext => ?_) 6
    cases j with
    | false => exact absurd rfl hj
    | true =>
      cases hnext
      exact id
  refine tag_names_stay_unique plcStore_names (TagClients.reaches_turn hfirst (fun j hj w hnext => ?_) 3)
  cases j with
  | false =>
    have hdone : (firstDone.tasks false).next?.isNone := by decide +kernel
    rw [hnext] at hdone
    cases hdone
  | true => exact absurd rfl hj

/-- Both look the name up before one of them writes it. -/
def bothLookedUp : TagClients Bool WholeFloat :=
  [false, false, false, true, true, true, false, true].foldl TagClients.step
    (.start sameTag plcStore)

theorem tag_name_twice : ¬ ∀ (requests : Bool → TagRequest WholeFloat) (s : ConfigStore WholeFloat)
    (clients : TagClients Bool WholeFloat), UniqueTagNames s.tags →
      TagClients.Reaches (fun _ _ => True) requests s clients →
        UniqueTagNames clients.state.tags := by
  intro h
  have hrun : TagClients.Reaches (fun _ _ => True) sameTag plcStore bothLookedUp :=
    Runs.Reaches.foldl .start fun _ _ _ => trivial
  have hfirst : bothLookedUp.state.tags.get? 1 = some speedRow := by decide +kernel
  have hsecond : bothLookedUp.state.tags.get? 2 = some speedRow := by decide +kernel
  exact absurd (h sameTag plcStore bothLookedUp plcStore_names hrun 1 2 speedRow speedRow hfirst hsecond rfl
    rfl rfl) (by decide)

end IndustrialGateway
