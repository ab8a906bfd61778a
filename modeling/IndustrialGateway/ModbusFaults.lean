import IndustrialGateway.ModbusPlanning
import IndustrialGateway.TagIdentity

/-!
# Requests that fail

A request that fails, by an exception or with an error response, costs the tags of
its block their values and no other tag anything: each tag of a block that was
answered has the value of a request of its own. The publisher does not keep the
blocks apart: it takes the results one by one, and the last one decides whether
anything of the device is sent.
-/

namespace IndustrialGateway

namespace Modbus

variable {F : Type}

-- ---------------------------------------------------------------------------
-- Answers
-- ---------------------------------------------------------------------------

/-- What the results say of a request that failed. -/
def failureText : Except PyException (Response α) → Option String
  | .error exc => some exc.message
  | .ok (.error text) => some text
  | .ok (.values _) => none

def Client.failure (client : Client) (block : ReadBlock F) : Option String :=
  if block.function = "holding_register" then
    failureText (client.readHoldingRegisters block.start block.count block.unitId)
  else if block.function = "input_register" then
    failureText (client.readInputRegisters block.start block.count block.unitId)
  else if block.function = "coil" then
    failureText (client.readCoils block.start block.count block.unitId)
  else if block.function = "discrete_input" then
    failureText (client.readDiscreteInputs block.start block.count block.unitId)
  else none

/-- The client fails, or answers with the contents of the memory; bits come in whole
bytes, so more may follow. -/
structure Client.Reads (client : Client) (m : Memory) : Prop where
  holding : ∀ start count unit vs, client.readHoldingRegisters start count unit = .ok (.values vs) →
    PySeq.contents (m.holding unit) start count.toNat <+: vs
  input : ∀ start count unit vs, client.readInputRegisters start count unit = .ok (.values vs) →
    PySeq.contents (m.input unit) start count.toNat <+: vs
  coils : ∀ start count unit vs, client.readCoils start count unit = .ok (.values vs) →
    PySeq.contents (m.coils unit) start count.toNat <+: vs
  discrete : ∀ start count unit vs, client.readDiscreteInputs start count unit = .ok (.values vs) →
    PySeq.contents (m.discrete unit) start count.toNat <+: vs

variable [PyRuntime F]

/-- The result of a tag of the block. -/
def blockReading (m : Memory) (defaultUnitId : Int) (client : Client) (block : ReadBlock F)
    (t : Datetime) (tag : TagSpec F) : TagResult F :=
  match client.failure block with
  | some text => bad tag t text
  | none => tagResult tag t (m.value defaultUnitId tag)

omit [PyRuntime F] in
/-- An answer that begins with the contents is decoded like the contents. -/
theorem readWith_prefix {answer : Except PyException (Response α)} {contents : List α}
    {block : ReadBlock F} {t : Datetime}
    {decode : List α → TagSpec F → Except PyException (PyValue F)}
    (hanswer : ∀ vs, answer = .ok (.values vs) → contents <+: vs)
    (hdecode : ∀ vs, contents <+: vs → ∀ tag ∈ block.tags, decode vs tag = decode contents tag) :
    readWith answer block t decode =
      match failureText answer with
      | some text => badBlock block t fun _ => text
      | none => readWith (.ok (.values contents)) block t decode := by
  match answer, hanswer with
  | .error exc, _ => rfl
  | .ok (.error text), _ => rfl
  | .ok (.values vs), hanswer => exact blockResults_congr (hdecode vs (hanswer vs rfl))

omit [PyRuntime F] in
/-- The tag's part of the answer lies within the contents of the block. -/
theorem slice_answer {defaultUnitId : Int} {block : ReadBlock F} {tag : TagSpec F} {vs : List α}
    (hfits : BlockFits defaultUnitId block) (ht : tag ∈ block.tags) {count : Int}
    (hcount : count = itemCount tag) (hpos : 0 ≤ count) {memory : Int → α}
    (h : PySeq.contents memory block.start block.count.toNat <+: vs) :
    PySeq.slice vs (tag.address - block.start) (tag.address - block.start + count) =
      PySeq.slice (PySeq.contents memory block.start block.count.toNat) (tag.address - block.start)
        (tag.address - block.start + count) := by
  have hstart := hfits.start tag ht
  have hstop := hfits.stop tag ht
  refine PySeq.slice_of_prefix h (by omega) (by omega) ?_
  rw [PySeq.length_contents]
  omega

theorem decodeRegisterTag_answer {defaultUnitId : Int} {block : ReadBlock F}
    (hfits : BlockFits defaultUnitId block) (hvalid : ∀ tag ∈ block.tags, CommonFieldsOk tag)
    (hf : block.function = "holding_register" ∨ block.function = "input_register")
    {memory : Int → UInt16} {registers : List UInt16}
    (h : PySeq.contents memory block.start block.count.toNat <+: registers) :
    ∀ tag ∈ block.tags, decodeRegisterTag registers block tag =
      decodeRegisterTag (PySeq.contents memory block.start block.count.toNat) block tag := by
  intro tag ht
  have hcount := (itemCount_eq (hfits.function tag ht)).1 hf
  simp only [decodeRegisterTag]
  rw [slice_answer hfits ht hcount.symm (counts_positive (hvalid tag ht)).2.le h]

theorem decodeBitTag_answer {defaultUnitId : Int} {block : ReadBlock F}
    (hfits : BlockFits defaultUnitId block) (hvalid : ∀ tag ∈ block.tags, CommonFieldsOk tag)
    (hf : block.function = "coil" ∨ block.function = "discrete_input")
    {memory : Int → Bool} {bits : List Bool}
    (h : PySeq.contents memory block.start block.count.toNat <+: bits) :
    ∀ tag ∈ block.tags, decodeBitTag bits block tag =
      decodeBitTag (PySeq.contents memory block.start block.count.toNat) block tag := by
  intro tag ht
  have hcount := (itemCount_eq (hfits.function tag ht)).2 hf
  simp only [decodeBitTag]
  rw [slice_answer hfits ht hcount.symm (counts_positive (hvalid tag ht)).1.le h]

/-- A block gives its tags the error of its request, or each the value of its own. -/
theorem readBlock_reads {m : Memory} {client : Client} (hreads : client.Reads m)
    {defaultUnitId : Int} {block : ReadBlock F} (t : Datetime)
    (hfits : BlockFits defaultUnitId block) (hvalid : ∀ tag ∈ block.tags, CommonFieldsOk tag) :
    readBlock client block t = .ofList (block.tags.map fun tag =>
      (tag.name, blockReading m defaultUnitId client block t tag)) := by
  have hanswer : readBlock client block t =
      match client.failure block with
      | some text => badBlock block t fun _ => text
      | none => readBlock m.client block t := by
    unfold readBlock Client.failure
    split
    · rename_i hf
      exact readWith_prefix (hreads.holding _ _ _) fun _ =>
        decodeRegisterTag_answer hfits hvalid (.inl hf)
    · split
      · rename_i hf
        exact readWith_prefix (hreads.input _ _ _) fun _ =>
          decodeRegisterTag_answer hfits hvalid (.inr hf)
      · split
        · rename_i hf
          exact readWith_prefix (hreads.coils _ _ _) fun _ =>
            decodeBitTag_answer hfits hvalid (.inl hf)
        · split
          · rename_i hf
            exact readWith_prefix (hreads.discrete _ _ _) fun _ =>
              decodeBitTag_answer hfits hvalid (.inr hf)
          · rfl
  rw [hanswer]
  unfold blockReading
  split
  · rfl
  · exact readBlock_memory m t hfits hvalid

-- ---------------------------------------------------------------------------
-- Results by name
-- ---------------------------------------------------------------------------

/-- Under names that differ, each result of each block is found again. -/
theorem get?_readBlocks {client : Client} {clock : Nat → Datetime} {blocks : List (ReadBlock F)}
    {reading : ReadBlock F → Datetime → TagSpec F → TagResult F}
    (hread : ∀ block ∈ blocks, ∀ t, readBlock client block t =
      .ofList (block.tags.map fun tag => (tag.name, reading block t tag)))
    (hnames : ((blocks.flatMap ReadBlock.tags).map TagSpec.name).Nodup) {i : Nat}
    {block : ReadBlock F} {tag : TagSpec F} (hb : blocks[i]? = some block) (ht : tag ∈ block.tags) :
    (readBlocks client clock blocks).get? tag.name = some (reading block (clock i) tag) := by
  let pairs (entry : ReadBlock F × Nat) : List (String × TagResult F) :=
    entry.1.tags.map fun tag => (tag.name, reading entry.1 (clock entry.2) tag)
  have hpairs (entry : ReadBlock F × Nat) : (pairs entry).map Prod.fst =
      entry.1.tags.map TagSpec.name := List.map_map
  rw [List.map_flatMap] at hnames
  have hentries : readBlocks client clock blocks = .ofList (blocks.zipIdx.flatMap pairs) := by
    refine congrArg OrderedDict.ofList (List.flatMap_congr ?_)
    rintro ⟨block, i⟩ he
    have hmem : block ∈ blocks := List.fst_mem_of_mem_zipIdx he
    have hblock : ((pairs (block, i)).map Prod.fst).Nodup := by
      rw [hpairs]
      exact (List.nodup_flatMap.mp hnames).1 block hmem
    simp only
    rw [hread block hmem, OrderedDict.entries_ofList hblock]
  have hkeys : (blocks.zipIdx.flatMap pairs).map Prod.fst =
      blocks.flatMap fun block => block.tags.map TagSpec.name := by
    rw [List.map_flatMap, funext hpairs,
      ← List.flatMap_map Prod.fst fun block : ReadBlock F => block.tags.map TagSpec.name,
      List.zipIdx_map_fst]
  have hnodup : ((blocks.zipIdx.flatMap pairs).map Prod.fst).Nodup := by rwa [hkeys]
  rw [hentries, OrderedDict.get?_ofList_of_nodup hnodup, OrderedDict.lookup_eq_some hnodup,
    List.mem_flatMap]
  exact ⟨(block, i), List.mem_zipIdx_iff_getElem?.mpr hb, List.mem_map_of_mem ht⟩

/-- The tag's result is that of its block: an error when the block's request failed,
and otherwise what a request of its own gives. -/
def FromBlock (m : Memory) (defaultUnitId : Int) (client : Client) (clock : Nat → Datetime)
    (blocks : List (ReadBlock F)) (tag : TagSpec F) (result : TagResult F) : Prop :=
  ∃ i block, blocks[i]? = some block ∧ tag ∈ block.tags ∧
    result = blockReading m defaultUnitId client block (clock i) tag

/-- With valid settings every tag is in a block of the plan and has its result from there. -/
theorem readTagsGrouped_reads (m : Memory) {client : Client} (hreads : client.Reads m)
    {device : DeviceSpec F} {tags : List (TagSpec F)}
    (hvalid : ∀ tag ∈ tags, validateModbusTag tag = .ok ())
    (hnames : (tags.map TagSpec.name).Nodup) (clock : Nat → Datetime) {settings : ReadSettings}
    (hs : readSettings device.connection = .ok settings) :
    ∃ blocks results, requestedBlocks device.connection tags = .ok blocks ∧
      readTagsGrouped (some client) device tags clock = .ok results ∧
      List.Forall₂ (FromBlock m settings.defaultUnitId client clock blocks) tags results := by
  have hok : ∀ tag ∈ tags, ModbusTagOk tag := fun tag ht => validateModbusTag_ok.mp (hvalid tag ht)
  obtain ⟨r, b, hlimits⟩ := readSettings_limits hs
  obtain ⟨blocks, hplan, hperm, hfits⟩ := planBlocks_law
    (fun tag ht => (hok tag ht).function) settings.defaultUnitId settings.maxBlockGap r b
  have hrequested : requestedBlocks device.connection tags = .ok blocks := by
    rw [requestedBlocks, hs, ok_bind, hlimits, hplan]
  have hread : ∀ block ∈ blocks, ∀ t, readBlock client block t = .ofList (block.tags.map fun tag =>
      (tag.name, blockReading m settings.defaultUnitId client block t tag)) := by
    intro block hb t
    refine readBlock_reads hreads t (hfits block hb) fun tag ht => ?_
    exact (hok tag (hperm.mem_iff.mp (List.mem_flatMap.mpr ⟨block, hb, ht⟩))).common
  have hplanned : ((blocks.flatMap ReadBlock.tags).map TagSpec.name).Nodup :=
    (hperm.map TagSpec.name).nodup_iff.mpr hnames
  refine ⟨blocks, _, hrequested, by rw [readTagsGrouped_eq, hrequested, ok_bind], ?_⟩
  rw [List.forall₂_map_right_iff, List.forall₂_same]
  intro tag ht
  obtain ⟨block, hb, htag⟩ := List.mem_flatMap.mp (hperm.mem_iff.mpr ht)
  obtain ⟨i, hi⟩ := List.mem_iff_getElem?.mp hb
  refine ⟨i, block, hi, htag, ?_⟩
  rw [get?_readBlocks hread hplanned hi htag, Option.getD_some]

-- ---------------------------------------------------------------------------
-- What is sent of the device
-- ---------------------------------------------------------------------------

open SinkPublisher LatestReadResultQueue OrderedDict

omit [PyRuntime F] in
theorem tagResult_identity (tag : TagSpec F) (t : Datetime)
    (value : Except PyException (PyValue F)) :
    (tagResult tag t value).name = tag.name ∧ (tagResult tag t value).address = tag.address ∧
      (tagResult tag t value).nodeId = none := by
  cases value <;> exact ⟨rfl, rfl, rfl⟩

theorem FromBlock.identity {m : Memory} {defaultUnitId : Int} {client : Client}
    {clock : Nat → Datetime} {blocks : List (ReadBlock F)} {tag : TagSpec F} {result : TagResult F}
    (h : FromBlock m defaultUnitId client clock blocks tag result) :
    result.name = tag.name ∧ result.address = tag.address ∧ result.nodeId = none := by
  obtain ⟨i, block, -, -, rfl⟩ := h
  unfold blockReading
  split
  · exact ⟨rfl, rfl, rfl⟩
  · exact tagResult_identity tag _ _

theorem identities_of_blocks {m : Memory} {defaultUnitId : Int} {client : Client}
    {clock : Nat → Datetime} {blocks : List (ReadBlock F)} {tags : List (TagSpec F)}
    {results : List (TagResult F)}
    (h : List.Forall₂ (FromBlock m defaultUnitId client clock blocks) tags results) :
    results.map TagResult.name = tags.map TagSpec.name ∧
      results.map tagKey = (tags.map fun tag => nameAndAddress tag.name tag.address) ∧
      ∀ result ∈ results, result.nodeId = none := by
  induction h with
  | nil => exact ⟨rfl, rfl, fun result hr => absurd hr List.not_mem_nil⟩
  | cons hr _ ih =>
    obtain ⟨hname, haddress, hnode⟩ := hr.identity
    obtain ⟨hnames, hkeys, hnodes⟩ := ih
    refine ⟨by rw [List.map_cons, List.map_cons, hname, hnames], ?_,
      List.forall_mem_cons.mpr ⟨hnode, hnodes⟩⟩
    rw [List.map_cons, List.map_cons, hkeys, tagKey, hnode, hname, haddress]
    rfl

/-- The queue and the publisher after items of one poll. -/
def afterPoll (cfg : PublisherConfig F) (times : List (Datetime × Sink F)) (device : DeviceSpec F)
    (polled : Datetime) (results : List (TagResult F)) (p : SinkPublisher F) :
    LatestReadResultQueue F × SinkPublisher F :=
  consume cfg times (empty.put ⟨device, polled, results, none⟩, p)

section Poll

variable {cfg : PublisherConfig F} {times : List (Datetime × Sink F)} {device : DeviceSpec F}
  {polled : Datetime} {results : List (TagResult F)} {p : SinkPublisher F}

/-- Where the poll has all the tags that the publisher knows of the device, the publisher
has its results and no others. -/
theorem cached_afterPoll (hnode : ∀ result ∈ results, result.nodeId = none)
    (hnames : (results.map TagResult.name).Nodup)
    (hknown : ∀ key ∈ (p.cachedTags (deviceKey device)).keys, key ∈ results.map tagKey)
    (hdrained : (afterPoll cfg times device polled results p).1.pending = []) :
    ((afterPoll cfg times device polled results p).2.cachedTags (deviceKey device)).values.Perm
      results := by
  obtain ⟨hkeys, hidents⟩ := nodup_of_names hnode hnames
  have herror : textTruthy (⟨device, polled, results, none⟩ : ReadResult F).error = false := rfl
  rw [afterPoll] at hdrained ⊢
  by_cases hne : results = []
  · -- a poll without tags leaves the cache as it was, and that was empty
    obtain ⟨hcached, -⟩ := consume_whole cfg herror hne hdrained
    have hempty : (p.cachedTags (deviceKey device)).entries = [] := by
      refine List.eq_nil_iff_forall_not_mem.mpr fun entry he => ?_
      have hkey := hknown entry.1 (List.mem_map_of_mem he)
      rw [hne] at hkey
      exact List.not_mem_nil hkey
    rw [hcached, OrderedDict.values, hempty, hne]
    exact .refl _
  · obtain ⟨hcached, -⟩ := consume_split cfg herror hne hdrained
    rw [hcached, keepLast_of_nodup hidents]
    exact values_update_perm hkeys hknown

/-- The last result decides the status of the device. -/
theorem status_afterPoll (hne : results ≠ [])
    (hdrained : (afterPoll cfg times device polled results p).1.pending = []) :
    (afterPoll cfg times device polled results p).2.statusOf (deviceKey device) = some .good ↔
      results.getLast?.any TagResult.isGood = true := by
  have herror : textTruthy (⟨device, polled, results, none⟩ : ReadResult F).error = false := rfl
  rw [afterPoll] at hdrained ⊢
  obtain ⟨-, hstatus⟩ := consume_split cfg herror hne hdrained
  rw [hstatus, resultStatus_singleton, List.getLast?_eq_some_getLast hne]
  cases hgood : (results.getLast hne).isGood <;> simp [hgood]

/-- After such a poll the good results are sent when the last one is good, and else
nothing. -/
theorem published_afterPoll (hnode : ∀ result ∈ results, result.nodeId = none)
    (hnames : (results.map TagResult.name).Nodup)
    (hknown : ∀ key ∈ (p.cachedTags (deviceKey device)).keys, key ∈ results.map tagKey)
    (hdrained : (afterPoll cfg times device polled results p).1.pending = []) {now : Datetime}
    (sink : Sink F)
    (hrecent : ∀ snapshot, (afterPoll cfg times device polled results p).2.latest.get?
      (deviceKey device) = some snapshot → timedOut cfg now snapshot = false) :
    (publishedTags (deviceKey device)
        ((publishCached cfg sink now).events (afterPoll cfg times device polled results p).2)).Perm
      (if results.getLast?.any TagResult.isGood then
        (results.filter TagResult.isGood).map TagResult.toPayload else []) :=
  publishedTags_of_results cfg sink (cached_afterPoll hnode hnames hknown hdrained)
    (fun hne => status_afterPoll hne hdrained) hrecent

end Poll

/-- The driver keeps a failed request to its block. After the publisher has taken the
poll from the queue, the device's last tag decides for all of them: the good results
are sent when its block was answered and its value could be decoded, and else nothing. -/
theorem failed_requests_published (cfg : PublisherConfig F) (m : Memory) {client : Client}
    (hreads : client.Reads m) {device : DeviceSpec F} {tags : List (TagSpec F)}
    (hvalid : ∀ tag ∈ tags, validateModbusTag tag = .ok ())
    (hnames : (tags.map TagSpec.name).Nodup) (clock : Nat → Datetime) {settings : ReadSettings}
    (hs : readSettings device.connection = .ok settings) :
    ∃ blocks results, requestedBlocks device.connection tags = .ok blocks ∧
      readTagsGrouped (some client) device tags clock = .ok results ∧
      List.Forall₂ (FromBlock m settings.defaultUnitId client clock blocks) tags results ∧
      ∀ (polled : Datetime) (p : SinkPublisher F) (times : List (Datetime × Sink F)),
        (∀ key ∈ (p.cachedTags (deviceKey device)).keys,
          key ∈ tags.map fun tag => nameAndAddress tag.name tag.address) →
        (afterPoll cfg times device polled results p).1.pending = [] →
        ∀ (now : Datetime) (sink : Sink F),
          (∀ snapshot, (afterPoll cfg times device polled results p).2.latest.get?
            (deviceKey device) = some snapshot → timedOut cfg now snapshot = false) →
          (publishedTags (deviceKey device) ((publishCached cfg sink now).events
              (afterPoll cfg times device polled results p).2)).Perm
            (if results.getLast?.any TagResult.isGood then
              (results.filter TagResult.isGood).map TagResult.toPayload else []) := by
  obtain ⟨blocks, results, hblocks, hresults, hfrom⟩ :=
    readTagsGrouped_reads m hreads hvalid hnames clock hs
  obtain ⟨hresultNames, hkeys, hnode⟩ := identities_of_blocks hfrom
  refine ⟨blocks, results, hblocks, hresults, hfrom, ?_⟩
  intro polled p times hknown hdrained now sink hrecent
  rw [← hkeys] at hknown
  exact published_afterPoll hnode (hresultNames ▸ hnames) hknown hdrained sink hrecent

-- A pump with a register and a coil, whose requests for coils time out.
section Pump

def coilsTimeOut : Client :=
  { addressMemory.client with
    readCoils := fun _ _ _ => .error ⟨.other "ModbusIOException", "No response received"⟩ }

theorem coilsTimeOut_reads : coilsTimeOut.Reads addressMemory := by
  constructor
  all_goals
    intro start count unit vs h
    cases h
  all_goals exact List.prefix_rfl

def pump : DeviceSpec WholeFloat := ⟨some 1, "pump", "modbus_tcp", true, 1000, "", ∅⟩

def pumpTags : List (TagSpec WholeFloat) :=
  [{ name := "speed", address := 3, function := "holding_register", dataType := "uint16",
     scale := ⟨1⟩, offset := ⟨0⟩ },
    { name := "running", address := 0, function := "coil", dataType := "bool", scale := ⟨1⟩,
      offset := ⟨0⟩ }]

def pumpConfig : PublisherConfig WholeFloat := ⟨{}, "mqtt", ⟨15⟩, ⟨60⟩⟩

/-- What a poll reads of the pump. -/
def pumpResults (tags : List (TagSpec WholeFloat)) : List (TagResult WholeFloat) :=
  (readTagsGrouped (some coilsTimeOut) pump tags fun _ => 0).toOption.getD []

/-- A fresh publisher after one poll of the pump. -/
def pumpPublisher (tags : List (TagSpec WholeFloat)) :
    LatestReadResultQueue WholeFloat × SinkPublisher WholeFloat :=
  afterPoll pumpConfig [(0, fun _ => none), (0, fun _ => none)] pump 0 (pumpResults tags) (fresh [])

/-- What it sends of the pump. -/
def sentOfPump (tags : List (TagSpec WholeFloat)) : List (TagPayload WholeFloat) :=
  publishedTags (deviceKey pump)
    ((publishCached pumpConfig (fun _ => none) 0).events (pumpPublisher tags).2)

end Pump

/-- With the coil as the last tag the speed is read and not sent, and with the speed as the
last one it is. -/
theorem pump_silenced : sentOfPump pumpTags = [] ∧
    (sentOfPump pumpTags.reverse).map TagPayload.name = ["speed"] := by
  have hsettings : readSettings pump.connection = .ok ⟨4, limits 125 2000, 1⟩ := rfl
  have hsent : ∀ tags ∈ [pumpTags, pumpTags.reverse],
      (sentOfPump tags).Perm (if (pumpResults tags).getLast?.any TagResult.isGood then
        ((pumpResults tags).filter TagResult.isGood).map TagResult.toPayload else []) := by
    intro tags htags
    have hvalid : ∀ tag ∈ tags, validateModbusTag tag = .ok () := by
      revert tags
      decide
    have hnames : (tags.map TagSpec.name).Nodup := by
      revert tags
      decide
    have hdrained : (pumpPublisher tags).1.pending = [] := by
      revert tags
      decide +kernel
    have hrecent : ((pumpPublisher tags).2.latest.get? (deviceKey pump)).all
        (fun snapshot => timedOut pumpConfig 0 snapshot = false) = true := by
      revert tags
      decide +kernel
    obtain ⟨blocks, results, -, hresults, -, hsent⟩ := failed_requests_published pumpConfig
      addressMemory coilsTimeOut_reads hvalid hnames (fun _ => 0) hsettings
    have hread : pumpResults tags = results := by
      rw [pumpResults, hresults]
      rfl
    rw [sentOfPump]
    rw [pumpPublisher, hread] at hdrained hrecent ⊢
    refine hsent 0 (fresh []) _ (fun key hkey => absurd hkey List.not_mem_nil) hdrained 0 _ ?_
    intro snapshot hsnapshot
    rw [hsnapshot] at hrecent
    simpa using hrecent
  constructor
  · have hpump := hsent pumpTags List.mem_cons_self
    have hread : pumpResults pumpTags =
        [⟨"speed", 3, .float ⟨3⟩, .good, none, 0, none, ""⟩,
          ⟨"running", 0, .none, .bad, some "No response received", 0, none, ""⟩] := by
      decide +kernel
    rw [hread] at hpump
    exact hpump.eq_nil
  · have hpump := hsent pumpTags.reverse (List.mem_cons_of_mem _ List.mem_cons_self)
    have hread : pumpResults pumpTags.reverse =
        [⟨"running", 0, .none, .bad, some "No response received", 0, none, ""⟩,
          ⟨"speed", 3, .float ⟨3⟩, .good, none, 0, none, ""⟩] := by
      decide +kernel
    rw [hread] at hpump
    exact congrArg (List.map TagPayload.name) (List.perm_singleton.mp hpump)

end Modbus

end IndustrialGateway
