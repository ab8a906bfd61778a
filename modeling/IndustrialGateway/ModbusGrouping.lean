import IndustrialGateway.Lib.WholeFloat
import IndustrialGateway.Modbus

/-!
# Grouped reading and single reading

A plan puts every tag into one block of its function and unit whose range holds
the tag's own. So what a tag is decoded from does not depend on its block, and
grouped reading gives each tag what a request of its own would, as long as the
results, which are kept by name, do not overwrite each other.
-/

namespace IndustrialGateway

namespace Modbus

variable {F : Type}

-- ---------------------------------------------------------------------------
-- Plans
-- ---------------------------------------------------------------------------

/-- The tags of a block have its function and unit and lie in its range. -/
structure BlockFits (defaultUnitId : Int) (block : ReadBlock F) : Prop where
  function : ∀ tag ∈ block.tags, tag.function = block.function
  unitId : ∀ tag ∈ block.tags, unitOf defaultUnitId tag = block.unitId
  start : ∀ tag ∈ block.tags, block.start ≤ tag.address
  stop : ∀ tag ∈ block.tags, tag.address + itemCount tag ≤ block.start + block.count

theorem tags_mergeFrom (function : String) (unitId gap maxCount : Int)
    (current : List (TagSpec F)) (start stop : Int) (tags : List (TagSpec F)) :
    (mergeFrom function unitId gap maxCount current start stop tags).flatMap ReadBlock.tags =
      current ++ tags := by
  induction tags generalizing current start stop with
  | nil => simp [mergeFrom]
  | cons tag tags ih =>
    rw [mergeFrom]
    split
    · simp [ih]
    · simp [ih]

theorem tags_mergeBlocks (function : String) (unitId gap maxCount : Int)
    (tags : List (TagSpec F)) :
    (mergeBlocks function unitId gap maxCount tags).flatMap ReadBlock.tags = tags := by
  cases tags with
  | nil => rfl
  | cons tag tags => simp [mergeBlocks, tags_mergeFrom]

theorem mergeFrom_key {function : String} {unitId gap maxCount : Int}
    {current tags : List (TagSpec F)} {start stop : Int} {block : ReadBlock F}
    (h : block ∈ mergeFrom function unitId gap maxCount current start stop tags) :
    block.function = function ∧ block.unitId = unitId := by
  induction tags generalizing current start stop with
  | nil =>
    rw [List.mem_singleton.mp h]
    exact ⟨rfl, rfl⟩
  | cons tag tags ih =>
    rw [mergeFrom] at h
    split at h
    · exact ih h
    · rcases List.mem_cons.mp h with rfl | h
      · exact ⟨rfl, rfl⟩
      · exact ih h

theorem mergeBlocks_key {function : String} {unitId gap maxCount : Int}
    {tags : List (TagSpec F)} {block : ReadBlock F}
    (h : block ∈ mergeBlocks function unitId gap maxCount tags) :
    block.function = function ∧ block.unitId = unitId := by
  cases tags with
  | nil => cases h
  | cons tag tags => exact mergeFrom_key h

/-- The open block holds its tags, and the sorted tags to come do not lie before it. -/
theorem mergeFrom_fits {defaultUnitId : Int} {function : String} {unitId gap maxCount : Int}
    {current tags : List (TagSpec F)} {start stop : Int}
    (hkey : ∀ tag ∈ current ++ tags, tag.function = function ∧ unitOf defaultUnitId tag = unitId)
    (hcurrent : ∀ tag ∈ current, start ≤ tag.address ∧ tag.address + itemCount tag ≤ stop)
    (hnext : ∀ tag ∈ tags, start ≤ tag.address)
    (hsorted : tags.Pairwise fun a b => a.address ≤ b.address) :
    ∀ block ∈ mergeFrom function unitId gap maxCount current start stop tags,
      BlockFits defaultUnitId block := by
  have hclosed : BlockFits defaultUnitId ⟨function, unitId, start, stop - start, current⟩ := by
    refine ⟨fun tag ht => (hkey tag (by simp [ht])).1, fun tag ht => (hkey tag (by simp [ht])).2,
      fun tag ht => (hcurrent tag ht).1, fun tag ht => ?_⟩
    have := (hcurrent tag ht).2
    simp only
    omega
  induction tags generalizing current start stop with
  | nil =>
    intro block hb
    rw [List.mem_singleton.mp hb]
    exact hclosed
  | cons tag tags ih =>
    obtain ⟨hhead, htail⟩ := List.pairwise_cons.mp hsorted
    have hstart := hnext tag (by simp)
    rw [mergeFrom]
    split
    · have hgrown : ∀ t ∈ current ++ [tag], start ≤ t.address ∧
          t.address + itemCount t ≤ max stop (tag.address + itemCount tag) := by
        intro t ht
        rcases List.mem_append.mp ht with ht | ht
        · exact ⟨(hcurrent t ht).1, (hcurrent t ht).2.trans (Int.le_max_left ..)⟩
        · rw [List.mem_singleton.mp ht]
          exact ⟨hstart, Int.le_max_right ..⟩
      refine ih (by simpa using hkey) hgrown (fun t ht => hnext t (by simp [ht])) htail ?_
      refine ⟨fun t ht => (hkey t (by simpa using Or.imp_right Or.inl (List.mem_append.mp ht))).1,
        fun t ht => (hkey t (by simpa using Or.imp_right Or.inl (List.mem_append.mp ht))).2,
        fun t ht => (hgrown t ht).1, fun t ht => ?_⟩
      have := (hgrown t ht).2
      simp only
      omega
    · intro block hb
      rcases List.mem_cons.mp hb with rfl | hb
      · exact hclosed
      · have hone : ∀ t ∈ [tag], tag.address ≤ t.address ∧
            t.address + itemCount t ≤ tag.address + itemCount tag := by
          intro t ht
          rw [List.mem_singleton.mp ht]
          exact ⟨le_refl _, le_refl _⟩
        refine ih (fun t ht => hkey t (List.mem_append_right _ ht)) hone hhead htail ?_ block hb
        refine ⟨fun t ht => (hkey t (by simp [List.mem_singleton.mp ht])).1,
          fun t ht => (hkey t (by simp [List.mem_singleton.mp ht])).2,
          fun t ht => (hone t ht).1, fun t ht => ?_⟩
        have := (hone t ht).2
        simp only
        omega

theorem mergeBlocks_fits {defaultUnitId : Int} {function : String} {unitId gap maxCount : Int}
    {tags : List (TagSpec F)}
    (hkey : ∀ tag ∈ tags, tag.function = function ∧ unitOf defaultUnitId tag = unitId)
    (hsorted : tags.Pairwise fun a b => a.address ≤ b.address) :
    ∀ block ∈ mergeBlocks function unitId gap maxCount tags, BlockFits defaultUnitId block := by
  cases tags with
  | nil => exact fun block hb => (List.not_mem_nil hb).elim
  | cons tag tags =>
    obtain ⟨hhead, htail⟩ := List.pairwise_cons.mp hsorted
    refine mergeFrom_fits (by simpa using hkey) ?_ hhead htail
    intro t ht
    rw [List.mem_singleton.mp ht]
    exact ⟨le_refl _, le_refl _⟩

theorem perm_sortByAddress (tags : List (TagSpec F)) : (sortByAddress tags).Perm tags :=
  List.perm_insertionSort _ tags

theorem sorted_sortByAddress (tags : List (TagSpec F)) :
    (sortByAddress tags).Pairwise fun a b => a.address ≤ b.address := by
  have : Std.Total fun a b : TagSpec F => a.address ≤ b.address := ⟨fun a b => Int.le_total ..⟩
  have : IsTrans (TagSpec F) fun a b => a.address ≤ b.address := ⟨fun _ _ _ => Int.le_trans⟩
  exact List.pairwise_insertionSort _ tags

theorem get?_limits {function : String} (h : function ∈ modbusFunctions) (r b : Int) :
    ∃ maxCount, (limits r b).get? function = some maxCount := by
  simp only [modbusFunctions, List.mem_cons, List.not_mem_nil, or_false] at h
  rcases h with rfl | rfl | rfl | rfl <;> exact ⟨_, rfl⟩

variable [PyRuntime F]

/-- A plan for tags whose functions have limits exists. It takes up every tag once,
and each block comes from the tags of its function and unit. -/
theorem planBlocks_groups {tags : List (TagSpec F)} {maxCounts : MaxCounts}
    (h : ∀ tag ∈ tags, ∃ n, maxCounts.get? tag.function = some n) (defaultUnitId gap : Int) :
    ∃ blocks, planBlocks tags defaultUnitId gap maxCounts = .ok blocks ∧
      (blocks.flatMap ReadBlock.tags).Perm tags ∧
      ∀ block ∈ blocks, ∃ maxCount group, maxCounts.get? block.function = some maxCount ∧
        block ∈ mergeBlocks block.function block.unitId gap maxCount (sortByAddress group) ∧
        ∀ tag ∈ group, tag ∈ tags ∧ tag.function = block.function ∧
          unitOf defaultUnitId tag = block.unitId := by
  let key (tag : TagSpec F) : String × Int := (tag.function, unitOf defaultUnitId tag)
  let plan (entry : (String × Int) × List (TagSpec F)) : List (ReadBlock F) :=
    mergeBlocks entry.1.1 entry.1.2 gap ((maxCounts.get? entry.1.1).getD 0) (sortByAddress entry.2)
  have hentry : ∀ entry ∈ (OrderedDict.groupBy key tags).entries,
      (∃ n, maxCounts.get? entry.1.1 = some n) ∧ ∀ tag ∈ entry.2, tag ∈ tags ∧ key tag = entry.1 := by
    intro entry he
    obtain ⟨hmem, hgroup⟩ := OrderedDict.mem_entries_groupBy (k := entry.1) (g := entry.2).mp he
    refine ⟨?_, fun tag ht => by rw [hgroup] at ht; simpa using ht⟩
    obtain ⟨tag, ht, hk⟩ := List.mem_map.mp hmem
    rw [← hk]
    exact h tag ht
  have hplan : planBlocks tags defaultUnitId gap maxCounts =
      .ok ((OrderedDict.groupBy key tags).entries.map plan).flatten := by
    rw [planBlocks, mapM_eq_ok_map (g := plan)]
    · rfl
    · intro entry he
      obtain ⟨⟨maxCount, hc⟩, -⟩ := hentry entry he
      simp [item, hc, plan, bind, Except.bind, pure, Except.pure]
  refine ⟨_, hplan, ?_, ?_⟩
  · have hflat : ((OrderedDict.groupBy key tags).entries.map plan).flatten.flatMap ReadBlock.tags =
        (OrderedDict.groupBy key tags).entries.flatMap fun entry => sortByAddress entry.2 := by
      rw [← List.flatMap_def, List.flatMap_assoc]
      exact List.flatMap_congr fun entry _ => tags_mergeBlocks ..
    rw [hflat]
    refine (List.Perm.flatMap_left _ fun entry _ => perm_sortByAddress entry.2).trans ?_
    have hvalues := OrderedDict.perm_flatten_groupBy key tags
    rwa [OrderedDict.values, ← List.flatMap_def] at hvalues
  · intro block hb
    rw [← List.flatMap_def] at hb
    obtain ⟨entry, he, hb⟩ := List.mem_flatMap.mp hb
    obtain ⟨⟨maxCount, hc⟩, htags⟩ := hentry entry he
    obtain ⟨hfunction, hunit⟩ := mergeBlocks_key hb
    simp only [plan, hc, Option.getD_some] at hb
    refine ⟨maxCount, entry.2, by rw [hfunction, hc], by rwa [hfunction, hunit], fun tag ht => ?_⟩
    obtain ⟨hmem, hk⟩ := htags tag ht
    exact ⟨hmem, (congrArg Prod.fst hk).trans hfunction.symm,
      (congrArg Prod.snd hk).trans hunit.symm⟩

/-- A plan for tags of the four functions exists; it takes up every tag once, in
blocks that fit. -/
theorem planBlocks_law {tags : List (TagSpec F)} (h : ∀ tag ∈ tags, tag.function ∈ modbusFunctions)
    (defaultUnitId gap r b : Int) :
    ∃ blocks, planBlocks tags defaultUnitId gap (limits r b) = .ok blocks ∧
      (blocks.flatMap ReadBlock.tags).Perm tags ∧
      ∀ block ∈ blocks, BlockFits defaultUnitId block := by
  obtain ⟨blocks, hplan, hperm, hblocks⟩ :=
    planBlocks_groups (fun tag ht => get?_limits (h tag ht) r b) defaultUnitId gap
  refine ⟨blocks, hplan, hperm, fun block hb => ?_⟩
  obtain ⟨maxCount, group, -, hmem, hgroup⟩ := hblocks block hb
  refine mergeBlocks_fits (fun tag ht => ?_) (sorted_sortByAddress _) block hmem
  exact (hgroup tag ((perm_sortByAddress _).mem_iff.mp ht)).2

-- ---------------------------------------------------------------------------
-- A client with a memory
-- ---------------------------------------------------------------------------

/-- The registers and bits of every unit, by unit id and address. -/
structure Memory where
  holding : Int → Int → UInt16
  input : Int → Int → UInt16
  coils : Int → Int → Bool
  discrete : Int → Int → Bool

/-- The client that answers every read with the contents of the memory. -/
def Memory.client (m : Memory) : Client where
  readHoldingRegisters start count unit :=
    .ok (.values (PySeq.contents (m.holding unit) start count.toNat))
  readInputRegisters start count unit :=
    .ok (.values (PySeq.contents (m.input unit) start count.toNat))
  readCoils start count unit := .ok (.values (PySeq.contents (m.coils unit) start count.toNat))
  readDiscreteInputs start count unit :=
    .ok (.values (PySeq.contents (m.discrete unit) start count.toNat))

/-- A block with the one tag. -/
def dedicatedBlock (defaultUnitId : Int) (tag : TagSpec F) : ReadBlock F :=
  ⟨tag.function, unitOf defaultUnitId tag, tag.address, itemCount tag, [tag]⟩

/-- The value of a tag, from a request of its own. -/
def Memory.value (m : Memory) (defaultUnitId : Int) (tag : TagSpec F) :
    Except PyException (PyValue F) :=
  let block := dedicatedBlock defaultUnitId tag
  let unitId := block.unitId
  if tag.function = "holding_register" then
    decodeRegisterTag (PySeq.contents (m.holding unitId) tag.address (itemCount tag).toNat) block tag
  else if tag.function = "input_register" then
    decodeRegisterTag (PySeq.contents (m.input unitId) tag.address (itemCount tag).toNat) block tag
  else if tag.function = "coil" then
    decodeBitTag (PySeq.contents (m.coils unitId) tag.address (itemCount tag).toNat) block tag
  else if tag.function = "discrete_input" then
    decodeBitTag (PySeq.contents (m.discrete unitId) tag.address (itemCount tag).toNat) block tag
  else .error ⟨.valueError, "unsupported function " ++ tag.function⟩

omit [PyRuntime F] in
theorem dedicatedBlock_fits (defaultUnitId : Int) (tag : TagSpec F) :
    BlockFits defaultUnitId (dedicatedBlock defaultUnitId tag) := by
  constructor <;> intro t ht <;> rw [List.mem_singleton.mp ht] <;> simp [dedicatedBlock]

omit [PyRuntime F] in
/-- In a block that fits, the tag's part of the answer is the contents of its range. -/
theorem slice_of_fits {defaultUnitId : Int} {block : ReadBlock F} {tag : TagSpec F}
    (hfits : BlockFits defaultUnitId block) (ht : tag ∈ block.tags) {count : Int}
    (hcount : count = itemCount tag) (hpos : 0 ≤ count) (memory : Int → α) :
    PySeq.slice (PySeq.contents memory block.start block.count.toNat) (tag.address - block.start)
        (tag.address - block.start + count) = PySeq.contents memory tag.address count.toNat := by
  have hstart := hfits.start tag ht
  have hstop := hfits.stop tag ht
  have h := PySeq.slice_contents memory block.start
    (show 0 ≤ tag.address - block.start by omega)
    (show tag.address - block.start + (count.toNat : Int) ≤ block.count.toNat by omega)
  have hback : block.start + (tag.address - block.start) = tag.address := by omega
  rwa [Int.toNat_of_nonneg hpos, hback] at h

omit [PyRuntime F] in
theorem itemCount_eq {tag : TagSpec F} {function : String} (hf : tag.function = function) :
    (function = "holding_register" ∨ function = "input_register" → itemCount tag = registerCount tag) ∧
      (function = "coil" ∨ function = "discrete_input" → itemCount tag = valueCount tag) := by
  constructor <;> rintro (rfl | rfl) <;> simp [itemCount, hf]

theorem counts_positive {tag : TagSpec F} (h : CommonFieldsOk tag) :
    0 < valueCount tag ∧ 0 < registerCount tag := by
  have hvalue : 0 < valueCount tag := by
    unfold valueCount intOr
    cases hw : tag.wordCount with
    | none => decide
    | some n =>
      have := h.count n hw
      simp only
      split <;> omega
  have hwords : 0 < wordsPerValue tag := by
    rw [wordsPerValue]
    split
    · decide
    · split <;> decide
  refine ⟨hvalue, ?_⟩
  rw [registerCount]
  split
  · exact hvalue
  · exact Int.mul_pos hwords hvalue

omit [PyRuntime F] in
theorem blockResults_congr {block : ReadBlock F} {t : Datetime}
    {decode decode' : TagSpec F → Except PyException (PyValue F)}
    (h : ∀ tag ∈ block.tags, decode tag = decode' tag) :
    blockResults block t decode = blockResults block t decode' := by
  rw [blockResults, blockResults]
  congr 1
  exact List.map_congr_left fun tag ht => by rw [h tag ht]

/-- A block that fits gives each of its tags the value of a request of its own. -/
theorem readBlock_memory (m : Memory) {defaultUnitId : Int} {block : ReadBlock F} (t : Datetime)
    (hfits : BlockFits defaultUnitId block) (hvalid : ∀ tag ∈ block.tags, CommonFieldsOk tag) :
    readBlock m.client block t = blockResults block t (m.value defaultUnitId) := by
  -- the two slices, of the block's answer and of the tag's own, are the same contents
  have hown : ∀ tag ∈ block.tags, ∀ {α : Type} (memory : Int → α) (count : Int),
      count = itemCount tag → 0 ≤ count →
      PySeq.slice (PySeq.contents memory block.start block.count.toNat) (tag.address - block.start)
          (tag.address - block.start + count) =
        PySeq.slice (PySeq.contents memory tag.address (itemCount tag).toNat)
          (tag.address - tag.address) (tag.address - tag.address + count) := by
    intro tag ht α memory count hcount hpos
    rw [slice_of_fits hfits ht hcount hpos]
    exact (slice_of_fits (dedicatedBlock_fits defaultUnitId tag) (List.mem_singleton.mpr rfl) hcount
      hpos memory).symm
  have hregisters : ∀ tag ∈ block.tags,
      tag.function = "holding_register" ∨ tag.function = "input_register" →
      ∀ memory : Int → UInt16,
        decodeRegisterTag (PySeq.contents memory block.start block.count.toNat) block tag =
          decodeRegisterTag (PySeq.contents memory tag.address (itemCount tag).toNat)
            (dedicatedBlock defaultUnitId tag) tag := by
    intro tag ht hf memory
    have hcount := (itemCount_eq rfl).1 hf
    simp only [decodeRegisterTag]
    rw [hown tag ht memory _ hcount.symm (counts_positive (hvalid tag ht)).2.le]
    rfl
  have hbits : ∀ tag ∈ block.tags, tag.function = "coil" ∨ tag.function = "discrete_input" →
      ∀ memory : Int → Bool,
        decodeBitTag (PySeq.contents memory block.start block.count.toNat) block tag =
          decodeBitTag (PySeq.contents memory tag.address (itemCount tag).toNat)
            (dedicatedBlock defaultUnitId tag) tag := by
    intro tag ht hf memory
    have hcount := (itemCount_eq rfl).2 hf
    simp only [decodeBitTag]
    rw [hown tag ht memory _ hcount.symm (counts_positive (hvalid tag ht)).1.le]
    rfl
  have hunit : ∀ tag ∈ block.tags, (dedicatedBlock defaultUnitId tag).unitId = block.unitId :=
    hfits.unitId
  unfold readBlock
  split
  · rename_i hf
    refine blockResults_congr fun tag ht => ?_
    have htf := (hfits.function tag ht).trans hf
    rw [Memory.value, if_pos htf, hunit tag ht]
    exact hregisters tag ht (.inl htf) _
  · split
    · rename_i _ hf
      refine blockResults_congr fun tag ht => ?_
      have htf := (hfits.function tag ht).trans hf
      rw [Memory.value, if_neg (by simp [htf]), if_pos htf, hunit tag ht]
      exact hregisters tag ht (.inr htf) _
    · split
      · rename_i _ _ hf
        refine blockResults_congr fun tag ht => ?_
        have htf := (hfits.function tag ht).trans hf
        rw [Memory.value, if_neg (by simp [htf]), if_neg (by simp [htf]), if_pos htf, hunit tag ht]
        exact hbits tag ht (.inl htf) _
      · split
        · rename_i _ _ _ hf
          refine blockResults_congr fun tag ht => ?_
          have htf := (hfits.function tag ht).trans hf
          rw [Memory.value, if_neg (by simp [htf]), if_neg (by simp [htf]), if_neg (by simp [htf]),
            if_pos htf, hunit tag ht]
          exact hbits tag ht (.inr htf) _
        · rename_i h1 h2 h3 h4
          rw [badBlock, blockResults]
          congr 1
          refine List.map_congr_left fun tag ht => ?_
          rw [← hfits.function tag ht] at h1 h2 h3 h4
          rw [Memory.value, if_neg h1, if_neg h2, if_neg h3, if_neg h4]
          rfl

-- ---------------------------------------------------------------------------
-- Grouped and alone
-- ---------------------------------------------------------------------------

/-- What a request for the one tag gives. -/
def readAlone (client : Client) (defaultUnitId : Int) (tag : TagSpec F) (t : Datetime) :
    TagResult F :=
  ((readBlock client (dedicatedBlock defaultUnitId tag) t).get? tag.name).getD
    (bad tag t "tag was not read")

theorem readAlone_memory (m : Memory) (defaultUnitId : Int) {tag : TagSpec F} (t : Datetime)
    (h : CommonFieldsOk tag) :
    readAlone m.client defaultUnitId tag t = tagResult tag t (m.value defaultUnitId tag) := by
  have hread := readBlock_memory m t (dedicatedBlock_fits defaultUnitId tag)
    (fun t' ht => List.mem_singleton.mp ht ▸ h)
  rw [readAlone, hread]
  simp [blockResults, dedicatedBlock, OrderedDict.ofList]

/-- The tag's own identity, and the quality and value it has alone. -/
structure AgreesWith (tag : TagSpec F) (alone result : TagResult F) : Prop where
  name : result.name = tag.name
  address : result.address = tag.address
  tagGroup : result.tagGroup = tag.tagGroup
  quality : result.quality = alone.quality
  value : result.value = alone.value

omit [PyRuntime F] in
theorem agreesWith_tagResult (tag : TagSpec F) (t t' : Datetime)
    (value : Except PyException (PyValue F)) :
    AgreesWith tag (tagResult tag t value) (tagResult tag t' value) := by
  cases value <;> exact ⟨rfl, rfl, rfl, rfl, rfl⟩

/-- Grouped reading returns one result a tag, each as if the tag were read alone. -/
def GroupedAgrees (client : Client) (device : DeviceSpec F) (tags : List (TagSpec F))
    (clock : Nat → Datetime) : Prop :=
  ∃ settings results, readSettings device.connection = .ok settings ∧
    readTagsGrouped (some client) device tags clock = .ok results ∧
    List.Forall₂ (fun tag result =>
      ∀ t, AgreesWith tag (readAlone client settings.defaultUnitId tag t) result) tags results

theorem readSettings_limits {connection : OrderedDict String (PyValue F)} {settings : ReadSettings}
    (h : readSettings connection = .ok settings) : ∃ r b, settings.maxCounts = limits r b := by
  simp only [readSettings, maxCountsFromConnection, bind_eq_ok] at h
  obtain ⟨_, -, _, ⟨r, -, b, -, hcounts⟩, _, -, hsettings⟩ := h
  cases hcounts
  cases hsettings
  exact ⟨_, _, rfl⟩

/-- The results by name: every tag's name is there, with the result of a tag of
that name. -/
theorem readBlocks_memory (m : Memory) {defaultUnitId : Int} {blocks : List (ReadBlock F)}
    (clock : Nat → Datetime) (hfits : ∀ block ∈ blocks, BlockFits defaultUnitId block)
    (hvalid : ∀ block ∈ blocks, ∀ tag ∈ block.tags, CommonFieldsOk tag) :
    (∀ name, (∃ block ∈ blocks, ∃ tag ∈ block.tags, tag.name = name) →
      ∃ result, (readBlocks m.client clock blocks).get? name = some result) ∧
    ∀ name result, (readBlocks m.client clock blocks).get? name = some result →
      ∃ block ∈ blocks, ∃ tag ∈ block.tags, ∃ t,
        tag.name = name ∧ result = tagResult tag t (m.value defaultUnitId tag) := by
  have hentry : ∀ block ∈ blocks, ∀ t, ∀ name result,
      (name, result) ∈ (readBlock m.client block t).entries →
        ∃ tag ∈ block.tags, tag.name = name ∧ result = tagResult tag t (m.value defaultUnitId tag) := by
    intro block hb t name result he
    rw [readBlock_memory m t (hfits block hb) (hvalid block hb), blockResults,
      ← OrderedDict.get?_eq_some, OrderedDict.get?_ofList, List.filter_map, List.getLast?_map,
      Option.map_map] at he
    obtain ⟨tag, ht, rfl⟩ := Option.map_eq_some_iff.mp he
    obtain ⟨hm, hname⟩ := List.mem_filter.mp (List.mem_of_getLast? ht)
    exact ⟨tag, hm, by simpa using hname, rfl⟩
  constructor
  · rintro name ⟨block, hb, tag, ht, rfl⟩
    rw [← OrderedDict.mem_keys_iff, readBlocks, OrderedDict.mem_keys_ofList]
    obtain ⟨i, hi⟩ := List.mem_iff_getElem?.mp hb
    rw [List.map_flatMap, List.mem_flatMap]
    refine ⟨(block, i), List.mem_zipIdx_iff_getElem?.mpr hi, ?_⟩
    have hkeys : tag.name ∈ (readBlock m.client block (clock i)).keys := by
      rw [readBlock_memory m _ (hfits block hb) (hvalid block hb), blockResults,
        OrderedDict.mem_keys_ofList, List.map_map]
      exact List.mem_map_of_mem ht
    exact hkeys
  · intro name result h
    rw [readBlocks, OrderedDict.get?_ofList] at h
    obtain ⟨entry, he, rfl⟩ := Option.map_eq_some_iff.mp h
    obtain ⟨hm, hname⟩ := List.mem_filter.mp (List.mem_of_getLast? he)
    obtain ⟨⟨block, i⟩, hb, he⟩ := List.mem_flatMap.mp hm
    have hb : block ∈ blocks := List.fst_mem_of_mem_zipIdx hb
    obtain ⟨tag, ht, htn, hr⟩ := hentry block hb _ entry.1 entry.2 he
    exact ⟨block, hb, tag, ht, _, htn.trans (by simpa using hname), hr⟩

/-- With valid settings, reading returns for each tag what is stored under its name: the
result of a tag with that name. -/
theorem readTagsGrouped_memory (m : Memory) {device : DeviceSpec F} {tags : List (TagSpec F)}
    (hok : ∀ tag ∈ tags, ModbusTagOk tag) (clock : Nat → Datetime) {settings : ReadSettings}
    (hs : readSettings device.connection = .ok settings) :
    ∃ found : String → TagResult F,
      readTagsGrouped (some m.client) device tags clock =
        .ok (tags.map fun tag => found tag.name) ∧
      ∀ tag ∈ tags, ∃ source ∈ tags, ∃ t, source.name = tag.name ∧
        found tag.name = tagResult source t (m.value settings.defaultUnitId source) := by
  obtain ⟨r, b, hlimits⟩ := readSettings_limits hs
  obtain ⟨blocks, hplan, hperm, hfits⟩ := planBlocks_law
    (fun tag ht => (hok tag ht).function) settings.defaultUnitId settings.maxBlockGap r b
  have hmem : ∀ tag, (∃ block ∈ blocks, tag ∈ block.tags) ↔ tag ∈ tags := by
    intro tag
    rw [← hperm.mem_iff, List.mem_flatMap]
  obtain ⟨hkeys, hvalues⟩ := readBlocks_memory m clock hfits
    fun block hb tag ht => (hok tag ((hmem tag).mp ⟨block, hb, ht⟩)).common
  let found (name : String) : TagResult F :=
    ((readBlocks m.client clock blocks).get? name).getD
      ⟨name, 0, .none, .bad, some "tag was not read", clock blocks.length, none, ""⟩
  have hfound : ∀ tag ∈ tags, ∃ result,
      (readBlocks m.client clock blocks).get? tag.name = some result := by
    intro tag ht
    obtain ⟨block, hb, htb⟩ := (hmem tag).mpr ht
    exact hkeys tag.name ⟨block, hb, tag, htb, rfl⟩
  refine ⟨found, ?_, ?_⟩
  · simp only [readTagsGrouped, hs, hlimits, hplan, bind, Except.bind, pure, Except.pure]
    congr 1
    refine List.map_congr_left fun tag ht => ?_
    obtain ⟨result, hr⟩ := hfound tag ht
    simp [found, hr]
  · intro tag ht
    obtain ⟨result, hr⟩ := hfound tag ht
    obtain ⟨block, hb, source, hsource, t, hname, hresult⟩ := hvalues _ _ hr
    exact ⟨source, (hmem source).mp ⟨block, hb, hsource⟩, t, hname, by simp [found, hr, hresult]⟩

/-- Grouped reading agrees with reading each tag alone exactly when the device's
read settings are valid and no two tags have one name. -/
theorem grouped_agrees_iff (m : Memory) (device : DeviceSpec F) (tags : List (TagSpec F))
    (hvalid : ∀ tag ∈ tags, validateModbusTag tag = .ok ())
    (hstore : (tags.map fun tag => (tag.tagGroup, tag.name)).Nodup) (clock : Nat → Datetime) :
    GroupedAgrees m.client device tags clock ↔
      (∃ settings, readSettings device.connection = .ok settings) ∧
        (tags.map TagSpec.name).Nodup := by
  have hok : ∀ tag ∈ tags, ModbusTagOk tag := fun tag ht => validateModbusTag_ok.mp (hvalid tag ht)
  constructor
  · rintro ⟨settings, results, hs, hresults, hagree⟩
    refine ⟨⟨settings, hs⟩, ?_⟩
    obtain ⟨found, hfound, -⟩ := readTagsGrouped_memory m hok clock hs
    rw [hfound] at hresults
    cases hresults
    rw [List.forall₂_map_right_iff, List.forall₂_same] at hagree
    refine List.Nodup.map_on ?_ (List.Nodup.of_map _ hstore)
    intro a ha b hb hname
    -- both tags get the one result that is stored under their name
    have hgroup : a.tagGroup = b.tagGroup := by
      rw [← (hagree a ha 0).tagGroup, ← (hagree b hb 0).tagGroup, hname]
    exact List.inj_on_of_nodup_map hstore ha hb (by rw [hgroup, hname])
  · rintro ⟨⟨settings, hs⟩, hnames⟩
    obtain ⟨found, hfound, hsource⟩ := readTagsGrouped_memory m hok clock hs
    refine ⟨settings, _, hs, hfound, ?_⟩
    rw [List.forall₂_map_right_iff, List.forall₂_same]
    intro tag ht t
    obtain ⟨source, hsm, t', hname, hresult⟩ := hsource tag ht
    obtain rfl := List.inj_on_of_nodup_map hnames hsm ht hname
    rw [readAlone_memory m _ t (hok source ht).common, hresult]
    exact agreesWith_tagResult source t t' _

/-- Two tags of one name in two groups. -/
def sameNameTags : List (TagSpec WholeFloat) :=
  [{ name := "speed", address := 0, function := "holding_register", dataType := "uint16",
     tagGroup := "motor", scale := ⟨1⟩, offset := ⟨0⟩ },
    { name := "speed", address := 1, function := "holding_register", dataType := "uint16",
      tagGroup := "belt", scale := ⟨1⟩, offset := ⟨0⟩ }]

/-- Every register holds its address. -/
def addressMemory : Memory :=
  ⟨fun _ a => UInt16.ofNat a.toNat, fun _ a => UInt16.ofNat a.toNat, fun _ _ => false,
    fun _ _ => false⟩

theorem same_name_disagrees :
    ¬ ∀ (m : Memory) (device : DeviceSpec WholeFloat) (tags : List (TagSpec WholeFloat)),
      (∀ tag ∈ tags, validateModbusTag tag = .ok ()) →
      (tags.map fun tag => (tag.tagGroup, tag.name)).Nodup → ∀ clock,
        GroupedAgrees m.client device tags clock := by
  intro h
  obtain ⟨settings, results, -, hresults, hagree⟩ := h addressMemory
    ⟨some 1, "drive", "modbus_tcp", true, 1000, "", ∅⟩ sameNameTags (by decide) (by decide)
    fun _ => 0
  have hread : readTagsGrouped (some addressMemory.client)
      ⟨some 1, "drive", "modbus_tcp", true, 1000, "", ∅⟩ sameNameTags (fun _ => 0) =
      .ok [⟨"speed", 1, .float ⟨1⟩, .good, none, 0, none, "belt"⟩,
        ⟨"speed", 1, .float ⟨1⟩, .good, none, 0, none, "belt"⟩] := by decide +kernel
  rw [hread] at hresults
  cases hresults
  have hgroup := (List.forall₂_cons.mp hagree).1 0 |>.tagGroup
  exact absurd hgroup (by decide)

theorem grouped_agrees_twoNames :
    GroupedAgrees addressMemory.client ⟨some 1, "drive", "modbus_tcp", true, 1000, "", ∅⟩
      [sameNameTags[0], { sameNameTags[1] with name := "speed 2" }] fun _ => 0 := by
  refine (grouped_agrees_iff addressMemory _ _ (by decide) (by decide) _).mpr ⟨⟨_, rfl⟩, by decide⟩

end Modbus

end IndustrialGateway
