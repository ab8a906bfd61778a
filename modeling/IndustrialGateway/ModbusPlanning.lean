import IndustrialGateway.Lib.Hull
import IndustrialGateway.ModbusGrouping

/-!
# Block planning

A block is the hull of its tags, with no gap wider than allowed, and stays within
the limit of its function unless it holds one tag that is wider by itself. So a
plan stays within the limits exactly when each tag does.
-/

namespace IndustrialGateway

namespace Modbus

variable {F : Type}

def tagEnd (tag : TagSpec F) : Int := tag.address + itemCount tag

-- ---------------------------------------------------------------------------
-- The planner's loop
-- ---------------------------------------------------------------------------

/-- What holds of a block with one tag and is kept when a tag joins the open block
holds of every block. -/
theorem mergeFrom_invariant {function : String} {unitId gap maxCount start stop : Int}
    {P : Int → Int → List (TagSpec F) → Prop} {current tags : List (TagSpec F)}
    (hsingle : ∀ tag ∈ tags, P tag.address (tagEnd tag) [tag])
    (hjoin : ∀ tag ∈ tags, ∀ start stop current, P start stop current → start ≤ tag.address →
      tag.address ≤ stop + gap → max stop (tagEnd tag) - start ≤ maxCount →
        P start (max stop (tagEnd tag)) (current ++ [tag]))
    (hopen : P start stop current) (hnext : ∀ tag ∈ tags, start ≤ tag.address)
    (hsorted : tags.Pairwise fun a b => a.address ≤ b.address) :
    ∀ block ∈ mergeFrom function unitId gap maxCount current start stop tags,
      P block.start (block.start + block.count) block.tags := by
  have hclosed : ∀ start stop current, P start stop current →
      P start (start + (stop - start)) current := by
    intro start stop current h
    have hstop : start + (stop - start) = stop := by omega
    rwa [hstop]
  induction tags generalizing current start stop with
  | nil =>
    intro block hb
    rw [List.mem_singleton.mp hb]
    exact hclosed _ _ _ hopen
  | cons tag tags ih =>
    obtain ⟨hhead, htail⟩ := List.pairwise_cons.mp hsorted
    have hone := hsingle tag List.mem_cons_self
    have hrest {start stop : Int} {current : List (TagSpec F)} :=
      @ih start stop current (fun t ht => hsingle t (List.mem_cons_of_mem _ ht))
        (fun t ht => hjoin t (List.mem_cons_of_mem _ ht))
    rw [mergeFrom]
    split
    · rename_i hnear
      have hgrown := hjoin tag List.mem_cons_self start stop current hopen
        (hnext tag List.mem_cons_self) hnear.1 hnear.2
      exact hrest hgrown (fun t ht => hnext t (List.mem_cons_of_mem _ ht)) htail
    · intro block hb
      rcases List.mem_cons.mp hb with rfl | hb
      · exact hclosed _ _ _ hopen
      · exact hrest hone hhead htail block hb

theorem mergeBlocks_invariant {function : String} {unitId gap maxCount : Int}
    {P : Int → Int → List (TagSpec F) → Prop} {tags : List (TagSpec F)}
    (hsingle : ∀ tag ∈ tags, P tag.address (tagEnd tag) [tag])
    (hjoin : ∀ tag ∈ tags, ∀ start stop current, P start stop current → start ≤ tag.address →
      tag.address ≤ stop + gap → max stop (tagEnd tag) - start ≤ maxCount →
        P start (max stop (tagEnd tag)) (current ++ [tag]))
    (hsorted : tags.Pairwise fun a b => a.address ≤ b.address) :
    ∀ block ∈ mergeBlocks function unitId gap maxCount tags,
      P block.start (block.start + block.count) block.tags := by
  cases tags with
  | nil => exact fun block hb => (List.not_mem_nil hb).elim
  | cons tag tags =>
    obtain ⟨hhead, htail⟩ := List.pairwise_cons.mp hsorted
    exact mergeFrom_invariant (fun t ht => hsingle t (List.mem_cons_of_mem _ ht))
      (fun t ht => hjoin t (List.mem_cons_of_mem _ ht)) (hsingle tag List.mem_cons_self) hhead htail

theorem mergeBlocks_hull {function : String} {unitId gap maxCount : Int} {tags : List (TagSpec F)}
    (hgap : 0 ≤ gap) (hpos : ∀ tag ∈ tags, 0 < itemCount tag)
    (hsorted : tags.Pairwise fun a b => a.address ≤ b.address) :
    ∀ block ∈ mergeBlocks function unitId gap maxCount tags,
      Hull TagSpec.address tagEnd gap block.start (block.start + block.count) block.tags := by
  have hend : ∀ tag ∈ tags, tag.address < tagEnd tag := by
    intro tag ht
    have htag := hpos tag ht
    rw [tagEnd]
    omega
  refine mergeBlocks_invariant (fun tag ht => .single hgap (hend tag ht)) ?_ hsorted
  intro tag ht start stop current hull hstart hnear _
  exact hull.concat hgap (hend tag ht) hstart hnear

/-- A block is wider than the limit only where one tag is. -/
theorem mergeBlocks_limit {function : String} {unitId gap maxCount : Int} {tags : List (TagSpec F)}
    (hsorted : tags.Pairwise fun a b => a.address ≤ b.address) :
    ∀ block ∈ mergeBlocks function unitId gap maxCount tags, block.tags ≠ [] ∧
      (maxCount < block.count → ∃ tag, block.tags = [tag] ∧ block.count = itemCount tag) := by
  have hlimit : ∀ block ∈ mergeBlocks function unitId gap maxCount tags, block.tags ≠ [] ∧
      (maxCount < block.start + block.count - block.start →
        ∃ tag, block.tags = [tag] ∧ block.start + block.count - block.start = itemCount tag) := by
    refine mergeBlocks_invariant (P := fun start stop current => current ≠ [] ∧
      (maxCount < stop - start → ∃ tag, current = [tag] ∧ stop - start = itemCount tag))
      (fun tag _ => ?_) ?_ hsorted
    · refine ⟨List.cons_ne_nil _ _, fun _ => ⟨tag, rfl, ?_⟩⟩
      rw [tagEnd]
      omega
    · intro tag _ start stop current _ _ _ hwithin
      exact ⟨List.append_ne_nil_of_right_ne_nil _ (List.cons_ne_nil _ _),
        fun hlt => absurd hwithin (not_le_of_gt hlt)⟩
  intro block hb
  have hblock := hlimit block hb
  rwa [show block.start + block.count - block.start = block.count by omega] at hblock

-- ---------------------------------------------------------------------------
-- Plans
-- ---------------------------------------------------------------------------

/-- What the block decoders take for a tag is what stands at its addresses. -/
structure SlicesOwn (block : ReadBlock F) : Prop where
  registers : block.function = "holding_register" ∨ block.function = "input_register" →
    ∀ tag ∈ block.tags, ∀ memory : Int → UInt16,
      PySeq.slice (PySeq.contents memory block.start block.count.toNat) (tag.address - block.start)
        (tag.address - block.start + registerCount tag) =
          PySeq.contents memory tag.address (registerCount tag).toNat
  bits : block.function = "coil" ∨ block.function = "discrete_input" →
    ∀ tag ∈ block.tags, ∀ memory : Int → Bool,
      PySeq.slice (PySeq.contents memory block.start block.count.toNat) (tag.address - block.start)
        (tag.address - block.start + valueCount tag) =
          PySeq.contents memory tag.address (valueCount tag).toNat

/-- What a plan promises of each of its blocks. -/
structure Planned (defaultUnitId gap : Int) (maxCounts : MaxCounts) (block : ReadBlock F) :
    Prop where
  function : ∀ tag ∈ block.tags, tag.function = block.function
  unitId : ∀ tag ∈ block.tags, unitOf defaultUnitId tag = block.unitId
  hull : Hull TagSpec.address tagEnd gap block.start (block.start + block.count) block.tags
  limit : ∀ maxCount, maxCounts.get? block.function = some maxCount → maxCount < block.count →
    block.tags.length = 1
  slices : SlicesOwn block

variable [PyRuntime F]

theorem slicesOwn_of_fits {defaultUnitId : Int} {block : ReadBlock F}
    (hfits : BlockFits defaultUnitId block) (hvalid : ∀ tag ∈ block.tags, CommonFieldsOk tag) :
    SlicesOwn block where
  registers hfunction tag ht memory := by
    have hcount := (itemCount_eq (hfits.function tag ht)).1 hfunction
    exact slice_of_fits hfits ht hcount.symm (counts_positive (hvalid tag ht)).2.le memory
  bits hfunction tag ht memory := by
    have hcount := (itemCount_eq (hfits.function tag ht)).2 hfunction
    exact slice_of_fits hfits ht hcount.symm (counts_positive (hvalid tag ht)).1.le memory

theorem itemCount_pos {tag : TagSpec F} (h : CommonFieldsOk tag) : 0 < itemCount tag := by
  obtain ⟨hvalue, hregister⟩ := counts_positive h
  rw [itemCount]
  split
  · exact hvalue
  · exact hregister

/-- A plan takes up every tag once, in blocks of its function and unit that are no
wider than their tags, the gap and the limits make them. -/
theorem planBlocks_partition {tags : List (TagSpec F)}
    (hvalid : ∀ tag ∈ tags, validateModbusTag tag = .ok ()) (defaultUnitId : Int) {gap : Int}
    (hgap : 0 ≤ gap) {maxCounts : MaxCounts}
    (hlimits : ∀ function ∈ modbusFunctions, ∃ n, maxCounts.get? function = some n ∧ 0 < n) :
    ∃ blocks, planBlocks tags defaultUnitId gap maxCounts = .ok blocks ∧
      (blocks.flatMap ReadBlock.tags).Perm tags ∧
      ∀ block ∈ blocks, Planned defaultUnitId gap maxCounts block := by
  have hok : ∀ tag ∈ tags, ModbusTagOk tag := fun tag ht => validateModbusTag_ok.mp (hvalid tag ht)
  have hcounts : ∀ tag ∈ tags, ∃ n, maxCounts.get? tag.function = some n := fun tag ht =>
    (hlimits tag.function (hok tag ht).function).imp fun _ hn => hn.1
  obtain ⟨blocks, hplan, hperm, hblocks⟩ := planBlocks_groups hcounts defaultUnitId gap
  refine ⟨blocks, hplan, hperm, fun block hb => ?_⟩
  obtain ⟨maxCount, group, hmax, hmem, hgroup⟩ := hblocks block hb
  have hsorted : ∀ tag ∈ sortByAddress group, tag ∈ group := fun tag ht =>
    (perm_sortByAddress group).mem_iff.mp ht
  have hfits : BlockFits defaultUnitId block :=
    mergeBlocks_fits (fun tag ht => (hgroup tag (hsorted tag ht)).2) (sorted_sortByAddress _)
      block hmem
  have hull := mergeBlocks_hull hgap (fun tag ht =>
    itemCount_pos (hok tag (hgroup tag (hsorted tag ht)).1).common) (sorted_sortByAddress _)
    block hmem
  have htags : ∀ tag ∈ block.tags, tag ∈ tags := fun tag ht =>
    hperm.mem_iff.mp (List.mem_flatMap.mpr ⟨block, hb, ht⟩)
  refine ⟨hfits.function, hfits.unitId, hull, fun n hn hlt => ?_,
    slicesOwn_of_fits hfits fun tag ht => (hok tag (htags tag ht)).common⟩
  obtain rfl := Option.some.inj (hmax.symm.trans hn)
  obtain ⟨tag, hone, -⟩ := (mergeBlocks_limit (sorted_sortByAddress _) block hmem).2 hlt
  rw [hone]
  rfl

omit [PyRuntime F] in
theorem get?_limits_pos {r b : Int} (hr : 0 < r) (hb : 0 < b) :
    ∀ function ∈ modbusFunctions, ∃ n, (limits r b).get? function = some n ∧ 0 < n := by
  intro function h
  simp only [modbusFunctions, List.mem_cons, List.not_mem_nil, or_false] at h
  rcases h with rfl | rfl | rfl | rfl
  · exact ⟨r, rfl, hr⟩
  · exact ⟨r, rfl, hr⟩
  · exact ⟨b, rfl, hb⟩
  · exact ⟨b, rfl, hb⟩

theorem sameNameTags_planned :
    ∃ blocks, planBlocks sameNameTags 1 4 (limits 125 2000) = .ok blocks ∧
      (blocks.flatMap ReadBlock.tags).Perm sameNameTags ∧
      ∀ block ∈ blocks, Planned 1 4 (limits 125 2000) block :=
  planBlocks_partition (by decide) 1 (by decide) (get?_limits_pos (by decide) (by decide))

-- ---------------------------------------------------------------------------
-- Requests
-- ---------------------------------------------------------------------------

/-- The blocks that `_read_tags_grouped` asks the client for. -/
def requestedBlocks (connection : OrderedDict String (PyValue F)) (tags : List (TagSpec F)) :
    Except PyException (List (ReadBlock F)) := do
  let settings ← readSettings connection
  planBlocks tags settings.defaultUnitId settings.maxBlockGap settings.maxCounts

theorem readTagsGrouped_eq (client : Client) (device : DeviceSpec F) (tags : List (TagSpec F))
    (clock : Nat → Datetime) : readTagsGrouped (some client) device tags clock =
      requestedBlocks device.connection tags >>= fun blocks => .ok (tags.map fun tag =>
        ((readBlocks client clock blocks).get? tag.name).getD
          (bad tag (clock blocks.length) "tag was not read")) := by
  rw [readTagsGrouped, requestedBlocks]
  cases readSettings device.connection with
  | error e => rfl
  | ok settings => rfl

/-- What the protocol allows a request of the function. -/
def protocolCap (function : String) : Int :=
  if function ∈ ["coil", "discrete_input"] then maxBitReadCount else maxRegisterReadCount

/-- Each request stays within the limit of its function, and each tag is read: it is in one
block, of its function and unit, whose range holds all of its own. -/
structure Capped (connection : OrderedDict String (PyValue F)) (maxCounts : MaxCounts)
    (tags : List (TagSpec F)) (blocks : List (ReadBlock F)) : Prop where
  count : ∀ block ∈ blocks, ∃ n, maxCounts.get? block.function = some n ∧ 1 ≤ block.count ∧
    block.count ≤ n ∧ n ≤ protocolCap block.function
  once : (blocks.flatMap ReadBlock.tags).Perm tags
  read : ∃ unitId, intSetting connection "unit_id" 1 = .ok unitId ∧
    ∀ block ∈ blocks, BlockFits unitId block

theorem maxCountsFromConnection_eq_ok {connection : OrderedDict String (PyValue F)}
    {maxCounts : MaxCounts} (h : maxCountsFromConnection connection = .ok maxCounts) :
    ∀ function ∈ modbusFunctions,
      ∃ n, maxCounts.get? function = some n ∧ n ≤ protocolCap function := by
  simp only [maxCountsFromConnection, bind_eq_ok] at h
  obtain ⟨registers, -, bits, -, hcounts⟩ := h
  cases hcounts
  intro function hfunction
  simp only [modbusFunctions, List.mem_cons, List.not_mem_nil, or_false] at hfunction
  rcases hfunction with rfl | rfl | rfl | rfl
  · exact ⟨_, rfl, min_le_right ..⟩
  · exact ⟨_, rfl, min_le_right ..⟩
  · exact ⟨_, rfl, min_le_right ..⟩
  · exact ⟨_, rfl, min_le_right ..⟩

/-- The blocks of a plan lie on their tags, and one that is over its limit has one tag. -/
theorem planBlocks_fits {tags : List (TagSpec F)} {maxCounts : MaxCounts}
    (hcounts : ∀ tag ∈ tags, ∃ n, maxCounts.get? tag.function = some n) (unitId gap : Int) :
    ∃ blocks, planBlocks tags unitId gap maxCounts = .ok blocks ∧
      (blocks.flatMap ReadBlock.tags).Perm tags ∧ ∀ block ∈ blocks, ∃ n,
        maxCounts.get? block.function = some n ∧ BlockFits unitId block ∧ block.tags ≠ [] ∧
          (n < block.count → ∃ tag, block.tags = [tag] ∧ block.count = itemCount tag) := by
  obtain ⟨blocks, hblocks, hperm, hgroups⟩ := planBlocks_groups hcounts unitId gap
  refine ⟨blocks, hblocks, hperm, fun block hb => ?_⟩
  obtain ⟨n, group, hn, hmem, hgroup⟩ := hgroups block hb
  obtain ⟨hne, hwide⟩ := mergeBlocks_limit (sorted_sortByAddress _) block hmem
  have hfits : BlockFits unitId block :=
    mergeBlocks_fits (fun tag ht => (hgroup tag ((perm_sortByAddress _).mem_iff.mp ht)).2)
      (sorted_sortByAddress _) block hmem
  exact ⟨n, hn, hfits, hne, hwide⟩

/-- The requests for a connection with read limits stay within them exactly when
the other settings can be read and each tag stays within them by itself. -/
theorem requests_capped_iff {tags : List (TagSpec F)}
    (hvalid : ∀ tag ∈ tags, validateModbusTag tag = .ok ())
    {connection : OrderedDict String (PyValue F)} {maxCounts : MaxCounts}
    (hlimits : maxCountsFromConnection connection = .ok maxCounts) :
    (∃ blocks, requestedBlocks connection tags = .ok blocks ∧
        Capped connection maxCounts tags blocks) ↔
      (∃ gap, intSetting connection "max_block_gap" 4 = .ok gap) ∧
        (∃ unitId, intSetting connection "unit_id" 1 = .ok unitId) ∧
        ∀ tag ∈ tags, ∀ n, maxCounts.get? tag.function = some n → itemCount tag ≤ n := by
  have hok : ∀ tag ∈ tags, ModbusTagOk tag := fun tag ht => validateModbusTag_ok.mp (hvalid tag ht)
  have hcap := maxCountsFromConnection_eq_ok hlimits
  have hcounts : ∀ tag ∈ tags, ∃ n, maxCounts.get? tag.function = some n := fun tag ht =>
    (hcap tag.function (hok tag ht).function).imp fun _ hn => hn.1
  constructor
  · rintro ⟨blocks, hrequested, hcapped⟩
    obtain ⟨settings, hsettings, hblocks⟩ := bind_eq_ok.mp hrequested
    simp only [readSettings, hlimits, ok_bind, bind_eq_ok] at hsettings
    obtain ⟨gap, hgap, unitId, hunit, hrecord⟩ := hsettings
    cases hrecord
    refine ⟨⟨gap, hgap⟩, ⟨unitId, hunit⟩, fun tag ht n hn => ?_⟩
    obtain ⟨blocks', hblocks', hperm, hfits⟩ := planBlocks_fits hcounts unitId gap
    obtain rfl := Except.ok.inj (hblocks.symm.trans hblocks')
    obtain ⟨block, hb, htag⟩ := List.mem_flatMap.mp (hperm.mem_iff.mpr ht)
    obtain ⟨-, -, hfit, -⟩ := hfits block hb
    obtain ⟨m, hm, -, hle, -⟩ := hcapped.count block hb
    rw [← hfit.function tag htag, hn] at hm
    have hstart := hfit.start tag htag
    have hstop := hfit.stop tag htag
    obtain rfl := Option.some.inj hm
    omega
  · rintro ⟨⟨gap, hgap⟩, ⟨unitId, hunit⟩, hwithin⟩
    obtain ⟨blocks, hblocks, hperm, hfits⟩ := planBlocks_fits hcounts unitId gap
    have hrequested : requestedBlocks connection tags = .ok blocks := by
      rw [requestedBlocks, readSettings, hgap, hlimits, hunit]
      exact hblocks
    refine ⟨blocks, hrequested, fun block hb => ?_, hperm, unitId, hunit, fun block hb => ?_⟩
    · obtain ⟨n, hn, hfit, hne, hwide⟩ := hfits block hb
      have hmem : ∀ tag ∈ block.tags, tag ∈ tags := fun tag ht =>
        hperm.mem_iff.mp (List.mem_flatMap.mpr ⟨block, hb, ht⟩)
      obtain ⟨first, hfirst⟩ := List.exists_mem_of_ne_nil _ hne
      have hstart := hfit.start first hfirst
      have hstop := hfit.stop first hfirst
      have hpos := itemCount_pos (hok first (hmem first hfirst)).common
      have hfunction := hfit.function first hfirst
      obtain ⟨m, hm, hprotocol⟩ := hcap block.function
        (hfunction ▸ (hok first (hmem first hfirst)).function)
      obtain rfl := Option.some.inj (hn.symm.trans hm)
      refine ⟨n, hn, by omega, ?_, hprotocol⟩
      by_contra hover
      obtain ⟨tag, hone, hcount⟩ := hwide (not_le.mp hover)
      have ht : tag ∈ block.tags := by simp [hone]
      have hle := hwithin tag (hmem tag ht) n (by rw [hfit.function tag ht, hn])
      omega
    · obtain ⟨-, -, hfit, -⟩ := hfits block hb
      exact hfit

/-- A tag of 200 registers. -/
def wideTag : TagSpec WholeFloat :=
  { name := "profile", address := 0, function := "holding_register", dataType := "uint16",
    scale := ⟨1⟩, offset := ⟨0⟩, wordCount := some 200 }

theorem sameNameTags_within : ∀ tag ∈ sameNameTags, ∀ n,
    (limits 125 2000).get? tag.function = some n → itemCount tag ≤ n := by
  intro tag ht n hn
  simp only [sameNameTags, List.mem_cons, List.not_mem_nil, or_false] at ht
  rcases ht with rfl | rfl
  · cases hn
    decide
  · cases hn
    decide

theorem sameNameTags_capped :
    ∃ blocks, requestedBlocks ∅ sameNameTags = .ok blocks ∧
      Capped ∅ (limits 125 2000) sameNameTags blocks :=
  (requests_capped_iff (by decide) rfl).mpr ⟨⟨4, rfl⟩, ⟨1, rfl⟩, sameNameTags_within⟩

theorem wideTag_not_capped : ¬ ∀ (tags : List (TagSpec WholeFloat))
    (connection : OrderedDict String (PyValue WholeFloat)) (maxCounts : MaxCounts),
    (∀ tag ∈ tags, validateModbusTag tag = .ok ()) →
      maxCountsFromConnection connection = .ok maxCounts →
        ∃ blocks, requestedBlocks connection tags = .ok blocks ∧
          Capped connection maxCounts tags blocks := by
  intro h
  obtain ⟨blocks, hblocks, hcapped⟩ := h [wideTag] ∅ (limits 125 2000) (by decide) rfl
  have hrequested : requestedBlocks ∅ [wideTag] =
      .ok [⟨"holding_register", 1, 0, 200, [wideTag]⟩] := by decide +kernel
  rw [hrequested] at hblocks
  cases hblocks
  obtain ⟨n, hn, -, hle, -⟩ := hcapped.count _ (List.mem_singleton_self _)
  cases hn
  exact absurd hle (by decide)

end Modbus

end IndustrialGateway
