import IndustrialGateway.Lib.WholeFloat
import IndustrialGateway.Modbus
import IndustrialGateway.RtuFraming

/-!
# Results from captured pairs

`drivers/modbus_rtu_monitor.py`: the last pair of each request is kept, by unit,
function and start address, and a tag is decoded from the first of them that holds
its first register. A newer pair with another start does not count while an older
one holds that register.
-/

namespace IndustrialGateway

namespace RtuMonitor

open Modbus (decodeRegisters applyScale registerCount unitOf intSetting tagResult bad)

variable {F : Type}

def tagFunctionsByCode : List (UInt8 × String) :=
  [(1, "coil"), (2, "discrete_input"), (3, "holding_register"), (4, "input_register")]

/-- The unit, the function and the start address of a request. -/
abbrev PairKey : Type := UInt8 × String × UInt16

/-- `request["start_address"]`. -/
def requestStart (request : RtuFrame) : Except PyException UInt16 :=
  match request.startAddress with
  | some start => .ok start
  | none => .error ⟨.keyError, "'start_address'"⟩

/-- `latest_pairs`, which keeps the last pair of each key. -/
def latestPairs (pairs : List Pair) : Except PyException (OrderedDict PairKey Pair) :=
  pairs.foldlM (fun latest pair =>
    match OrderedDict.lookup pair.request.function tagFunctionsByCode with
    | none => .ok latest
    | some functionName => do
      let start ← requestStart pair.request
      return latest.set (pair.request.slaveId, functionName, start) pair) ∅

section Results

variable [PyRuntime F]

/-- What the registers from `start` on hold for the tag. -/
def decodeFrom (registers : List UInt16) (start : Int) (tag : TagSpec F) :
    Except PyException (PyValue F) := do
  let offset := tag.address - start
  let value ← decodeRegisters (PySeq.slice registers offset (offset + registerCount tag)) tag
  applyScale tag.scale tag.offset value

/-- A round of the loop of `_tag_result_from_pairs`. -/
def tagResultFromPair (tag : TagSpec F) (unitId : Int) (timestamp : Datetime) :
    PairKey × Pair → Option (TagResult F)
  | ((pairUnitId, functionName, startAddress), pair) =>
    if (pairUnitId.toNat : Int) ≠ unitId ∨ functionName ≠ tag.function then none
    else match pair.response.registers with
      | none => none
      | some registers =>
        let start : Int := startAddress.toNat
        let quantity : Int := match pair.request.quantity with
          | some quantity => quantity.toNat
          | none => registers.length
        if ¬ (start ≤ tag.address ∧ tag.address < start + quantity) then none
        else some (tagResult tag timestamp (decodeFrom registers start tag))

def tagResultFromPairs (tag : TagSpec F) (unitId : Int) (latest : OrderedDict PairKey Pair)
    (timestamp : Datetime) : Option (TagResult F) :=
  latest.entries.findSome? (tagResultFromPair tag unitId timestamp)

def notObserved (tag : TagSpec F) (timestamp : Datetime) : TagResult F :=
  bad tag timestamp "tag was not observed in captured Modbus RTU traffic"

def tagResultsFromPairs (device : DeviceSpec F) (tags : List (TagSpec F)) (pairs : List Pair)
    (timestamp : Datetime) : Except PyException (List (TagResult F)) := do
  let latest ← latestPairs pairs
  let defaultUnitId ← intSetting device.connection "unit_id" 1
  return tags.map fun tag =>
    (tagResultFromPairs tag (unitOf defaultUnitId tag) latest timestamp).getD
      (notObserved tag timestamp)

end Results

-- ---------------------------------------------------------------------------
-- Kept pairs
-- ---------------------------------------------------------------------------

/-- A pair of a register function whose response fits its request. -/
structure Observation where
  pair : Pair
  function : String
  start : UInt16
  registers : List UInt16
  function_eq : OrderedDict.lookup pair.request.function tagFunctionsByCode = some function
  function_code : pair.request.function ∈ [3, 4]
  start_eq : pair.request.startAddress = some start
  registers_eq : pair.response.registers = some registers
  quantity_eq : pair.request.quantity.map UInt16.toNat = some registers.length

namespace Observation

def unitId (o : Observation) : Int := o.pair.request.slaveId.toNat

def key (o : Observation) : PairKey := (o.pair.request.slaveId, o.function, o.start)

def value [PyRuntime F] (o : Observation) (tag : TagSpec F) : Except PyException (PyValue F) :=
  decodeFrom o.registers o.start.toNat tag

/-- The pair is one of the tag's unit and function and holds its first register. -/
structure Holds (o : Observation) (unitId : Int) (tag : TagSpec F) : Prop where
  unitId : o.unitId = unitId
  function : o.function = tag.function
  start : (o.start.toNat : Int) ≤ tag.address
  stop : tag.address < o.start.toNat + o.registers.length

/-- It holds all of its registers. -/
structure Covers (o : Observation) (unitId : Int) (tag : TagSpec F) : Prop where
  unitId : o.unitId = unitId
  function : o.function = tag.function
  start : (o.start.toNat : Int) ≤ tag.address
  stop : tag.address + registerCount tag ≤ o.start.toNat + o.registers.length

/-- A read of holding or input registers. -/
def ofRegisters (slaveId function : UInt8) (start : UInt16) (registers : List UInt16)
    (hfunction : function ∈ [3, 4]) (hlength : registers.length ≤ 125) : Observation where
  pair :=
    ⟨requestFields slaveId function start (UInt16.ofNat registers.length),
      withResponseValue (registersFields slaveId function registers)⟩
  function := if function = 3 then "holding_register" else "input_register"
  start := start
  registers := registers
  function_eq := by
    simp only [List.mem_cons, List.not_mem_nil, or_false] at hfunction
    rcases hfunction with rfl | rfl <;> rfl
  function_code := hfunction
  start_eq := rfl
  registers_eq := by
    rw [withResponseValue]
    split <;> rfl
  quantity_eq := by
    simp only [requestFields, Option.map_some, Option.some.injEq, UInt16.toNat_ofNat']
    omega

end Observation

/-- No later pair has the same unit, function and start. -/
def Newest (observations : List Observation) (o : Observation) : Prop :=
  ∃ before after, observations = before ++ o :: after ∧ o.key ∉ after.map Observation.key

/-- The request of `o` was captured, a first time, before any with the key `k`. -/
def CapturedFirst (observations : List Observation) (o : Observation) (k : PairKey) : Prop :=
  ∃ earlier first later, observations = earlier ++ first :: later ∧ first.key = o.key ∧
    k ∉ earlier.map Observation.key

/-- Where the search for a tag stops: of the newest pairs that hold its first register,
the one whose request was captured first. -/
structure StopsAt (observations : List Observation) (unitId : Int) (tag : TagSpec F)
    (o : Observation) : Prop where
  newest : Newest observations o
  holds : o.Holds unitId tag
  first : ∀ other, Newest observations other → other.Holds unitId tag →
    CapturedFirst observations o other.key

variable {observations : List Observation} {o other : Observation} {unitId : Int} {tag : TagSpec F}
  {timestamp : Datetime}

def entry (o : Observation) : PairKey × Pair := (o.key, o.pair)

/-- The last pair that holds all registers of the tag. -/
def NewestCovering (observations : List Observation) (unitId : Int) (tag : TagSpec F)
    (o : Observation) : Prop :=
  ∃ before after, observations = before ++ o :: after ∧ o.Covers unitId tag ∧
    ∀ later ∈ after, ¬ later.Covers unitId tag

/-- The result has the value of the last pair that holds the tag, where it can be decoded. -/
def ReportsNewest [PyRuntime F] (observations : List Observation) (unitId : Int) (tag : TagSpec F)
    (timestamp : Datetime) (result : TagResult F) : Prop :=
  ∀ newest value, NewestCovering observations unitId tag newest → newest.value tag = .ok value →
    result = tagResult tag timestamp (.ok value)

theorem latestPairs_observations (observations : List Observation) :
    latestPairs (observations.map Observation.pair) = .ok (.ofList (observations.map entry)) := by
  have hfold : ∀ (latest : OrderedDict PairKey Pair),
      (observations.map Observation.pair).foldlM (fun latest pair =>
        match OrderedDict.lookup pair.request.function tagFunctionsByCode with
        | none => .ok latest
        | some functionName => do
          let start ← requestStart pair.request
          return latest.set (pair.request.slaveId, functionName, start) pair) latest =
        (.ok (latest.update (observations.map entry)) : Except PyException _) := by
    induction observations with
    | nil => exact fun _ => rfl
    | cons o observations ih =>
      intro latest
      rw [List.map_cons, List.foldlM_cons, o.function_eq]
      simp only [requestStart, o.start_eq]
      exact ih _
  exact hfold ∅

-- ---------------------------------------------------------------------------
-- The newest pairs
-- ---------------------------------------------------------------------------

theorem Newest.eq (h : Newest observations o) (h' : Newest observations other)
    (hkey : o.key = other.key) : o = other := by
  obtain ⟨before, after, rfl, hafter⟩ := h
  obtain ⟨before', after', hsplit, hafter'⟩ := h'
  rcases List.append_eq_append_iff.mp hsplit with ⟨between, rfl, hrest⟩ | ⟨between, rfl, hrest⟩
  · cases between with
    | nil => exact (List.cons.inj hrest).1
    | cons first between =>
      obtain ⟨rfl, rfl⟩ := List.cons.inj hrest
      exact absurd (by simp [hkey]) hafter
  · cases between with
    | nil => exact (List.cons.inj hrest).1.symm
    | cons first between =>
      obtain ⟨rfl, rfl⟩ := List.cons.inj hrest
      exact absurd (by simp [hkey]) hafter'

theorem exists_newest {k : PairKey} (h : k ∈ observations.map Observation.key) :
    ∃ o, Newest observations o ∧ o.key = k := by
  induction observations using List.reverseRecOn with
  | nil => cases h
  | append_singleton observations last ih =>
    by_cases hlast : last.key = k
    · exact ⟨last, ⟨observations, [], rfl, List.not_mem_nil⟩, hlast⟩
    · rw [List.map_append, List.mem_append, List.map_singleton, List.mem_singleton] at h
      obtain ⟨o, ⟨before, after, rfl, hafter⟩, rfl⟩ := ih (h.resolve_right (Ne.symm hlast))
      refine ⟨o, ⟨before, after ++ [last], by simp, ?_⟩, rfl⟩
      rw [List.map_append, List.mem_append, List.map_singleton, List.mem_singleton]
      exact not_or.mpr ⟨hafter, Ne.symm hlast⟩

theorem Newest.get? (h : Newest observations o) :
    (OrderedDict.ofList (observations.map entry)).get? o.key = some o.pair := by
  obtain ⟨before, after, rfl, hafter⟩ := h
  have hnone : OrderedDict.lookup o.key (after.map entry).reverse = none := by
    rw [OrderedDict.lookup_eq_none, List.map_reverse, List.mem_reverse, List.map_map]
    exact hafter
  rw [List.map_append, List.map_cons, OrderedDict.ofList, OrderedDict.update_append,
    OrderedDict.update_cons, OrderedDict.get?_update, hnone, Option.none_or]
  exact OrderedDict.get?_set_self ..

/-- The dictionary holds the newest pairs. -/
theorem mem_latest {e : PairKey × Pair} :
    e ∈ (OrderedDict.ofList (observations.map entry)).entries ↔
      ∃ o, Newest observations o ∧ e = entry o := by
  obtain ⟨k, pair⟩ := e
  constructor
  · intro h
    have hkey : k ∈ observations.map Observation.key := by
      have hmem := OrderedDict.mem_keys_ofList.mp (List.mem_map_of_mem h)
      rwa [List.map_map] at hmem
    obtain ⟨o, ho, rfl⟩ := exists_newest hkey
    have hpair := ho.get?.symm.trans (OrderedDict.get?_eq_some.mpr h)
    exact ⟨o, ho, by rw [entry, Option.some.inj hpair]⟩
  · rintro ⟨o, ho, heq⟩
    rw [heq]
    exact OrderedDict.get?_eq_some.mp ho.get?

theorem StopsAt.eq (h : StopsAt observations unitId tag o) (h' : StopsAt observations unitId tag other) :
    o = other := by
  obtain ⟨earlier, first, later, rfl, hfirst, hother⟩ := h.first other h'.newest h'.holds
  obtain ⟨earlier', first', later', hsplit, hfirst', ho⟩ := h'.first o h.newest h.holds
  refine h.newest.eq h'.newest ?_
  rcases List.append_eq_append_iff.mp hsplit with ⟨between, rfl, hrest⟩ | ⟨between, rfl, hrest⟩
  · cases between with
    | nil => rw [← hfirst, ← hfirst', (List.cons.inj hrest).1]
    | cons _ between =>
      obtain ⟨rfl, rfl⟩ := List.cons.inj hrest
      exact absurd (by simp [hfirst]) ho
  · cases between with
    | nil => rw [← hfirst, ← hfirst', (List.cons.inj hrest).1]
    | cons _ between =>
      obtain ⟨rfl, rfl⟩ := List.cons.inj hrest
      exact absurd (by simp [hfirst']) hother

section Search

variable [PyRuntime F]

theorem tagResultFromPair_entry (o : Observation) :
    tagResultFromPair tag unitId timestamp (entry o) =
      if o.unitId ≠ unitId ∨ o.function ≠ tag.function then none
      else if ¬ ((o.start.toNat : Int) ≤ tag.address ∧
        tag.address < o.start.toNat + o.registers.length) then none
      else some (tagResult tag timestamp (o.value tag)) := by
  obtain ⟨quantity, hquantity, hlength⟩ := Option.map_eq_some_iff.mp o.quantity_eq
  simp only [tagResultFromPair, entry, Observation.key, o.registers_eq, hquantity, hlength]
  rfl

theorem tagResultFromPair_holds (h : o.Holds unitId tag) :
    tagResultFromPair tag unitId timestamp (entry o) = some (tagResult tag timestamp (o.value tag)) := by
  rw [tagResultFromPair_entry, if_neg (by simp [h.unitId, h.function]),
    if_neg (not_not_intro ⟨h.start, h.stop⟩)]

theorem tagResultFromPair_not_holds (h : ¬ o.Holds unitId tag) :
    tagResultFromPair tag unitId timestamp (entry o) = none := by
  rw [tagResultFromPair_entry]
  split
  · rfl
  · rename_i hkey
    rw [not_or, not_not, not_not] at hkey
    rw [if_pos fun hrange => h ⟨hkey.1, hkey.2, hrange.1, hrange.2⟩]

/-- The entries before the one at which the search stops hold other requests, those that
were captured before its own. -/
theorem search_stops {before after : List (PairKey × Pair)}
    (hentries : (OrderedDict.ofList (observations.map entry)).entries = before ++ entry o :: after)
    (hnewest : Newest observations o) (hholds : o.Holds unitId tag)
    (hbefore : ∀ e ∈ before, tagResultFromPair tag unitId timestamp e = none) :
    StopsAt observations unitId tag o := by
  refine ⟨hnewest, hholds, fun other hother hholds' => ?_⟩
  have hkeys : (OrderedDict.ofList (observations.map entry)).keys =
      before.map Prod.fst ++ o.key :: after.map Prod.fst := by
    rw [OrderedDict.keys, hentries, List.map_append, List.map_cons]
    rfl
  obtain ⟨earlier, v, later, hsplit, hmem⟩ := OrderedDict.keys_ofList_split hkeys
  obtain ⟨earlier, rest, rfl, rfl, hrest⟩ := List.map_eq_append_iff.mp hsplit
  obtain ⟨first, later, rfl, hfirst, rfl⟩ := List.map_eq_cons_iff.mp hrest
  refine ⟨earlier, first, later, rfl, (Prod.mk.inj hfirst).1, fun hearlier => ?_⟩
  -- the newest pair of an earlier request would have been met before
  have hkey : other.key ∈ before.map Prod.fst := by
    rw [hmem, List.map_map]
    exact hearlier
  obtain ⟨e, he, hekey⟩ := List.mem_map.mp hkey
  obtain ⟨third, hthird, rfl⟩ := mem_latest.mp (hentries ▸ List.mem_append_left _ he)
  obtain rfl := hthird.eq hother hekey
  have hsome := hbefore _ he
  rw [tagResultFromPair_holds hholds'] at hsome
  cases hsome

/-- The search gives the value of the pair at which it stops. -/
theorem tagResultFromPairs_eq_some {result : TagResult F} :
    tagResultFromPairs tag unitId (.ofList (observations.map entry)) timestamp = some result ↔
      ∃ o, StopsAt observations unitId tag o ∧ result = tagResult tag timestamp (o.value tag) := by
  have hfound {result : TagResult F} (h : tagResultFromPairs tag unitId
      (.ofList (observations.map entry)) timestamp = some result) :
      ∃ o, StopsAt observations unitId tag o ∧ result = tagResult tag timestamp (o.value tag) := by
    obtain ⟨before, e, after, hentries, hresult, hbefore⟩ := List.findSome?_eq_some_iff.mp h
    obtain ⟨o, ho, rfl⟩ := mem_latest.mp (hentries ▸ List.mem_append_right _ List.mem_cons_self)
    by_cases hholds : o.Holds unitId tag
    · rw [tagResultFromPair_holds hholds] at hresult
      exact ⟨o, search_stops hentries ho hholds hbefore, (Option.some.inj hresult).symm⟩
    · rw [tagResultFromPair_not_holds hholds] at hresult
      cases hresult
  refine ⟨hfound, ?_⟩
  rintro ⟨o, ho, rfl⟩
  cases hsearch : tagResultFromPairs tag unitId (.ofList (observations.map entry)) timestamp with
  | none =>
    have hnone := List.findSome?_eq_none_iff.mp hsearch _ (mem_latest.mpr ⟨o, ho.newest, rfl⟩)
    rw [tagResultFromPair_holds ho.holds] at hnone
    cases hnone
  | some result =>
    obtain ⟨o', ho', rfl⟩ := hfound hsearch
    rw [ho.eq ho']

omit [PyRuntime F] in
theorem tagResult_eq_ok {result : Except PyException (PyValue F)} {value : PyValue F} :
    tagResult tag timestamp result = tagResult tag timestamp (.ok value) ↔ result = .ok value := by
  cases result <;> simp [tagResult, bad]

theorem search_eq_ok {value : PyValue F} :
    (tagResultFromPairs tag unitId (.ofList (observations.map entry)) timestamp).getD
        (notObserved tag timestamp) = tagResult tag timestamp (.ok value) ↔
      ∃ o, StopsAt observations unitId tag o ∧ o.value tag = .ok value := by
  cases hsearch : tagResultFromPairs tag unitId (.ofList (observations.map entry)) timestamp with
  | none =>
    constructor
    · intro h
      simp [notObserved, bad, tagResult] at h
    · rintro ⟨o, ho, -⟩
      rw [tagResultFromPairs_eq_some.mpr ⟨o, ho, rfl⟩] at hsearch
      cases hsearch
  | some result =>
    obtain ⟨o, ho, rfl⟩ := tagResultFromPairs_eq_some.mp hsearch
    rw [Option.getD_some, tagResult_eq_ok]
    refine ⟨fun h => ⟨o, ho, h⟩, ?_⟩
    rintro ⟨o', ho', h⟩
    rwa [ho.eq ho']

/-- A tag has the value of the newest pair that holds it exactly when the pair at which
the search stops has that value. -/
theorem reportsNewest_iff {device : DeviceSpec F} (tags : List (TagSpec F)) {defaultUnitId : Int}
    (hunit : intSetting device.connection "unit_id" 1 = .ok defaultUnitId)
    (observations : List Observation) (timestamp : Datetime) :
    ∃ results, tagResultsFromPairs device tags (observations.map Observation.pair) timestamp =
        .ok results ∧
      List.Forall₂ (fun tag result =>
        ReportsNewest observations (unitOf defaultUnitId tag) tag timestamp result ↔
          ∀ newest value, NewestCovering observations (unitOf defaultUnitId tag) tag newest →
            newest.value tag = .ok value →
            ∃ o, StopsAt observations (unitOf defaultUnitId tag) tag o ∧
              o.value tag = newest.value tag) tags results := by
  refine ⟨_, by rw [tagResultsFromPairs, latestPairs_observations, hunit]; rfl, ?_⟩
  rw [List.forall₂_map_right_iff, List.forall₂_same]
  intro tag _
  refine forall₄_congr fun newest value _ hvalue => ?_
  rw [hvalue]
  exact search_eq_ok

end Search

-- ---------------------------------------------------------------------------
-- Overlapping requests
-- ---------------------------------------------------------------------------

def overlapTag : TagSpec WholeFloat where
  name := "level"
  address := 1
  function := "holding_register"
  dataType := "uint16"
  scale := ⟨1⟩
  offset := ⟨0⟩

def overlapDevice : DeviceSpec WholeFloat := ⟨some 1, "meter", "modbus_rtu_monitor", true, 1000, "", ∅⟩

/-- Registers 0 and 1 are read, and then register 1 again. -/
def overlapping : List Observation :=
  [.ofRegisters 1 3 0 [5, 6] (by decide) (by decide), .ofRegisters 1 3 1 [7] (by decide) (by decide)]

/-- Registers 0 and 1 are read twice. -/
def repeated : List Observation :=
  [.ofRegisters 1 3 0 [5, 6] (by decide) (by decide),
    .ofRegisters 1 3 0 [5, 7] (by decide) (by decide)]

theorem repeated_reported :
    ∃ results, tagResultsFromPairs overlapDevice [overlapTag] (repeated.map Observation.pair) 0 =
        .ok results ∧
      List.Forall₂ (fun tag result => ReportsNewest repeated (unitOf 1 tag) tag 0 result ↔
        ∀ newest value, NewestCovering repeated (unitOf 1 tag) tag newest →
          newest.value tag = .ok value →
          ∃ o, StopsAt repeated (unitOf 1 tag) tag o ∧ o.value tag = newest.value tag)
        [overlapTag] results :=
  reportsNewest_iff [overlapTag] rfl repeated 0

/-- The older pair is reported, since its request was captured first. -/
theorem overlapping_not_reported :
    ¬ ∀ (observations : List Observation) (result : TagResult WholeFloat),
      tagResultsFromPairs overlapDevice [overlapTag] (observations.map Observation.pair) 0 =
        .ok [result] →
      ReportsNewest observations 1 overlapTag 0 result := by
  intro h
  have hread : tagResultsFromPairs overlapDevice [overlapTag] (overlapping.map Observation.pair) 0 =
      .ok [tagResult overlapTag 0 (.ok (.float ⟨6⟩))] := rfl
  have hnewest := h _ _ hread (.ofRegisters 1 3 1 [7] (by decide) (by decide)) (.float ⟨7⟩)
    ⟨[_], [], rfl, ⟨rfl, rfl, by decide, by decide⟩, fun _ hlater => (List.not_mem_nil hlater).elim⟩ rfl
  cases hnewest

end RtuMonitor

end IndustrialGateway
