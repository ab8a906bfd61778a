import IndustrialGateway.TagEvents
import IndustrialGateway.TagIdentity

/-!
# Polling and subscription

`drivers/opcua.py` serves its tags in two ways: it reads the node of each tag, or the
server tells it that a node has changed. What a node's value becomes for a tag is the
same in both. The subscription finds the tag of a node in a map that has one tag for
each node.
-/

namespace IndustrialGateway

variable {F : Type}

namespace OpcUa

-- ---------------------------------------------------------------------------
-- Values
-- ---------------------------------------------------------------------------

/-- `str`, `bool`, `int` and `float`, which a class of the server's values may define
for itself. -/
structure Conversions (F : Type) where
  str : PyValue F → Except PyException String
  bool : PyValue F → Except PyException Bool
  int : PyValue F → Except PyException Int
  float : PyValue F → Except PyException F

section

variable [PyRuntime F]

def builtins : Conversions F where
  str value := .ok value.text
  bool value := .ok value.truthy
  int := PyValue.toInt
  float := PyValue.toFloat

variable (py : Conversions F)

def coerceValue (value : PyValue F) (tag : TagSpec F) : Except PyException (PyValue F) := do
  if tag.dataType = "auto" then
    return value
  if tag.dataType = "string" then
    return .str (← py.str value)
  if tag.dataType = "bool" then
    return .bool (← py.bool value)
  if tag.dataType ∈ ["int16", "uint16", "int32", "uint32"] then
    -- `int * float` makes a float of the integer first
    let n ← (PyValue.int (← py.int value) : PyValue F).toFloat
    return .float (PyRuntime.mul n tag.scale)
  if tag.dataType ∈ ["float32", "float64"] then
    return .float (PyRuntime.mul (← py.float value) tag.scale)
  return value

-- ---------------------------------------------------------------------------
-- Polling
-- ---------------------------------------------------------------------------

/-- What a connected client reads from the node of an id. -/
abbrev ReadValue (F : Type) := String → Except PyException (PyValue F)

def readTag (read : ReadValue F) (timestamp : Datetime) (tag : TagSpec F) : TagResult F :=
  if textTruthy tag.nodeId then
    tagResult tag timestamp (do coerceValue py (← read (tag.nodeId.getD "")) tag)
  else bad tag timestamp "OPC UA node_id is required"

/-- `clock` gives the time of each read. -/
def readTags (client : Option (ReadValue F)) (tags : List (TagSpec F)) (clock : Nat → Datetime) :
    List (TagResult F) :=
  match client with
  | none => tags.map fun tag => bad tag (clock 0) "OPC UA client is not connected"
  | some read => tags.mapIdx fun i tag => readTag py read (clock i) tag

-- ---------------------------------------------------------------------------
-- Subscription
-- ---------------------------------------------------------------------------

omit [PyRuntime F] in
/-- The tags with a node. -/
def nodeTags (tags : List (TagSpec F)) : List (TagSpec F) :=
  tags.filter fun tag => textTruthy tag.nodeId

/-- What `_start_subscription` hands to the handler and to the server. -/
structure Subscription (F : Type) where
  nodeMap : OrderedDict String (TagSpec F)
  nodes : List String

def startSubscription (tags : List (TagSpec F)) : Subscription F where
  nodeMap := .ofList ((nodeTags tags).map fun tag => (tag.nodeId.getD "", tag))
  nodes := (nodeTags tags).map fun tag => tag.nodeId.getD ""

/-- `datachange_notification`, with the text of the node's id: what it emits. -/
def datachangeNotification (device : DeviceSpec F) (nodeMap : OrderedDict String (TagSpec F))
    (nodeId : String) (value : PyValue F) (timestamp : Datetime) : Option (ReadResult F) :=
  (nodeMap.get? nodeId).map fun tag =>
    ⟨device, timestamp, [tagResult tag timestamp (coerceValue py value tag)], none⟩

-- ---------------------------------------------------------------------------
-- The tags of a node
-- ---------------------------------------------------------------------------

omit [PyRuntime F] in
/-- The map keeps the last tag of a node. -/
theorem get?_nodeMap {tags : List (TagSpec F)} (hgiven : ∀ tag ∈ tags, textTruthy tag.nodeId = true)
    (nodeId : String) : (startSubscription tags).nodeMap.get? nodeId =
      (tags.filter fun tag => tag.nodeId = some nodeId).getLast? := by
  have hall : nodeTags tags = tags := List.filter_eq_self.mpr hgiven
  rw [startSubscription, OrderedDict.get?_ofList_map, hall]
  congr 1
  apply List.filter_congr
  intro tag htag
  have htruthy := hgiven tag htag
  cases hnode : tag.nodeId with
  | none =>
    rw [hnode] at htruthy
    cases htruthy
  | some own => simp

omit [PyRuntime F] in
theorem error_tagResult (tag : TagSpec F) (timestamp : Datetime)
    (outcome : Except PyException (PyValue F)) :
    (tagResult tag timestamp outcome).error =
      match outcome with
      | .ok _ => none
      | .error exc => some exc.message := by
  cases outcome <;> rfl

omit [PyRuntime F] in
/-- A result names its tag. -/
theorem tagResult_inj {tag tag' : TagSpec F} {timestamp timestamp' : Datetime}
    {outcome outcome' : Except PyException (PyValue F)}
    (h : tagResult tag timestamp outcome = tagResult tag' timestamp' outcome') :
    tag.storeKey = tag'.storeKey ∧ tag.nodeId = tag'.nodeId := by
  have hfields : ∀ (tag : TagSpec F) timestamp outcome,
      (tagResult tag timestamp outcome).tagGroup = tag.tagGroup ∧
        (tagResult tag timestamp outcome).name = tag.name ∧
          (tagResult tag timestamp outcome).nodeId = tag.nodeId := by
    intro tag timestamp outcome
    cases outcome <;> exact ⟨rfl, rfl, rfl⟩
  obtain ⟨hgroup, hname, hnode⟩ := hfields tag timestamp outcome
  obtain ⟨hgroup', hname', hnode'⟩ := hfields tag' timestamp' outcome'
  rw [h] at hgroup hname hnode
  rw [TagSpec.storeKey, TagSpec.storeKey, ← hgroup, ← hname, ← hnode, hgroup', hname', hnode']
  exact ⟨rfl, rfl⟩

/-- The change of a node to a value gives the tag a result with the value. -/
def Notified (device : DeviceSpec F) (tags : List (TagSpec F)) (nodeId : String) (value : PyValue F)
    (timestamp : Datetime) (tag : TagSpec F) : Prop :=
  ∃ result, datachangeNotification py device (startSubscription tags).nodeMap nodeId value timestamp =
      some result ∧
    tagResult tag timestamp (coerceValue py value tag) ∈ result.tags

/-- Polling reports the value of a node for the tag, whatever the other nodes hold. -/
def Polled (tags : List (TagSpec F)) (nodeId : String) (value : PyValue F) (tag : TagSpec F) : Prop :=
  ∀ (read : ReadValue F) (clock : Nat → Datetime), read nodeId = .ok value →
    ∃ timestamp, (tag, tagResult tag timestamp (coerceValue py value tag)) ∈
      tags.zip (readTags py (some read) tags clock)

variable {py} {tags : List (TagSpec F)} {tag : TagSpec F} {nodeId : String} {value : PyValue F}

theorem mem_zip_readTags {read : ReadValue F} {clock : Nat → Datetime} {result : TagResult F} :
    (tag, result) ∈ tags.zip (readTags py (some read) tags clock) ↔
      ∃ i, tags[i]? = some tag ∧ result = readTag py read (clock i) tag := by
  rw [readTags, List.mem_iff_getElem?]
  refine exists_congr fun i => ?_
  rw [List.getElem?_zip_eq_some, List.getElem?_mapIdx]
  constructor
  · rintro ⟨htag, hresult⟩
    rw [htag] at hresult
    exact ⟨htag, (Option.some.inj hresult).symm⟩
  · rintro ⟨htag, rfl⟩
    rw [htag]
    exact ⟨rfl, rfl⟩

theorem polled_iff (hmem : tag ∈ tags) (hgiven : textTruthy tag.nodeId = true) :
    Polled py tags nodeId value tag ↔ tag.nodeId = some nodeId := by
  obtain ⟨own, hown⟩ : ∃ own, tag.nodeId = some own := by
    cases hnode : tag.nodeId with
    | none =>
      rw [hnode] at hgiven
      cases hgiven
    | some own => exact ⟨own, rfl⟩
  have hread : ∀ (read : ReadValue F) timestamp, readTag py read timestamp tag =
      tagResult tag timestamp (read own >>= fun value => coerceValue py value tag) := by
    intro read timestamp
    rw [readTag, if_pos hgiven, hown, Option.getD_some]
  rw [hown, Option.some.injEq]
  constructor
  · intro hpolled
    by_contra hne
    -- the answers of the tag's own node show in its error
    have herror : ∀ message, (tagResult tag 0 (coerceValue py value tag)).error = some message := by
      intro message
      obtain ⟨timestamp, hresult⟩ := hpolled
        (fun node => if node = nodeId then .ok value else .error ⟨.runtimeError, message⟩)
        (fun _ => 0) (if_pos rfl)
      obtain ⟨i, -, heq⟩ := mem_zip_readTags.mp hresult
      have heq := congrArg TagResult.error heq
      rw [hread, if_neg hne, error_tagResult] at heq
      rw [error_tagResult]
      exact heq
    have hsame := (herror "a").symm.trans (herror "b")
    exact absurd hsame (by decide)
  · rintro rfl read clock hvalue
    obtain ⟨i, hi⟩ := List.mem_iff_getElem?.mp hmem
    refine ⟨clock i, mem_zip_readTags.mpr ⟨i, hi, ?_⟩⟩
    rw [hread, hvalue]
    rfl

theorem notified_iff {device : DeviceSpec F} {timestamp : Datetime}
    (hgiven : ∀ tag ∈ tags, textTruthy tag.nodeId = true) :
    Notified py device tags nodeId value timestamp tag ↔
      ∃ last, (tags.filter fun tag => tag.nodeId = some nodeId).getLast? = some last ∧
        tagResult tag timestamp (coerceValue py value tag) =
          tagResult last timestamp (coerceValue py value last) := by
  rw [Notified, datachangeNotification, get?_nodeMap hgiven]
  constructor
  · rintro ⟨result, hresult, hmem⟩
    obtain ⟨last, hlast, rfl⟩ := Option.map_eq_some_iff.mp hresult
    exact ⟨last, hlast, List.mem_singleton.mp hmem⟩
  · rintro ⟨last, hlast, heq⟩
    exact ⟨_, Option.map_eq_some_iff.mpr ⟨last, hlast, rfl⟩, List.mem_singleton.mpr heq⟩

/-- Only the tags of a node are told of its changes. -/
theorem nodeId_of_notified {device : DeviceSpec F} {timestamp : Datetime}
    (hgiven : ∀ tag ∈ tags, textTruthy tag.nodeId = true)
    (h : Notified py device tags nodeId value timestamp tag) : tag.nodeId = some nodeId := by
  obtain ⟨last, hlast, heq⟩ := (notified_iff hgiven).mp h
  have hnode := (List.mem_filter.mp (List.mem_of_getLast? hlast)).2
  rw [(tagResult_inj heq).2]
  exact of_decide_eq_true hnode

/-- The last of several tags stands for all of them only when it is alone. -/
theorem last_serves_iff (py : Conversions F) (value : PyValue F) (timestamp : Datetime)
    {served : List (TagSpec F)} (hkeys : (served.map TagSpec.storeKey).Nodup) :
    (∀ tag ∈ served, ∃ last, served.getLast? = some last ∧
        tagResult tag timestamp (coerceValue py value tag) =
          tagResult last timestamp (coerceValue py value last)) ↔ served.length ≤ 1 := by
  rcases served with _ | ⟨first, _ | ⟨second, rest⟩⟩
  · simp
  · simp
  · refine iff_of_false (fun hall => ?_) (by simp)
    obtain ⟨last, hlast, heq⟩ := hall first (by simp)
    obtain ⟨last', hlast', heq'⟩ := hall second (by simp)
    obtain rfl := Option.some.inj (hlast.symm.trans hlast')
    have hsame := (tagResult_inj (heq.trans heq'.symm)).1
    simp [hsame] at hkeys

theorem nodeId_given (h : validateOpcuaTag tag = .ok ()) : textTruthy tag.nodeId = true := by
  obtain ⟨own, hown, hstrip⟩ := (validateNodeTag_ok.mp h).nodeId
  rw [hown, textTruthy_some]
  rintro rfl
  exact hstrip PyText.stripped_empty

/-- A node's changes reach the tags that polling reads it for exactly when it has no
more than one of them. -/
theorem modes_agree_iff (hadmitted : ∀ tag ∈ tags, validateOpcuaTag tag = .ok ())
    (hnames : (tags.map TagSpec.storeKey).Nodup) (py : Conversions F) (device : DeviceSpec F)
    (nodeId : String) (value : PyValue F) (timestamp : Datetime) :
    (∀ tag ∈ tags, Notified py device tags nodeId value timestamp tag ↔
        Polled py tags nodeId value tag) ↔
      (tags.filter fun tag => tag.nodeId = some nodeId).length ≤ 1 := by
  have hgiven : ∀ tag ∈ tags, textTruthy tag.nodeId = true :=
    fun tag htag => nodeId_given (hadmitted tag htag)
  have hkeys : ((tags.filter fun tag => tag.nodeId = some nodeId).map TagSpec.storeKey).Nodup :=
    hnames.sublist (List.filter_sublist.map _)
  rw [← last_serves_iff py value timestamp hkeys]
  constructor
  · intro hagree tag hserved
    obtain ⟨htag, hown⟩ := List.mem_filter.mp hserved
    have hpolled : Polled py tags nodeId value tag :=
      (polled_iff htag (hgiven tag htag)).mpr (of_decide_eq_true hown)
    exact (notified_iff hgiven).mp ((hagree tag htag).mpr hpolled)
  · intro hall tag htag
    rw [polled_iff htag (hgiven tag htag)]
    refine ⟨nodeId_of_notified hgiven, fun hown => (notified_iff hgiven).mpr (hall tag ?_)⟩
    exact List.mem_filter.mpr ⟨htag, decide_eq_true hown⟩

end

/-- The temperature of a boiler as a number and as a text. -/
def boilerTag (name dataType nodeId : String) : TagSpec WholeFloat :=
  { name, address := 0, function := "opcua_node", dataType, scale := ⟨1⟩, offset := ⟨0⟩,
    wordCount := some 8, nodeId := some nodeId }

def boiler : DeviceSpec WholeFloat := ⟨some 1, "boiler", "opcua", true, 1000, "", ∅⟩

def boilerTags (labelNode : String) : List (TagSpec WholeFloat) :=
  [boilerTag "temperature" "float64" "ns=2;s=T", boilerTag "label" "string" labelNode]

theorem boilerTags_agree :
    (∀ tag ∈ boilerTags "ns=2;s=L",
      Notified builtins boiler (boilerTags "ns=2;s=L") "ns=2;s=T" (.int 80) 0 tag ↔
        Polled builtins (boilerTags "ns=2;s=L") "ns=2;s=T" (.int 80) tag) ↔
      ((boilerTags "ns=2;s=L").filter fun tag => tag.nodeId = some "ns=2;s=T").length ≤ 1 :=
  modes_agree_iff (by decide +kernel) (by decide) builtins boiler "ns=2;s=T" (.int 80) 0

/-- Polling reads the node for both tags; its changes go to the text only. -/
theorem shared_node_differs : ¬ ∀ (tags : List (TagSpec WholeFloat)) (device : DeviceSpec WholeFloat)
    (nodeId : String) (value : PyValue WholeFloat) (timestamp : Datetime),
    (∀ tag ∈ tags, validateOpcuaTag tag = .ok ()) → (tags.map TagSpec.storeKey).Nodup →
      ∀ tag ∈ tags, Notified builtins device tags nodeId value timestamp tag ↔
        Polled builtins tags nodeId value tag := by
  intro h
  have hmem : boilerTag "temperature" "float64" "ns=2;s=T" ∈ boilerTags "ns=2;s=T" :=
    List.mem_cons_self
  have hagree := h (boilerTags "ns=2;s=T") boiler "ns=2;s=T" (.int 80) 0 (by decide +kernel)
    (by decide) _ hmem
  rw [notified_iff (by decide), polled_iff hmem rfl] at hagree
  obtain ⟨last, hlast, heq⟩ := hagree.mpr rfl
  cases hlast
  exact absurd heq (by decide)

end OpcUa

end IndustrialGateway
