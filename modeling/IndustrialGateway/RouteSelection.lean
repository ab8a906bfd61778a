import IndustrialGateway.Lib.Levels
import IndustrialGateway.Lib.WholeFloat
import IndustrialGateway.SinkPublisher

/-!
# Selection of a route

A route without a device stands for all devices, one without a group for all groups.
The publisher looks for the device before the group, but not for a route that stands
for all of both.
-/

namespace IndustrialGateway

open Levels

variable {F : Type}

/-- The route is for this device, not for all. -/
def OutputRoute.isFor (route : OutputRoute F) (device : DeviceSpec F) : Bool :=
  route.deviceId.isSome && route.deviceId = device.id

/-- This device and group, this device, all devices with this group, all devices. -/
def routeLevels (device : DeviceSpec F) (tagGroup : String) : List (OutputRoute F → Bool) :=
  [fun route => route.isFor device && route.tagGroup = tagGroup,
    fun route => route.isFor device && route.tagGroup = "",
    fun route => route.deviceId = none && route.tagGroup = tagGroup,
    fun route => route.deviceId = none && route.tagGroup = ""]

def dataRoutes (routes : List (OutputRoute F)) : List (OutputRoute F) :=
  routes.filter fun route => route.routeKind = "data"

/-- The most specific data route, and the first of these. -/
structure SelectsRoute (routes : List (OutputRoute F)) (device : DeviceSpec F) (tagGroup : String)
    (result : Option (OutputRoute F)) : Prop where
  chosen : Chosen (routeLevels device tagGroup) (dataRoutes routes) result
  kind : ∀ route, result = some route → route.routeKind ≠ "system_heartbeat"

/-- No route is for the device or the group, but one is for all. -/
structure OnlyForAll (routes : List (OutputRoute F)) (device : DeviceSpec F) (tagGroup : String) :
    Prop where
  others : ∀ level ∈ (routeLevels device tagGroup).take 3, ∀ route ∈ dataRoutes routes, ¬ level route
  all : ∃ route ∈ dataRoutes routes, route.deviceId = none ∧ route.tagGroup = ""
  group : tagGroup ≠ ""
  device : device.id ≠ none

theorem routeFor_eq (routes : List (OutputRoute F)) (device : DeviceSpec F) (tagGroup : String) :
    routeFor routes device tagGroup =
      choose [fun route => route.deviceId = device.id ∧ route.tagGroup = tagGroup,
        fun route => route.deviceId = device.id ∧ route.tagGroup = "",
        fun route => route.deviceId = none ∧ route.tagGroup = tagGroup] (dataRoutes routes) := by
  simp only [routeFor, dataRoutes, choose_cons, choose_nil, Option.or_none, List.head?_filter]

theorem routeFor_mem {routes : List (OutputRoute F)} {device : DeviceSpec F} {tagGroup : String}
    {route : OutputRoute F} (h : routeFor routes device tagGroup = some route) :
    route ∈ dataRoutes routes := by
  rw [routeFor_eq, choose, List.findSome?_eq_some_iff] at h
  obtain ⟨-, level, -, -, h, -⟩ := h
  exact List.mem_of_find?_eq_some h

/-- For a device with an id the publisher looks through the first three levels. -/
theorem choose_take {device : DeviceSpec F} (hid : device.id ≠ none) (tagGroup : String)
    (routes : List (OutputRoute F)) :
    choose ((routeLevels device tagGroup).take 3) (dataRoutes routes) =
      routeFor routes device tagGroup := by
  obtain ⟨id, hid⟩ := Option.ne_none_iff_exists'.mp hid
  have hfor (route : OutputRoute F) :
      route.isFor device = decide (route.deviceId = device.id) := by
    rw [OutputRoute.isFor, hid]
    cases route.deviceId <;> simp
  rw [routeFor_eq]
  simp only [routeLevels, hfor, List.take_succ_cons, List.take_zero, Bool.decide_and]

/-- A device without an id has no routes of its own, and the last two levels are enough. -/
theorem choose_levels_of_none {device : DeviceSpec F} (hid : device.id = none) (tagGroup : String)
    (routes : List (OutputRoute F)) :
    choose (routeLevels device tagGroup) (dataRoutes routes) = routeFor routes device tagGroup := by
  have hfor (route : OutputRoute F) : route.isFor device = false := by
    rw [OutputRoute.isFor, hid]
    cases route.deviceId <;> rfl
  have hown : (dataRoutes routes).find? (fun _ => false) = none := by simp
  rw [routeFor_eq]
  simp only [routeLevels, hfor, hid, choose_cons, choose_nil, Option.or_none, Bool.decide_and,
    Bool.false_and, hown, Option.none_or]
  cases (dataRoutes routes).find? fun route => route.deviceId = none && route.tagGroup = tagGroup with
  | none => simp
  | some route => rfl

theorem selectsRoute_iff_choose (routes : List (OutputRoute F)) (device : DeviceSpec F)
    (tagGroup : String) : SelectsRoute routes device tagGroup (routeFor routes device tagGroup) ↔
      routeFor routes device tagGroup = choose (routeLevels device tagGroup) (dataRoutes routes) := by
  refine ⟨fun h => chosen_iff.mp h.chosen, fun h => ⟨chosen_iff.mpr h, fun route hroute => ?_⟩⟩
  have hdata : route.routeKind = "data" := by
    simpa using (List.mem_filter.mp (routeFor_mem hroute)).2
  rw [hdata]
  decide

/-- The publisher selects the most specific route, unless the only one is for all devices
and groups. -/
theorem selectsRoute_iff (routes : List (OutputRoute F)) (device : DeviceSpec F) (tagGroup : String) :
    SelectsRoute routes device tagGroup (routeFor routes device tagGroup) ↔
      ¬ OnlyForAll routes device tagGroup := by
  rw [selectsRoute_iff_choose]
  by_cases hid : device.id = none
  · exact iff_of_true (choose_levels_of_none hid tagGroup routes).symm fun h => h.device hid
  have hothers := @chosen_iff _ ((routeLevels device tagGroup).take 3) (dataRoutes routes) none
  rw [choose_take hid] at hothers
  have hlevels : choose (routeLevels device tagGroup) (dataRoutes routes) =
      (routeFor routes device tagGroup).or
        ((dataRoutes routes).find? fun route => route.deviceId = none && route.tagGroup = "") := by
    rw [← choose_take hid, ← List.take_append_drop 3 (routeLevels device tagGroup), choose_append]
    simp [routeLevels]
  rw [hlevels]
  constructor
  · intro hchoose honly
    obtain ⟨route, hroute, hall⟩ := honly.all
    rw [← hothers.mp honly.others, Option.none_or, eq_comm, List.find?_eq_none] at hchoose
    exact hchoose route hroute (by simp [hall])
  · intro honly
    cases hfound : routeFor routes device tagGroup with
    | some route => rfl
    | none =>
      rw [Option.none_or, eq_comm, List.find?_eq_none]
      intro route hroute hall
      have hall : route.deviceId = none ∧ route.tagGroup = "" := by simpa using hall
      have hothers := hothers.mpr hfound.symm
      refine honly ⟨hothers, ⟨route, hroute, hall⟩, fun hgroup => ?_, hid⟩
      exact hothers (fun route => route.deviceId = none && route.tagGroup = tagGroup)
        (by simp [routeLevels]) route hroute (by simp [hall, hgroup])

def allRoute : OutputRoute WholeFloat :=
  { objectId := 0, deviceId := none, sinkType := "mqtt", tagGroup := "", mqttConfig := {},
    topic := "plant/all", heartbeatIntervalS := ⟨60⟩ }

/-- The tags of a group of a device go to no route, although there is one for all. -/
theorem allRoute_passed :
    let device : DeviceSpec WholeFloat :=
      { id := some 1, name := "plc", driverType := "modbus_tcp", enabled := true,
        pollIntervalMs := 1000 }
    ¬ SelectsRoute [allRoute] device "outlet" (routeFor [allRoute] device "outlet") := by
  intro device hselects
  have hnone : routeFor [allRoute] device "outlet" = none := by decide
  rw [hnone] at hselects
  exact hselects.chosen (fun route => route.deviceId = none && route.tagGroup = "")
    (by simp [routeLevels]) allRoute (by decide) (by decide)

end IndustrialGateway
