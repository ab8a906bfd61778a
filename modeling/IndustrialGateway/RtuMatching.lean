import IndustrialGateway.RtuCapture
import IndustrialGateway.RtuResults

/-!
# Responses and their requests

A response is paired with the last request of its slave and function that is still
pending. Nothing else is compared, so a response whose own request was lost is paired
with an older one, whatever that asks for.
-/

namespace IndustrialGateway

namespace RtuMonitor

open FrameScan (Window Scans)
open Modbus (tagResult intSetting unitOf)

/-- The number of data bytes that answer a request. -/
def askedBytes (function : UInt8) (quantity : UInt16) : Nat :=
  if function ∈ [3, 4] then 2 * quantity.toNat else (quantity.toNat + 7) / 8

/-- The response has as many bytes as the request asks for. -/
def Fits (request response : RtuFrame) : Prop :=
  response.byteCount.map UInt8.toNat = request.quantity.map (askedBytes request.function)

instance (request response : RtuFrame) : Decidable (Fits request response) :=
  inferInstanceAs (Decidable (_ = _))

/-- What `_drain_request_response_pairs` takes for a response. -/
def isReply (frame : RtuFrame) : Bool := !isReadRequest frame && isReadResponse frame

variable {frame request response : RtuFrame}

/-- A request of the master and what the slave answered, as far as they are heard. When
both are, a read response is for the request and fits it. -/
structure HeardExchange where
  request : Option RtuFrame
  response : Option RtuFrame
  isRequest : ∀ q ∈ request, isReadRequest q = true
  answers : ∀ q ∈ request, ∀ r ∈ response, isReply r = true → r.key = q.key ∧ Fits q r

def HeardExchange.frames (e : HeardExchange) : List RtuFrame := e.request.toList ++ e.response.toList

def heardFrames (exchanges : List HeardExchange) : List RtuFrame :=
  exchanges.flatMap HeardExchange.frames

/-- Any frames may have been heard. -/
theorem exists_exchanges (frames : List RtuFrame) : ∃ exchanges, heardFrames exchanges = frames := by
  refine ⟨frames.map fun frame => ⟨none, some frame, by simp, by simp⟩, ?_⟩
  rw [heardFrames, List.flatMap_map]
  exact List.flatMap_singleton' frames

/-- A frame and the exchange that it was part of. -/
structure HeardFrame where
  exchange : Nat
  frame : RtuFrame

abbrev HeardPending : Type := OrderedDict (UInt8 × UInt8) HeardFrame

/-- `recordFrame` for frames of which the exchange is known. -/
def matchFrame (pending : HeardPending) (h : HeardFrame) :
    List (HeardFrame × HeardFrame) × HeardPending :=
  if isReadRequest h.frame then ([], pending.set h.frame.key h)
  else if isReadResponse h.frame then
    match pending.get? h.frame.key with
    | some request => ([(request, h)], pending.erase h.frame.key)
    | none => ([], pending)
  else ([], pending)

def matchFrames : HeardPending → List HeardFrame → List (HeardFrame × HeardFrame) × HeardPending
  | pending, [] => ([], pending)
  | pending, h :: hs =>
    ((matchFrame pending h).1 ++ (matchFrames (matchFrame pending h).2 hs).1,
      (matchFrames (matchFrame pending h).2 hs).2)

def pairOf (p : HeardFrame × HeardFrame) : Pair := ⟨p.1.frame, withResponseValue p.2.frame⟩

-- ---------------------------------------------------------------------------
-- The frames behind the exchanges
-- ---------------------------------------------------------------------------

variable {exchanges : List HeardExchange} {pending : HeardPending} {known : Pending} {h g : HeardFrame}
  {hs : List HeardFrame} {p : HeardFrame × HeardFrame} {key : UInt8 × UInt8}

/-- The same requests are pending, without their exchanges. -/
def Forgets (pending : HeardPending) (known : Pending) : Prop :=
  ∀ key, known.get? key = (pending.get? key).map HeardFrame.frame

theorem Forgets.step (hknown : Forgets pending known) (h : HeardFrame) :
    (recordFrame known h.frame).1 = (matchFrame pending h).1.map pairOf ∧
      Forgets (matchFrame pending h).2 (recordFrame known h.frame).2 := by
  rw [recordFrame, matchFrame]
  cases isReadRequest h.frame with
  | true =>
    refine ⟨rfl, fun key => ?_⟩
    simp only [if_true, OrderedDict.get?_set]
    split
    · rfl
    · exact hknown key
  | false =>
    cases isReadResponse h.frame with
    | false => exact ⟨rfl, hknown⟩
    | true =>
      simp only [Bool.false_eq_true, if_false, if_true, hknown h.frame.key]
      cases pending.get? h.frame.key with
      | none => exact ⟨rfl, hknown⟩
      | some request =>
        refine ⟨rfl, fun key => ?_⟩
        simp only [Option.map_some, OrderedDict.get?_erase]
        split
        · rfl
        · exact hknown key

theorem Forgets.run (hknown : Forgets pending known) (hs : List HeardFrame) :
    (recordFrames known (hs.map HeardFrame.frame)).1 = (matchFrames pending hs).1.map pairOf ∧
      Forgets (matchFrames pending hs).2 (recordFrames known (hs.map HeardFrame.frame)).2 := by
  induction hs generalizing pending known with
  | nil => exact ⟨rfl, hknown⟩
  | cons h hs ih =>
    obtain ⟨hpairs, hnext⟩ := hknown.step h
    obtain ⟨hrest, hlast⟩ := ih hnext
    simp only [List.map_cons, recordFrames, matchFrames, List.map_append, hpairs, hrest]
    exact ⟨trivial, hlast⟩

/-- The request and the response of the pair are those of one of the exchanges. -/
def OfExchange (exchanges : List HeardExchange) (p : HeardFrame × HeardFrame) : Prop :=
  ∃ e, exchanges[p.2.exchange]? = some e ∧ p.1.exchange = p.2.exchange ∧
    e.request = some p.1.frame ∧ e.response = some p.2.frame ∧ isReply p.2.frame = true

theorem OfExchange.append (hp : OfExchange exchanges p) (e : HeardExchange) :
    OfExchange (exchanges ++ [e]) p := by
  obtain ⟨d, hget, hrest⟩ := hp
  refine ⟨d, ?_, hrest⟩
  rw [List.getElem?_append_left (List.getElem?_eq_some_iff.mp hget).1, hget]

theorem registers_withResponseValue (frame : RtuFrame) :
    (withResponseValue frame).registers = frame.registers := by
  rw [withResponseValue]
  split <;> rfl

section Tags

variable {F : Type} [PyRuntime F] {tag : TagSpec F} {unitId : Int} {timestamp : Datetime}
  {result : TagResult F}

end Tags

-- ---------------------------------------------------------------------------
-- Lost frames
-- ---------------------------------------------------------------------------

end RtuMonitor

end IndustrialGateway
