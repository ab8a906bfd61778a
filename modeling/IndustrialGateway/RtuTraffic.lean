import IndustrialGateway.RtuCapture
import Mathlib.Algebra.Ring.Nat
import Mathlib.Data.Nat.Find

/-!
# Well-formed traffic

A bus carries requests for registers, each followed by its response. Draining the bytes
gives back the transactions exactly when no frame begins with a shorter one: a shorter
one is taken first, and what is taken without completing a pair is missing in the end.
-/

namespace IndustrialGateway

namespace RtuMonitor

open FrameScan (Window Accepted Next Drains)

-- ---------------------------------------------------------------------------
-- Transactions
-- ---------------------------------------------------------------------------

/-- A read of holding or input registers, with the registers that are answered. -/
structure Transaction where
  slaveId : UInt8
  function : UInt8
  startAddress : UInt16
  registers : List UInt16
  function_mem : function ∈ [3, 4]
  registers_pos : 1 ≤ registers.length
  registers_max : registers.length ≤ 125

def Transaction.quantity (t : Transaction) : UInt16 := UInt16.ofNat t.registers.length

def Transaction.request (t : Transaction) : List UInt8 :=
  requestFrame t.slaveId t.function t.startAddress t.quantity

def Transaction.response (t : Transaction) : List UInt8 :=
  responseFrame t.slaveId t.function (t.registers.flatMap u16Bytes)

def Transaction.pair (t : Transaction) : Pair where
  request := requestFields t.slaveId t.function t.startAddress t.quantity
  response := withResponseValue (registersFields t.slaveId t.function t.registers)

def encode (ts : List Transaction) : List UInt8 := ts.flatMap fun t => t.request ++ t.response

theorem encode_cons (t : Transaction) (ts : List Transaction) :
    encode (t :: ts) = t.request ++ (t.response ++ encode ts) := by
  rw [encode, List.flatMap_cons, List.append_assoc]
  rfl

/-- No shorter frame stands at the beginning of the frame. -/
def Unambiguous (frame : List UInt8) : Prop :=
  ∀ n < frame.length, (parseRtuFrame (frame.take n)).toOption = none

instance (frame : List UInt8) : Decidable (Unambiguous frame) :=
  inferInstanceAs (Decidable (∀ n < frame.length, _))

variable {frame rest pre stream : List UInt8} {f : RtuFrame} {pending : Pending} {n p : Nat}
  {ws : List (Window RtuFrame)}

theorem Transaction.parse_request (t : Transaction) :
    parseRtuFrame t.request = .ok t.pair.request :=
  parse_requestFrame t.slaveId t.startAddress t.quantity
    (isReadFunction_of_registers t.function_mem)

theorem Transaction.parse_response (t : Transaction) :
    parseRtuFrame t.response = .ok (registersFields t.slaveId t.function t.registers) :=
  parse_registersFrame t.slaveId t.function_mem t.registers t.registers_max

theorem Transaction.length_request (t : Transaction) : t.request.length = 8 :=
  length_requestFrame ..

theorem Transaction.length_response (t : Transaction) :
    t.response.length = 2 * t.registers.length + 5 := by
  rw [Transaction.response, length_responseFrame, length_flatMap_u16Bytes]

-- ---------------------------------------------------------------------------
-- What a frame can complete
-- ---------------------------------------------------------------------------

def Pair.bytes (pair : Pair) : Nat := pair.request.length + pair.response.length

def entryBytes (entries : List ((UInt8 × UInt8) × RtuFrame)) : Nat :=
  (entries.map fun entry => entry.2.length).sum

def pendingBytes (pending : Pending) : Nat := entryBytes pending.entries

theorem length_withResponseValue (f : RtuFrame) : (withResponseValue f).length = f.length := by
  rw [withResponseValue]
  split <;> rfl

@[simp] theorem entryBytes_cons (entry : (UInt8 × UInt8) × RtuFrame)
    (entries : List ((UInt8 × UInt8) × RtuFrame)) :
    entryBytes (entry :: entries) = entry.2.length + entryBytes entries := rfl

theorem entryBytes_assign_le (entries : List ((UInt8 × UInt8) × RtuFrame)) (key : UInt8 × UInt8)
    (f : RtuFrame) :
    entryBytes (OrderedDict.assign key f entries) ≤ entryBytes entries + f.length := by
  induction entries with
  | nil => exact le_of_eq (Nat.zero_add _).symm
  | cons entry entries ih =>
    obtain ⟨k, g⟩ := entry
    rw [OrderedDict.assign]
    split
    · simp only [entryBytes_cons]
      omega
    · simp only [entryBytes_cons]
      omega

theorem entryBytes_filter_le (entries : List ((UInt8 × UInt8) × RtuFrame))
    (p : (UInt8 × UInt8) × RtuFrame → Bool) : entryBytes (entries.filter p) ≤ entryBytes entries := by
  induction entries with
  | nil => exact le_refl _
  | cons entry entries ih =>
    rw [List.filter_cons]
    split
    · exact Nat.add_le_add_left ih _
    · exact ih.trans (Nat.le_add_left ..)

theorem entryBytes_filter_ne {entries : List ((UInt8 × UInt8) × RtuFrame)} {key : UInt8 × UInt8}
    (h : OrderedDict.lookup key entries = some f) :
    entryBytes (entries.filter fun p => p.1 ≠ key) + f.length ≤ entryBytes entries := by
  induction entries with
  | nil => cases h
  | cons entry entries ih =>
    obtain ⟨k, g⟩ := entry
    have hle := entryBytes_filter_le entries fun p => p.1 ≠ key
    rw [OrderedDict.lookup] at h
    rw [List.filter_cons]
    split at h
    · rename_i hk
      obtain rfl := Option.some.inj h
      rw [if_neg (by simp [hk])]
      simp only [entryBytes_cons]
      omega
    · rename_i hk
      rw [if_pos (by simp [hk])]
      have := ih h
      simp only [entryBytes_cons]
      omega

/-- A frame adds at most its own bytes to what is pending or paired. -/
theorem recordFrame_bytes (pending : Pending) (f : RtuFrame) :
    ((recordFrame pending f).1.map Pair.bytes).sum + pendingBytes (recordFrame pending f).2 ≤
      pendingBytes pending + f.length := by
  rw [recordFrame]
  split
  · simpa [pendingBytes, OrderedDict.set] using entryBytes_assign_le pending.entries f.key f
  · split
    · split
      · rename_i request hget
        have := entryBytes_filter_ne hget
        simp only [List.map_cons, List.map_nil, List.sum_cons, List.sum_nil, Pair.bytes,
          length_withResponseValue, pendingBytes, OrderedDict.erase]
        omega
      · simp
    · simp

theorem recordFrames_bytes (pending : Pending) (frames : List RtuFrame) :
    ((recordFrames pending frames).1.map Pair.bytes).sum ≤
      pendingBytes pending + (frames.map RtuFrame.length).sum := by
  induction frames generalizing pending with
  | nil => simp [recordFrames]
  | cons frame frames ih =>
    have hstep := recordFrame_bytes pending frame
    have hrest := ih (recordFrame pending frame).2
    simp only [recordFrames, List.map_append, List.sum_append, List.map_cons, List.sum_cons]
    omega

theorem length_of_accepted {w : Window RtuFrame} (h : Accepted accept 4 stream w) :
    w.frame.length = w.stop - w.start := by
  obtain ⟨-, -, hshape⟩ := parseRtuFrame_eq_ok.mp (accept_eq_some.mp h.frame)
  have := h.bound
  rw [hshape.common.2.2, List.extract_eq_take_drop, List.length_take, List.length_drop]
  omega

theorem drained_bytes (h : Drains accept 4 stream p ws) (hp : p ≤ stream.length) :
    ((ws.map Window.frame).map RtuFrame.length).sum ≤ stream.length - p := by
  induction h with
  | done => exact Nat.zero_le _
  | next hw _ ih =>
    have hlen := length_of_accepted hw.accepted
    have hstart := hw.start
    have hspan := hw.accepted.least
    have hbound := hw.accepted.bound
    have := ih hbound
    simp only [List.map_cons, List.sum_cons]
    omega

-- ---------------------------------------------------------------------------
-- The first frame of the rest
-- ---------------------------------------------------------------------------

/-- Before other bytes a frame is taken whole when it is unambiguous, and cut short
when it is not. -/
theorem exists_next_of_parse (hparse : parseRtuFrame frame = .ok f) (pre rest : List UInt8) :
    ∃ n g, parseRtuFrame (frame.take n) = .ok g ∧ n ≤ frame.length ∧
      (n = frame.length ↔ Unambiguous frame) ∧
      Next accept 4 (pre ++ (frame ++ rest)) pre.length ⟨pre.length, pre.length + n, g⟩ := by
  have hexists : ∃ n, n ≤ frame.length ∧ (accept (frame.take n)).isSome = true :=
    ⟨frame.length, le_refl _, by rw [List.take_length, accept_eq_some.mpr hparse]; rfl⟩
  classical
  obtain ⟨hn, hsome⟩ := Nat.find_spec hexists
  have hmin : ∀ m < Nat.find hexists, accept (frame.take m) = none := fun m hm => by
    have := Nat.find_min hexists hm
    rw [not_and, Option.not_isSome_iff_eq_none] at this
    exact this (by omega)
  set n := Nat.find hexists
  obtain ⟨g, hg⟩ := Option.isSome_iff_exists.mp hsome
  have hlong := (parseRtuFrame_eq_ok.mp (accept_eq_some.mp hg)).1
  rw [List.length_take] at hlong
  refine ⟨n, g, accept_eq_some.mp hg, hn, ⟨fun heq m hm => hmin m (heq ▸ hm), fun h => ?_⟩, ?_⟩
  · refine le_antisymm hn (Nat.le_of_not_lt fun hlt => ?_)
    have hnone : accept (frame.take n) = none := h n hlt
    rw [hnone] at hg
    cases hg
  · have htake : ∀ m ≤ n, (frame ++ rest).take m = frame.take m := fun m hm =>
      List.take_append_of_le_length (hm.trans hn)
    have hnext : Next accept 4 (frame ++ rest) 0 ⟨0, n, g⟩ := by
      refine FrameScan.next_of_take (by omega) (by rw [List.length_append]; omega) ?_ ?_
      · rw [htake n (le_refl _), hg]
      · intro m hm
        rw [htake m hm.le, hmin m hm]
    have hdrop : (pre ++ (frame ++ rest)).drop pre.length = frame ++ rest := List.drop_left
    exact (FrameScan.next_drop (by decide)).mp (hdrop.symm ▸ hnext)

theorem drains_of_next {w : Window RtuFrame} (hnext : Next accept 4 stream p w)
    (h : Drains accept 4 stream p ws) : ∃ later, ws = w :: later ∧
      Drains accept 4 stream w.stop later := by
  cases h with
  | done hnone => exact absurd hnext.start (hnone w hnext.accepted)
  | next hv hlater =>
    obtain rfl := hv.eq hnext
    exact ⟨_, rfl, hlater⟩

/-- From a position on, the rest of the stream completes no more than its own bytes. -/
theorem drained_pairs_bytes (h : Drains accept 4 stream p ws) (hp : p ≤ stream.length)
    (pending : Pending) :
    ((recordFrames pending (ws.map Window.frame)).1.map Pair.bytes).sum ≤
      pendingBytes pending + (stream.length - p) :=
  (recordFrames_bytes pending _).trans (Nat.add_le_add_left (drained_bytes h hp) _)

theorem pair_bytes (t : Transaction) : t.pair.bytes = t.request.length + t.response.length := by
  rw [Pair.bytes, Transaction.pair, length_withResponseValue, t.length_request, t.length_response]
  rfl

theorem encode_bytes (ts : List Transaction) :
    ((ts.map Transaction.pair).map Pair.bytes).sum = (encode ts).length := by
  induction ts with
  | nil => rfl
  | cons t ts ih =>
    rw [List.map_cons, List.map_cons, List.sum_cons, ih, pair_bytes, encode_cons,
      List.length_append, List.length_append, Nat.add_assoc]

-- ---------------------------------------------------------------------------
-- Draining encoded transactions
-- ---------------------------------------------------------------------------

variable {t : Transaction} {ts : List Transaction} {g : RtuFrame}

/-- Frames that complete too few bytes are not the transactions' frames. -/
theorem pairs_ne_of_bytes {pairs : List Pair} (h : (pairs.map Pair.bytes).sum < (encode ts).length) :
    pairs ≠ ts.map Transaction.pair := by
  rintro rfl
  rw [encode_bytes] at h
  exact lt_irrefl _ h

theorem recordFrame_request (t : Transaction) :
    recordFrame ∅ t.pair.request = ([], OrderedDict.set ∅ t.pair.request.key t.pair.request) := by
  have hrequest : isReadRequest t.pair.request = true := by
    simp [isReadRequest, Transaction.pair, requestFields, isReadFunction_of_registers t.function_mem]
  rw [recordFrame, if_pos hrequest]

theorem recordFrame_response (t : Transaction) :
    recordFrame (OrderedDict.set ∅ t.pair.request.key t.pair.request)
      (registersFields t.slaveId t.function t.registers) = ([t.pair], ∅) := by
  have hkey : (registersFields t.slaveId t.function t.registers).key = t.pair.request.key := rfl
  have hread := isReadFunction_of_registers t.function_mem
  have hempty : (OrderedDict.set (∅ : Pending) t.pair.request.key t.pair.request).erase
      t.pair.request.key = ∅ := by
    apply OrderedDict.ext
    simp [OrderedDict.erase, OrderedDict.set, OrderedDict.assign]
  rw [recordFrame, if_neg (by simp [isReadRequest, registersFields]),
    if_pos (by simp [isReadResponse, registersFields, hread]), hkey, OrderedDict.get?_set_self]
  simp only [hempty]
  rfl

/-- The beginning of a request, taken as a frame, completes nothing. -/
theorem recordFrame_short_request {n : Nat} (hn : n < t.request.length)
    (hparse : parseRtuFrame (t.request.take n) = .ok g) : recordFrame ∅ g = ([], ∅) := by
  obtain ⟨-, -, hshape⟩ := parseRtuFrame_eq_ok.mp hparse
  have hrequest : ¬ isReadRequest g = true := by
    rw [hshape.isReadRequest_iff, List.length_take]
    have := t.length_request
    omega
  rw [recordFrame, if_neg hrequest]
  split
  · rfl
  · rfl

/-- The beginning of a response, taken as a frame, leaves the request alone or replaces
it, so that one frame at most is pending and nothing is completed. -/
theorem recordFrame_short_response {n : Nat} (hn : n < t.response.length)
    (hparse : parseRtuFrame (t.response.take n) = .ok g) :
    (recordFrame (OrderedDict.set ∅ t.pair.request.key t.pair.request) g).1 = [] ∧
      pendingBytes (recordFrame (OrderedDict.set ∅ t.pair.request.key t.pair.request) g).2 = 8 := by
  obtain ⟨hlong, -, hshape⟩ := parseRtuFrame_eq_ok.mp hparse
  have hlen : (t.response.take n).length = n := by
    rw [List.length_take]
    omega
  rw [hlen] at hlong
  have hbyte : ∀ i < n, byteAt (t.response.take n) i = byteAt t.response i := fun i hi => by
    rw [byteAt, byteAt, List.getD_eq_getElem?_getD, List.getD_eq_getElem?_getD,
      List.getElem?_take_of_lt hi]
  have hcount : (byteAt (t.response.take n) 2).toNat = 2 * t.registers.length := by
    rw [hbyte 2 (by omega)]
    have := length_flatMap_u16Bytes t.registers
    have := t.registers_max
    refine (toNat_byteCount ?_).trans ?_
    · omega
    · omega
  have hkey : g.key = t.pair.request.key := by
    obtain ⟨hslave, hfunction, -⟩ := hshape.common
    rw [RtuFrame.key, hslave, hfunction, hbyte 0 (by omega), hbyte 1 (by omega)]
    rfl
  have hresponse : ¬ isReadResponse g = true := by
    rw [hshape.isReadResponse_iff, hlen, hcount]
    have := t.length_response
    omega
  rw [recordFrame]
  split
  · rename_i hrequest
    have hg : g.length = 8 :=
      hshape.common.2.2.trans (hshape.isReadRequest_iff.mp hrequest).2
    refine ⟨rfl, ?_⟩
    rw [hkey, pendingBytes]
    simp [OrderedDict.set, OrderedDict.assign, entryBytes, hg]
  · refine ⟨rfl, ?_⟩
    rw [pendingBytes]
    rfl

theorem drained_iff (pre : List UInt8) (hws : Drains accept 4 (pre ++ encode ts) pre.length ws) :
    (recordFrames ∅ (ws.map Window.frame)).1 = ts.map Transaction.pair ↔
      ∀ t ∈ ts, Unambiguous t.request ∧ Unambiguous t.response := by
  induction ts generalizing pre ws with
  | nil =>
    cases hws with
    | done => simp [recordFrames]
    | next hw _ =>
      have hstart := hw.start
      have hspan := hw.accepted.least
      have hbound := hw.accepted.bound
      simp only [encode, List.flatMap_nil, List.append_nil] at hbound
      omega
  | cons t ts ih =>
    have htotal : (encode (t :: ts)).length =
        t.request.length + (t.response.length + (encode ts).length) := by
      rw [encode_cons, List.length_append, List.length_append]
    have hstream : (pre ++ encode (t :: ts)).length = pre.length + (encode (t :: ts)).length :=
      List.length_append
    obtain ⟨n, g, hg, hn, hwhole, hnext⟩ :=
      exists_next_of_parse t.parse_request pre (t.response ++ encode ts)
    rw [← encode_cons] at hnext
    obtain ⟨later, rfl, hlater⟩ := drains_of_next hnext hws
    simp only [List.map_cons, recordFrames]
    by_cases hrequest : Unambiguous t.request
    swap
    · -- the request is cut short
      have hshort : n < t.request.length := lt_of_le_of_ne hn fun h => hrequest (hwhole.mp h)
      have hbytes := drained_pairs_bytes hlater hnext.accepted.bound ∅
      rw [recordFrame_short_request hshort hg, List.nil_append]
      have hne : (recordFrames ∅ (later.map Window.frame)).1 ≠
          (t :: ts).map Transaction.pair := by
        refine pairs_ne_of_bytes (hbytes.trans_lt ?_)
        have hspan := hnext.accepted.least
        have hzero : pendingBytes ∅ = 0 := rfl
        simp only at hspan ⊢
        omega
      exact iff_of_false hne fun h => hrequest (h t (by simp)).1
    obtain rfl := hwhole.mpr hrequest
    rw [List.take_length, t.parse_request] at hg
    obtain rfl := Except.ok.inj hg
    obtain ⟨m, f, hf, hm, hwhole', hnext'⟩ :=
      exists_next_of_parse t.parse_response (pre ++ t.request) (encode ts)
    rw [List.append_assoc, ← encode_cons, List.length_append] at hnext'
    obtain ⟨last, rfl, hlast⟩ := drains_of_next hnext' hlater
    simp only [List.map_cons, recordFrames, recordFrame_request, List.nil_append]
    by_cases hresponse : Unambiguous t.response
    swap
    · -- the response is cut short
      have hshort : m < t.response.length := lt_of_le_of_ne hm fun h => hresponse (hwhole'.mp h)
      obtain ⟨hnone, height⟩ := recordFrame_short_response hshort hf
      have hbytes := drained_pairs_bytes hlast hnext'.accepted.bound
        (recordFrame (OrderedDict.set ∅ t.pair.request.key t.pair.request) f).2
      rw [hnone, List.nil_append]
      have hne : (recordFrames
          (recordFrame (OrderedDict.set ∅ t.pair.request.key t.pair.request) f).2
            (last.map Window.frame)).1 ≠ (t :: ts).map Transaction.pair := by
        refine pairs_ne_of_bytes (hbytes.trans_lt ?_)
        have hspan := hnext'.accepted.least
        have := t.length_request
        simp only at hspan ⊢
        omega
      exact iff_of_false hne fun h => hresponse (h t (by simp)).2
    obtain rfl := hwhole'.mpr hresponse
    rw [List.take_length, t.parse_response] at hf
    obtain rfl := Except.ok.inj hf
    have hrest : Drains accept 4 ((pre ++ t.request ++ t.response) ++ encode ts)
        (pre ++ t.request ++ t.response).length last := by
      rw [encode_cons] at hlast
      simpa [List.append_assoc, Nat.add_assoc] using hlast
    rw [recordFrame_response, List.cons_append, List.nil_append, List.cons.injEq, ih _ hrest]
    simp [hrequest, hresponse]

/-- Draining the bytes of transactions gives them back exactly when none of their frames
begins with a shorter frame. -/
theorem drain_encode_iff (ts : List Transaction) :
    (drainRequestResponsePairs { buffer := encode ts }).1 = ts.map Transaction.pair ↔
      ∀ t ∈ ts, Unambiguous t.request ∧ Unambiguous t.response := by
  obtain ⟨ws, hws, hdrain⟩ := drain_law (follows_extend_start (encode ts))
  have hstart : ({ buffer := encode ts } : Receiver) = Receiver.extend {} (encode ts) := rfl
  rw [hstart, hdrain]
  exact drained_iff [] hws

/-- Input register 131 of slave 3: the address is the checksum of the bytes before it. -/
def ambiguousTransaction : Transaction where
  slaveId := 3
  function := 4
  startAddress := 131
  registers := [7]
  function_mem := by decide
  registers_pos := by decide
  registers_max := (by decide : 1 ≤ 125)

theorem ambiguousTransaction_lost :
    ¬ ∀ ts, (drainRequestResponsePairs { buffer := encode ts }).1 = ts.map Transaction.pair := by
  intro h
  have hlost : (drainRequestResponsePairs { buffer := encode [ambiguousTransaction] }).1 = [] := by
    decide +kernel
  rw [h] at hlost
  cases hlost

end RtuMonitor

end IndustrialGateway
