import IndustrialGateway.ConfigService
import IndustrialGateway.Lib.Scanner
import IndustrialGateway.Lib.WholeFloat
import IndustrialGateway.RtuCapture

/-!
# The probe of a serial line

`probe_responses` listens to a line and reports the newest read response of every slave
it heard. It scans the line for responses alone, so requests and writes are noise to it.
What it reports are frames of the line that lie apart, and unless one of them has another
one within it they do not depend on how the reads cut the line.
-/

namespace IndustrialGateway

namespace RtuMonitor

open ConfigService FrameScan

variable {F : Type}

-- ---------------------------------------------------------------------------
-- The loop
-- ---------------------------------------------------------------------------

abbrev Responses : Type := OrderedDict UInt8 RtuFrame

/-- The loop of `_drain_response_frames`, which gives the responses by slave and the last
error. -/
def drainResponseLoop : Nat → Responses → String → Scanner UInt8 RtuFrame →
    (Responses × String) × Scanner UInt8 RtuFrame
  | 0, responses, lastError, s => ((responses, lastError), s)
  | fuel + 1, responses, lastError, s =>
    if s.buffer = [] then ((responses, lastError), s)
    else match firstResponseFrameSpan s.buffer with
      | (none, error) => ((responses, if error = "" then lastError else error), s.trim 512)
      | (some w, error) =>
        drainResponseLoop fuel (responses.set w.frame.slaveId (withResponseValue w.frame))
          (if error = "" then lastError else error) (s.take w)

def drainResponseFrames (s : Scanner UInt8 RtuFrame) :
    (Responses × String) × Scanner UInt8 RtuFrame :=
  drainResponseLoop s.buffer.length ∅ "" s

/-- The variables of `probe_responses`. -/
structure Probe where
  scanner : Scanner UInt8 RtuFrame := {}
  responsesBySlave : Responses := ∅
  lastError : String := ""

def Probe.drain (p : Probe) : Probe :=
  let ((found, error), scanner) := drainResponseFrames p.scanner
  { scanner
    responsesBySlave := p.responsesBySlave.update found.entries
    lastError := if error = "" then p.lastError else error }

/-- One read; the chunk is empty when it timed out. -/
def Probe.read (p : Probe) (chunk : List UInt8) : Probe :=
  if chunk = [] then
    if p.scanner.buffer = [] then p else p.drain
  else { p with scanner := p.scanner.extend chunk }.drain

def probeReads (chunks : List (List UInt8)) : Probe := chunks.foldl Probe.read {}

/-- Without a time to wait the first empty chunk ends the loop. -/
def readsMade (stopsEmpty : Bool) (chunks : List (List UInt8)) : List (List UInt8) :=
  if stopsEmpty then chunks.takeWhile (· ≠ []) ++ (chunks.dropWhile (· ≠ [])).take 1 else chunks

-- ---------------------------------------------------------------------------
-- The result
-- ---------------------------------------------------------------------------

section Result

variable [PyRuntime F]

/-- The dictionary that `parse_rtu_frame` returns, with the value of a response. -/
def frameToDict (frame : RtuFrame) : Settings F :=
  .ofList ([("status", .str frame.status), ("slave_id", .int frame.slaveId.toNat),
    ("function", .int frame.function.toNat), ("function_name", .str frame.functionName),
    ("raw_hex", .str frame.rawHex), ("length", .int frame.length), ("crc", .str frame.crc)] ++
    (frame.exceptionCode.map fun code => ("exception_code", PyValue.int code.toNat)).toList ++
    (frame.startAddress.map fun address => ("start_address", PyValue.int address.toNat)).toList ++
    (frame.quantity.map fun quantity => ("quantity", PyValue.int quantity.toNat)).toList ++
    (frame.byteCount.map fun count => ("byte_count", PyValue.int count.toNat)).toList ++
    (frame.registers.map fun registers =>
      ("registers", PyValue.list (registers.map fun r => .int r.toNat))).toList ++
    (frame.dataHex.map fun dataHex => ("data_hex", PyValue.str dataHex)).toList ++
    (frame.value.map fun value => ("value", PyValue.int value.toNat)).toList)

def connectionMetadata (connection : Settings F) (capturedAt : String) :
    Except PyException (Settings F) := do
  return .ofList [
    ("port", optional connection "port" (.str "COM1")),
    ("baudrate", .int (← (optional connection "baudrate" (.int 9600)).toInt)),
    ("parity", optional connection "parity" (.str "N")),
    ("stopbits", .int (← (optional connection "stopbits" (.int 1)).toInt)),
    ("bytesize", .int (← (optional connection "bytesize" (.int 8)).toInt)),
    ("captured_at", .str capturedAt)]

/-- The lines of the keys that a dictionary has. -/
def linesOf (dict : Settings F) (keys : List String) : List String :=
  keys.filterMap fun key => (dict.get? key).map fun value => key ++ ": " ++ value.text

def responseLines (response : Settings F) : List String :=
  ["", "[slave " ++ (optional response "slave_id").text ++ "]",
    "function: " ++ (optional response "function").text ++ " " ++
      (optional response "function_name").text] ++
    linesOf response ["byte_count", "value", "raw_hex", "registers", "data_hex", "crc"]

/-- `format_responses_probe_result`; `responses` is the list under that key. -/
def formatResponsesProbeResult (result : Settings F) (responses : List (Settings F)) : String :=
  String.intercalate "\n" (
    ["status: " ++ (optional result "status" (.str "")).text,
      "captured_responses: " ++ (optional result "captured_responses" (.int 0)).text,
      "valid_slave_ids: " ++ (optional result "valid_slave_ids" (.list [])).text] ++
    linesOf result ["port", "baudrate", "parity", "stopbits", "bytesize", "captured_at"] ++
    responses.flatMap responseLines)

def responsesProbeResult (connection : Settings F) (capturedAt : String)
    (responses : List RtuFrame) : Except PyException (Settings F) := do
  let dicts := responses.map frameToDict
  let result : Settings F := (OrderedDict.ofList [("status", .str "ok")]).update
    ((← connectionMetadata connection capturedAt).entries ++
      [("captured_responses", .int responses.length),
        ("valid_slave_ids", .list (responses.map fun frame => .int frame.slaveId.toNat)),
        ("responses", .list (dicts.map fun dict => .dict dict.entries))])
  return result.set "message" (.str (formatResponsesProbeResult result dicts))

/-- `formatG` writes a float in the format `g`. -/
def timeoutProbeResult (formatG : F → String) (connection : Settings F) (capturedAt : String)
    (bytesSeen : Nat) (lastRaw : List UInt8) (lastError : String) :
    Except PyException (Settings F) := do
  let waitS ← (optional connection "capture_wait_s" (.int 5)).toFloat
  let result : Settings F := .ofList ([("status", .str "timeout"),
    ("port", optional connection "port" (.str "COM1")), ("capture_wait_s", .float waitS),
    ("bytes_seen", .int bytesSeen), ("captured_at", .str capturedAt)] ++
    (if lastRaw = [] then [] else [("last_raw_hex", .str (hex lastRaw))]) ++
    (if lastError = "" then [] else [("last_error", .str lastError)]))
  return result.set "message" (.str (String.intercalate "\n" (
    ["status: timeout",
      "message: no valid Modbus RTU frame captured within " ++ formatG waitS ++ " sec",
      "bytes_seen: " ++ PyText.textOfInt bytesSeen] ++
    linesOf result ["last_raw_hex", "last_error"] ++
    ["hint: check baudrate/parity/RS485 A-B polarity/GND/common line activity"])))

/-- The numbers that `_open_serial` reads of the connection. -/
def checkSerial (connection : Settings F) : Except PyException Unit := do
  let _ ← (optional connection "baudrate" (.int 9600)).toInt
  let _ ← (optional connection "stopbits" (.int 1)).toInt
  let _ ← (optional connection "bytesize" (.int 8)).toInt
  let _ ← (connection.get? "timeout").mapM PyValue.toFloat

/-- What the serial line does during a probe: the port may fail to open, and the reads
return these chunks before the deadline. -/
structure Line where
  openFails : Option PyException := none
  chunks : List (List UInt8)

/-- `probe_responses`, but for exceptions of the reads. -/
def probeResponses (formatG : F → String) (connection : Settings F) (line : Line)
    (capturedAt : String) : Except PyException (Settings F) := do
  let waitS ← (optional connection "capture_wait_s" (.int 5)).toFloat
  checkSerial connection
  if let some exc := line.openFails then throw exc
  let probe := probeReads (readsMade (PyRuntime.le waitS (PyRuntime.lit 0)) line.chunks)
  if probe.responsesBySlave.isEmpty then
    timeoutProbeResult formatG connection capturedAt probe.scanner.buffer.length
      (probe.scanner.buffer.drop (probe.scanner.buffer.length - 80)) probe.lastError
  else
    responsesProbeResult connection capturedAt
      ((orderBy UInt8.toNat probe.responsesBySlave.keys).filterMap probe.responsesBySlave.get?)

end Result

-- ---------------------------------------------------------------------------
-- The scanner of a probe
-- ---------------------------------------------------------------------------

def acceptResponse (data : List UInt8) : Option RtuFrame := (accept data).filter isReadResponse

theorem acceptResponse_eq_some {data : List UInt8} {f : RtuFrame} :
    acceptResponse data = some f ↔ parseRtuFrame data = .ok f ∧ isReadResponse f = true := by
  rw [acceptResponse, Option.filter_eq_some_iff, accept_eq_some]

theorem firstResponseFrameSpan_eq (data : List UInt8) :
    (firstResponseFrameSpan data).1 = FrameScan.first acceptResponse 4 data :=
  firstSpan_eq isReadResponse data _ ""

/-- The assignments that the loop makes for some windows. -/
def recorded (ws : List (Window RtuFrame)) : List (UInt8 × RtuFrame) :=
  ws.map fun w => (w.frame.slaveId, withResponseValue w.frame)

theorem drainResponseLoop_law (fuel : Nat) (responses : Responses) (lastError : String)
    (s : Scanner UInt8 RtuFrame) :
    ∃ ws error, drainResponseLoop fuel responses lastError s =
        ((responses.update (recorded ws), error), Scanner.drainLoop acceptResponse 4 512 fuel s) ∧
      (Scanner.drainLoop acceptResponse 4 512 fuel s).taken.map Window.frame =
        s.taken.map Window.frame ++ ws.map Window.frame := by
  induction fuel generalizing responses lastError s with
  | zero => exact ⟨[], lastError, rfl, (List.append_nil _).symm⟩
  | succ fuel ih =>
    have hfirst := firstResponseFrameSpan_eq s.buffer
    rw [drainResponseLoop, Scanner.drainLoop_succ, ← hfirst]
    split
    · rename_i hbuffer
      have hnone : (firstResponseFrameSpan s.buffer).1 = none := by
        rw [hbuffer]
        rfl
      have hsame : s.trim 512 = s := by rw [Scanner.trim, hbuffer, if_neg (by decide)]
      simp only [hnone, hsame]
      exact ⟨[], lastError, rfl, (List.append_nil _).symm⟩
    · rcases hspan : firstResponseFrameSpan s.buffer with ⟨_ | w, error⟩
      · refine ⟨[], if error = "" then lastError else error, rfl, ?_⟩
        simp only [Scanner.taken_trim, List.map_nil, List.append_nil]
      · obtain ⟨ws, e, hloop, htaken⟩ :=
          ih (responses.set w.frame.slaveId (withResponseValue w.frame))
            (if error = "" then lastError else error) (s.take w)
        refine ⟨w :: ws, e, hloop, htaken.trans ?_⟩
        simp only [Scanner.take, Scanner.delete, List.map_append, List.map_cons, List.map_nil,
          Window.shift, List.append_assoc, List.singleton_append]

-- ---------------------------------------------------------------------------
-- The newest response of every slave
-- ---------------------------------------------------------------------------

def newestOf (frames : List RtuFrame) (slaveId : UInt8) : Option RtuFrame :=
  (frames.filter fun frame => frame.slaveId = slaveId).getLast?

/-- By slave. -/
def newestBySlave (frames : List RtuFrame) : List RtuFrame :=
  (orderBy UInt8.toNat (frames.map RtuFrame.slaveId).dedup).filterMap (newestOf frames)

theorem newestOf_append (frames more : List RtuFrame) (slaveId : UInt8) :
    newestOf (frames ++ more) slaveId = (newestOf more slaveId).or (newestOf frames slaveId) := by
  rw [newestOf, List.filter_append, List.getLast?_append]
  rfl

theorem newestOf_eq_none {frames : List RtuFrame} {slaveId : UInt8} :
    newestOf frames slaveId = none ↔ slaveId ∉ frames.map RtuFrame.slaveId := by
  rw [newestOf, List.getLast?_eq_none_iff, List.filter_eq_nil_iff]
  simp

/-- The dictionary holds the newest of the frames that were taken. -/
def HoldsNewest (frames : List RtuFrame) (responses : Responses) : Prop :=
  ∀ slaveId, responses.get? slaveId = (newestOf frames slaveId).map withResponseValue

theorem get?_recorded (ws : List (Window RtuFrame)) (slaveId : UInt8) :
    (OrderedDict.ofList (recorded ws)).get? slaveId =
      (newestOf (ws.map Window.frame) slaveId).map withResponseValue := by
  rw [OrderedDict.get?_ofList, recorded, List.filter_map, List.getLast?_map, newestOf,
    List.filter_map, List.getLast?_map, Option.map_map, Option.map_map]
  rfl

theorem HoldsNewest.update {frames : List RtuFrame} {responses : Responses}
    (h : HoldsNewest frames responses) (ws : List (Window RtuFrame)) :
    HoldsNewest (frames ++ ws.map Window.frame)
      (responses.update (OrderedDict.ofList (recorded ws)).entries) := by
  intro slaveId
  have hfound : OrderedDict.lookup slaveId (OrderedDict.ofList (recorded ws)).entries = _ :=
    get?_recorded ws slaveId
  rw [OrderedDict.get?_update_of_nodup _ (OrderedDict.ofList (recorded ws)).nodup, hfound, h slaveId,
    newestOf_append]
  cases newestOf (ws.map Window.frame) slaveId <;> rfl

theorem HoldsNewest.mem_keys {frames : List RtuFrame} {responses : Responses}
    (h : HoldsNewest frames responses) {slaveId : UInt8} :
    slaveId ∈ responses.keys ↔ slaveId ∈ frames.map RtuFrame.slaveId := by
  rw [← not_iff_not, ← OrderedDict.get?_eq_none, h slaveId, Option.map_eq_none_iff, newestOf_eq_none]

/-- In the order of the slaves the dictionary gives the newest frames. -/
theorem HoldsNewest.inOrder {frames : List RtuFrame} {responses : Responses}
    (h : HoldsNewest frames responses) :
    (orderBy UInt8.toNat responses.keys).filterMap responses.get? =
      (newestBySlave frames).map withResponseValue := by
  have hkeys : responses.keys.Perm (frames.map RtuFrame.slaveId).dedup :=
    (List.perm_ext_iff_of_nodup responses.nodup (List.nodup_dedup _)).mpr fun slaveId =>
      h.mem_keys.trans List.mem_dedup.symm
  have hsorted : orderBy UInt8.toNat responses.keys = _ :=
    orderBy_eq_of_perm (fun _ _ => UInt8.toNat_inj.mp) hkeys
  rw [newestBySlave, List.map_filterMap, hsorted]
  exact List.filterMap_congr fun slaveId _ => h slaveId

theorem HoldsNewest.isEmpty_iff {frames : List RtuFrame} {responses : Responses}
    (h : HoldsNewest frames responses) : responses.isEmpty = true ↔ frames = [] := by
  have hkeys : responses.isEmpty = true ↔ responses.keys = [] := by
    rw [OrderedDict.isEmpty, OrderedDict.keys, List.isEmpty_iff, List.map_eq_nil_iff]
  rw [hkeys, List.eq_nil_iff_forall_not_mem, ← List.map_eq_nil_iff (f := RtuFrame.slaveId),
    List.eq_nil_iff_forall_not_mem]
  exact forall_congr' fun slaveId => not_congr h.mem_keys

-- ---------------------------------------------------------------------------
-- Runs of a probe
-- ---------------------------------------------------------------------------

/-- What the probe has heard of every slave. -/
def Probe.Sound (p : Probe) : Prop := HoldsNewest (p.scanner.taken.map Window.frame) p.responsesBySlave

theorem Probe.Sound.drain {p : Probe} (h : p.Sound) :
    p.drain.scanner = p.scanner.drain acceptResponse 4 512 ∧ p.drain.Sound := by
  obtain ⟨ws, error, hloop, htaken⟩ :=
    drainResponseLoop_law p.scanner.buffer.length ∅ "" p.scanner
  have hdrain : p.drain = ⟨p.scanner.drain acceptResponse 4 512,
      p.responsesBySlave.update (OrderedDict.ofList (recorded ws)).entries,
      if error = "" then p.lastError else error⟩ := by
    rw [Probe.drain, drainResponseFrames, hloop]
    rfl
  rw [hdrain]
  refine ⟨rfl, ?_⟩
  simp only [Probe.Sound, Scanner.drain, htaken]
  exact HoldsNewest.update h ws

theorem Probe.Sound.read {p : Probe} (h : p.Sound) (chunk : List UInt8) :
    (p.read chunk).scanner = (p.scanner.extend chunk).drain acceptResponse 4 512 ∧
      (p.read chunk).Sound := by
  rw [Probe.read]
  split
  · rename_i hchunk
    have hextend : p.scanner.extend chunk = p.scanner := by
      rw [Scanner.extend, hchunk, List.append_nil]
    rw [hextend]
    split
    · rename_i hbuffer
      refine ⟨?_, h⟩
      rw [Scanner.drain, hbuffer]
      rfl
    · exact h.drain
  · exact Probe.Sound.drain (p := { p with scanner := p.scanner.extend chunk }) h

/-- A probe runs the scanner for responses. -/
theorem Probe.Sound.reads {p : Probe} (h : p.Sound) (chunks : List (List UInt8)) :
    (chunks.foldl Probe.read p).scanner = p.scanner.scan acceptResponse 4 512 chunks ∧
      (chunks.foldl Probe.read p).Sound := by
  induction chunks generalizing p with
  | nil => exact ⟨rfl, h⟩
  | cons chunk chunks ih =>
    obtain ⟨hscanner, hread⟩ := h.read chunk
    obtain ⟨hrun, hsound⟩ := ih hread
    rw [hscanner] at hrun
    exact ⟨hrun, hsound⟩

-- ---------------------------------------------------------------------------
-- A line without responses
-- ---------------------------------------------------------------------------

/-- The error of the last window that is no frame, `""` when there is none. -/
def lastSpanError (data : List UInt8) : String :=
  (((FrameScan.spans 4 data.length).filterMap fun s =>
    match parseRtuFrame (data.extract s.1 s.2) with
    | .error exc => some exc.message
    | .ok _ => none).getLast?).getD ""

/-- What is kept of a buffer and of the error when the buffer holds no response. -/
def afterNothing (error : String) (buffer : List UInt8) : List UInt8 × String :=
  (buffer.rtake 512, if lastSpanError buffer = "" then error else lastSpanError buffer)

/-- The bytes and the error that are kept while the reads bring no response. -/
def keptAfter : List (List UInt8) → List UInt8 × String → List UInt8 × String
  | [], kept => kept
  | chunk :: chunks, kept => keptAfter chunks (afterNothing kept.2 (kept.1 ++ chunk))

theorem firstSpan_error (wanted : RtuFrame → Bool) (data : List UInt8) (spans : List (Nat × Nat))
    (lastError : String) (h : (firstSpan wanted data spans lastError).1 = none) :
    (firstSpan wanted data spans lastError).2 = ((spans.filterMap fun s =>
      match parseRtuFrame (data.extract s.1 s.2) with
      | .error exc => some exc.message
      | .ok _ => none).getLast?).getD lastError := by
  induction spans generalizing lastError with
  | nil => rfl
  | cons span spans ih =>
    obtain ⟨start, stop⟩ := span
    rw [firstSpan] at h ⊢
    cases hparse : parseRtuFrame (data.extract start stop) with
    | error exc =>
      rw [hparse] at h
      simp only [List.filterMap_cons, hparse]
      rw [ih _ h, List.getLast?_cons, Option.getD_some]
    | ok frame =>
      rw [hparse] at h
      simp only [List.filterMap_cons, hparse]
      cases hwanted : wanted frame with
      | true => simp [hwanted] at h
      | false =>
        simp only [hwanted, Bool.false_eq_true, if_false] at h ⊢
        exact ih _ h

def Probe.kept (p : Probe) : List UInt8 × String := (p.scanner.buffer, p.lastError)

theorem Probe.kept_drain {p : Probe}
    (h : (p.scanner.drain acceptResponse 4 512).taken = p.scanner.taken) :
    p.drain.kept = afterNothing p.lastError p.scanner.buffer := by
  obtain ⟨-, hfirst⟩ := Scanner.drain_nothing h
  rw [Probe.drain, drainResponseFrames]
  cases hfuel : p.scanner.buffer.length with
  | zero =>
    rw [List.length_eq_zero_iff] at hfuel
    rw [drainResponseLoop, hfuel]
    exact Prod.ext (hfuel.trans (List.rtake_nil _).symm) rfl
  | succ fuel =>
    have hbuffer : p.scanner.buffer ≠ [] := by
      intro hnil
      rw [hnil] at hfuel
      cases hfuel
    have hnone := (firstResponseFrameSpan_eq p.scanner.buffer).trans (hfirst hbuffer)
    have hspan : firstResponseFrameSpan p.scanner.buffer = (none, lastSpanError p.scanner.buffer) :=
      Prod.ext hnone (firstSpan_error isReadResponse _ _ _ hnone)
    rw [drainResponseLoop, if_neg hbuffer, hspan]
    have hkept : (if lastSpanError p.scanner.buffer = "" then "" else
        lastSpanError p.scanner.buffer) = lastSpanError p.scanner.buffer := by
      split
      · rename_i hempty
        exact hempty.symm
      · rfl
    simp only [hkept, Probe.kept, afterNothing, Scanner.buffer_trim]

theorem Probe.kept_read {p : Probe} {chunk : List UInt8}
    (h : ((p.scanner.extend chunk).drain acceptResponse 4 512).taken = p.scanner.taken) :
    (p.read chunk).kept = afterNothing p.lastError (p.scanner.buffer ++ chunk) := by
  rw [Probe.read]
  split
  · rename_i hchunk
    have hextend : p.scanner.extend chunk = p.scanner := by
      rw [Scanner.extend, hchunk, List.append_nil]
    rw [hextend] at h
    rw [hchunk, List.append_nil]
    split
    · rename_i hbuffer
      rw [hbuffer]
      exact Prod.ext (hbuffer.trans (List.rtake_nil _).symm) rfl
    · exact kept_drain h
  · exact Probe.kept_drain (p := { p with scanner := p.scanner.extend chunk }) h

/-- While nothing is taken the last bytes of the line are kept, and the last error. -/
theorem Probe.Sound.kept_reads {p : Probe} (hsound : p.Sound) {chunks : List (List UInt8)}
    (h : (chunks.foldl Probe.read p).scanner.taken = p.scanner.taken) :
    (chunks.foldl Probe.read p).kept = keptAfter chunks p.kept := by
  induction chunks generalizing p with
  | nil => rw [List.foldl_nil, keptAfter]
  | cons chunk chunks ih =>
    obtain ⟨hscanner, hread⟩ := hsound.read chunk
    obtain ⟨ws, hws⟩ : ∃ ws, (p.read chunk).scanner.taken = p.scanner.taken ++ ws := by
      rw [hscanner]
      exact Scanner.taken_drain (p.scanner.extend chunk)
    obtain ⟨later, hlater⟩ : ∃ later,
        (chunks.foldl Probe.read (p.read chunk)).scanner.taken = (p.read chunk).scanner.taken ++ later := by
      rw [(hread.reads chunks).1]
      exact Scanner.taken_scan (p.read chunk).scanner chunks
    rw [List.foldl_cons, hlater, hws, List.append_assoc] at h
    obtain ⟨rfl, rfl⟩ := List.append_eq_nil_iff.mp (List.append_right_eq_self.mp h)
    rw [List.append_nil] at hws hlater
    rw [List.foldl_cons, keptAfter, ih hread hlater, kept_read (hscanner ▸ hws)]
    rfl

-- ---------------------------------------------------------------------------
-- What a probe reports
-- ---------------------------------------------------------------------------

/-- A window of the line with a read response whose checksum is right. -/
structure Heard (stream : List UInt8) (w : Window RtuFrame) : Prop where
  least : w.start + 4 ≤ w.stop
  bound : w.stop ≤ stream.length
  crc : expectedCrc (stream.extract w.start w.stop) = actualCrc (stream.extract w.start w.stop)
  parse : parseRtuFrame (stream.extract w.start w.stop) = .ok w.frame
  response : isReadResponse w.frame = true

theorem heard_of_accepted {stream : List UInt8} {w : Window RtuFrame}
    (h : Accepted acceptResponse 4 stream w) : Heard stream w := by
  obtain ⟨hparse, hresponse⟩ := acceptResponse_eq_some.mp h.frame
  exact ⟨h.least, h.bound, (parseRtuFrame_eq_ok.mp hparse).2.1, hparse, hresponse⟩

theorem Heard.accepted {stream : List UInt8} {w : Window RtuFrame} (h : Heard stream w) :
    Accepted accept 4 stream w := ⟨h.least, h.bound, accept_eq_some.mpr h.parse⟩

/-- The scan of a probe takes windows of the line that lie apart; all of them, where the
cut makes no difference. While it takes none, the last bytes of the line stay. -/
theorem taken_probeReads (chunks : List (List UInt8)) :
    let taken := (probeReads chunks).scanner.taken
    (∀ w ∈ taken, Heard chunks.flatten w) ∧ taken.Pairwise (fun v w => v.stop ≤ w.start) ∧
      (UndisturbedStream acceptResponse 4 chunks.flatten →
        FrameScan.Drains acceptResponse 4 chunks.flatten 0 taken) ∧
      (taken = [] → (probeReads chunks).scanner.buffer = chunks.flatten.rtake 512) := by
  intro taken
  obtain ⟨hscanner, -⟩ := Probe.Sound.reads (p := {}) (fun _ => rfl) chunks
  obtain ⟨q, hscan, hbuffer⟩ : ∃ q, Scans acceptResponse 4 512 [] 0 chunks
        (({} : Scanner UInt8 RtuFrame).scan acceptResponse 4 512 chunks).taken q ∧
      (({} : Scanner UInt8 RtuFrame).scan acceptResponse 4 512 chunks).buffer =
        chunks.flatten.drop q := Scanner.scan_law (by decide) chunks
  rw [← hscanner] at hscan hbuffer
  obtain ⟨haccepted, -, hpairwise⟩ := hscan.sound
  refine ⟨fun w hw => heard_of_accepted (haccepted w hw), hpairwise, fun hund => ?_, fun htaken => ?_⟩
  · obtain ⟨ws, hstream⟩ : ∃ ws, FrameScan.Drains acceptResponse 4 chunks.flatten 0 ws :=
      FrameScan.exists_drains acceptResponse (by decide) chunks.flatten
    have heq := hscan.eq_of_undisturbed 260 (by decide)
      (fun w hw => width_le (heard_of_accepted hw).accepted) (by decide) hstream (hund ws hstream)
    rw [show taken = ws from heq]
    exact hstream
  · have hnothing : Scans acceptResponse 4 512 [] 0 chunks [] q := htaken ▸ hscan
    have hposition := hnothing.position_of_nil (Nat.zero_le _)
    rw [List.nil_append, Nat.zero_max] at hposition
    rw [probeReads, hbuffer, hposition, List.rtake]

variable [PyRuntime F]

/-- A probe that returns reports the newest response of every slave that it took a
response of. When it took none it reports a timeout, with the last bytes of the line and
the last error. -/
theorem probe_sound {formatG : F → String} {connection : Settings F} {line : Line}
    {capturedAt : String} {result : Settings F}
    (h : probeResponses formatG connection line capturedAt = .ok result) :
    ∃ waitS taken, (optional connection "capture_wait_s" (.int 5)).toFloat = .ok waitS ∧
      let reads := readsMade (PyRuntime.le waitS (PyRuntime.lit 0)) line.chunks
      let stream := reads.flatten
      (∀ w ∈ taken, Heard stream w) ∧ taken.Pairwise (fun v w => v.stop ≤ w.start) ∧
      (UndisturbedStream acceptResponse 4 stream →
        FrameScan.Drains acceptResponse 4 stream 0 taken) ∧
      (taken ≠ [] → responsesProbeResult connection capturedAt
        ((newestBySlave (taken.map Window.frame)).map withResponseValue) = .ok result) ∧
      (taken = [] → timeoutProbeResult formatG connection capturedAt (min stream.length 512)
        (stream.rtake 80) (keptAfter reads ([], "")).2 = .ok result) := by
  simp only [probeResponses, bind_eq_ok] at h
  obtain ⟨waitS, hwait, _, -, h⟩ := h
  split at h
  · cases h
  · set reads := readsMade (PyRuntime.le waitS (PyRuntime.lit 0)) line.chunks with hreads
    obtain ⟨hheard, hpairwise, hundisturbed, hbuffer⟩ := taken_probeReads reads
    have hstart : Probe.Sound {} := fun _ => rfl
    have hsound : (probeReads reads).Sound := (hstart.reads reads).2
    have hempty : (probeReads reads).responsesBySlave.isEmpty = true ↔
        (probeReads reads).scanner.taken = [] :=
      (HoldsNewest.isEmpty_iff hsound).trans List.map_eq_nil_iff
    refine ⟨waitS, _, hwait, hheard, hpairwise, hundisturbed, fun htaken => ?_, fun htaken => ?_⟩
    · rw [if_neg (fun h => htaken (hempty.mp h)), HoldsNewest.inOrder hsound] at h
      exact h
    · have herror : (probeReads reads).lastError = (keptAfter reads ([], "")).2 :=
        congrArg Prod.snd (hstart.kept_reads htaken)
      have hlength : (reads.flatten.rtake 512).length = min reads.flatten.length 512 := by
        rw [List.rtake, List.length_drop]
        omega
      have hlast : (reads.flatten.rtake 512).drop ((reads.flatten.rtake 512).length - 80) =
          reads.flatten.rtake 80 := by
        have hdrop : reads.flatten.length - 512 + (min reads.flatten.length 512 - 80) =
            reads.flatten.length - 80 := by omega
        rw [hlength, List.rtake, List.rtake, List.drop_drop, hdrop]
      rw [if_pos (hempty.mpr htaken), hbuffer htaken, hlength, herror] at h
      rw [← hlast, hlength]
      exact h

/-- Two answers of slave 1 and one of slave 2, among a request and noise. -/
def busyLine : Line where
  chunks := [[0xFF] ++ requestFrame 1 3 0 1, responseFrame 1 3 [0, 7], responseFrame 2 3 [1, 0],
    responseFrame 1 3 [0, 8]]

theorem busyLine_heard : ∃ result : Settings WholeFloat,
    (optional result "valid_slave_ids").text = "[1, 2]" ∧
      ∃ taken : List (Window RtuFrame), (∀ w ∈ taken, Heard busyLine.chunks.flatten w) ∧
        (taken ≠ [] → responsesProbeResult ∅ "now"
          ((newestBySlave (taken.map Window.frame)).map withResponseValue) = .ok result) := by
  have hok : ((probeResponses (fun _ => "5") (∅ : Settings WholeFloat) busyLine "now").toOption.map
      fun result => (optional result "valid_slave_ids").text) = some "[1, 2]" := by decide +kernel
  cases hresult : probeResponses (fun _ => "5") (∅ : Settings WholeFloat) busyLine "now" with
  | error exc =>
    rw [hresult] at hok
    cases hok
  | ok result =>
    rw [hresult] at hok
    refine ⟨result, Option.some.inj hok, ?_⟩
    obtain ⟨waitS, taken, -, hheard, -, -, hresponses, -⟩ := probe_sound hresult
    have hreads : readsMade (PyRuntime.le waitS (PyRuntime.lit 0)) busyLine.chunks =
        busyLine.chunks := by
      cases PyRuntime.le waitS (PyRuntime.lit 0) <;> decide +kernel
    rw [hreads] at hheard
    exact ⟨taken, hheard, hresponses⟩

end RtuMonitor

end IndustrialGateway
