import IndustrialGateway.RtuFraming

/-!
# Capturing a stream

A capture takes the windows of a scanner that accepts what `parse_rtu_frame` accepts,
and its pairs are a function of the frames in them. So what is true of scanners holds
of captures: the windows lie in the stream, in order and apart, and they depend on how
the stream is cut only where one window lies within another.
-/

namespace IndustrialGateway

namespace RtuMonitor

open FrameScan (Window Scanner Accepted Next Drains Scans Undisturbed CutInto reached)
open FrameScan.Scanner (Follows follows_start follows_after)

-- ---------------------------------------------------------------------------
-- The span functions and the first window
-- ---------------------------------------------------------------------------

def accept (data : List UInt8) : Option RtuFrame := (parseRtuFrame data).toOption

variable {data received stream : List UInt8} {f : RtuFrame} {w : Window RtuFrame}
  {ws : List (Window RtuFrame)} {chunks : List (List UInt8)}

theorem accept_eq_some : accept data = some f ↔ parseRtuFrame data = .ok f := by
  rw [accept]
  cases parseRtuFrame data with
  | error exc => simp [Except.toOption]
  | ok frame => simp [Except.toOption]

theorem firstSpan_eq (wanted : RtuFrame → Bool) (data : List UInt8) (spans : List (Nat × Nat))
    (lastError : String) :
    (firstSpan wanted data spans lastError).1 = spans.findSome? fun s =>
      ((accept (data.extract s.1 s.2)).filter wanted).map (Window.mk s.1 s.2) := by
  induction spans generalizing lastError with
  | nil => rfl
  | cons span spans ih =>
    obtain ⟨start, stop⟩ := span
    rw [firstSpan, List.findSome?_cons, accept]
    cases parseRtuFrame (data.extract start stop) with
    | error exc => exact ih exc.message
    | ok frame =>
      simp only [Except.toOption, Option.filter_some]
      cases wanted frame with
      | true => rfl
      | false => exact ih lastError

theorem firstValidFrameSpan_eq (data : List UInt8) :
    (firstValidFrameSpan data).1 = FrameScan.first accept 4 data := by
  rw [firstValidFrameSpan, firstSpan_eq, FrameScan.first]
  congr 1
  funext s
  cases accept (data.extract s.1 s.2) <;> rfl

theorem width_le (hw : Accepted accept 4 data w) : w.stop ≤ w.start + 260 := by
  obtain ⟨-, -, hshape⟩ := parseRtuFrame_eq_ok.mp (accept_eq_some.mp hw.frame)
  have hlen := hshape.length_le
  have := hw.bound
  rw [List.extract_eq_take_drop, List.length_take, List.length_drop] at hlen
  omega

-- ---------------------------------------------------------------------------
-- The loops and the scanner
-- ---------------------------------------------------------------------------

/-- The pairs that a list of frames completes, and the requests that stay pending. -/
def recordFrames : Pending → List RtuFrame → List Pair × Pending
  | pending, [] => ([], pending)
  | pending, frame :: frames =>
    ((recordFrame pending frame).1 ++ (recordFrames (recordFrame pending frame).2 frames).1,
      (recordFrames (recordFrame pending frame).2 frames).2)

theorem recordFrames_append (pending : Pending) (frames more : List RtuFrame) :
    recordFrames pending (frames ++ more) =
      ((recordFrames pending frames).1 ++ (recordFrames (recordFrames pending frames).2 more).1,
        (recordFrames (recordFrames pending frames).2 more).2) := by
  induction frames generalizing pending with
  | nil => rfl
  | cons frame frames ih => simp only [List.cons_append, recordFrames, ih, List.append_assoc]

variable {s : Receiver}

/-- The receiver that has taken the windows and deleted the bytes before a position. -/
def Receiver.after (s : Receiver) (received : List UInt8) (ws : List (Window RtuFrame))
    (deleted : Nat) : Receiver where
  toScanner := s.toScanner.after received ws deleted
  pending := (recordFrames s.pending (ws.map Window.frame)).2

/-- `del buffer[:-512]` when the buffer is longer. -/
def Receiver.trim (s : Receiver) : Receiver :=
  if 512 < s.buffer.length then s.delete (s.buffer.length - 512) else s

/-- The loop with another way to trim the buffer. -/
def drainLoopWith (trim : Receiver → Receiver) : Nat → List Pair → Receiver → List Pair × Receiver
  | 0, pairs, s => (pairs, s)
  | fuel + 1, pairs, s =>
    if s.buffer = [] then (pairs, s)
    else match (firstValidFrameSpan s.buffer).1 with
      | none => (pairs, trim s)
      | some w => drainLoopWith trim fuel (pairs ++ (recordFrame s.pending w.frame).1) (s.take w)

theorem drainLoop_eq (fuel : Nat) (pairs : List Pair) (s : Receiver) :
    drainLoop fuel pairs s = drainLoopWith Receiver.trim fuel pairs s := by
  induction fuel generalizing pairs s with
  | zero => rfl
  | succ fuel ih =>
    rw [drainLoop, drainLoopWith]
    split
    · rfl
    · cases (firstValidFrameSpan s.buffer).1 with
      | none => rfl
      | some w => exact ih _ _

/-- A way to trim the buffer of a receiver that is one to trim its scanner. -/
structure Trims (trim : Receiver → Receiver) (cut : Scanner UInt8 RtuFrame → Scanner UInt8 RtuFrame) :
    Prop where
  eq : ∀ s, trim s = { s with toScanner := cut s.toScanner }
  empty : ∀ s, s.buffer = [] → cut s = s
  taken : ∀ s, (cut s).taken = s.taken

theorem trims_id : Trims id id := ⟨fun _ => rfl, fun _ _ => rfl, fun _ => rfl⟩

theorem trims_trim : Trims Receiver.trim (Scanner.trim 512) where
  eq s := by
    rw [Receiver.trim, Scanner.trim]
    split <;> rfl
  empty s hs := by rw [Scanner.trim, hs, if_neg (by decide)]
  taken := Scanner.taken_trim 512

variable {trim : Receiver → Receiver} {cut : Scanner UInt8 RtuFrame → Scanner UInt8 RtuFrame}

/-- The loop runs its scanner, and records the frames that this takes. -/
theorem Trims.drainLoopWith (htrim : Trims trim cut) (fuel : Nat) (pairs : List Pair) (s : Receiver) :
    ∃ ws, (Scanner.drainLoopWith accept 4 cut fuel s.toScanner).taken = s.taken ++ ws ∧
      RtuMonitor.drainLoopWith trim fuel pairs s =
        (pairs ++ (recordFrames s.pending (ws.map Window.frame)).1,
          ⟨Scanner.drainLoopWith accept 4 cut fuel s.toScanner,
            (recordFrames s.pending (ws.map Window.frame)).2⟩) := by
  induction fuel generalizing pairs s with
  | zero =>
    refine ⟨[], (List.append_nil _).symm, ?_⟩
    rw [List.map_nil, recordFrames, List.append_nil]
    rfl
  | succ fuel ih =>
    rw [RtuMonitor.drainLoopWith, Scanner.drainLoopWith, firstValidFrameSpan_eq]
    cases hfirst : FrameScan.first accept 4 s.buffer with
    | none =>
      have hend : (if s.buffer = [] then (pairs, s) else (pairs, trim s)) = (pairs, trim s) := by
        split
        · rename_i hbuffer
          rw [htrim.eq, htrim.empty s.toScanner hbuffer]
        · rfl
      refine ⟨[], by rw [List.append_nil]; exact htrim.taken s.toScanner, hend.trans ?_⟩
      rw [List.map_nil, recordFrames, List.append_nil, htrim.eq]
    | some w =>
      have hbuffer : s.buffer ≠ [] := by
        intro hbuffer
        rw [hbuffer] at hfirst
        cases hfirst
      obtain ⟨ws, htaken, hloop⟩ := ih (pairs ++ (recordFrame s.pending w.frame).1) (s.take w)
      refine ⟨w.shift s.deleted :: ws, htaken.trans ?_, (if_neg hbuffer).trans (hloop.trans ?_)⟩
      · exact List.append_assoc s.taken [w.shift s.deleted] ws
      · rw [List.map_cons, recordFrames, ← List.append_assoc]
        rfl

/-- The loop takes all windows of the buffer and then trims the rest. -/
theorem drainLoopWith_law (htrim : Trims trim cut) {fuel : Nat} (hfuel : s.buffer.length ≤ fuel)
    (h : Follows received s.toScanner) (pairs : List Pair) :
    ∃ ws, Drains accept 4 received s.deleted ws ∧
      drainLoopWith trim fuel pairs s = (pairs ++ (recordFrames s.pending (ws.map Window.frame)).1,
        trim (s.after received ws (reached s.deleted ws))) := by
  obtain ⟨vs, htaken, hloop⟩ := htrim.drainLoopWith fuel pairs s
  obtain ⟨ws, hws, hscanner⟩ : ∃ ws, Drains accept 4 received s.deleted ws ∧
      Scanner.drainLoopWith accept 4 cut fuel s.toScanner = _ :=
    h.drainLoopWith (by decide) htrim.empty hfuel
  rw [hscanner] at htaken hloop
  obtain rfl : ws = vs := List.append_cancel_left ((htrim.taken _).symm.trans htaken)
  refine ⟨ws, hws, hloop.trans ?_⟩
  rw [htrim.eq]
  rfl

/-- One call takes all windows of what was received and not deleted. -/
theorem drain_law (h : Follows received s.toScanner) :
    ∃ ws, Drains accept 4 received s.deleted ws ∧
      drainRequestResponsePairs s = ((recordFrames s.pending (ws.map Window.frame)).1,
        s.after received ws (max (reached s.deleted ws) (received.length - 512))) := by
  obtain ⟨vs, htaken, hloop⟩ := trims_trim.drainLoopWith s.buffer.length [] s
  obtain ⟨ws, hws, hscanner⟩ : ∃ ws, Drains accept 4 received s.deleted ws ∧
      Scanner.drainLoop accept 4 512 s.buffer.length s.toScanner = _ :=
    h.drainLoop (by decide) (le_refl _)
  rw [Scanner.drainLoop] at hscanner
  rw [hscanner] at htaken hloop
  obtain rfl : ws = vs := List.append_cancel_left htaken
  exact ⟨ws, hws, (drainLoop_eq _ _ _).trans hloop⟩

theorem follows_extend_start (stream : List UInt8) :
    Follows stream (Receiver.extend {} stream).toScanner := follows_start.extend stream

/-- A capture scans the stream, and its pairs are those of the frames that it takes. -/
theorem captureLoop_law (h : Follows received s.toScanner) (pairs : List Pair)
    (chunks : List (List UInt8)) :
    ∃ ws q, Scans accept 4 512 received s.deleted chunks ws q ∧
      (captureLoop pairs s chunks).1 =
        pairs ++ (recordFrames s.pending (ws.map Window.frame)).1 ∧
      (captureLoop pairs s chunks).2.taken = s.taken ++ ws := by
  induction chunks generalizing received s pairs with
  | nil => exact ⟨[], _, .done, (List.append_nil pairs).symm, (List.append_nil s.taken).symm⟩
  | cons chunk chunks ih =>
    have hextend : Follows (received ++ chunk) (s.extend chunk).toScanner := h.extend chunk
    obtain ⟨ws, hws, hdrain⟩ := drain_law hextend
    have hreached := hws.reached_le hextend.deleted
    have hafter : Follows (received ++ chunk) ((s.extend chunk).after (received ++ chunk) ws
        (max (reached s.deleted ws) ((received ++ chunk).length - 512))).toScanner :=
      follows_after (Nat.max_le.mpr ⟨hreached, Nat.sub_le ..⟩)
    obtain ⟨later, q, hscan, hpairs, htaken⟩ :=
      ih hafter (pairs ++ (recordFrames s.pending (ws.map Window.frame)).1)
    refine ⟨ws ++ later, q, .chunk hws hscan, ?_, ?_⟩
    · simp only [captureLoop, hdrain, List.map_append, recordFrames_append, ← List.append_assoc]
      exact hpairs
    · simp only [captureLoop, hdrain, ← List.append_assoc]
      exact htaken

theorem capture_law (chunks : List (List UInt8)) :
    (∃ q, Scans accept 4 512 [] 0 chunks (captureRequestResponsePairs chunks).2.taken q) ∧
      (captureRequestResponsePairs chunks).1 =
        (recordFrames ∅ ((captureRequestResponsePairs chunks).2.taken.map Window.frame)).1 := by
  obtain ⟨ws, q, hscan, hpairs, htaken⟩ := captureLoop_law (s := {}) follows_start [] chunks
  obtain rfl : (captureRequestResponsePairs chunks).2.taken = ws := htaken
  exact ⟨⟨q, hscan⟩, hpairs⟩

-- ---------------------------------------------------------------------------
-- Which frames make a pair
-- ---------------------------------------------------------------------------

/-- The places of a pair among the frames: its request is the last one of its slave and
function before its response. -/
structure PairedAt (frames : List RtuFrame) (place : Nat × Nat) (pair : Pair) : Prop where
  before : place.1 < place.2
  request : frames[place.1]? = some pair.request
  isRequest : isReadRequest pair.request = true
  response : ∃ frame, frames[place.2]? = some frame ∧ isReadResponse frame = true ∧
    frame.key = pair.request.key ∧ pair.response = withResponseValue frame
  last : ∀ k frame, place.1 < k → k < place.2 → frames[k]? = some frame →
    isReadRequest frame = true → frame.key ≠ pair.request.key

/-- A request that no later one of its slave and function has replaced. -/
structure OpenAt (frames : List RtuFrame) (i : Nat) (request : RtuFrame) : Prop where
  found : frames[i]? = some request
  isRequest : isReadRequest request = true
  last : ∀ k frame, i < k → frames[k]? = some frame → isReadRequest frame = true →
    frame.key ≠ request.key

structure Pairing (frames : List RtuFrame) (places : List (Nat × Nat)) (pairs : List Pair)
    (pending : Pending) : Prop where
  pairs : List.Forall₂ (PairedAt frames) places pairs
  requests : (places.map Prod.fst).Nodup
  responses : (places.map Prod.snd).Nodup
  pending : ∀ key request, pending.get? key = some request →
    ∃ i, OpenAt frames i request ∧ request.key = key ∧ i ∉ places.map Prod.fst

variable {frames : List RtuFrame} {frame request : RtuFrame} {place : Nat × Nat} {pair : Pair}
  {places : List (Nat × Nat)} {pairs : List Pair} {pending : Pending} {i : Nat}

theorem PairedAt.lt_length (h : PairedAt frames place pair) : place.2 < frames.length := by
  obtain ⟨frame, hframe, -⟩ := h.response
  exact (List.getElem?_eq_some_iff.mp hframe).1

theorem PairedAt.append (h : PairedAt frames place pair) (frame : RtuFrame) :
    PairedAt (frames ++ [frame]) place pair := by
  have hlt := h.lt_length
  have hsame : ∀ k, k ≤ place.2 → (frames ++ [frame])[k]? = frames[k]? := fun k hk =>
    List.getElem?_append_left (hk.trans_lt hlt)
  refine ⟨h.before, (hsame _ h.before.le).trans h.request, h.isRequest, ?_, ?_⟩
  · rw [hsame _ (le_refl _)]
    exact h.response
  · intro k other hk hk' hother
    rw [hsame k hk'.le] at hother
    exact h.last k other hk hk' hother

theorem OpenAt.lt_length (h : OpenAt frames i request) : i < frames.length :=
  (List.getElem?_eq_some_iff.mp h.found).1

theorem OpenAt.append (h : OpenAt frames i request)
    (hframe : isReadRequest frame = true → frame.key ≠ request.key) :
    OpenAt (frames ++ [frame]) i request := by
  refine ⟨(List.getElem?_append_left h.lt_length).trans h.found, h.isRequest, ?_⟩
  intro k other hk hother
  rw [List.getElem?_append] at hother
  split at hother
  · exact h.last k other hk hother
  · obtain rfl : frame = other := List.mem_singleton.mp (List.mem_of_getElem? hother) |>.symm
    exact hframe

theorem OpenAt.new (frames : List RtuFrame) (h : isReadRequest frame = true) :
    OpenAt (frames ++ [frame]) frames.length frame := by
  refine ⟨List.getElem?_concat_length, h, fun k other hk hother => ?_⟩
  have := (List.getElem?_eq_some_iff.mp hother).1
  rw [List.length_append, List.length_singleton] at this
  omega

theorem Pairing.append (h : Pairing frames places pairs pending) (frame : RtuFrame) :
    List.Forall₂ (PairedAt (frames ++ [frame])) places pairs :=
  h.pairs.imp fun _ _ hpair => hpair.append frame

theorem Pairing.lt_length (h : Pairing frames places pairs pending) :
    ∀ place ∈ places, place.1 < frames.length ∧ place.2 < frames.length := by
  obtain ⟨hpairs, -, -, -⟩ := h
  induction hpairs with
  | nil => exact fun place hplace => (List.not_mem_nil hplace).elim
  | cons hpair _ ih =>
    refine List.forall_mem_cons.mpr ⟨?_, ih⟩
    exact ⟨hpair.before.trans hpair.lt_length, hpair.lt_length⟩

theorem Pairing.addRequest (h : Pairing frames places pairs pending)
    (hframe : isReadRequest frame = true) :
    Pairing (frames ++ [frame]) places pairs (pending.set frame.key frame) where
  pairs := h.append frame
  requests := h.requests
  responses := h.responses
  pending := by
    intro key request hget
    rw [OrderedDict.get?_set] at hget
    split at hget
    · rename_i hkey
      obtain rfl := Option.some.inj hget
      refine ⟨frames.length, .new frames hframe, hkey, fun hmem => ?_⟩
      obtain ⟨place, hplace, hlen⟩ := List.mem_map.mp hmem
      have := h.lt_length place hplace
      omega
    · rename_i hkey
      obtain ⟨i, hopen, hrequest, hfree⟩ := h.pending key request hget
      exact ⟨i, hopen.append fun _ => hrequest ▸ hkey, hrequest, hfree⟩

theorem Pairing.addResponse (h : Pairing frames places pairs pending)
    (hrequest : isReadRequest frame = false) (hframe : isReadResponse frame = true)
    (hget : pending.get? frame.key = some request) :
    ∃ place, Pairing (frames ++ [frame]) (places ++ [place])
      (pairs ++ [⟨request, withResponseValue frame⟩]) (pending.erase frame.key) := by
  obtain ⟨i, hopen, hkey, hfree⟩ := h.pending _ _ hget
  have hlt := hopen.lt_length
  have hnever : ∀ key, isReadRequest frame = true → frame.key ≠ key := by simp [hrequest]
  have hopen' := hopen.append (hnever _)
  refine ⟨(i, frames.length), ?_, ?_, ?_, ?_⟩
  · refine List.rel_append (h.append frame) (.cons ?_ .nil)
    exact ⟨hlt, hopen'.found, hopen.isRequest,
      ⟨frame, List.getElem?_concat_length, hframe, hkey.symm, rfl⟩,
      fun k other hk _ hother => hopen'.last k other hk hother⟩
  · rw [List.map_append, List.map_singleton, ← List.concat_eq_append]
    exact List.Nodup.concat hfree h.requests
  · rw [List.map_append, List.map_singleton, ← List.concat_eq_append]
    refine List.Nodup.concat (fun hmem => ?_) h.responses
    obtain ⟨place, hplace, hlen⟩ := List.mem_map.mp hmem
    have := h.lt_length place hplace
    omega
  · intro key other hother
    rw [OrderedDict.get?_erase] at hother
    split at hother
    · cases hother
    · rename_i hne
      obtain ⟨j, hopenj, hkeyj, hfreej⟩ := h.pending key other hother
      refine ⟨j, hopenj.append (hnever _), hkeyj, ?_⟩
      rw [List.map_append, List.map_singleton, List.mem_append, List.mem_singleton]
      rintro (hmem | rfl)
      · exact hfreej hmem
      · -- one place holds one request, and its key is not the response's
        have hsame := Option.some.inj (hopen.found.symm.trans hopenj.found)
        exact hne (by rw [← hkeyj, ← hsame, hkey])

theorem Pairing.addOther (h : Pairing frames places pairs pending)
    (hrequest : isReadRequest frame = false) : Pairing (frames ++ [frame]) places pairs pending where
  pairs := h.append frame
  requests := h.requests
  responses := h.responses
  pending := by
    intro key request hget
    obtain ⟨i, hopen, hkey, hfree⟩ := h.pending key request hget
    exact ⟨i, hopen.append (by simp [hrequest]), hkey, hfree⟩

theorem Pairing.step (h : Pairing frames places pairs pending) (frame : RtuFrame) :
    ∃ places', Pairing (frames ++ [frame]) places' (pairs ++ (recordFrame pending frame).1)
      (recordFrame pending frame).2 := by
  cases hrequest : isReadRequest frame with
  | true =>
    rw [recordFrame, if_pos hrequest, List.append_nil]
    exact ⟨places, h.addRequest hrequest⟩
  | false =>
    rw [recordFrame, if_neg (by simp [hrequest])]
    cases hresponse : isReadResponse frame with
    | true =>
      cases hget : pending.get? frame.key with
      | some request =>
        obtain ⟨place, hplace⟩ := h.addResponse hrequest hresponse hget
        exact ⟨_, hplace⟩
      | none => exact ⟨places, by simpa using h.addOther hrequest⟩
    | false => exact ⟨places, by simpa using h.addOther hrequest⟩

theorem pairing_recordFrames (frames : List RtuFrame) :
    ∃ places, Pairing frames places (recordFrames ∅ frames).1 (recordFrames ∅ frames).2 := by
  induction frames using List.reverseRecOn with
  | nil => exact ⟨[], .nil, List.nodup_nil, List.nodup_nil, fun key request h => by cases h⟩
  | append_singleton frames frame ih =>
    obtain ⟨places, hplaces⟩ := ih
    obtain ⟨places', hstep⟩ := hplaces.step frame
    refine ⟨places', ?_⟩
    simpa only [recordFrames_append, recordFrames, List.append_nil] using hstep

/-- Whatever the chunks, the frames are checked parts of the stream, in order and apart,
and every pair is a request with the next response of its slave and function, each used
once. -/
theorem capture_sound (chunks : List (List UInt8)) :
    (∀ w ∈ (captureRequestResponsePairs chunks).2.taken,
      w.start + 4 ≤ w.stop ∧ w.stop ≤ chunks.flatten.length ∧
        expectedCrc (chunks.flatten.extract w.start w.stop) =
          actualCrc (chunks.flatten.extract w.start w.stop) ∧
        parseRtuFrame (chunks.flatten.extract w.start w.stop) = .ok w.frame) ∧
      (captureRequestResponsePairs chunks).2.taken.Pairwise (fun v w => v.stop ≤ w.start) ∧
      ∃ places : List (Nat × Nat),
        List.Forall₂ (PairedAt ((captureRequestResponsePairs chunks).2.taken.map Window.frame))
          places (captureRequestResponsePairs chunks).1 ∧
        (places.map Prod.fst).Nodup ∧ (places.map Prod.snd).Nodup := by
  obtain ⟨⟨q, hscan⟩, hpairs⟩ := capture_law chunks
  obtain ⟨haccepted, -, hpairwise⟩ := hscan.sound
  obtain ⟨places, hplaces⟩ :=
    pairing_recordFrames ((captureRequestResponsePairs chunks).2.taken.map Window.frame)
  refine ⟨fun w hw => ?_, hpairwise, places, ?_, hplaces.requests, hplaces.responses⟩
  · have hw := haccepted w hw
    have hparse := accept_eq_some.mp hw.frame
    exact ⟨hw.least, hw.bound, (parseRtuFrame_eq_ok.mp hparse).2.1, hparse⟩
  · rw [hpairs]
    exact hplaces.pairs

-- ---------------------------------------------------------------------------
-- How the stream is cut
-- ---------------------------------------------------------------------------

/-- Reading the whole stream, no window that is taken has another one within it. -/
def StreamUndisturbed (stream : List UInt8) : Prop :=
  ∀ ws, Drains accept 4 stream 0 ws → ∀ w ∈ ws, Undisturbed accept 4 stream w

/-- The frames of one drain of the stream decide it. -/
theorem streamUndisturbed_iff : StreamUndisturbed stream ↔
    ∀ w ∈ (drainRequestResponsePairs { buffer := stream }).2.taken,
      ∀ s ∈ FrameScan.spans 4 stream.length, (accept (stream.extract s.1 s.2)).isSome = true →
        w.start < s.1 → w.stop ≤ s.2 := by
  obtain ⟨ws, hws, hdrain⟩ := drain_law (follows_extend_start stream)
  have hstart : ({ buffer := stream } : Receiver) = Receiver.extend {} stream := rfl
  have htaken : (drainRequestResponsePairs { buffer := stream }).2.taken = ws := by
    rw [hstart, hdrain]
    rfl
  rw [htaken]
  constructor
  · exact fun h w hw => (FrameScan.undisturbed_iff (by decide)).mp (h ws hws w hw)
  · intro h vs hvs w hw
    obtain rfl := hvs.eq hws
    exact (FrameScan.undisturbed_iff (by decide)).mpr (h w hw)

instance (stream : List UInt8) : Decidable (StreamUndisturbed stream) :=
  decidable_of_iff _ streamUndisturbed_iff.symm

theorem taken_eq_of_undisturbed (h : StreamUndisturbed stream) (hstream : Drains accept 4 stream 0 ws)
    (hchunks : chunks.flatten = stream) : (captureRequestResponsePairs chunks).2.taken = ws := by
  obtain ⟨⟨q, hscan⟩, -⟩ := capture_law chunks
  rw [← hchunks] at h hstream
  exact hscan.eq_of_undisturbed 260 (by decide) (fun w hw => width_le hw) (by decide)
    hstream (h ws hstream)

theorem taken_ne_of_disturbed (h : ¬ StreamUndisturbed stream) :
    ∃ chunks chunks', CutInto 256 stream chunks ∧ CutInto 256 stream chunks' ∧
      (captureRequestResponsePairs chunks).2.taken ≠
        (captureRequestResponsePairs chunks').2.taken := by
  simp only [StreamUndisturbed, not_forall] at h
  obtain ⟨ws, hstream, w, hw, hdis⟩ := h
  obtain ⟨chunks, chunks', hcut, hcut', hne⟩ :=
    FrameScan.exists_cuts_of_disturbed 512 260 256 (by decide)
      (fun w hw => width_le hw) (by decide) (by decide) (by decide) hstream ⟨w, hw, hdis⟩
  obtain ⟨⟨q, hscan⟩, -⟩ := capture_law chunks
  obtain ⟨⟨q', hscan'⟩, -⟩ := capture_law chunks'
  exact ⟨chunks, chunks', hcut, hcut', hne _ _ _ _ hscan hscan'⟩

/-- The frames taken from a stream do not depend on how it is cut exactly when no window
is disturbed, and then the pairs do not depend on it either. -/
theorem capture_cut_iff (stream : List UInt8) :
    ((∀ chunks chunks', CutInto 256 stream chunks → CutInto 256 stream chunks' →
        (captureRequestResponsePairs chunks).2.taken =
          (captureRequestResponsePairs chunks').2.taken) ↔ StreamUndisturbed stream) ∧
      (StreamUndisturbed stream → ∀ chunks chunks', CutInto 256 stream chunks →
        CutInto 256 stream chunks' →
        (captureRequestResponsePairs chunks).1 = (captureRequestResponsePairs chunks').1) := by
  have htaken : StreamUndisturbed stream → ∀ chunks chunks', CutInto 256 stream chunks →
      CutInto 256 stream chunks' → (captureRequestResponsePairs chunks).2.taken =
        (captureRequestResponsePairs chunks').2.taken := by
    intro h chunks chunks' hcut hcut'
    obtain ⟨ws, hstream⟩ : ∃ ws, Drains accept 4 stream 0 ws :=
      FrameScan.exists_drains accept (by decide) stream
    rw [taken_eq_of_undisturbed h hstream hcut.flatten,
      taken_eq_of_undisturbed h hstream hcut'.flatten]
  refine ⟨⟨fun hsame => ?_, htaken⟩, fun h chunks chunks' hcut hcut' => ?_⟩
  · by_contra hdis
    obtain ⟨chunks, chunks', hcut, hcut', hne⟩ := taken_ne_of_disturbed hdis
    exact hne (hsame chunks chunks' hcut hcut')
  · rw [(capture_law chunks).2, (capture_law chunks').2, htaken h chunks chunks' hcut hcut']

def plainStream : List UInt8 := requestFrame 1 3 4099 1 ++ responseFrame 1 3 [0x2A, 0xBF]

theorem capture_cut_iff_plainStream : (captureRequestResponsePairs [plainStream]).1 =
    (captureRequestResponsePairs [plainStream.take 11, plainStream.drop 11]).1 :=
  (capture_cut_iff plainStream).2 (by decide +kernel) _ _
    ⟨rfl, by decide +kernel, by decide +kernel⟩ ⟨rfl, by decide +kernel, by decide +kernel⟩

/-- A request and its response, whose data hold an exception frame of another slave. -/
def nestedStream : List UInt8 :=
  requestFrame 1 3 0 3 ++ responseFrame 1 3 (withCrc [2, 0x83, 2] ++ [0])

theorem nestedStream_depends_on_cut :
    ¬ ∀ stream chunks chunks', CutInto 256 stream chunks → CutInto 256 stream chunks' →
      (captureRequestResponsePairs chunks).1 = (captureRequestResponsePairs chunks').1 := by
  intro h
  have hwhole : CutInto 256 nestedStream [nestedStream] := ⟨rfl, by decide +kernel, by decide +kernel⟩
  have hcut : CutInto 256 nestedStream [nestedStream.take 16, nestedStream.drop 16] :=
    ⟨rfl, by decide +kernel, by decide +kernel⟩
  have hpairs : (captureRequestResponsePairs [nestedStream]).1.length = 1 := by decide +kernel
  have hnone : (captureRequestResponsePairs [nestedStream.take 16, nestedStream.drop 16]).1.length =
      0 := by decide +kernel
  rw [h nestedStream _ _ hwhole hcut, hnone] at hpairs
  cases hpairs

end RtuMonitor

end IndustrialGateway
