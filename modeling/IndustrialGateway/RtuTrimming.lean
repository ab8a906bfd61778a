import IndustrialGateway.RtuCapture

/-!
# The trimmed buffer

A call of the drain function that finds no frame keeps the last 512 bytes of the
buffer. No frame is longer than 260 bytes, so a receiver that never trims its buffer
finds the same pairs.
-/

namespace IndustrialGateway

namespace RtuMonitor

open FrameScan (Window Scanner Accepted Drains SameRest reached)
open FrameScan.Scanner (Follows follows_start follows_after)

-- ---------------------------------------------------------------------------
-- The loop as it runs
-- ---------------------------------------------------------------------------

/-- A run of the loop of `_drain_request_response_pairs` to one of its ends. -/
inductive DrainRun (trim : Receiver → Receiver) :
    List Pair → Receiver → List Pair × Receiver → Prop
  | empty {pairs : List Pair} {s : Receiver} : s.buffer = [] → DrainRun trim pairs s (pairs, s)
  | trimmed {pairs : List Pair} {s : Receiver} : s.buffer ≠ [] →
      (firstValidFrameSpan s.buffer).1 = none → DrainRun trim pairs s (pairs, trim s)
  | frame {pairs : List Pair} {s : Receiver} {w : Window RtuFrame} {out : List Pair × Receiver} :
      s.buffer ≠ [] → (firstValidFrameSpan s.buffer).1 = some w →
      DrainRun trim (pairs ++ (recordFrame s.pending w.frame).1) (s.take w) out →
      DrainRun trim pairs s out

/-- The variant that never trims the buffer. -/
def drainUntrimmed (s : Receiver) : List Pair × Receiver := drainLoopWith id s.buffer.length [] s

/-- The pairs that each call returns, when each chunk is appended before a call. -/
def drainChunks (drain : Receiver → List Pair × Receiver) :
    Receiver → List (List UInt8) → List (List Pair)
  | _, [] => []
  | s, chunk :: chunks =>
    (drain (s.extend chunk)).1 :: drainChunks drain (drain (s.extend chunk)).2 chunks

/-- What a capture collects. -/
theorem captureLoop_pairs (pairs : List Pair) (s : Receiver) (chunks : List (List UInt8)) :
    (captureLoop pairs s chunks).1 =
      pairs ++ (drainChunks drainRequestResponsePairs s chunks).flatten := by
  induction chunks generalizing pairs s with
  | nil => exact (List.append_nil pairs).symm
  | cons chunk chunks ih =>
    rw [captureLoop, ih, drainChunks, List.flatten_cons, List.append_assoc]

variable {received : List UInt8} {s t : Receiver}

/-- The buffer gets shorter with every frame, so the loop ends. -/
theorem drainLoopWith_run (trim : Receiver → Receiver) {fuel : Nat} (hfuel : s.buffer.length ≤ fuel)
    (pairs : List Pair) : DrainRun trim pairs s (drainLoopWith trim fuel pairs s) := by
  induction fuel generalizing s pairs with
  | zero => exact .empty (List.length_eq_zero_iff.mp (Nat.le_zero.mp hfuel))
  | succ fuel ih =>
    rw [drainLoopWith]
    split
    · rename_i hbuffer
      exact .empty hbuffer
    · rename_i hbuffer
      cases hfirst : (firstValidFrameSpan s.buffer).1 with
      | none => exact .trimmed hbuffer hfirst
      | some w =>
        refine .frame hbuffer hfirst (ih ?_ _)
        rw [firstValidFrameSpan_eq, FrameScan.first_eq_some (by decide)] at hfirst
        have hspan := hfirst.accepted.least
        simp only [Receiver.take, Scanner.take, Scanner.delete, List.length_drop]
        omega

theorem DrainRun.length_le {pairs : List Pair} {out : List Pair × Receiver}
    (h : DrainRun Receiver.trim pairs s out) : out.2.buffer.length ≤ 512 := by
  induction h with
  | empty hbuffer => simp [hbuffer]
  | trimmed _ _ =>
    dsimp only
    rw [Receiver.trim]
    split
    · simp only [Receiver.delete, Scanner.delete, List.length_drop]
      omega
    · omega
  | frame _ _ _ ih => exact ih

-- ---------------------------------------------------------------------------
-- Two receivers of one stream
-- ---------------------------------------------------------------------------

/-- The receivers have the same pending requests, and the same frames to come. -/
structure Alike (received : List UInt8) (s t : Receiver) : Prop where
  left : Follows received s.toScanner
  right : Follows received t.toScanner
  pending : s.pending = t.pending
  rest : SameRest accept 4 received s.deleted t.deleted

theorem Alike.extend (h : Alike received s t) (chunk : List UInt8) :
    Alike (received ++ chunk) (s.extend chunk) (t.extend chunk) :=
  ⟨h.left.extend chunk, h.right.extend chunk, h.pending, h.rest.append chunk⟩

/-- A call gives the same pairs on both sides, and what it trims is not missed. -/
theorem Alike.drain (h : Alike received s t) :
    (drainRequestResponsePairs s).1 = (drainUntrimmed t).1 ∧
      Alike received (drainRequestResponsePairs s).2 (drainUntrimmed t).2 := by
  obtain ⟨ws, hws, hs⟩ := drain_law h.left
  obtain ⟨vs, hvs, ht⟩ := drainLoopWith_law trims_id (le_refl _) h.right []
  obtain rfl := (h.rest.drains hws).eq hvs
  rw [drainUntrimmed, hs, ht, List.nil_append, h.pending]
  have hreached := hws.reached_le h.left.deleted
  have hreached' := hvs.reached_le h.right.deleted
  refine ⟨rfl, follows_after (Nat.max_le.mpr ⟨hreached, Nat.sub_le ..⟩), follows_after hreached',
    by rw [Receiver.after, h.pending]; rfl, fun rest w hw => ?_⟩
  have htrim := SameRest.trim (fun _ _ => width_le) (show 260 ≤ 512 by decide) hws.none_left rest w hw
  exact htrim.symm.trans (h.rest.reached ws rest w hw)

theorem Alike.drainChunks (h : Alike received s t) (chunks : List (List UInt8)) :
    drainChunks drainRequestResponsePairs s chunks = drainChunks drainUntrimmed t chunks := by
  induction chunks generalizing received s t with
  | nil => rfl
  | cons chunk chunks ih =>
    obtain ⟨hpairs, hnext⟩ := (h.extend chunk).drain
    rw [RtuMonitor.drainChunks, RtuMonitor.drainChunks, hpairs, ih hnext]

/-- Trimming loses no pair of any call, whatever the chunks, and every call ends with at
most 512 bytes in the buffer. -/
theorem drain_trimmed (chunks : List (List UInt8)) :
    drainChunks drainRequestResponsePairs {} chunks = drainChunks drainUntrimmed {} chunks ∧
      ∀ s : Receiver, DrainRun Receiver.trim [] s (drainRequestResponsePairs s) ∧
        (drainRequestResponsePairs s).2.buffer.length ≤ 512 := by
  have hstart : Alike [] {} {} := ⟨follows_start, follows_start, rfl, fun _ _ _ => Iff.rfl⟩
  refine ⟨hstart.drainChunks chunks, fun s => ?_⟩
  have hrun : DrainRun Receiver.trim [] s (drainRequestResponsePairs s) := by
    rw [drainRequestResponsePairs, drainLoop_eq]
    exact drainLoopWith_run Receiver.trim (le_refl _) []
  exact ⟨hrun, hrun.length_le⟩

end RtuMonitor

end IndustrialGateway
