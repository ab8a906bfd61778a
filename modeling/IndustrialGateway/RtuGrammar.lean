import IndustrialGateway.RtuFraming

/-!
# The grammar of frames

The four shapes of the frames on the line, and what `parse_rtu_frame` makes of them.
It also lets the head of a read frame pass that has nothing between its function and
its checksum.
-/

namespace IndustrialGateway

namespace RtuMonitor

variable {frame : List UInt8} {f : RtuFrame}

/-- An exception response, a read request, a read response or a write acknowledgement. -/
def HasShape (frame : List UInt8) : Prop :=
  (byteAt frame 1 &&& 0x80 ≠ 0 ∧ frame.length = 5) ∨
  (byteAt frame 1 ∈ [1, 2, 3, 4] ∧ frame.length = 8) ∨
  (byteAt frame 1 ∈ [1, 2, 3, 4] ∧ frame.length = (byteAt frame 2).toNat + 5) ∨
  (byteAt frame 1 ∈ [5, 6, 15, 16] ∧ frame.length = 8)

def WellFormed (frame : List UInt8) : Prop :=
  4 ≤ frame.length ∧ expectedCrc frame = actualCrc frame ∧ HasShape frame

/-- The bytes of a response are registers. -/
def hasRegisters (frame : List UInt8) : Bool :=
  byteAt frame 1 ∈ [3, 4] ∧ (byteAt frame 2).toNat % 2 = 0

/-- The fields that a frame of each shape has; eight bytes of a read function are a request. -/
inductive ShapeFields (frame : List UInt8) : RtuFrame → Prop
  | exception (h : byteAt frame 1 &&& 0x80 ≠ 0) (hlen : frame.length = 5) :
    ShapeFields frame { commonFields frame with exceptionCode := some (byteAt frame 2) }
  | request (h : byteAt frame 1 ∈ [1, 2, 3, 4]) (hlen : frame.length = 8) :
    ShapeFields frame { commonFields frame with
      startAddress := some (u16 (byteAt frame 2) (byteAt frame 3))
      quantity := some (u16 (byteAt frame 4) (byteAt frame 5)) }
  | response (h : byteAt frame 1 ∈ [1, 2, 3, 4]) (hlen : frame.length = (byteAt frame 2).toNat + 5)
    (height : frame.length ≠ 8) :
    ShapeFields frame { commonFields frame with
      byteCount := some (byteAt frame 2)
      registers := if hasRegisters frame then
        some (registersOf (frame.extract 3 (frame.length - 2))) else none
      dataHex := if hasRegisters frame then none
        else some (hex (frame.extract 3 (frame.length - 2))) }
  | acknowledgement (h : byteAt frame 1 ∈ [5, 6, 15, 16]) (hlen : frame.length = 8) :
    ShapeFields frame { commonFields frame with
      startAddress := some (u16 (byteAt frame 2) (byteAt frame 3))
      value := some (u16 (byteAt frame 4) (byteAt frame 5)) }

/-- What the parser accepts of a string is what the grammar says of it. -/
structure ParsesGrammar (frame : List UInt8) : Prop where
  accepts : (∃ f, parseRtuFrame frame = .ok f) ↔ WellFormed frame
  fields : ∀ f, parseRtuFrame frame = .ok f → ShapeFields frame f

/-- A read frame that has nothing but its address, its function and its checksum. -/
def BareRead (frame : List UInt8) : Prop :=
  frame.length = 4 ∧ byteAt frame 1 ∈ [1, 2, 3, 4] ∧ expectedCrc frame = actualCrc frame

theorem ShapeFields.hasShape (h : ShapeFields frame f) : HasShape frame := by
  cases h with
  | exception h hlen => exact .inl ⟨h, hlen⟩
  | request h hlen => exact .inr (.inl ⟨h, hlen⟩)
  | response h hlen => exact .inr (.inr (.inl ⟨h, hlen⟩))
  | acknowledgement h hlen => exact .inr (.inr (.inr ⟨h, hlen⟩))

/-- A frame that passes the checks has the fields of its shape, unless it is bare. -/
theorem FrameShape.fields (h : FrameShape frame f) :
    ShapeFields frame f ∨ frame.length = 4 ∧ byteAt frame 1 ∈ [1, 2, 3, 4] := by
  cases h with
  | exception hexception hfive => exact .inl (.exception hexception hfive)
  | request hread height => exact .inl (.request (isReadFunction_iff.mp hread) height)
  | registers hread hcount hfunction heven =>
    have hregisters : hasRegisters frame = true := decide_eq_true ⟨hfunction, heven⟩
    have hshape := ShapeFields.response (isReadFunction_iff.mp hread) hcount (by omega)
    rw [hregisters] at hshape
    exact .inl hshape
  | data hread hcount height hnot =>
    have hregisters : hasRegisters frame = false := decide_eq_false hnot
    have hshape := ShapeFields.response (isReadFunction_iff.mp hread) hcount height
    rw [hregisters] at hshape
    exact .inl hshape
  | bare hread hfour => exact .inr ⟨hfour, isReadFunction_iff.mp hread⟩
  | acknowledgement hwrite height => exact .inl (.acknowledgement hwrite height)

theorem HasShape.frameShape (h : HasShape frame) : ∃ f, FrameShape frame f := by
  rcases h with ⟨hexception, hfive⟩ | ⟨hread, height⟩ | ⟨hread, hcount⟩ | ⟨hwrite, height⟩
  · exact ⟨_, .exception hexception hfive⟩
  · exact ⟨_, .request (isReadFunction_iff.mpr hread) height⟩
  · replace hread := isReadFunction_iff.mpr hread
    by_cases height : frame.length = 8
    · exact ⟨_, .request hread height⟩
    by_cases hregisters : byteAt frame 1 ∈ [3, 4] ∧ (byteAt frame 2).toNat % 2 = 0
    · exact ⟨_, .registers hread hcount hregisters.1 hregisters.2⟩
    · exact ⟨_, .data hread hcount height hregisters⟩
  · exact ⟨_, .acknowledgement hwrite height⟩

theorem bare_not_hasShape (hlen : frame.length = 4) : ¬ HasShape frame := by
  rintro (⟨-, h⟩ | ⟨-, h⟩ | ⟨-, h⟩ | ⟨-, h⟩) <;> omega

theorem BareRead.not_parsesGrammar (h : BareRead frame) : ¬ ParsesGrammar frame := by
  obtain ⟨hlen, hread, hcrc⟩ := h
  have hparse := parseRtuFrame_eq_ok.mpr
    ⟨hlen.ge, hcrc, .bare (isReadFunction_iff.mpr hread) hlen⟩
  exact fun hgrammar => bare_not_hasShape hlen (hgrammar.accepts.mp ⟨_, hparse⟩).2.2

/-- The parser accepts the frames of the grammar, with their fields, and the bare heads
of read frames. -/
theorem parsesGrammar_iff (frame : List UInt8) : ParsesGrammar frame ↔ ¬ BareRead frame := by
  constructor
  · exact fun hgrammar hbare => hbare.not_parsesGrammar hgrammar
  · intro hbare
    have hfields (f : RtuFrame) (h : parseRtuFrame frame = .ok f) : ShapeFields frame f := by
      obtain ⟨-, hcrc, hshape⟩ := parseRtuFrame_eq_ok.mp h
      exact hshape.fields.resolve_right fun h => hbare ⟨h.1, h.2, hcrc⟩
    refine ⟨⟨?_, ?_⟩, hfields⟩
    · rintro ⟨f, h⟩
      obtain ⟨hlen, hcrc, -⟩ := parseRtuFrame_eq_ok.mp h
      exact ⟨hlen, hcrc, (hfields f h).hasShape⟩
    · rintro ⟨hlen, hcrc, hshape⟩
      obtain ⟨f, hf⟩ := hshape.frameShape
      exact ⟨f, parseRtuFrame_eq_ok.mpr ⟨hlen, hcrc, hf⟩⟩

/-- Four bytes pass for a frame of function 3. -/
theorem bareRead_accepted : ¬ ParsesGrammar [0x01, 0x03, 0x40, 0x21] :=
  BareRead.not_parsesGrammar ⟨rfl, by decide, by decide +kernel⟩

end RtuMonitor

end IndustrialGateway
