import Nexolab.CyclicRedundancy
import Nexolab.FallibleList

/-!
# Responses of the serial bus

`parse_read_registers_response` takes the bytes of one frame, and `_read_response`
cuts the frame from the bytes which arrive.  The checksum is a reflected register
of sixteen bits which takes the bits in the order of the line.
-/

namespace Nexolab

abbrev Byte := BitVec 8

inductive ModbusError where
  | value (message : String)
  | protocol (message : String)
  | exceptionResponse (unitId function exceptionCode : Byte)
  | timeout (message : String)
  deriving DecidableEq

/-- What `build_read_registers_request` accepts. -/
structure ModbusRequest where
  (unitId function : Byte)
  (address count : ℕ)
  function_reads : function = 0x03 ∨ function = 0x04
  unit_pos : 1 ≤ unitId
  unit_le : unitId ≤ 247
  count_pos : 1 ≤ count
  count_le : count ≤ 125
  range_le : address + count - 1 ≤ 0xFFFF

def crcPolynomial : BitVec 16 := 0xA001

/-- The register never exceeds sixteen bits. -/
def crc16 (data : List Byte) : BitVec 16 :=
  data.foldl (fun crc byte =>
    (ShiftRegister.shift crcPolynomial)^[8] (crc ^^^ byte.setWidth 16)) 0xFFFF

def highByte (value : BitVec 16) : Byte := (value >>> 8).setWidth 8

def lowByte (value : BitVec 16) : Byte := value.setWidth 8

def appendCrc (payload : List Byte) : List Byte :=
  payload ++ [lowByte (crc16 payload), highByte (crc16 payload)]

def registersOf : List Byte → List (BitVec 16)
  | high :: low :: rest => (high ++ low) :: registersOf rest
  | _ => []

def receivedChecksum (frame : List Byte) : BitVec 16 :=
  frame.getD (frame.length - 1) 0 ++ frame.getD (frame.length - 2) 0

def parseReadRegistersResponse (frame : List Byte) (unitId function : Byte)
    (count : ℕ) : Except ModbusError (List (BitVec 16)) :=
  let expectedByteCount := count * 2
  let expectedLength := expectedByteCount + 5
  let responseFunction := frame.getD 1 0
  if ¬ (1 ≤ count ∧ count ≤ 125) then
    .error (.value ("Modbus register count must be 1..125, got " ++ toString count))
  else if frame.length ≠ 5 ∧ frame.length ≠ expectedLength then
    .error (.protocol ("Unexpected Modbus frame length: " ++ toString frame.length))
  else if crc16 (frame.take (frame.length - 2)) ≠ receivedChecksum frame then
    .error (.protocol "Modbus response CRC mismatch")
  else if frame.getD 0 0 ≠ unitId then
    .error (.protocol ("Unexpected Modbus unit: expected " ++ toString unitId.toNat ++
      ", received " ++ toString (frame.getD 0 0).toNat))
  else if responseFunction = function ||| 0x80 then
    if frame.length ≠ 5 then .error (.protocol "Malformed Modbus exception response")
    else .error (.exceptionResponse unitId function (frame.getD 2 0))
  else if responseFunction ≠ function then
    .error (.protocol ("Unexpected Modbus function: 0x" ++ responseFunction.toHex.toUpper))
  else if frame.length ≠ expectedLength ∨ (frame.getD 2 0).toNat ≠ expectedByteCount then
    .error (.protocol ("Expected " ++ toString expectedByteCount ++
      " register-data bytes, received " ++ toString (frame.getD 2 0).toNat))
  else .ok (registersOf ((frame.drop 3).take expectedByteCount))

def readExact (arriving : List Byte) (size : ℕ) :
    Except ModbusError (List Byte × List Byte) :=
  if size ≤ arriving.length then .ok (arriving.take size, arriving.drop size)
  else .error (.timeout ("Timed out after receiving " ++ toString arriving.length ++
    " of " ++ toString size ++ " bytes"))

def readResponse (arriving : List Byte) (expectedCount : ℕ) :
    Except ModbusError (List Byte) := do
  let (header, arriving) ← readExact arriving 3
  if header.getD 1 0 &&& 0x80 ≠ 0 then
    let (rest, _) ← readExact arriving 2
    return header ++ rest
  else
    let byteCount := (header.getD 2 0).toNat
    if byteCount ≠ expectedCount * 2 then
      throw (.protocol ("Expected byte_count=" ++ toString (expectedCount * 2) ++
        ", received " ++ toString byteCount))
    else
      let (rest, _) ← readExact arriving (byteCount + 2)
      return header ++ rest

def registerBytes (register : BitVec 16) : List Byte :=
  [highByte register, lowByte register]

def ModbusRequest.response (request : ModbusRequest) (registers : List (BitVec 16)) :
    List Byte :=
  appendCrc (request.unitId :: request.function ::
    BitVec.ofNat 8 (request.count * 2) :: registers.flatMap registerBytes)

def byteBits (byte : Byte) : List Bool := (List.range 8).map byte.getLsbD

/-- The bits of a frame in the order of the line: the lowest bit of a byte first -/
def frameBits (frame : List Byte) : List Bool := frame.flatMap byteBits

open ShiftRegister

theorem crcPolynomial_top : crcPolynomial.getLsbD (16 - 1) = true := by decide

theorem getD_byteBits (byte : Byte) (index : ℕ) :
    (byteBits byte).getD index false = byte.getLsbD index := by
  by_cases hindex : index < 8
  · simp [byteBits, hindex]
  · rw [BitVec.getLsbD_of_ge _ _ (by omega)]
    simp [byteBits, hindex]

theorem length_byteBits (byte : Byte) : (byteBits byte).length = 8 := by
  simp [byteBits]

theorem number_byteBits (byte : Byte) :
    (number (byteBits byte) : BitVec 16) = byte.setWidth 16 := by
  apply BitVec.eq_of_getLsbD_eq
  intro index hindex
  rw [number_getLsbD, getD_byteBits, BitVec.getLsbD_setWidth]

theorem number_twoBytes (low high : Byte) :
    (number (byteBits low ++ byteBits high) : BitVec 16) = high ++ low := by
  apply BitVec.eq_of_getLsbD_eq
  intro index hindex
  rw [number_getLsbD, BitVec.getLsbD_append, decide_eq_true hindex, Bool.true_and]
  split_ifs with hlow
  · rw [List.getD_append _ _ _ _ (by simpa [length_byteBits] using hlow), getD_byteBits]
  · rw [List.getD_append_right _ _ _ _ (by simpa [length_byteBits] using hlow),
      length_byteBits, getD_byteBits]

theorem crc16_eq_absorb (data : List Byte) :
    crc16 data = absorb crcPolynomial 0xFFFF (frameBits data) := by
  unfold crc16
  generalize (0xFFFF : BitVec 16) = crc
  induction data generalizing crc with
  | nil => rfl
  | cons byte rest ih =>
    have hcons : frameBits (byte :: rest) = byteBits byte ++ frameBits rest := rfl
    have hbyte : absorb crcPolynomial crc (byteBits byte) = _ :=
      absorb_eq (by rw [length_byteBits]; omega)
    rw [length_byteBits, number_byteBits] at hbyte
    rw [List.foldl_cons, ih, hcons, absorb_append, hbyte]

theorem crc16_eq_zero_iff (payload : List Byte) (low high : Byte) :
    crc16 (payload ++ [low, high]) = 0 ↔ crc16 payload = high ++ low := by
  have hbits : frameBits (payload ++ [low, high]) =
      frameBits payload ++ (byteBits low ++ byteBits high) := by simp [frameBits]
  have hzero : (shift crcPolynomial)^[16] 0 = 0 := Function.iterate_fixed shift_zero 16
  rw [crc16_eq_absorb, hbits, absorb_append, absorb_eq (by simp [length_byteBits]),
    number_twoBytes, ← crc16_eq_absorb]
  simp only [List.length_append, length_byteBits]
  conv_lhs => rw [← hzero]
  exact ((shift_injective crcPolynomial_top).iterate 16).eq_iff.trans BitVec.xor_eq_zero_iff

theorem highByte_append (high low : Byte) : highByte (high ++ low) = high := by
  apply BitVec.eq_of_getLsbD_eq
  intro index hindex
  rw [highByte, BitVec.getLsbD_setWidth, BitVec.getLsbD_ushiftRight,
    BitVec.getLsbD_append, if_neg (by omega), decide_eq_true hindex, Bool.true_and,
    Nat.add_sub_cancel_left]

theorem lowByte_append (high low : Byte) : lowByte (high ++ low) = low :=
  BitVec.setWidth_append_eq_right

theorem bytes_append (value : BitVec 16) : highByte value ++ lowByte value = value := by
  apply BitVec.eq_of_getLsbD_eq
  intro index hindex
  rw [BitVec.getLsbD_append, lowByte, highByte]
  split_ifs with hlow
  · simp [hlow]
  · rw [BitVec.getLsbD_setWidth, BitVec.getLsbD_ushiftRight, decide_eq_true (by omega),
      Bool.true_and, Nat.add_sub_of_le (by omega)]

theorem crc16_appendCrc (payload : List Byte) : crc16 (appendCrc payload) = 0 := by
  rw [appendCrc, crc16_eq_zero_iff, bytes_append]

theorem exists_checksum (frame : List Byte) (hlen : 2 ≤ frame.length) :
    ∃ payload low high, frame = payload ++ [low, high] ∧ frame.take (frame.length - 2) = payload ∧
      receivedChecksum frame = high ++ low := by
  have hlast : (frame.drop (frame.length - 2)).length = 2 := by
    rw [List.length_drop]
    omega
  obtain ⟨low, high, hdrop⟩ := List.length_eq_two.mp hlast
  have hframe : frame = frame.take (frame.length - 2) ++ [low, high] := by
    rw [← hdrop, List.take_append_drop]
  refine ⟨_, low, high, hframe, rfl, ?_⟩
  generalize frame.take (frame.length - 2) = payload at hframe
  subst hframe
  simp [receivedChecksum]

/-! ## What is parsed -/

theorem registersOf_flatMap (registers : List (BitVec 16)) :
    registersOf (registers.flatMap registerBytes) = registers := by
  induction registers with
  | nil => rfl
  | cons register rest ih => simp [registerBytes, registersOf, bytes_append, ih]

theorem flatMap_registersOf {data : List Byte} {count : ℕ} (hlen : data.length = count * 2) :
    (registersOf data).length = count ∧ (registersOf data).flatMap registerBytes = data := by
  induction count generalizing data with
  | zero =>
    rw [List.length_eq_zero_iff.mp (by omega : data.length = 0)]
    exact ⟨rfl, rfl⟩
  | succ count ih =>
    cases data with
    | nil => simp at hlen
    | cons high rest =>
      cases rest with
      | nil => grind
      | cons low rest =>
        have hrestLength : rest.length = count * 2 := by
          simp at hlen
          omega
        obtain ⟨hcount, hrest⟩ := ih hrestLength
        simp [registersOf, registerBytes, highByte_append, lowByte_append, hcount, hrest]

theorem length_flatMap_registerBytes (registers : List (BitVec 16)) :
    (registers.flatMap registerBytes).length = registers.length * 2 := by
  simp [registerBytes]

section Parse

variable {frame : List Byte} {registers : List (BitVec 16)}

theorem parse_eq_ok {unitId function : Byte} {count : ℕ} :
    parseReadRegistersResponse frame unitId function count = .ok registers ↔
      (1 ≤ count ∧ count ≤ 125) ∧ frame.length = count * 2 + 5 ∧
      crc16 (frame.take (frame.length - 2)) = receivedChecksum frame ∧
      frame.getD 0 0 = unitId ∧ frame.getD 1 0 = function ∧
      function ≠ function ||| 0x80 ∧ (frame.getD 2 0).toNat = count * 2 ∧
      registersOf ((frame.drop 3).take (count * 2)) = registers := by
  unfold parseReadRegistersResponse
  dsimp only
  split_ifs <;> grind

variable {request : ModbusRequest}

theorem ModbusRequest.function_ne (request : ModbusRequest) :
    request.function ≠ request.function ||| 0x80 := by
  rcases request.function_reads with hfunction | hfunction <;>
    · rw [hfunction]
      decide

theorem ModbusRequest.function_normal (request : ModbusRequest) :
    request.function &&& 0x80 = 0 := by
  rcases request.function_reads with hfunction | hfunction <;>
    · rw [hfunction]
      decide

theorem toNat_byteCount (request : ModbusRequest) :
    (BitVec.ofNat 8 (request.count * 2)).toNat = request.count * 2 := by
  have hle := request.count_le
  rw [BitVec.toNat_ofNat, Nat.mod_eq_of_lt (by omega)]

theorem receivedChecksum_appendCrc (payload : List Byte) :
    crc16 ((appendCrc payload).take ((appendCrc payload).length - 2)) =
      receivedChecksum (appendCrc payload) := by
  simp [appendCrc, receivedChecksum, bytes_append]

theorem parse_eq_ok_iff :
    parseReadRegistersResponse frame request.unitId request.function request.count = .ok registers ↔
        registers.length = request.count ∧ frame = request.response registers := by
  rw [parse_eq_ok]
  constructor
  · rintro ⟨-, hlen, hcrc, hunit, hfunction, -, hbytes, hregisters⟩
    obtain ⟨payload, low, high, rfl, htake, hreceived⟩ :=
      exists_checksum frame (by omega)
    rw [htake, hreceived] at hcrc
    obtain ⟨first, second, third, data, rfl⟩ : ∃ first second third data,
        payload = first :: second :: third :: data := by
      rcases payload with _ | ⟨first, _ | ⟨second, _ | ⟨third, data⟩⟩⟩
      · simp at hlen
      · simp at hlen
      · simp at hlen
      · exact ⟨first, second, third, data, rfl⟩
    have hdata : data.length = request.count * 2 := by simpa using hlen
    have hthird : third = BitVec.ofNat 8 (request.count * 2) := by
      apply BitVec.eq_of_toNat_eq
      rw [toNat_byteCount, ← hbytes]
      rfl
    have hparsed : registersOf data = registers := by
      rw [← hregisters, ← hdata]
      simp
    obtain ⟨hcount, hflat⟩ := flatMap_registersOf hdata
    rw [hparsed] at hcount hflat
    refine ⟨hcount, ?_⟩
    rw [ModbusRequest.response, ← hunit, ← hfunction, hflat, ← hthird]
    simp [appendCrc, hcrc, lowByte_append, highByte_append]
  · rintro ⟨hcount, rfl⟩
    have hdata := length_flatMap_registerBytes registers
    refine ⟨⟨request.count_pos, request.count_le⟩, ?_, receivedChecksum_appendCrc _, rfl,
      rfl, request.function_ne, toNat_byteCount request, ?_⟩
    · simp [ModbusRequest.response, appendCrc, hdata, hcount]
    · rw [← hcount, ← hdata]
      simp [ModbusRequest.response, appendCrc, registersOf_flatMap]

theorem readExact_eq_ok {arriving bytes rest : List Byte} {size : ℕ} :
    readExact arriving size = .ok (bytes, rest) ↔
      arriving = bytes ++ rest ∧ bytes.length = size := by
  unfold readExact
  split_ifs with hlen
  · rw [Except.ok.injEq, Prod.mk.injEq]
    constructor
    · rintro ⟨rfl, rfl⟩
      exact ⟨(List.take_append_drop _ _).symm, List.length_take_of_le hlen⟩
    · rintro ⟨rfl, rfl⟩
      simp
  · constructor
    · intro hread
      cases hread
    · rintro ⟨rfl, rfl⟩
      simp at hlen

theorem readResponse_prefix {arriving : List Byte} {count : ℕ}
    (hread : readResponse arriving count = .ok frame) :
    ∃ unread, arriving = frame ++ unread := by
  unfold readResponse at hread
  rw [bind_eq_ok] at hread
  obtain ⟨⟨header, remaining⟩, hheader, hread⟩ := hread
  obtain ⟨rfl, -⟩ := readExact_eq_ok.mp hheader
  dsimp only at hread
  split_ifs at hread
  · obtain ⟨⟨rest, unread⟩, hrest, hframe⟩ := bind_eq_ok.mp hread
    obtain ⟨rfl, -⟩ := readExact_eq_ok.mp hrest
    cases hframe
    exact ⟨unread, (List.append_assoc _ _ _).symm⟩
  · obtain ⟨⟨rest, unread⟩, hrest, hframe⟩ := bind_eq_ok.mp hread
    obtain ⟨rfl, -⟩ := readExact_eq_ok.mp hrest
    cases hframe
    exact ⟨unread, (List.append_assoc _ _ _).symm⟩

theorem readResponse_response (hcount : registers.length = request.count) (unread : List Byte) :
    readResponse (request.response registers ++ unread) request.count =
      .ok (request.response registers) := by
  let header := [request.unitId, request.function, BitVec.ofNat 8 (request.count * 2)]
  let data := registers.flatMap registerBytes
  let rest := data ++ [lowByte (crc16 (header ++ data)), highByte (crc16 (header ++ data))]
  have hresponse : request.response registers = header ++ rest := rfl
  have hheader : readExact (header ++ rest ++ unread) 3 = .ok (header, rest ++ unread) :=
    readExact_eq_ok.mpr ⟨List.append_assoc _ _ _, rfl⟩
  have hrest : readExact (rest ++ unread) (request.count * 2 + 2) = .ok (rest, unread) :=
    readExact_eq_ok.mpr ⟨rfl, by
      rw [List.length_append, length_flatMap_registerBytes, hcount]
      rfl⟩
  have hbytes : (header.getD 2 0).toNat = request.count * 2 := toNat_byteCount request
  have hnormal : header.getD 1 0 &&& 0x80 = 0 := request.function_normal
  rw [hresponse, readResponse, hheader, ok_bind]
  dsimp only
  rw [if_neg (not_not_intro hnormal), hbytes, if_neg (not_not_intro rfl), hrest]
  rfl

theorem flipped_ne {window pattern : List Bool} (hlen : pattern.length = window.length)
    (herror : true ∈ pattern) : List.zipWith xor window pattern ≠ window := by
  intro hsame
  obtain ⟨index, hindex, htrue⟩ := List.mem_iff_getElem.mp herror
  have hbit := congrArg (·[index]?) hsame
  simp [hindex, hlen ▸ hindex, htrue] at hbit

/-- An accepted frame in which a burst of up to sixteen bits is flipped -/
theorem burst_refused {received : List Byte} {before window pattern after : List Bool}
    (hparse : parseReadRegistersResponse frame request.unitId request.function
      request.count = .ok registers)
    (hframe : frameBits frame = before ++ window ++ after)
    (hreceived : frameBits received = before ++ List.zipWith xor window pattern ++ after)
    (hpattern : pattern.length = window.length) (hburst : pattern.length ≤ 16)
    (herror : true ∈ pattern) :
    parseReadRegistersResponse received request.unitId request.function request.count =
      .error (.protocol "Modbus response CRC mismatch") := by
  have hlen : received.length = frame.length := by
    have hbits := congrArg List.length hreceived
    have hsent := congrArg List.length hframe
    simp [frameBits, length_byteBits, hpattern] at hbits hsent
    omega
  obtain ⟨hcount, hexpected, -⟩ := parse_eq_ok.mp hparse
  unfold parseReadRegistersResponse
  dsimp only
  rw [if_neg (by simpa using hcount), if_neg (by omega), if_pos]
  intro hcrc
  obtain ⟨payload, low, high, rfl, htake, hchecksum⟩ :=
    exists_checksum received (by omega)
  rw [htake, hchecksum, ← crc16_eq_zero_iff] at hcrc
  have hzero : crc16 frame = 0 := by
    rw [(parse_eq_ok_iff.mp hparse).2]
    exact crc16_appendCrc _
  rw [crc16_eq_absorb, hreceived, absorb_append, absorb_append] at hcrc
  rw [crc16_eq_absorb, hframe, absorb_append, absorb_append, ← hcrc] at hzero
  have hwindow := absorb_injective crcPolynomial_top hzero
  exact flipped_ne hpattern herror
    (eq_of_absorb_eq crcPolynomial_top (by omega) (by simp [hpattern]) hwindow.symm)

end Parse

/-- Registers are returned for the frames which encode them and for nothing else,
a frame with its checksum leaves the zero register, and a burst of up to sixteen
bits in an accepted frame is refused. -/
theorem modbusResponses_sound (request : ModbusRequest) :
    (∀ frame registers,
      parseReadRegistersResponse frame request.unitId request.function request.count =
        .ok registers ↔
          registers.length = request.count ∧ frame = request.response registers) ∧
    (∀ arriving registers, (readResponse arriving request.count >>= fun frame =>
        parseReadRegistersResponse frame request.unitId request.function
          request.count) = .ok registers ↔
        registers.length = request.count ∧
          ∃ unread, arriving = request.response registers ++ unread) ∧
    (∀ payload, crc16 (appendCrc payload) = 0) ∧
    ∀ frame registers received before window pattern after,
      parseReadRegistersResponse frame request.unitId request.function request.count =
        .ok registers →
      frameBits frame = before ++ window ++ after →
      frameBits received = before ++ List.zipWith xor window pattern ++ after →
      pattern.length = window.length → pattern.length ≤ 16 → true ∈ pattern →
      parseReadRegistersResponse received request.unitId request.function
        request.count = .error (.protocol "Modbus response CRC mismatch") := by
  refine ⟨fun _ _ => parse_eq_ok_iff, ?_, crc16_appendCrc, ?_⟩
  · intro arriving registers
    rw [bind_eq_ok]
    constructor
    · rintro ⟨frame, hread, hparse⟩
      obtain ⟨hcount, rfl⟩ := parse_eq_ok_iff.mp hparse
      exact ⟨hcount, readResponse_prefix hread⟩
    · rintro ⟨hcount, unread, rfl⟩
      exact ⟨_, readResponse_response hcount unread, parse_eq_ok_iff.mpr ⟨hcount, rfl⟩⟩
  · intro frame registers received before window pattern after hparse hframe hreceived
    exact burst_refused hparse hframe hreceived

def registerParity (crc : BitVec 16) : Bool :=
  (List.range 16).foldr (fun index rest => xor (crc.getLsbD index) rest) false

theorem registerParity_absorbBit (crc : BitVec 16) (bit : Bool) :
    registerParity (absorbBit crcPolynomial crc bit) = xor (registerParity crc) bit := by
  have hrange : List.range 16 = [0, 1, 2, 3, 4, 5, 6, 7, 8, 9, 10, 11, 12, 13, 14, 15] := rfl
  unfold registerParity absorbBit shift crcPolynomial
  rw [hrange]
  cases hlow : crc[0] <;> cases bit <;> simp [bitValue, hlow]

/-- The polynomial has three low terms, so the register keeps the parity. -/
theorem registerParity_absorb (crc : BitVec 16) (bits : List Bool) :
    registerParity (absorb crcPolynomial crc bits) =
      xor (registerParity crc) (bits.count true % 2 = 1) := by
  induction bits generalizing crc with
  | nil => simp [absorb]
  | cons bit rest ih =>
    rw [absorb_cons, ih, registerParity_absorbBit, List.count_cons, Bool.xor_assoc]
    congr 1
    cases bit <;> grind

theorem iterate_shift_ne_one {steps : ℕ} (hsteps : steps < 2039) :
    (shift crcPolynomial)^[steps] (shift crcPolynomial 1) ≠ 1 := by
  have horbit : (1 : BitVec 16) ∉
      List.iterate (shift crcPolynomial) (shift crcPolynomial 1) 2039 := by
    decide +kernel
  intro hone
  exact horbit (List.mem_iterate.mpr ⟨steps, hsteps, hone.symm⟩)

/-- Two bits leave a register, since they are at most a frame apart. -/
theorem absorb_twoFlips {pattern : List Bool} (htwo : pattern.count true = 2)
    (hlen : pattern.length ≤ 2040) : absorb crcPolynomial 0 pattern ≠ 0 := by
  obtain ⟨before, rest, rfl, hbefore⟩ :=
    List.eq_append_cons_of_mem (List.count_pos_iff.mp (by omega : 0 < pattern.count true))
  have hrest : rest.count true = 1 := by
    simpa [List.count_eq_zero.mpr hbefore] using htwo
  obtain ⟨between, after, rfl, hbetween⟩ :=
    List.eq_append_cons_of_mem (List.count_pos_iff.mp (by omega : 0 < rest.count true))
  have hafter : true ∉ after := by
    simpa [List.count_eq_zero.mpr hbetween, List.count_eq_zero] using hrest
  have hzero (steps : ℕ) : (shift crcPolynomial)^[steps] 0 = 0 :=
    Function.iterate_fixed shift_zero steps
  rw [absorb_append, absorb_unset hbefore, hzero, absorb_cons, absorb_append,
    absorb_unset hbetween, absorb_cons, absorb_unset hafter]
  intro hall
  have hlast := (shift_injective crcPolynomial_top).iterate (after.length + 1)
    (hall.trans (hzero (after.length + 1)).symm)
  refine iterate_shift_ne_one ?_ (BitVec.xor_eq_zero_iff.mp hlast)
  simp at hlen
  omega

/-- A frame with its checksum has an even number of set bits, and an accepted frame is
refused when two of its bits, or any odd number of them, are flipped. -/
theorem flippedFrames_refused (request : ModbusRequest) :
    (∀ payload, (frameBits (appendCrc payload)).count true % 2 = 0) ∧
    ∀ frame registers received pattern,
      parseReadRegistersResponse frame request.unitId request.function request.count =
        .ok registers →
      frameBits received = List.zipWith xor (frameBits frame) pattern →
      pattern.length = (frameBits frame).length →
      pattern.count true = 2 ∨ pattern.count true % 2 = 1 →
      parseReadRegistersResponse received request.unitId request.function
        request.count = .error (.protocol "Modbus response CRC mismatch") := by
  constructor
  · intro payload
    have hparity := registerParity_absorb 0xFFFF (frameBits (appendCrc payload))
    rw [← crc16_eq_absorb, crc16_appendCrc,
      (by decide : registerParity 0xFFFF = false), Bool.false_xor] at hparity
    exact Nat.mod_two_ne_one.mp (of_decide_eq_false hparity.symm)
  · intro frame registers received pattern hparse hreceived hpattern hflips
    have hbits (frame : List Byte) : (frameBits frame).length = 8 * frame.length := by
      simp [frameBits, length_byteBits, Nat.mul_comm]
    obtain ⟨hcount, hexpected, -⟩ := parse_eq_ok.mp hparse
    have hlen : received.length = frame.length := by
      have hsame := congrArg List.length hreceived
      rw [List.length_zipWith, hpattern, Nat.min_self, hbits, hbits] at hsame
      omega
    have hflipped : absorb crcPolynomial 0 pattern ≠ 0 := by
      rcases hflips with htwo | hodd
      · exact absorb_twoFlips htwo (by rw [hpattern, hbits]; omega)
      · intro hzero
        have hparity := registerParity_absorb 0 pattern
        rw [hzero, hodd] at hparity
        exact absurd hparity (by decide)
    unfold parseReadRegistersResponse
    dsimp only
    rw [if_neg (by simpa using hcount), if_neg (by omega), if_pos]
    intro hcrc
    obtain ⟨payload, low, high, rfl, htake, hchecksum⟩ :=
      exists_checksum received (by omega)
    rw [htake, hchecksum, ← crc16_eq_zero_iff, crc16_eq_absorb, hreceived] at hcrc
    have hframe : absorb crcPolynomial 0xFFFF (frameBits frame) = 0 := by
      rw [← crc16_eq_absorb, (parse_eq_ok_iff.mp hparse).2]
      exact crc16_appendCrc _
    have hsplit := @absorb_xor 16 crcPolynomial 0xFFFF 0 _ pattern hpattern
    rw [hframe, (by decide : (0xFFFF ^^^ 0 : BitVec 16) = 0xFFFF), hcrc] at hsplit
    exact hflipped (BitVec.xor_eq_zero_iff.mp hsplit.symm).symm

end Nexolab
