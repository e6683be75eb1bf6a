import MouseControl.Fault

/-! Vendor packets. A request is written into a report of 72 bytes: report number, opcode, two
zeros, the flag, three zeros, then a region of 64 bytes with the payload at its offset and zeros
around it. A response is any report that is long enough and has the right number. -/
namespace MouseControl

/-- A request; the flag is zero for a read. -/
structure Request where
  opcode : UInt8
  flag : UInt8
  offset : Nat
  payload : List UInt8
deriving DecidableEq, Repr

namespace Request

def read (opcode : UInt8) : Request := ⟨opcode, readFlag, 0, []⟩

def query (opcode : UInt8) (payload : List UInt8) : Request := ⟨opcode, readFlag, 0, payload⟩

def write (opcode : UInt8) (payload : List UInt8) : Request := ⟨opcode, writeFlag, 0, payload⟩

def isWrite (request : Request) : Bool := request.flag != 0

def header (request : Request) : List UInt8 :=
  [reportId, request.opcode, 0, 0, request.flag, 0, 0, 0]

def region (request : Request) : List UInt8 :=
  List.replicate request.offset 0 ++ request.payload ++
    List.replicate (regionLength - request.offset - request.payload.length) 0

def encode (request : Request) : Except Error (List UInt8) :=
  if regionLength < request.offset then .error (.invalidPayloadOffset request.offset)
  else if regionLength - request.offset < request.payload.length then
    .error (.payloadTooLarge request.offset request.payload.length)
  else .ok (request.header ++ request.region)

def fill (request : Request) : Except Crash (List UInt8) := do
  let packet ← replace (List.replicate packetLength 0) 0 1 [reportId]
  let packet ← replace packet 1 1 [request.opcode]
  let packet ← replace packet 4 1 [request.flag]
  let start ← sizeSum headerLength request.offset
  let stop ← sizeSum start request.payload.length
  replace packet start (stop - start) request.payload

/-- The report as a link is given it: the payload is measured against what the offset leaves of the
region, then the packet is filled. -/
def compose (request : Request) : Except Halt (List UInt8) :=
  if regionLength < request.offset then .error (.failed (.invalidPayloadOffset request.offset))
  else
    match sizeDifference regionLength request.offset with
    | .error crash => .error (.crashed crash)
    | .ok room =>
      if room < request.payload.length then
        .error (.failed (.payloadTooLarge request.offset request.payload.length))
      else request.fill.mapError .crashed

theorem fill_eq {request : Request} (room : request.offset + request.payload.length ≤ regionLength) :
    request.fill = .ok (request.header ++ request.region) := by
  change request.offset + request.payload.length ≤ 64 at room
  have start : sizeSum headerLength request.offset = .ok (8 + request.offset) :=
    sizeSum_ok (by change 8 + request.offset < _; omega)
  have stop : sizeSum (8 + request.offset) request.payload.length =
      .ok (8 + request.offset + request.payload.length) := sizeSum_ok (by omega)
  have blank : request.fill = (do
      let start ← sizeSum headerLength request.offset
      let stop ← sizeSum start request.payload.length
      replace (request.header ++ List.replicate 64 0) start (stop - start) request.payload) := rfl
  have laid : replace (request.header ++ List.replicate 64 0) (8 + request.offset)
      (8 + request.offset + request.payload.length - (8 + request.offset)) request.payload =
      .ok (request.header ++ request.region) := by
    have inside : 8 + request.offset + request.payload.length ≤
        (request.header ++ List.replicate 64 (0 : UInt8)).length := by
      simp only [header, List.length_append, List.length_cons, List.length_nil,
        List.length_replicate]
      omega
    rw [Nat.add_sub_cancel_left, replace_ok inside rfl]
    have before : (request.header ++ List.replicate 64 (0 : UInt8)).take (8 + request.offset) =
        request.header ++ List.replicate request.offset 0 := by
      rw [show 8 = request.header.length from rfl, List.take_length_add_append, List.take_replicate,
        Nat.min_eq_left (by omega)]
    have behind : (request.header ++ List.replicate 64 (0 : UInt8)).drop
        (8 + request.offset + request.payload.length) =
        List.replicate (regionLength - request.offset - request.payload.length) 0 := by
      rw [Nat.add_assoc, show 8 = request.header.length from rfl, List.drop_length_add_append,
        List.drop_replicate, Nat.sub_add_eq]
      rfl
    rw [before, behind, region]
    simp only [List.append_assoc]
  rw [blank, start]
  change (sizeSum (8 + request.offset) request.payload.length >>= _) = _
  rw [stop]
  exact laid

theorem encode_length {request : Request} {report : List UInt8} (ok : request.encode = .ok report) :
    report.length = packetLength := by
  unfold encode at ok
  split at ok
  · cases ok
  · split at ok
    · cases ok
    · cases ok
      rename_i near short
      change ¬ 64 < request.offset at near
      change ¬ 64 - request.offset < request.payload.length at short
      simp only [header, region, List.length_append, List.length_cons, List.length_nil,
        List.length_replicate]
      change 8 + (request.offset + request.payload.length +
        (64 - request.offset - request.payload.length)) = 72
      omega

/-- Every access on the way to a report stays inside the packet. -/
theorem compose_eq (request : Request) : request.compose = request.encode.mapError .failed := by
  unfold compose encode
  split
  · rfl
  · rename_i near
    rw [sizeDifference, if_pos (Nat.not_lt.mp near)]
    simp only
    split
    · rfl
    · rw [fill_eq (by omega)]
      rfl

end Request

/-- The region of a response. The opcode in it is not compared with that of the request. -/
def decode (report : List UInt8) : Except Error (List UInt8) :=
  if report.length < packetLength then .error (.responseTooShort report.length)
  else if report.headD 0 = reportId then .ok ((report.drop headerLength).take regionLength)
  else .error (.unexpectedReportId (report.headD 0))

theorem decode_length {report region : List UInt8} (ok : decode report = .ok region) :
    region.length = regionLength := by
  unfold decode at ok
  split at ok
  · cases ok
  · split at ok
    · cases ok
      rename_i short _
      change ¬ report.length < 72 at short
      simp only [List.length_take, List.length_drop]
      change min 64 (report.length - 8) = 64
      omega
    · cases ok

def extract (report : List UInt8) : Except Halt (List UInt8) :=
  if report.length < packetLength then .error (.failed (.responseTooShort report.length))
  else
    match byteAt report 0 with
    | .error crash => .error (.crashed crash)
    | .ok id =>
      if id = reportId then (slice report headerLength regionLength).mapError .crashed
      else .error (.failed (.unexpectedReportId id))

/-- Every access to a response stays inside the report. -/
theorem extract_eq (report : List UInt8) : extract report = (decode report).mapError .failed := by
  unfold extract decode
  split
  · rfl
  · rename_i short
    have long : headerLength + regionLength ≤ report.length := Nat.not_lt.mp short
    have some : 0 < report.length := by
      change 72 ≤ report.length at long
      omega
    have first : report[0] = report.headD 0 := by
      cases report with
      | nil => cases some
      | cons id rest => rfl
    rw [byteAt_ok some, slice_ok long, first]
    simp only
    split <;> rfl

def responseOpcode (report : List UInt8) : Option UInt8 := report[1]?

end MouseControl
