import MouseControl.Proofs.Transcript

/-! Laws of the packet codec. Encoding fails exactly when the payload has no room in the region, and the
region comes back from the report, whatever follows it. Decoding drops the header, so that a report is
encoded again from what it carries only if its reserved bytes are zero. -/
namespace MouseControl
namespace Request

theorem encode_error_iff (request : Request) (error : Error) :
    request.encode = .error error ↔
      (64 < request.offset ∧ error = .invalidPayloadOffset request.offset) ∨
      (request.offset ≤ 64 ∧ 64 < request.offset + request.payload.length ∧
        error = .payloadTooLarge request.offset request.payload.length) := by
  unfold encode
  rw [regionLength_eq]
  by_cases outside : 64 < request.offset
  · simp only [outside, if_true, Except.error.injEq, Nat.not_le.mpr outside, true_and, false_and,
      or_false]
    exact eq_comm
  · -- The offset is inside, so that the room after it is a true difference.
    have room : 64 - request.offset < request.payload.length ↔
        64 < request.offset + request.payload.length := by omega
    simp only [outside, if_false, room, Nat.not_lt.mp outside, true_and, false_and, false_or]
    by_cases large : 64 < request.offset + request.payload.length
    · simp only [large, if_true, Except.error.injEq, true_and]
      exact eq_comm
    · simp [large]

theorem encode_ok_iff (request : Request) (report : List UInt8) :
    request.encode = .ok report ↔ request.Fits ∧ report = request.report := by
  by_cases fits : request.Fits
  · simp only [encode_of_fits fits, Except.ok.injEq, fits, true_and]
    exact eq_comm
  · have large : 64 < request.offset + request.payload.length := Nat.not_le.mp fits
    obtain ⟨error, failed⟩ : ∃ error, request.encode = .error error := by
      simp only [encode_error_iff]
      by_cases outside : 64 < request.offset
      · exact ⟨_, .inl ⟨outside, rfl⟩⟩
      · exact ⟨_, .inr ⟨Nat.not_lt.mp outside, large, rfl⟩⟩
    simp [failed, fits]

private theorem region_eq (request : Request) :
    request.region = List.replicate request.offset 0 ++ request.payload ++
      List.replicate (64 - (request.offset + request.payload.length)) 0 := by
  rw [region, regionLength_eq, Nat.sub_sub]

theorem report_inj (first second : Request) :
    first.report = second.report ↔ first.opcode = second.opcode ∧ first.flag = second.flag ∧
      first.region = second.region := by
  simp [report, header]

end Request

theorem decode_ok_iff (report region : List UInt8) :
    decode report = .ok region ↔ 72 ≤ report.length ∧ report[0]? = some 7 ∧
      region = (report.drop 8).take 64 := by
  unfold decode
  rw [packetLength_eq, headerLength_eq, regionLength_eq]
  by_cases short : report.length < 72
  · rw [if_pos short]
    simp only [reduceCtorEq, false_iff]
    exact fun long => absurd short (Nat.not_lt.mpr long.1)
  · rw [if_neg short, and_iff_right (Nat.not_lt.mp short)]
    obtain ⟨id, rest, rfl⟩ := List.exists_cons_of_length_pos (by omega : 0 < report.length)
    rw [List.headD_cons, List.getElem?_cons_zero, Option.some.injEq]
    by_cases known : id = reportId
    · rw [if_pos known, and_iff_right (show id = 7 from known), Except.ok.injEq]
      exact eq_comm
    · rw [if_neg known]
      simp only [reduceCtorEq, false_iff]
      exact fun right => known right.1

private theorem decode_report_append {request : Request} (fits : request.Fits) (tail : List UInt8) :
    decode (request.report ++ tail) = .ok request.region := by
  have size : request.region.length = 64 := Request.length_region fits
  refine (decode_ok_iff _ _).mpr ⟨?_, rfl, ?_⟩
  · rw [List.length_append, Request.length_report fits, packetLength_eq]
    omega
  · change request.region = (request.region ++ tail).take 64
    rw [← size, List.take_left]

private theorem encode_decoded_iff {report region : List UInt8} {opcode flag : UInt8}
    (decoded : decode report = .ok region) (second : report[1]? = some opcode)
    (fifth : report[4]? = some flag) :
    (Request.mk opcode flag 0 region).encode = .ok (report.take 72) ↔
      ∀ i ∈ [2, 3, 5, 6, 7], report[i]? = some 0 := by
  have size : region.length = 64 := decode_length decoded
  obtain ⟨long, first, rfl⟩ := (decode_ok_iff _ _).mp decoded
  have whole : (Request.mk opcode flag 0 ((report.drop 8).take 64)).region =
      (report.drop 8).take 64 := by
    rw [Request.region_eq]
    simp [size]
  have fits : (Request.mk opcode flag 0 ((report.drop 8).take 64)).Fits := by
    rw [Request.Fits, regionLength_eq]
    simp only [size]
    omega
  have parts : report.take 72 = report.take 8 ++ (report.drop 8).take 64 :=
    List.take_add (i := 8) (j := 64)
  rw [Request.encode_ok_iff, and_iff_right fits, Request.report, whole, parts,
    List.append_left_inj]
  -- What is left is the header; its eight bytes are there.
  rcases report with _ | ⟨b₀, _ | ⟨b₁, _ | ⟨b₂, _ | ⟨b₃, _ | ⟨b₄, _ | ⟨b₅, _ | ⟨b₆, _ | ⟨b₇, rest⟩⟩⟩⟩⟩⟩⟩⟩
  iterate 8 · simp at long
  simp_all [Request.header, reportId]

/-- The codec as a whole. Encoding fails exactly when the payload does not fit, and it gives 72 bytes
that decode to the padded payload and show the opcode, whatever follows them. Decoding takes reports
of at least 72 bytes with the right number; encoding what it gives brings the report back exactly if
its reserved bytes are zero. Two reports are equal exactly if opcode, flag and padded payload are. An
exchange composes and extracts its reports with these results and these errors, and with no crash. -/
theorem packet_codec_laws :
    (∀ (request : Request) (error : Error), request.encode = .error error ↔
      (64 < request.offset ∧ error = .invalidPayloadOffset request.offset) ∨
      (request.offset ≤ 64 ∧ 64 < request.offset + request.payload.length ∧
        error = .payloadTooLarge request.offset request.payload.length)) ∧
    (∀ request : Request, request.offset + request.payload.length ≤ 64 →
      ∃ report, request.encode = .ok report ∧ report.length = 72 ∧
        report.take 8 = [7, request.opcode, 0, 0, request.flag, 0, 0, 0] ∧
        ∀ tail, responseOpcode (report ++ tail) = some request.opcode ∧
          decode (report ++ tail) = .ok (List.replicate request.offset 0 ++ request.payload ++
            List.replicate (64 - (request.offset + request.payload.length)) 0)) ∧
    (∀ report : List UInt8,
      ((∃ region, decode report = .ok region) ↔ 72 ≤ report.length ∧ report[0]? = some 7) ∧
      ∀ region, decode report = .ok region → region.length = 64 ∧
        ∃ opcode flag, report[1]? = some opcode ∧ report[4]? = some flag ∧
          ((Request.mk opcode flag 0 region).encode = .ok (report.take 72) ↔
            ∀ i ∈ [2, 3, 5, 6, 7], report[i]? = some 0)) ∧
    (∀ (first second : Request) (one other : List UInt8),
      first.encode = .ok one → second.encode = .ok other →
      (one = other ↔ first.opcode = second.opcode ∧ first.flag = second.flag ∧
        first.region = second.region)) ∧
    (∀ request : Request, request.compose = request.encode.mapError .failed) ∧
    ∀ report : List UInt8, extract report = (decode report).mapError .failed := by
  refine ⟨Request.encode_error_iff, ?_, ?_, ?_, Request.compose_eq, extract_eq⟩
  · intro request fits
    refine ⟨request.report, Request.encode_of_fits fits, Request.length_report fits, rfl, ?_⟩
    intro tail
    exact ⟨rfl, by rw [decode_report_append fits, Request.region_eq]⟩
  · intro report
    refine ⟨by simp [decode_ok_iff], ?_⟩
    intro region decoded
    have long := ((decode_ok_iff _ _).mp decoded).1
    have second : report[1]? = some report[1] := List.getElem?_eq_getElem (by omega)
    have fifth : report[4]? = some report[4] := List.getElem?_eq_getElem (by omega)
    exact ⟨decode_length decoded, _, _, second, fifth, encode_decoded_iff decoded second fifth⟩
  · intro first second one other encoded also
    obtain ⟨_, rfl⟩ := (first.encode_ok_iff one).mp encoded
    obtain ⟨_, rfl⟩ := (second.encode_ok_iff other).mp also
    exact first.report_inj second

-- Nothing at the very end of the region and a region full of zeros are sent as one report.
theorem packet_codec_at_the_end :
    let nothing : Request := ⟨Opcode.flashRead8, readFlag, 64, []⟩
    let zeros : Request := ⟨Opcode.flashRead8, readFlag, 0, List.replicate 64 0⟩
    nothing.offset + nothing.payload.length ≤ 64 ∧ zeros.offset + zeros.payload.length ≤ 64 ∧
      ∃ report, nothing.encode = .ok report ∧ zeros.encode = .ok report ∧
        nothing.compose = .ok report ∧ zeros.compose = .ok report := by
  intro nothing zeros
  have end_fits : nothing.offset + nothing.payload.length ≤ 64 := by decide
  have zeros_fit : zeros.offset + zeros.payload.length ≤ 64 := by decide
  obtain ⟨_, fitting, _, equal, composed, _⟩ := packet_codec_laws
  obtain ⟨one, first, _⟩ := fitting nothing end_fits
  obtain ⟨other, second, _⟩ := fitting zeros zeros_fit
  have same : one = other := (equal nothing zeros one other first second).mpr ⟨rfl, rfl, by decide⟩
  cases same
  refine ⟨end_fits, zeros_fit, one, first, second, ?_, ?_⟩
  · rw [composed, first]
    rfl
  · rw [composed, second]
    rfl

end MouseControl
