import Mathlib.Data.List.Forall2
import MouseControl.Proofs.Deed
import MouseControl.Proofs.DwordStore
import MouseControl.Proofs.WordStore

/-! Writes of words and of double words side by side. Where both can name a cell, the two loops cut the
data at the same bytes and each packet of one stores what its partner stores, so that a mouse cannot
tell the loops apart but by the answer it holds ready. -/
namespace MouseControl
variable {σ : Type}

def Contact.isWrite : Contact → Bool
  | write .. => true
  | read .. => false

/-- The same result, but that a failed call is blamed on an opcode of its own. -/
inductive EndAlike (opcode other : UInt8) : Except Halt Unit → Except Halt Unit → Prop where
  | done : EndAlike opcode other (.ok ()) (.ok ())
  | lost (cause : LinkError) : EndAlike opcode other
      (.error (.failed (.transportFailed opcode cause)))
      (.error (.failed (.transportFailed other cause)))
  | refused (error : Error) (heard : ∀ blamed cause, error ≠ .transportFailed blamed cause) :
      EndAlike opcode other (.error (.failed error)) (.error (.failed error))

/-- Packets with opcodes of their own that change every mouse alike. -/
structure Request.Twin (opcode other : UInt8) (first second : Request) : Prop where
  opcodes : first.opcode = opcode ∧ second.opcode = other
  fits : first.Fits ∧ second.Fits
  taken : ∀ mouse : Mouse,
    mouse.taking (reportId, first.report) = mouse.taking (reportId, second.report)

theorem execute_unsent {link : Link σ} {device : Device} {request : Request} {state left : σ}
    {cause : LinkError} (fits : request.Fits) (contacts : List Contact)
    (sending : link.write device reportId request.report state = (.error cause, left)) :
    execute link.traced device request ⟨state, contacts⟩ =
      (.error (.failed (.transportFailed request.opcode cause)),
        ⟨left, contacts ++ [.write reportId request.report (.error cause)]⟩) := by
  rw [execute_apply, Request.encode_of_fits fits]
  simp only [Link.traced_write contacts sending]

theorem execute_sent {link : Link σ} {device : Device} {request : Request} {state written left : σ}
    {answer : Except LinkError (List UInt8)} (fits : request.Fits) (contacts : List Contact)
    (sending : link.write device reportId request.report state = (.ok (), written))
    (fetching : link.read device reportId packetLength written = (answer, left)) :
    execute link.traced device request ⟨state, contacts⟩ =
      (((answer.mapError (Error.transportFailed request.opcode)).bind decode).mapError Halt.failed,
        ⟨left, contacts ++ [.write reportId request.report (.ok ()),
          .read reportId packetLength answer]⟩) := by
  rw [execute_apply, Request.encode_of_fits fits]
  simp only [Link.traced_write contacts sending, Link.traced_read _ fetching, List.append_assoc]
  cases answer <;> rfl

private theorem decode_heard {report : List UInt8} {error : Error} (failed : decode report = .error error)
    (blamed : UInt8) (cause : LinkError) : error ≠ .transportFailed blamed cause := by
  rintro rfl
  unfold decode at failed
  repeat' split at failed
  all_goals cases failed

namespace Mouse

/-- Two runs on one mouse, seen at the same point: the same kinds of calls in the same order, and the
same mouse but for the answer that waits. -/
structure Lockstep (first second : Traced Mouse) : Prop where
  mouse : ∃ waiting, second.state = { first.state with pending := waiting }
  calls : second.contacts.map Contact.isWrite = first.contacts.map Contact.isWrite

private theorem taking_frame (mouse : Mouse) (delivery : UInt8 × List UInt8) :
    ∃ registers flash, mouse.taking delivery =
      { mouse with registers := registers, flash := flash } := by
  unfold taking
  split
  · exact perform_frame mouse _ _ _
  · exact ⟨_, _, rfl⟩

private theorem write_taken (device : Device) {mouse : Mouse} {request : Request} (fits : request.Fits)
    (taken : mouse.failWrites.lookup mouse.writes = none) (waiting : Option (List UInt8)) :
    ∃ region : Region,
      Mouse.link.write device reportId request.report { mouse with pending := waiting } =
        (.ok (), { { mouse with writes := mouse.writes + 1 }.taking (reportId, request.report) with
          pending := some ((Request.mk request.opcode request.flag 0 []).header ++ region.bytes) }) := by
  have held : ({ mouse with pending := waiting }.answering request).holdings =
      ({ mouse with writes := mouse.writes + 1 }.taking (reportId, request.report)).holdings := by
    rw [answering_holdings, ← taking_report _ fits]
    apply taking_holdings
    rfl
  obtain ⟨registers, flash, ready⟩ := answering_frame { mouse with pending := waiting } request
  obtain ⟨others, cells, left⟩ :=
    taking_frame { mouse with writes := mouse.writes + 1 } (reportId, request.report)
  rw [ready, left, holdings, holdings, Holdings.mk.injEq] at held
  have sameRegisters : registers = others := held.1
  have sameFlash : flash = cells := held.2.1
  rw [write_report device fits, left, ← sameRegisters, ← sameFlash]
  simp only [taken, ready]
  exact ⟨_, rfl⟩

private theorem read_waiting (mouse : Mouse) (answer : List UInt8) (length : Nat) :
    { mouse with pending := some answer }.read length =
      match mouse.failReads.lookup mouse.reads with
      | some cause => (.error cause, { mouse with pending := some answer, reads := mouse.reads + 1 })
      | none =>
        match mouse.queue with
        | first :: rest =>
          (.ok first, { mouse with pending := some answer, reads := mouse.reads + 1, queue := rest })
        | [] => (.ok (answer.take length), { mouse with pending := none, reads := mouse.reads + 1 }) := by
  unfold read
  cases mouse.failReads.lookup mouse.reads with
  | some cause => rfl
  | none =>
    cases mouse.queue with
    | nil => rfl
    | cons first rest => rfl

private theorem execute_twin (device : Device) {opcode other : UInt8} {first second : Request}
    (twin : Request.Twin opcode other first second) {s t : Traced Mouse} (level : Lockstep s t) :
    (∃ region reply s' t', execute Mouse.link.traced device first s = (.ok region, s') ∧
      execute Mouse.link.traced device second t = (.ok reply, t') ∧ Lockstep s' t') ∨
    ∃ halt stop s' t', execute Mouse.link.traced device first s = (.error halt, s') ∧
      execute Mouse.link.traced device second t = (.error stop, t') ∧ Lockstep s' t' ∧
      EndAlike opcode other (.error halt) (.error stop) := by
  obtain ⟨mouse, contacts⟩ := s
  obtain ⟨_, others⟩ := t
  obtain ⟨⟨waiting, rfl⟩, calls⟩ := level
  obtain ⟨rfl, rfl⟩ := twin.opcodes
  cases untaken : mouse.failWrites.lookup mouse.writes with
  | some cause =>
    have sending := @write_report device mouse first twin.fits.1
    have resending := @write_report device { mouse with pending := waiting } second twin.fits.2
    rw [untaken] at sending resending
    refine .inr ⟨_, _, _, _, execute_unsent twin.fits.1 contacts sending,
      execute_unsent twin.fits.2 others resending, ⟨⟨waiting, rfl⟩, ?_⟩, .lost cause⟩
    simp only [List.map_append, calls]
    rfl
  | none =>
    obtain ⟨region, sending⟩ := write_taken device twin.fits.1 untaken mouse.pending
    obtain ⟨reply, resending⟩ := write_taken device twin.fits.2 untaken waiting
    rw [← twin.taken] at resending
    generalize { mouse with writes := mouse.writes + 1 }.taking (reportId, first.report) = after
      at sending resending
    have ran := execute_sent twin.fits.1 contacts sending (read_waiting after _ packetLength)
    have reran := execute_sent twin.fits.2 others resending (read_waiting after _ packetLength)
    have grown (answer reread : Except LinkError (List UInt8)) :
        (others ++ [Contact.write reportId second.report (.ok ()),
          Contact.read reportId packetLength reread]).map Contact.isWrite =
        (contacts ++ [Contact.write reportId first.report (.ok ()),
          Contact.read reportId packetLength answer]).map Contact.isWrite := by
      simp only [List.map_append, calls]
      rfl
    cases unanswered : after.failReads.lookup after.reads with
    | some cause =>
      rw [unanswered] at ran reran
      exact .inr ⟨_, _, _, _, ran, reran, ⟨⟨_, rfl⟩, grown _ _⟩, .lost cause⟩
    | none =>
      rw [unanswered] at ran reran
      cases queue : after.queue with
      | nil =>
        rw [queue] at ran reran
        simp only [decode_answer, Except.bind, Session.mapError_ok] at ran reran
        exact .inl ⟨_, _, _, _, ran, reran, ⟨_, rfl⟩, grown _ _⟩
      | cons answer rest =>
        rw [queue] at ran reran
        simp only [Except.bind, Session.mapError_ok] at ran reran
        cases decoded : decode answer with
        | ok body =>
          rw [decoded] at ran reran
          exact .inl ⟨_, _, _, _, ran, reran, ⟨_, rfl⟩, grown _ _⟩
        | error error =>
          rw [decoded] at ran reran
          exact .inr ⟨_, _, _, _, ran, reran, ⟨⟨_, rfl⟩, grown _ _⟩,
            .refused error (decode_heard decoded)⟩

private theorem exchangeAll_twins (device : Device) {opcode other : UInt8} {firsts seconds : List Request}
    (twins : List.Forall₂ (Request.Twin opcode other) firsts seconds) {s t : Traced Mouse}
    (level : Lockstep s t) :
    ∃ (result ended : Except Halt Unit) (s' t' : Traced Mouse),
      exchangeAll Mouse.link.traced device firsts s = (result, s') ∧
      exchangeAll Mouse.link.traced device seconds t = (ended, t') ∧
      Lockstep s' t' ∧ EndAlike opcode other result ended := by
  induction twins generalizing s t with
  | nil => exact ⟨.ok (), .ok (), s, t, rfl, rfl, level, .done⟩
  | cons twin _ ih =>
    rcases execute_twin device twin level with
      ⟨region, reply, s', t', ran, reran, kept⟩ | ⟨halt, stop, s', t', ran, reran, kept, alike⟩
    · obtain ⟨result, ended, s'', t'', rest, others, still, alike⟩ := ih kept
      exact ⟨result, ended, s'', t'', (Session.bind_ok ran).trans rest,
        (Session.bind_ok reran).trans others, still, alike⟩
    · exact ⟨.error halt, .error stop, s', t', Session.bind_error ran, Session.bind_error reran,
        kept, alike⟩

end Mouse

namespace Flash
variable {address : UInt32} {data : List UInt8}

def wordAddressOf (address : UInt32) : UInt16 := UInt16.ofNat (2 * address.toNat)

private theorem packets_twin {index : Nat} (whole : data.length % 4 = 0) (short : data.length ≤ 56)
    (inside : 2 * address.toNat + index * 28 < 0x10000) :
    Request.Twin Opcode.flashWriteDwords Opcode.flashWriteWords (dwordPacket address index data)
      (wordPacket (wordAddressOf address) index data) := by
  refine ⟨⟨rfl, rfl⟩, ⟨dwordsPayload_fits short, wordPacket_fits short⟩, fun mouse => ?_⟩
  have place : (wordAddressOf address + UInt16.ofNat (index * wordsPerPacket)).toUInt32 =
      (address + UInt32.ofNat (index * dwordsPerPacket)) * 2 := by
    apply UInt32.toNat_inj.mp
    simp only [wordAddressOf, wordsPerPacket_eq, dwordsPerPacket_eq, UInt16.toNat_toUInt32,
      UInt16.toNat_add, UInt16.toNat_ofNat', UInt32.toNat_mul, UInt32.toNat_add, UInt32.toNat_ofNat']
    change _ = _ * 2 % _
    omega
  rw [taking_dwordPacket mouse address index whole short,
    taking_wordPacket mouse (wordAddressOf address) index (by omega) short, place]

private theorem dwordPackets_twins (whole : data.length % 4 = 0)
    (inside : 2 * address.toNat + data.length / 2 ≤ 0x10000) :
    List.Forall₂ (Request.Twin Opcode.flashWriteDwords Opcode.flashWriteWords)
      (dwordPackets address data) (wordPackets (wordAddressOf address) data) := by
  refine List.forall₂_of_length_eq_of_get ?_ ?_
  · rw [length_dwordPackets, length_wordPackets]
  · intro i first second
    have more : i * 56 < data.length := by
      rw [length_dwordPackets] at first
      omega
    have dword := getElem?_dwordPackets address data i
    have word := getElem?_wordPackets (wordAddressOf address) data i
    rw [if_pos more, List.getElem?_eq_getElem first] at dword
    rw [if_pos more, List.getElem?_eq_getElem second] at word
    rw [List.get_eq_getElem, List.get_eq_getElem, Option.some.inj dword, Option.some.inj word]
    apply packets_twin
    · simp only [List.length_take, List.length_drop]
      omega
    · exact List.length_take_le ..
    · omega

/-- Where both can name the cells, a write of double words and a write of words not verified make the
same calls up to the same packet, leave the same mouse but for the answer that waits, and end alike
under any script of failures. -/
theorem writeDwords_agrees_with_writeWords (device : Device) (mouse : Mouse) (some : data ≠ [])
    (whole : data.length % 4 = 0) (inside : 2 * address.toNat + data.length / 2 ≤ 0x10000) :
    ∃ (result ended : Except Halt Unit) (left right : Mouse) (made calls : List Contact),
      writeDwords Mouse.link device address data mouse = (result, left) ∧
      writeDwords Mouse.link.traced device address data ⟨mouse, []⟩ = (result, ⟨left, made⟩) ∧
      writeWords Mouse.link device (wordAddressOf address) data false mouse = (ended, right) ∧
      writeWords Mouse.link.traced device (wordAddressOf address) data false ⟨mouse, []⟩ =
        (ended, ⟨right, calls⟩) ∧
      calls.map Contact.isWrite = made.map Contact.isWrite ∧
      (∃ waiting, right = { left with pending := waiting }) ∧
      EndAlike Opcode.flashWriteDwords Opcode.flashWriteWords result ended := by
  have positive : 0 < data.length := List.length_pos_iff.mpr some
  have dwords : DwordRange address data := by
    refine ⟨some, whole, ?_⟩
    rw [dwordLength_eq, dwordSpaceEnd_eq]
    omega
  have start : (wordAddressOf address).toNat = 2 * address.toNat :=
    UInt16.toNat_ofNat_of_lt' (by simp only [UInt16.size]; omega)
  have words : WordRange (wordAddressOf address) data := by
    refine ⟨some, ?_, ?_⟩
    · rw [wordLength_eq]
      omega
    · rw [wordLength_eq, wordSpaceEnd_eq, start]
      omega
  have level : Mouse.Lockstep ⟨mouse, []⟩ ⟨mouse, []⟩ := ⟨⟨mouse.pending, rfl⟩, rfl⟩
  obtain ⟨result, ended, ⟨left, made⟩, ⟨right, calls⟩, sent, resent, still, alike⟩ :=
    Mouse.exchangeAll_twins device (dwordPackets_twins whole inside) level
  have wrote : writeDwords Mouse.link.traced device address data ⟨mouse, []⟩ =
      (result, ⟨left, made⟩) := by
    rw [writeDwords_eq Mouse.link.traced device dwords, sent]
  have rewrote : writeWords Mouse.link.traced device (wordAddressOf address) data false ⟨mouse, []⟩ =
      (ended, ⟨right, calls⟩) := by
    rw [writeWords_unverified Mouse.link.traced device words, resent]
  obtain ⟨same, kept⟩ := Deed.perform_traced device Mouse.link (.writeDwords address data) mouse []
  obtain ⟨resame, rekept⟩ :=
    Deed.perform_traced device Mouse.link (.writeWords (wordAddressOf address) data false) mouse []
  simp only [Deed.perform, wrote] at same kept
  simp only [Deed.perform, rewrote] at resame rekept
  exact ⟨result, ended, left, right, made, calls, Prod.ext same.symm kept.symm, wrote,
    Prod.ext resame.symm rekept.symm, rewrote, still.calls, still.mouse, alike⟩

-- Fifteen double words up to the end of the word space, over a stuck cell; the first answer comes from
-- the queue and the second one is lost.
theorem writeDwords_agrees_at_the_end :
    let mouse := { Mouse.fresh with
      stuck := [0xFFE3], queue := [List.replicate 72 7], failReads := [(1, .timeout "lost")] }
    let device : Device := ⟨0x09DA, 0x7F1B, "Bloody T50", ""⟩
    let data := List.replicate 60 9
    (data ≠ [] ∧ data.length % 4 = 0 ∧ 2 * (0x7FF1 : UInt32).toNat + data.length / 2 ≤ 0x10000) ∧
      ∃ (result ended : Except Halt Unit) (left right : Mouse),
        writeDwords Mouse.link device 0x7FF1 data mouse = (result, left) ∧
        writeWords Mouse.link device 0xFFE2 data false mouse = (ended, right) ∧
        (∃ waiting, right = { left with pending := waiting }) ∧
        EndAlike Opcode.flashWriteDwords Opcode.flashWriteWords result ended := by
  intro mouse device data
  have some : data ≠ [] := by decide
  have whole : data.length % 4 = 0 := by decide
  have inside : 2 * (0x7FF1 : UInt32).toNat + data.length / 2 ≤ 0x10000 := by decide
  obtain ⟨result, ended, left, right, _, _, wrote, _, rewrote, _, _, kept, alike⟩ :=
    writeDwords_agrees_with_writeWords device mouse some whole inside
  exact ⟨⟨some, whole, inside⟩, result, ended, left, right, wrote, rewrote, kept, alike⟩

end Flash

end MouseControl
