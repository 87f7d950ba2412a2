import Solarbot.Video.Sender

/-!
# The datagram stream of a video frame

`send_stream`: however the frame is cut, the datagrams are the stuffing of whole
bytes of header, payload and CRC, in order, after one start mark.

The argument is about one datagram (`addData_spec`). Payload bytes are added below
`size - 6` only, so after the last of them the buffer holds at most `size - 5` bytes
and the escaped CRC, four bytes at most, fits. The header takes at most 17 bytes
with its mark. A datagram after the first one starts empty and takes at least one
payload byte, so the loop ends.
-/

namespace Solarbot.Video

open ByteStuffing Link

variable {size : Int} {txBuffer : List UInt8}

/-! ## The buffer -/

theorem put_ok (h : (txBuffer.length : Int) < size) (a : UInt8) :
    put size txBuffer a = .ok (txBuffer ++ [a]) := if_pos h

/-- A byte that fits is added stuffed. -/
theorem addByte_ok {a : UInt8} (h : (txBuffer.length : Int) + (stuff linkCode a).length ≤ size) :
    addByte size txBuffer a = .ok (txBuffer ++ stuff linkCode a) := by
  unfold addByte
  by_cases ha : a = 0x7E ∨ a = 0x7D
  · have hstuff : stuff linkCode a = [0x7D, a ^^^ 0x20] := if_pos ha
    rw [hstuff] at h ⊢
    have htwo : (txBuffer.length : Int) + 2 ≤ size := h
    have hlen : ((txBuffer ++ [0x7D]).length : Int) < size := by
      rw [List.length_append]
      show ((txBuffer.length + 1 : Nat) : Int) < size
      omega
    rw [if_pos ha, put_ok (by omega)]
    show put size (txBuffer ++ [0x7D]) (a ^^^ 0x20) = _
    rw [put_ok hlen, List.append_assoc]
    rfl
  · have hstuff : stuff linkCode a = [a] := if_neg ha
    rw [hstuff] at h ⊢
    have hone : (txBuffer.length : Int) + 1 ≤ size := h
    rw [if_neg ha, put_ok (by omega)]

theorem addBytes_ok {bytes : List UInt8}
    (h : (txBuffer.length : Int) + (stuffAll linkCode bytes).length ≤ size) :
    addBytes size txBuffer bytes = .ok (txBuffer ++ stuffAll linkCode bytes) := by
  induction bytes generalizing txBuffer with
  | nil => rw [stuffAll_nil, List.append_nil]; rfl
  | cons a bytes ih =>
    rw [stuffAll_cons, List.length_append] at h
    have hadd : addByte size txBuffer a = .ok (txBuffer ++ stuff linkCode a) :=
      addByte_ok (by omega)
    have hrest := @ih (txBuffer ++ stuff linkCode a) (by
      rw [List.length_append]
      omega)
    rw [stuffAll_cons, ← List.append_assoc, ← hrest, addBytes, List.foldlM_cons, hadd]
    rfl

/-- **Payload bytes**: a prefix of what is left is added stuffed. Either everything
was taken or there is no room, and what was taken stays five bytes below the end. -/
theorem addPayload_spec (txBuffer data : List UInt8) :
    ∃ taken rest, data = taken ++ rest ∧
      addPayload size txBuffer data = .ok (txBuffer ++ stuffAll linkCode taken, rest) ∧
      (taken ≠ [] → ((txBuffer ++ stuffAll linkCode taken).length : Int) ≤ size - 5) ∧
      (data ≠ [] → (txBuffer.length : Int) < size - 6 → taken ≠ []) := by
  induction data generalizing txBuffer with
  | nil => exact ⟨[], [], rfl, by rw [stuffAll_nil, List.append_nil]; rfl, by simp, by simp⟩
  | cons a data ih =>
    by_cases hroom : (txBuffer.length : Int) < size - 6
    · obtain ⟨hlo, hhi⟩ := stuff_length linkCode a
      have hadd : addByte size txBuffer a = .ok (txBuffer ++ stuff linkCode a) :=
        addByte_ok (by omega)
      obtain ⟨taken, rest, hdata, hfill, hlen, -⟩ := ih (txBuffer ++ stuff linkCode a)
      refine ⟨a :: taken, rest, by rw [hdata]; rfl, ?_, fun _ => ?_, by simp⟩
      · rw [stuffAll_cons, ← List.append_assoc, ← hfill, addPayload, if_pos hroom, hadd]
        rfl
      · rw [stuffAll_cons, ← List.append_assoc]
        by_cases htaken : taken = []
        · rw [htaken, stuffAll_nil, List.append_nil, List.length_append]
          omega
        · exact hlen htaken
    · refine ⟨[], a :: data, rfl, ?_, by simp, fun _ h => absurd h hroom⟩
      rw [stuffAll_nil, List.append_nil, addPayload, if_neg hroom]
      rfl

/-! ## One datagram -/

variable {header : Header} {payload : List UInt8}

/-- The CRC, when nothing of the payload is left. -/
def closing (payload rest : List UInt8) : List UInt8 := if rest = [] then crcBytes payload else []

/-- **The data of a datagram**: a prefix of what is left of the payload, with the CRC
behind the last byte. -/
theorem addData_spec {data : List UInt8} (hne : data ≠ []) (hsize : (txBuffer.length : Int) ≤ size) :
    ∃ taken rest, data = taken ++ rest ∧
      addData size payload txBuffer data =
        .ok (txBuffer ++ stuffAll linkCode (taken ++ closing payload rest), rest) ∧
      ((txBuffer ++ stuffAll linkCode (taken ++ closing payload rest)).length : Int) ≤ size ∧
      ((txBuffer.length : Int) < size - 6 → taken ≠ []) := by
  obtain ⟨taken, rest, hdata, hfill, hlen, hprogress⟩ := @addPayload_spec size txBuffer data
  refine ⟨taken, rest, hdata, ?_⟩
  have hbind : addData size payload txBuffer data =
      if rest = [] then do
        let txBuffer ← addBytes size (txBuffer ++ stuffAll linkCode taken) (crcBytes payload)
        return (txBuffer, rest)
      else return (txBuffer ++ stuffAll linkCode taken, rest) := by
    rw [addData, hfill]
    rfl
  rw [hbind, stuffAll_append, ← List.append_assoc]
  by_cases hrest : rest = []
  · -- the last byte of the payload is in this datagram
    have htaken : taken ≠ [] := by
      intro htaken
      rw [hdata, htaken, hrest] at hne
      exact hne rfl
    have hroom := hlen htaken
    have hcrc : (stuffAll linkCode (crcBytes payload)).length ≤ 4 := stuffAll_length_le ..
    have hclose : closing payload rest = crcBytes payload := if_pos hrest
    rw [if_pos hrest, hclose, addBytes_ok (by omega)]
    refine ⟨rfl, ?_, fun _ => htaken⟩
    rw [List.length_append]
    omega
  · -- there is more to come
    have hclose : closing payload rest = [] := if_neg hrest
    rw [if_neg hrest, hclose, stuffAll_nil, List.append_nil]
    refine ⟨rfl, ?_, hprogress hne⟩
    by_cases htaken : taken = []
    · rw [htaken, stuffAll_nil, List.append_nil]
      exact hsize
    · have hroom := hlen htaken
      omega

/-- The first datagram begins with the mark and the header. -/
theorem addHeader_ok (hsize : 17 ≤ size) :
    addHeader size header = .ok (0x7E :: stuffAll linkCode header.bytes) ∧
      ((0x7E :: stuffAll linkCode header.bytes).length : Int) ≤ size := by
  have hbytes : (stuffAll linkCode header.bytes).length ≤ 16 := stuffAll_length_le ..
  have hput : put size [] 0x7E = .ok [0x7E] := put_ok (show (0 : Int) < size by omega) 0x7E
  have hadd : addBytes size [0x7E] header.bytes = .ok ([0x7E] ++ stuffAll linkCode header.bytes) := by
    refine addBytes_ok ?_
    show (1 : Int) + (stuffAll linkCode header.bytes).length ≤ size
    omega
  refine ⟨?_, ?_⟩
  · rw [addHeader, hput]
    exact hadd
  · rw [List.length_cons]
    omega

/-! ## All datagrams -/

/-- The CRC that is still to come, when something of the payload is left. -/
def owed (payload rest : List UInt8) : List UInt8 := if rest = [] then [] else crcBytes payload

/-- The CRC is in one datagram or in a later one. -/
theorem closing_owed (payload rest : List UInt8) :
    closing payload rest ++ (rest ++ owed payload rest) = rest ++ crcBytes payload := by
  unfold closing owed
  by_cases hrest : rest = []
  · rw [if_pos hrest, if_pos hrest, hrest, List.append_nil, List.append_nil, List.nil_append]
  · rw [if_neg hrest, if_neg hrest, List.nil_append]

/-- **The datagrams after the first**: with fuel for each byte that is left, the loop
sends all of them, in chunks that are not empty and fit. -/
theorem sendPacks_spec (hsize : 17 ≤ size) (n : Nat) :
    ∀ data : List UInt8, data.length = n →
      ∃ chunks : List (List UInt8), chunks.flatten = data ++ owed payload data ∧
        (∀ chunk ∈ chunks, chunk ≠ [] ∧ ((stuffAll linkCode chunk).length : Int) ≤ size) ∧
        ∀ fuel packIndex, n < fuel → packIndex ≠ 0 →
          sendPacks size header payload fuel packIndex [] data =
            .ok (chunks.map (stuffAll linkCode)) := by
  induction n using Nat.strong_induction_on with
  | _ n ih =>
    intro data hn
    by_cases hne : data = []
    · refine ⟨[], ?_, by simp, fun fuel packIndex hfuel _ => ?_⟩
      · rw [owed, if_pos hne, hne]
        rfl
      · obtain ⟨m, rfl⟩ : ∃ m, fuel = m + 1 := ⟨fuel - 1, by omega⟩
        rw [sendPacks, if_pos hne]
        rfl
    · obtain ⟨taken, rest, hdata, hadd, hlen, hprogress⟩ :=
        @addData_spec size [] payload data hne (show (0 : Int) ≤ size by omega)
      have htaken : taken ≠ [] := hprogress (show (0 : Int) < size - 6 by omega)
      rw [List.nil_append] at hadd hlen
      -- a datagram takes something, so less is left
      have hlt : rest.length < n := by
        have hpos := List.length_pos_iff.mpr htaken
        rw [← hn, hdata, List.length_append]
        omega
      obtain ⟨chunks, hflat, hall, hsend⟩ := ih rest.length hlt rest rfl
      refine ⟨(taken ++ closing payload rest) :: chunks, ?_, ?_, ?_⟩
      · rw [List.flatten_cons, hflat, List.append_assoc, closing_owed, owed, if_neg hne, hdata,
          List.append_assoc]
      · intro chunk hmem
        rcases List.mem_cons.mp hmem with rfl | hmem
        · exact ⟨fun h => htaken (List.append_eq_nil_iff.mp h).1, hlen⟩
        · exact hall chunk hmem
      · intro fuel packIndex hfuel hk
        obtain ⟨m, rfl⟩ : ∃ m, fuel = m + 1 := ⟨fuel - 1, by omega⟩
        rw [sendPacks, if_neg hne, if_neg hk, hadd]
        show (do let sent ← sendPacks size header payload m (packIndex + 1) [] rest; _) = _
        rw [hsend m (packIndex + 1) (by omega) (by omega)]
        rfl

/-- **The stream of a video frame.** For every payload that is not empty, every header
with its length and every packet size of at least 17, `Send` ends without a store
outside `tx_buffer`. The datagrams have 1 to `size` bytes, they hold whole stuffed
bytes of the header, the payload and the CRC, behind one mark, and so none of them
ends in an escape; together they are the stuffed frame. -/
theorem send_stream (hsize : 17 ≤ size) (hne : payload ≠ [])
    (hlength : header.payloadLength.toInt = payload.length) :
    ∃ datagrams : List (List UInt8),
      (∀ fuel, payload.length + 2 ≤ fuel → send size fuel header payload = .ok datagrams) ∧
      (∀ d ∈ datagrams, 1 ≤ d.length ∧ (d.length : Int) ≤ size ∧ d.getLast? ≠ some 0x7D) ∧
      (∃ (first : List UInt8) (chunks : List (List UInt8)),
        datagrams = (0x7E :: stuffAll linkCode first) :: chunks.map (stuffAll linkCode) ∧
        first ++ chunks.flatten = header.bytes ++ payload ++ crcBytes payload) ∧
      datagrams.flatten =
        0x7E :: stuffAll linkCode (header.bytes ++ payload ++ crcBytes payload) := by
  have htake : payload.take header.payloadLength.toNatClampNeg = payload := by
    rw [Int32.toNatClampNeg, hlength, Int.toNat_natCast, List.take_length]
  obtain ⟨hheader, hfits⟩ := @addHeader_ok size header hsize
  -- the first datagram has the header and what fits of the payload
  obtain ⟨taken, rest, hpayload, hadd, hlen, -⟩ := @addData_spec size _ payload payload hne hfits
  obtain ⟨chunks, hflat, hall, hsend⟩ :=
    @sendPacks_spec size header payload hsize _ rest rfl
  let first := header.bytes ++ (taken ++ closing payload rest)
  rw [List.cons_append, ← stuffAll_append] at hadd hlen
  -- unescaped, the datagrams are the frame
  have hraw : first ++ chunks.flatten = header.bytes ++ payload ++ crcBytes payload := by
    calc first ++ chunks.flatten
        = header.bytes ++ (taken ++ (closing payload rest ++ (rest ++ owed payload rest))) := by
          simp only [first, hflat, List.append_assoc]
      _ = header.bytes ++ (taken ++ rest) ++ crcBytes payload := by
          simp only [closing_owed, List.append_assoc]
      _ = header.bytes ++ payload ++ crcBytes payload := by rw [← hpayload]
  refine ⟨(0x7E :: stuffAll linkCode first) :: chunks.map (stuffAll linkCode), ?_, ?_,
    ⟨first, chunks, rfl, hraw⟩, ?_⟩
  · intro fuel hfuel
    obtain ⟨m, rfl⟩ : ∃ m, fuel = m + 1 := ⟨fuel - 1, by omega⟩
    have hle : rest.length ≤ payload.length := by
      rw [hpayload, List.length_append]
      omega
    show sendPacks size header (payload.take _) (m + 1) 0 [] (payload.take _) = _
    rw [htake, sendPacks, if_neg hne, if_pos rfl, hheader]
    simp only [Except.bind, bind, hadd, hsend m 1 (by omega) (by decide)]
    rfl
  · intro d hd
    rcases List.mem_cons.mp hd with rfl | hd
    · have hstuffed : stuffAll linkCode first ≠ [] := by
        have hle := length_le_stuffAll linkCode first
        have hpos : 0 < first.length := Nat.succ_pos _
        exact List.length_pos_iff.mp (by omega)
      refine ⟨by rw [List.length_cons]; omega, hlen, ?_⟩
      rw [List.getLast?_cons_of_ne_nil hstuffed]
      exact esc_ne_getLast_stuffAll linkCode first
    · obtain ⟨chunk, hchunk, rfl⟩ := List.mem_map.mp hd
      obtain ⟨hne', hfits'⟩ := hall chunk hchunk
      have hpos := List.length_pos_iff.mpr hne'
      have hle := length_le_stuffAll linkCode chunk
      exact ⟨by omega, hfits', esc_ne_getLast_stuffAll linkCode chunk⟩
  · rw [List.flatten_cons, List.cons_append, ← stuffAll_flatten, ← stuffAll_append, hraw]

/-- The mark as payload, in the smallest packets: an escape on the boundary. -/
theorem send_stream_marks : ∃ datagrams : List (List UInt8),
    (∀ fuel, 6 ≤ fuel → send 17 fuel ⟨4, 1, 0, 1⟩ [0x7E, 0x7E, 0x7E, 0x7E] = .ok datagrams) ∧
    datagrams.flatten = 0x7E :: stuffAll linkCode
      ((⟨4, 1, 0, 1⟩ : Header).bytes ++ [0x7E, 0x7E, 0x7E, 0x7E] ++
        crcBytes [0x7E, 0x7E, 0x7E, 0x7E]) := by
  obtain ⟨datagrams, hsend, -, -, hflat⟩ := @send_stream 17 ⟨4, 1, 0, 1⟩ [0x7E, 0x7E, 0x7E, 0x7E]
    (by decide) (by decide) (by decide)
  exact ⟨datagrams, hsend, hflat⟩

end Solarbot.Video
