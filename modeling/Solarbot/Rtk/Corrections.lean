import Solarbot.Rtk.Passes

/-!
# What the GPS receivers get

Over a whole run both receivers get the corrections that came, each once, in their order and
with nothing in between, where `char` is unsigned. Where it is signed no byte of the buffer has
the value `0xD3`, and they get nothing (`corrections_forwarded`).
-/

namespace Solarbot.Rtk.Client

variable {K : Type} [Field K] [LinearOrder K] [FloorRing K]

variable {char : PlainChar} {s : Settings} {c c' : Client} {e : Event K}

/-- The correction a reception brings. -/
def correction (char : PlainChar) (e : Event K) : Option (List UInt8) :=
  if e.kind char = .correction then some e.received else none

/-- A pass hands on the correction it received, to both receivers alike. -/
theorem step_gps (h : c.step char s e = .ok c') :
    c'.gps = c.gps ++ (correction char e).toList ∧
      c'.gps2 = c.gps2 ++ (correction char e).toList := by
  rw [step_eq] at h
  have hlisten := c.listen_eq e
  unfold correction
  cases hkind : e.kind char with
  | correction =>
    rw [hkind] at h
    obtain rfl := Except.ok.inj h
    rw [if_pos rfl, forward, take_listen c e le_rfl, List.take_length, hlisten]
    exact ⟨rfl, rfl⟩
  | challenge =>
    rw [hkind] at h
    obtain ⟨key, -, -, rfl⟩ := answer_ok h
    rw [if_neg (by decide), hlisten, Option.toList_none, List.append_nil, List.append_nil]
    exact ⟨rfl, rfl⟩
  | unknown =>
    rw [hkind] at h
    obtain rfl := Except.ok.inj h
    rw [if_neg (by decide), hlisten, Option.toList_none, List.append_nil, List.append_nil]
    exact ⟨rfl, rfl⟩
  | silence =>
    rw [hkind] at h
    rw [if_neg (by decide), Option.toList_none, List.append_nil, List.append_nil]
    rcases silent_ok h with ⟨-, rfl⟩ | ⟨-, -, rfl⟩
    · rw [hlisten]
      exact ⟨rfl, rfl⟩
    · rw [hlisten]
      exact ⟨rfl, rfl⟩

/-- What the receivers have before the loop. -/
theorem start_gps {memory : Vector UInt8 maxUdpSize} {key : Vector UInt8 16}
    {location : Nav.Point K} (h : start s memory key location = .ok c) :
    c.gps = [] ∧ c.gps2 = [] := by
  obtain ⟨-, rfl⟩ := send_ok h
  exact ⟨rfl, rfl⟩

/-- The bytes of a datagram, when they are a correction: more than four, the first of them
`0xD3`. -/
def rtcm (datagram : Option (List UInt8)) : Option (List UInt8) :=
  datagram.bind fun bytes =>
    if 4 < bytes.length ∧ bytes.head? = some 0xD3 then some (bytes.take maxUdpSize) else none

omit [Field K] [LinearOrder K] [FloorRing K] in
/-- An unsigned `char` has the value of its byte. -/
theorem correction_unsigned (e : Event K) : correction .unsigned e = rtcm e.datagram := by
  unfold correction
  simp only [Event.kind_correction_iff]
  obtain ⟨_ | bytes, location⟩ := e
  · rfl
  · unfold rtcm Event.received
    simp only [Option.getD_some, Option.bind_some, PlainChar.value, List.length_take]
    cases bytes with
    | nil => rfl
    | cons b bytes =>
      have hbyte : ((b.toNat : Int) = 0xD3) ↔ b = 0xD3 := by
        constructor
        · exact fun h => UInt8.toNat_inj.mp (by exact_mod_cast h)
        · rintro rfl
          rfl
      have hcut : 4 < min 1024 (bytes.length + 1) ↔ 4 < bytes.length + 1 := by omega
      simp only [List.take_succ_cons, List.getD_cons_zero, hbyte, List.head?_cons,
        Option.some.injEq, List.length_cons, hcut]

omit [Field K] [LinearOrder K] [FloorRing K] in
/-- A signed `char` is at most 127. -/
theorem correction_signed (e : Event K) : correction .signed e = none := by
  have hsmall : (e.received.getD 0 0).toInt8.toInt < 2 ^ 7 := Int8.toInt_lt _
  refine if_neg fun h => ?_
  have hfirst : (e.received.getD 0 0).toInt8.toInt = 0xD3 := (Event.kind_correction_iff.mp h).2
  omega

/-- **What the receivers get.** In every run that does not fault, and whatever else was
received: with an unsigned `char` exactly the corrections, once each and in their order; with a
signed one nothing. -/
theorem corrections_forwarded (char : PlainChar) (s : Settings)
    (memory : Vector UInt8 maxUdpSize) (key : Vector UInt8 16) (location : Nav.Point K)
    (es : List (Event K)) (c' : Client) (h : thread char s memory key location es = .ok c') :
    c'.gps2 = c'.gps ∧ c'.gps = match char with
      | .unsigned => (es.map Event.datagram).filterMap rtcm
      | .signed => [] := by
  obtain ⟨c, hc, hrun⟩ := Loops.bind_ok h
  obtain ⟨hgps, hgps2⟩ := start_gps hc
  have hstep : ∀ (d : Client) (e : Event K) (d' : Client), step char s d e = .ok d' →
      d'.gps = d.gps ++ (correction char e).toList ∧ d'.gps2 = d.gps2 ++ (correction char e).toList :=
    fun _ _ _ h => step_gps h
  have h1 : c'.gps = es.filterMap (correction char) := by
    rw [Runs.run_log (fun d e d' h => (hstep d e d' h).1) hrun, hgps, List.nil_append, List.filterMap_eq_flatMap_toList]
  have h2 : c'.gps2 = es.filterMap (correction char) := by
    rw [Runs.run_log (fun d e d' h => (hstep d e d' h).2) hrun, hgps2, List.nil_append, List.filterMap_eq_flatMap_toList]
  refine ⟨h2.trans h1.symm, h1.trans ?_⟩
  cases char with
  | unsigned =>
    rw [List.filterMap_map]
    exact List.filterMap_congr fun e _ => correction_unsigned e
  | signed => exact List.filterMap_eq_nil_iff.mpr fun e _ => correction_signed e

/-- A correction of five bytes, and a silence. -/
theorem corrections_forwarded_sample : ∃ c', thread .unsigned sampleSettings
    (Vector.replicate maxUdpSize 0) (Vector.replicate 16 0) origin
      [⟨some [0xD3, 0, 1, 0, 9], origin⟩, ⟨none, origin⟩] = .ok c' ∧
    c'.gps2 = c'.gps ∧ c'.gps = [[0xD3, 0, 1, 0, 9]] := by
  have hes : ∀ e ∈ [(⟨some [0xD3, 0, 1, 0, 9], origin⟩ : Event ℚ), ⟨none, origin⟩],
      (authText sampleSettings e.location).length < authBufferSize := by
    intro e he
    have hhere : e.location = origin := by
      rcases List.mem_pair.mp he with rfl | rfl <;> rfl
    rw [hhere]
    exact authText_sample
  obtain ⟨-, c', -, -, -, -, h⟩ := thread_total (Vector.replicate maxUdpSize 0)
    (Vector.replicate 16 0) authText_sample hes
  obtain ⟨hboth, hgps⟩ := corrections_forwarded .unsigned _ _ _ _ _ c' h
  exact ⟨c', h, hboth, hgps⟩

end Solarbot.Rtk.Client
