import Solarbot.Gps.Sentences

/-!
# The epochs of a receiver

Each epoch brings one RMC and one GGA sentence. `getLocation` waits until it has seen one
of each and does not ask which epoch they are of. So each call takes the next two, and
whether these belong together was decided by the very first sentence: a stream that starts
between the two sentences of an epoch gives every `Location` its quality from one epoch
and its position from another (`fixes_of_one_epoch`).
-/

namespace Solarbot.Gps

/-- Which of the two sentences of an epoch comes next. -/
inductive Turn
  | first | second
  deriving DecidableEq, Repr

namespace Turn

def kind (rmcFirst : Bool) : Turn → Kind
  | .first => if rmcFirst then .gprmc else .gpgga
  | .second => if rmcFirst then .gpgga else .gprmc

def next : Turn → Turn
  | .first => .second
  | .second => .first

/-- The epoch of the sentence behind this one. -/
def nextEpoch (e : Nat) : Turn → Nat
  | .first => e
  | .second => e + 1

end Turn

/-- The stream from the first or the second sentence of the epoch `e` on: one RMC and one
GGA sentence an epoch, in this order, with the time of the epoch. Sentences of
other kinds come anywhere. -/
def InEpochs (rmcFirst : Bool) (utc : Nat → List Char) : Turn → Nat → List Sentence → Prop
  | _, _, [] => True
  | turn, e, s :: ss =>
    if s.kind = .other then InEpochs rmcFirst utc turn e ss
    else s.kind = turn.kind rmcFirst ∧ s.epoch = e ∧ s.utc = utc e ∧
      InEpochs rmcFirst utc turn.next (turn.nextEpoch e) ss

instance (rmcFirst : Bool) (utc : Nat → List Char) :
    ∀ turn e ss, Decidable (InEpochs rmcFirst utc turn e ss)
  | _, _, [] => inferInstanceAs (Decidable True)
  | turn, e, s :: ss =>
    have := instDecidableInEpochs rmcFirst utc turn e ss
    have := instDecidableInEpochs rmcFirst utc turn.next (turn.nextEpoch e) ss
    inferInstanceAs (Decidable (if s.kind = .other then _ else _ ∧ _ ∧ _ ∧ _))

/-- What the successive calls of `getLocation` return, each with the sentences it has read;
`locations` are the structures they are called with. -/
def fixes : List Location → GPS → List Sentence → List (List Sentence × Location)
  | [], _, _ => []
  | location :: locations, g, ss =>
    match g.getLocation location (ss.map Sentence.line) with
    | .returned fix g rest =>
      let n := ss.length - rest.length
      (ss.take n, fix) :: fixes locations g (ss.drop n)
    | _ => []

/-- The parts of the `Location` are those of an RMC and a GGA sentence of one epoch. -/
def FromOneEpoch (ss : List Sentence) (fix : Location) : Prop :=
  ∃ rmc ∈ ss, ∃ gga ∈ ss, rmc.kind = .gprmc ∧ gga.kind = .gpgga ∧ rmc.epoch = gga.epoch ∧
    readGprmc rmc.line = some fix.toGprmc ∧ readGpgga gga.line = some fix.toGpgga

/-- The sentences `getLocation` takes something from. -/
def recognised (ss : List Sentence) : List Sentence := ss.filter (·.kind ≠ .other)

variable {g : GPS} {location : Location} {status : UInt8}

/-! ## One read -/

namespace GPS

/-- No `$` in the buffer, but at its front. -/
def Clean (g : GPS) : Prop := '$' ∉ g.portRxBuffer.tail

instance (g : GPS) : Decidable g.Clean := inferInstanceAs (Decidable (_ ∉ _))

/-- What is behind a line has no `$`. -/
theorem Clean.drop (h : g.Clean) {n : Nat} (hn : 0 < n) : '$' ∉ g.portRxBuffer.drop n := by
  intro hmem
  obtain ⟨n, rfl⟩ : ∃ k, n = k + 1 := ⟨n - 1, by omega⟩
  rw [← List.drop_tail] at hmem
  exact h (List.mem_of_mem_drop hmem)

/-- A sentence is at the front of the buffer when it was read. -/
theorem read_sentence (g : GPS) (s : Sentence) :
    (g.read s.line).portRxBuffer = s.line ++ g.portRxBuffer.drop s.line.length := by
  have htake : s.line.take serialPortRxBufferSize = s.line :=
    List.take_of_length_le Sentence.line_length
  rw [read, htake]

theorem line_pos (s : Sentence) : 0 < s.line.length := by simp [Sentence.line]

/-- A buffer that is clean stays so. -/
theorem Clean.read (h : g.Clean) (s : Sentence) : (g.read s.line).Clean := by
  rw [Clean, read_sentence]
  exact s.tail_plain (h.drop (line_pos s))

end GPS

/-- What the sentence does to the `Location`. -/
def Sentence.update (s : Sentence) (location : Location) : Location :=
  match s.kind with
  | .gprmc => (nmeaParseGprmc s.line location).getD location
  | .gpgga => (nmeaParseGpgga s.line location).getD location
  | .other => location

/-- **One pass** of the loop, on a sentence. -/
theorem locationLoop_sentence (hclean : g.Clean) (hstatus : status ≠ nmeaCompleted) (s : Sentence)
    (lines : List (List Char)) :
    g.locationLoop location status (s.line :: lines) =
      (g.read s.line).locationLoop (s.update location) (status ||| s.kind.type) lines := by
  have hbuffer := g.read_sentence s
  have htype : nmeaGetMessageType (g.read s.line).portRxBuffer = s.kind.type := by
    rw [hbuffer]
    exact s.messageType_sentence (hclean.drop (GPS.line_pos s))
  have hline : s.line ≠ [] := List.length_pos_iff.mp (GPS.line_pos s)
  rw [GPS.locationLoop, if_neg hstatus, if_neg hline, htype, Sentence.update]
  cases hkind : s.kind with
  | gprmc =>
    obtain ⟨rmc, halone, hrmc⟩ := s.readGprmc_line hkind
    rw [hbuffer, nmeaParseGprmc, nmeaParseGprmc, hrmc, halone]
    rfl
  | gpgga =>
    obtain ⟨gga, halone, hgga⟩ := s.readGpgga_line hkind
    rw [hbuffer, nmeaParseGpgga, nmeaParseGpgga, hgga, halone]
    rfl
  | other =>
    have hsame : status ||| Kind.other.type = status := by simp [Kind.type]
    rw [hsame]
    rfl

/-! ## One call -/

/-- Sentences that are passed over. -/
def Others (ss : List Sentence) : Prop := ∀ s ∈ ss, s.kind = .other

/-- Either nothing is taken from the stream, or there is a first sentence that is. -/
theorem next_recognised (ss : List Sentence) :
    Others ss ∨ ∃ o x rest, ss = o ++ x :: rest ∧ Others o ∧ x.kind ≠ .other := by
  cases hfind : ss.find? (·.kind ≠ .other) with
  | none =>
    left
    intro s hs
    simpa using List.find?_eq_none.mp hfind s hs
  | some x =>
    right
    obtain ⟨hx, o, rest, rfl, ho⟩ := List.find?_eq_some_iff_append.mp hfind
    exact ⟨o, x, rest, rfl, fun s hs => by simpa using ho s hs, by simpa using hx⟩

theorem recognised_others {o : List Sentence} (h : Others o) : recognised o = [] := by
  refine List.filter_eq_nil_iff.mpr ?_
  intro s hs
  simp [h s hs]

/-- Behind other sentences the next one is recognised first. -/
theorem recognised_append {o : List Sentence} (ho : Others o) {x : Sentence}
    (hx : x.kind ≠ .other) (rest : List Sentence) :
    recognised (o ++ x :: rest) = x :: recognised rest := by
  have hnone : o.filter (·.kind ≠ .other) = [] := recognised_others ho
  rw [recognised, List.filter_append, hnone, List.filter_cons_of_pos (by simpa using hx)]
  rfl

/-- With both kinds of sentences the loop is over. -/
theorem locationLoop_completed (g : GPS) (location : Location) (lines : List (List Char)) :
    g.locationLoop location nmeaCompleted lines = .returned location g lines := by
  cases lines with
  | nil => exact if_pos rfl
  | cons line lines => exact if_pos rfl

/-- Other sentences leave it where it is. -/
theorem locationLoop_others {o : List Sentence} (ho : Others o) (hstatus : status ≠ nmeaCompleted)
    (hclean : g.Clean) (lines : List (List Char)) :
    ∃ g' : GPS, g'.Clean ∧ g.locationLoop location status (o.map Sentence.line ++ lines) =
      g'.locationLoop location status lines := by
  induction o generalizing g with
  | nil => exact ⟨g, hclean, rfl⟩
  | cons s o ih =>
    have hs : s.kind = .other := ho s List.mem_cons_self
    have hupdate : s.update location = location := by rw [Sentence.update, hs]
    have hsame : status ||| s.kind.type = status := by simp [hs, Kind.type]
    rw [List.map_cons, List.cons_append, locationLoop_sentence hclean hstatus, hupdate, hsame]
    exact ih (fun t ht => ho t (List.mem_cons_of_mem _ ht)) (hclean.read s)

/-- The loop goes on to the next sentence it takes something from. -/
theorem locationLoop_next {o : List Sentence} (ho : Others o) (hstatus : status ≠ nmeaCompleted)
    (hclean : g.Clean) (x : Sentence) (rest : List Sentence) :
    ∃ g' : GPS, g'.Clean ∧
      g.locationLoop location status ((o ++ x :: rest).map Sentence.line) =
        g'.locationLoop (x.update location) (status ||| x.kind.type) (rest.map Sentence.line) := by
  obtain ⟨g', hclean', hg'⟩ :=
    @locationLoop_others g location status o ho hstatus hclean ((x :: rest).map Sentence.line)
  rw [List.map_append, hg', List.map_cons, locationLoop_sentence hclean' hstatus]
  exact ⟨_, hclean'.read x, rfl⟩

/-- When the stream ends, it waits. -/
theorem locationLoop_waits {o : List Sentence} (ho : Others o) (hstatus : status ≠ nmeaCompleted)
    (hclean : g.Clean) : g.locationLoop location status (o.map Sentence.line) = .waits := by
  obtain ⟨g', -, hg'⟩ := @locationLoop_others g location status o ho hstatus hclean []
  rw [List.append_nil] at hg'
  rw [hg']
  exact if_neg hstatus

/-- One kind alone does not complete the mask, and both do. -/
theorem Kind.type_ne_completed (k : Kind) : nmeaEmpty ||| k.type ≠ nmeaCompleted := by
  cases k <;> decide

/-- Two different kinds complete a fix. -/
theorem Kind.type_or {k k' : Kind} (hk : k ≠ .other) (hk' : k' ≠ .other) (h : k ≠ k') :
    nmeaEmpty ||| k.type ||| k'.type = nmeaCompleted := by
  revert hk hk' h
  cases k <;> cases k' <;> decide

/-- **A call** takes the next two sentences, when they are of different kinds. -/
theorem getLocation_returns (hclean : g.Clean) {o₁ o₂ : List Sentence} {x y : Sentence}
    (ho₁ : Others o₁) (ho₂ : Others o₂) (hx : x.kind ≠ .other) (hy : y.kind ≠ .other)
    (hxy : x.kind ≠ y.kind) (location : Location) (rest : List Sentence) :
    ∃ g' : GPS, g'.Clean ∧
      g.getLocation location ((o₁ ++ x :: (o₂ ++ y :: rest)).map Sentence.line) =
        .returned (y.update (x.update { location with status := 'I' })) g'
          (rest.map Sentence.line) := by
  have hempty : nmeaEmpty ≠ nmeaCompleted := by decide
  obtain ⟨g₁, hclean₁, hg₁⟩ := @locationLoop_next g { location with status := 'I' } nmeaEmpty o₁
    ho₁ hempty hclean x (o₂ ++ y :: rest)
  obtain ⟨g₂, hclean₂, hg₂⟩ := @locationLoop_next g₁ (x.update { location with status := 'I' })
    (nmeaEmpty ||| x.kind.type) o₂ ho₂ x.kind.type_ne_completed hclean₁ y rest
  refine ⟨g₂, hclean₂, ?_⟩
  rw [GPS.getLocation, hg₁, hg₂, Kind.type_or hx hy hxy, locationLoop_completed]

/-- It waits for the second one. -/
theorem getLocation_waits (hclean : g.Clean) {ss : List Sentence} (h : (recognised ss).length < 2)
    (location : Location) : g.getLocation location (ss.map Sentence.line) = .waits := by
  have hempty : nmeaEmpty ≠ nmeaCompleted := by decide
  rw [GPS.getLocation]
  rcases next_recognised ss with ho | ⟨o, x, rest, rfl, ho, hx⟩
  · exact locationLoop_waits ho hempty hclean
  · rw [recognised_append ho hx, List.length_cons] at h
    obtain ⟨g', hclean', hg'⟩ := @locationLoop_next g { location with status := 'I' } nmeaEmpty o
      ho hempty hclean x rest
    rw [hg']
    rcases next_recognised rest with hrest | ⟨o', y, rest, rfl, ho', hy⟩
    · exact locationLoop_waits hrest x.kind.type_ne_completed hclean'
    · rw [recognised_append ho' hy, List.length_cons] at h
      omega

/-! ## The two sentences of a call -/

namespace Sentence

variable {s : Sentence}

/-- What a sentence of the one kind changes. -/
theorem update_gprmc (h : s.kind = .gprmc) (location : Location) :
    ∃ rmc, readGprmc s.line = some rmc ∧ s.update location = { location with toGprmc := rmc } := by
  obtain ⟨rmc, halone, -⟩ := s.readGprmc_line h
  refine ⟨rmc, halone, ?_⟩
  rw [update, h]
  dsimp only
  rw [nmeaParseGprmc, halone]
  rfl

/-- And one of the other kind. -/
theorem update_gpgga (h : s.kind = .gpgga) (location : Location) :
    ∃ gga, readGpgga s.line = some gga ∧ s.update location = { location with toGpgga := gga } := by
  obtain ⟨gga, halone, -⟩ := s.readGpgga_line h
  refine ⟨gga, halone, ?_⟩
  rw [update, h]
  dsimp only
  rw [nmeaParseGpgga, halone]
  rfl

end Sentence

/-- What a call returns is from one epoch exactly when the two sentences it took are. -/
theorem fromOneEpoch_iff {o₁ o₂ : List Sentence} {x y : Sentence} (ho₁ : Others o₁)
    (ho₂ : Others o₂) (hx : x.kind ≠ .other) (hy : y.kind ≠ .other) (hxy : x.kind ≠ y.kind)
    (location : Location) :
    FromOneEpoch (o₁ ++ x :: (o₂ ++ [y])) (y.update (x.update location)) ↔ x.epoch = y.epoch := by
  -- only `x` and `y` are recognised
  have hmem : ∀ s ∈ o₁ ++ x :: (o₂ ++ [y]), s.kind ≠ .other → s = x ∨ s = y := by
    intro s hs hkind
    rcases List.mem_append.mp hs with hs | hs
    · exact absurd (ho₁ s hs) hkind
    · rcases List.mem_cons.mp hs with hs | hs
      · exact Or.inl hs
      · rcases List.mem_append.mp hs with hs | hs
        · exact absurd (ho₂ s hs) hkind
        · exact Or.inr (List.mem_singleton.mp hs)
  have hxmem : x ∈ o₁ ++ x :: (o₂ ++ [y]) := by simp
  have hymem : y ∈ o₁ ++ x :: (o₂ ++ [y]) := by simp
  constructor
  · intro hfix
    obtain ⟨rmc, hrmc, gga, hgga, hkrmc, hkgga, hepoch, -⟩ := hfix
    -- the two sentences of the fix are of different kinds, so they are these two
    have hne : rmc ≠ gga := by
      rintro rfl
      rw [hkrmc] at hkgga
      exact absurd hkgga (by decide)
    rcases hmem rmc hrmc (by simp [hkrmc]) with rfl | rfl
    · rcases hmem gga hgga (by simp [hkgga]) with rfl | rfl
      · exact absurd rfl hne
      · exact hepoch
    · rcases hmem gga hgga (by simp [hkgga]) with rfl | rfl
      · exact hepoch.symm
      · exact absurd rfl hne
  · intro hepoch
    cases hkx : x.kind with
    | other => exact absurd hkx hx
    | gprmc =>
      have hky : y.kind = .gpgga := by
        revert hxy hy
        rw [hkx]
        cases y.kind <;> simp
      obtain ⟨rmc, hrmc, hupdate⟩ := x.update_gprmc hkx location
      obtain ⟨gga, hgga, hupdate'⟩ := y.update_gpgga hky (x.update location)
      refine ⟨x, hxmem, y, hymem, hkx, hky, hepoch, ?_, ?_⟩
      · rw [hupdate', hupdate, hrmc]
      · rw [hupdate', hgga]
    | gpgga =>
      have hky : y.kind = .gprmc := by
        revert hxy hy
        rw [hkx]
        cases y.kind <;> simp
      obtain ⟨gga, hgga, hupdate⟩ := x.update_gpgga hkx location
      obtain ⟨rmc, hrmc, hupdate'⟩ := y.update_gprmc hky (x.update location)
      refine ⟨y, hymem, x, hxmem, hky, hkx, hepoch.symm, ?_, ?_⟩
      · rw [hupdate', hrmc]
      · rw [hupdate', hupdate, hgga]

/-! ## The stream -/

variable {rmcFirst : Bool} {utc : Nat → List Char} {turn : Turn} {e : Nat}

/-- The two sentences of an epoch are of different kinds. -/
theorem Turn.kind_next (turn : Turn) : turn.kind rmcFirst ≠ turn.next.kind rmcFirst := by
  cases turn <;> cases rmcFirst <;> decide

namespace InEpochs

/-- Other sentences do not count in an epoch. -/
theorem others {o : List Sentence} (ho : Others o) {ss : List Sentence}
    (h : InEpochs rmcFirst utc turn e (o ++ ss)) : InEpochs rmcFirst utc turn e ss := by
  induction o with
  | nil => exact h
  | cons s o ih =>
    rw [List.cons_append, InEpochs, if_pos (ho s List.mem_cons_self)] at h
    exact ih (fun t ht => ho t (List.mem_cons_of_mem _ ht)) h

/-- Two sentences on, the stream is at the same place in the next epoch. The two are of one
epoch if the first of them begins it. -/
theorem pair {o₁ o₂ rest : List Sentence} {x y : Sentence} (ho₁ : Others o₁) (ho₂ : Others o₂)
    (hx : x.kind ≠ .other) (hy : y.kind ≠ .other)
    (h : InEpochs rmcFirst utc turn e (o₁ ++ x :: (o₂ ++ y :: rest))) :
    x.kind ≠ y.kind ∧ (x.epoch = y.epoch ↔ turn = .first) ∧
      InEpochs rmcFirst utc turn (e + 1) rest := by
  have hhead := h.others ho₁
  rw [InEpochs, if_neg hx] at hhead
  obtain ⟨hkx, hex, -, hnext⟩ := hhead
  have hsecond := hnext.others ho₂
  rw [InEpochs, if_neg hy] at hsecond
  obtain ⟨hky, hey, -, hrest⟩ := hsecond
  have hkinds : x.kind ≠ y.kind := by
    rw [hkx, hky]
    exact turn.kind_next
  cases turn with
  | first => exact ⟨hkinds, iff_of_true (hex.trans hey.symm) rfl, hrest⟩
  | second =>
    have hey : y.epoch = e + 1 := hey
    exact ⟨hkinds, iff_of_false (by omega) (by decide), hrest⟩

end InEpochs

/-! ## All calls -/

/-- Where two sentences are recognised, they can be named. -/
theorem two_recognised {ss : List Sentence} (h : 2 ≤ (recognised ss).length) :
    ∃ o₁ x o₂ y rest, ss = o₁ ++ x :: (o₂ ++ y :: rest) ∧ Others o₁ ∧ Others o₂ ∧
      x.kind ≠ .other ∧ y.kind ≠ .other := by
  rcases next_recognised ss with ho | ⟨o₁, x, ss, rfl, ho₁, hx⟩
  · rw [recognised_others ho] at h
    exact absurd h (by simp)
  · rw [recognised_append ho₁ hx, List.length_cons] at h
    rcases next_recognised ss with ho | ⟨o₂, y, rest, rfl, ho₂, hy⟩
    · rw [recognised_others ho] at h
      exact absurd h (by simp)
    · exact ⟨o₁, x, o₂, y, rest, rfl, ho₁, ho₂, hx, hy⟩

/-- The first call of a row, and the others on the rest of the stream. -/
theorem fixes_cons (hclean : g.Clean) {o₁ o₂ : List Sentence} {x y : Sentence} (ho₁ : Others o₁)
    (ho₂ : Others o₂) (hx : x.kind ≠ .other) (hy : y.kind ≠ .other) (hxy : x.kind ≠ y.kind)
    (location : Location) (locations : List Location) (rest : List Sentence) :
    ∃ g' : GPS, g'.Clean ∧
      fixes (location :: locations) g (o₁ ++ x :: (o₂ ++ y :: rest)) =
        (o₁ ++ x :: (o₂ ++ [y]), y.update (x.update { location with status := 'I' })) ::
          fixes locations g' rest := by
  obtain ⟨g', hclean', hcall⟩ := getLocation_returns hclean ho₁ ho₂ hx hy hxy location rest
  refine ⟨g', hclean', ?_⟩
  have hsplit : o₁ ++ x :: (o₂ ++ y :: rest) = (o₁ ++ x :: (o₂ ++ [y])) ++ rest := by simp
  have hread : (o₁ ++ x :: (o₂ ++ y :: rest)).length - (rest.map Sentence.line).length =
      (o₁ ++ x :: (o₂ ++ [y])).length := by
    rw [hsplit, List.length_append, List.length_map]
    omega
  rw [fixes, hcall]
  dsimp only
  rw [hread, hsplit, List.take_left' rfl, List.drop_left' rfl]

/-- With less than two there is no fix. -/
theorem fixes_short (hclean : g.Clean) {ss : List Sentence} (h : (recognised ss).length < 2)
    (locations : List Location) : fixes locations g ss = [] := by
  cases locations with
  | nil => rfl
  | cons location locations => rw [fixes, getLocation_waits hclean h]

/-- From the beginning of an epoch on every call takes the two sentences of one. -/
theorem fixes_aligned (locations : List Location) :
    ∀ {g : GPS} {e : Nat} {ss : List Sentence}, g.Clean → InEpochs rmcFirst utc .first e ss →
      ∀ fix ∈ fixes locations g ss, FromOneEpoch fix.1 fix.2 := by
  induction locations with
  | nil => exact fun _ _ fix hfix => absurd hfix (by simp [fixes])
  | cons location locations ih =>
    intro g e ss hclean hss fix hfix
    by_cases hshort : (recognised ss).length < 2
    · rw [fixes_short hclean hshort] at hfix
      exact absurd hfix (by simp)
    · obtain ⟨o₁, x, o₂, y, rest, rfl, ho₁, ho₂, hx, hy⟩ := two_recognised (Nat.le_of_not_lt hshort)
      obtain ⟨hxy, hepoch, hrest⟩ := hss.pair ho₁ ho₂ hx hy
      obtain ⟨g', hclean', hfixes⟩ := fixes_cons hclean ho₁ ho₂ hx hy hxy location locations rest
      rw [hfixes] at hfix
      rcases List.mem_cons.mp hfix with rfl | hfix
      · exact (fromOneEpoch_iff ho₁ ho₂ hx hy hxy _).mpr (hepoch.mpr rfl)
      · exact ih hclean' hrest fix hfix

/-- From the second sentence of an epoch on the first call takes two that are not of one. -/
theorem fixes_misaligned {ss : List Sentence} (hclean : g.Clean)
    (hss : InEpochs rmcFirst utc .second e ss) (htwo : 2 ≤ (recognised ss).length) :
    ¬ ∀ locations, ∀ fix ∈ fixes locations g ss, FromOneEpoch fix.1 fix.2 := by
  intro hlaw
  obtain ⟨o₁, x, o₂, y, rest, rfl, ho₁, ho₂, hx, hy⟩ := two_recognised htwo
  obtain ⟨hxy, hepoch, -⟩ := hss.pair ho₁ ho₂ hx hy
  let location : Location := ⟨⟨0, 0, 0, 0, 0, 0, 'I'⟩, ⟨0, 0, 0, 0, 0, 0, 0⟩⟩
  obtain ⟨g', -, hfixes⟩ := fixes_cons hclean ho₁ ho₂ hx hy hxy location [] rest
  have hfirst := hlaw [location] _ (by rw [hfixes]; exact List.mem_cons_self)
  have hsame := hepoch.mp ((fromOneEpoch_iff ho₁ ho₂ hx hy hxy _).mp hfirst)
  exact absurd hsame (by decide)

/-- **When fixes are not mixed.** On a stream of epochs, whatever is between the sentences
and whatever the structures held before, every `Location` of every call is from one epoch
exactly when the stream starts with an epoch, or ends before a first call returns. -/
theorem fixes_of_one_epoch {ss : List Sentence} (hss : InEpochs rmcFirst utc turn e ss)
    (hclean : g.Clean) :
    (∀ locations, ∀ fix ∈ fixes locations g ss, FromOneEpoch fix.1 fix.2) ↔
      turn = .first ∨ (recognised ss).length < 2 := by
  constructor
  · intro hlaw
    cases turn with
    | first => exact Or.inl rfl
    | second =>
      right
      by_contra htwo
      exact fixes_misaligned hclean hss (Nat.le_of_not_lt htwo) hlaw
  · intro hor locations
    rcases hor with rfl | hshort
    · exact fixes_aligned locations hclean hss
    · intro fix hfix
      rw [fixes_short hclean hshort] at hfix
      exact absurd hfix (by simp)

/-- The end of one epoch, and the next one. -/
def sampleGga : Sentence where
  epoch := 0
  body := "GNGGA,101500.00,4000.0,N,00300.0,W,4,12,0.8,650,M,50,M,1,0".toList
  hi := '6'
  lo := 'B'
  dollar := by decide +kernel
  star := by decide +kernel
  zero := by decide +kernel
  fits := by decide
  hexadecimal := by decide
  checksum := by decide +kernel
  complete := by decide +kernel

def sampleRmc : Sentence where
  epoch := 1
  body := "GNRMC,101500.25,A,4000.1,N,00300.1,W,1.0,90,010124".toList
  hi := '1'
  lo := 'A'
  dollar := by decide +kernel
  star := by decide +kernel
  zero := by decide +kernel
  fits := by decide
  hexadecimal := by decide
  checksum := by decide +kernel
  complete := by decide +kernel

def sampleNextGga : Sentence where
  epoch := 1
  body := "GNGGA,101500.25,4000.1,N,00300.1,W,5,7,1.8,651,M,50,M,2,0".toList
  hi := '5'
  lo := 'A'
  dollar := by decide +kernel
  star := by decide +kernel
  zero := by decide +kernel
  fits := by decide
  hexadecimal := by decide
  checksum := by decide +kernel
  complete := by decide +kernel

def sampleUtc (e : Nat) : List Char :=
  if e = 0 then "101500.00".toList else "101500.25".toList

/-- A new object, on memory that was zero. -/
def sampleGps : GPS := ⟨List.replicate 256 '\x00'⟩

/-- From the beginning of an epoch the calls do what they are to do. -/
theorem fixes_of_one_epoch_sample :
    InEpochs true sampleUtc .first 1 [sampleRmc, sampleNextGga] ∧
      ∀ locations, ∀ fix ∈ fixes locations sampleGps [sampleRmc, sampleNextGga],
        FromOneEpoch fix.1 fix.2 := by
  have hss : InEpochs true sampleUtc .first 1 [sampleRmc, sampleNextGga] := by decide +kernel
  have hclean : sampleGps.Clean := by decide
  exact ⟨hss, (fixes_of_one_epoch hss hclean).mpr (Or.inl rfl)⟩

/-- A stream that starts behind the RMC sentence of an epoch: the first fix has the quality
of this epoch and the position of the next. -/
theorem fixes_mixed :
    InEpochs true sampleUtc .second 0 [sampleGga, sampleRmc, sampleNextGga] ∧
      ¬ ∀ locations, ∀ fix ∈ fixes locations sampleGps [sampleGga, sampleRmc, sampleNextGga],
        FromOneEpoch fix.1 fix.2 := by
  have hss : InEpochs true sampleUtc .second 0 [sampleGga, sampleRmc, sampleNextGga] := by
    decide +kernel
  exact ⟨hss, fixes_misaligned (by decide) hss (by decide +kernel)⟩

end Solarbot.Gps
