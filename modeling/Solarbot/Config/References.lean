import Solarbot.Config.ReadConf

/-!
# The references between the lines of the configuration

What `ReadConf` and the main loop rely on is in the lines of the file: a `ROI` and a
`CROP` need a vector that is not empty, a `ROI` needs its commas, and a detector or a
process needs a camera of its name. Nothing in the source asks for it.
`references_safe_iff` is the exact condition on the text.

`Names` is the part of the configuration that decides, and `Runs.run_ok_iff_view` the
rule: each line is judged by the names that the lines before it left.
-/

namespace Solarbot.Config

/-! ## The commas of a zone -/

/-- The commas of a text up to its zero. -/
def commas (p : List Char) : Nat := (p.takeWhile (· ≠ '\x00')).count ','

/-- Either there is no comma, or one less behind the first. -/
theorem strchr_comma (p : List Char) :
    (commas p = 0 ∧ CText.strchr ',' p = none) ∨
      ∃ q, CText.strchr ',' p = some q ∧ commas p = commas q.tail + 1 := by
  induction p with
  | nil => exact .inl ⟨rfl, rfl⟩
  | cons a p ih =>
    unfold commas CText.strchr
    by_cases hcomma : a = ','
    · subst hcomma
      refine .inr ⟨_, if_pos rfl, ?_⟩
      rw [List.takeWhile_cons_of_pos (by decide), List.count_cons_self]
      rfl
    · rw [if_neg hcomma]
      by_cases hzero : a = '\x00'
      · rw [if_pos hzero, List.takeWhile_cons_of_neg (by simp [hzero])]
        exact .inl ⟨rfl, rfl⟩
      · rw [if_neg hzero, List.takeWhile_cons_of_pos (by simp [hzero]),
          List.count_cons_of_ne hcomma]
        exact ih

/-- What needs `n` commas behind the next one. -/
theorem nextField_bind {α : Type} {f : List Char → Except ConfFault α} {n : Nat}
    (h : ∀ q, (∃ z, f q = .ok z) ↔ n ≤ commas q) (p : List Char) :
    (∃ z, (nextField p).bind f = .ok z) ↔ n + 1 ≤ commas p := by
  unfold nextField
  rcases strchr_comma p with ⟨hnone, hp⟩ | ⟨q, hp, hsome⟩
  · rw [hp, hnone]
    constructor
    · intro hz
      obtain ⟨_, hz⟩ := hz
      cases hz
    · intro hn
      exact absurd hn (Nat.not_succ_le_zero n)
  · rw [hp, hsome, Nat.add_le_add_iff_right]
    exact h q.tail

/-- A zone needs six commas. -/
theorem readZone_ok_iff (value : List Char) :
    (∃ zone, readZone value = .ok zone) ↔ 6 ≤ commas value := by
  unfold readZone
  refine nextField_bind (fun p => ?_) value
  refine nextField_bind (fun p => ?_) p
  refine nextField_bind (fun p => ?_) p
  refine nextField_bind (fun p => ?_) p
  refine nextField_bind (fun p => ?_) p
  refine nextField_bind (fun p => ?_) p
  exact iff_of_true ⟨_, rfl⟩ (Nat.zero_le _)

/-! ## The names -/

/-- The names in the configuration, in the order of their lines, and the indices that
the detectors and the processes have. -/
structure Names where
  cameras : List (List Char)
  detectors : List (List Char × Int)
  mappings : List (List Char × Int)

def Conf.names (conf : Conf) : Names :=
  { cameras := conf.realsenseCameras.map (·.name)
    detectors := conf.objectDetectors.map fun d => (d.cameraName, d.cameraId)
    mappings := conf.cropmappingProcesses.map fun p => (p.name, p.cameraIndex) }

/-- The camera that a key adds. -/
def cameraKey (key value : List Char) : Option (List Char) :=
  if key = "Camera".toList then (twoFields ',' value).map Prod.fst else none

/-- The camera that a line adds. -/
def cameraName (line : List Char) : Option (List Char) :=
  match entry line with
  | .keyed key value => cameraKey key value
  | _ => none

/-- The detector that a line adds. -/
def detectorName (line : List Char) : Option (List Char) :=
  match entry line with
  | .detector name => some name
  | _ => none

/-- The process that a line adds. -/
def mappingName (line : List Char) : Option (List Char) :=
  match entry line with
  | .mapping name => some name
  | _ => none

namespace Names

def next (n : Names) (line : List Char) : Names :=
  { cameras := n.cameras ++ (cameraName line).toList
    detectors := n.detectors ++ (detectorName line).toList.map (·, -1)
    mappings := n.mappings ++ (mappingName line).toList.map (·, -1) }

/-- What a key needs of the lines before it. -/
structure KeyOk (n : Names) (key value : List Char) : Prop where
  roi : key = "ROI".toList → 6 ≤ commas value ∧ n.detectors ≠ []
  crop : key = "CROP".toList → n.mappings ≠ []

/-- What a line needs of the lines before it. -/
def LineOk (n : Names) (line : List Char) : Prop :=
  ∀ key value, entry line = .keyed key value → n.KeyOk key value

/-- The names of a text are those of its lines. -/
theorem foldl_next (lines : List (List Char)) (n : Names) : lines.foldl next n =
    { cameras := n.cameras ++ lines.filterMap cameraName
      detectors := n.detectors ++ (lines.filterMap detectorName).map (·, -1)
      mappings := n.mappings ++ (lines.filterMap mappingName).map (·, -1) } := by
  induction lines generalizing n with
  | nil => simp
  | cons line lines ih =>
    have hcons : ∀ f : List Char → Option (List Char),
        (line :: lines).filterMap f = (f line).toList ++ lines.filterMap f := by
      intro f
      rw [List.filterMap_cons]
      cases f line <;> rfl
    rw [List.foldl_cons, ih, hcons, hcons, hcons]
    simp only [next, List.append_assoc, List.map_append]

end Names

/-! ## What a line does -/

/-- The last element, if there is one, is replaced by one that looks the same. -/
theorem replaceLast_cases {α β : Type} (f : α → β) (l : List α) (use : α → α)
    (huse : ∀ a, f (use a) = f a) :
    (l.map f = [] ∧ l.getLast? = none) ∨
      l.map f ≠ [] ∧ ∃ a, l.getLast? = some a ∧ (l.dropLast ++ [use a]).map f = l.map f := by
  cases h : l.getLast? with
  | none => exact .inl ⟨List.map_eq_nil_iff.mpr (List.getLast?_eq_none_iff.mp h), rfl⟩
  | some a =>
    refine .inr ⟨?_, a, rfl, ?_⟩
    · intro hnil
      rw [List.map_eq_nil_iff.mp hnil] at h
      cases h
    · conv_rhs => rw [← List.dropLast_append_getLast? a h]
      rw [List.map_append, List.map_append, List.map_singleton, List.map_singleton, huse]

/-- A zone needs a detector in front of it. -/
theorem pushZone_cases (conf : Conf) (zone : Zone) :
    (conf.names.detectors = [] ∧ conf.pushZone zone = .error .emptyBack) ∨
      conf.names.detectors ≠ [] ∧
        ∃ conf', conf.pushZone zone = .ok conf' ∧ conf'.names = conf.names := by
  have hlast := replaceLast_cases (fun d : DetectObject => (d.cameraName, d.cameraId))
    conf.objectDetectors (fun d => { d with zones := d.zones ++ [zone] }) fun _ => rfl
  unfold Conf.pushZone Conf.names
  rcases hlast with ⟨hnil, hnone⟩ | ⟨hne, detector, hsome, hsame⟩
  · rw [hnone]
    exact .inl ⟨hnil, rfl⟩
  · rw [hsome]
    exact .inr ⟨hne, _, rfl, congrArg (Names.mk _ · _) hsame⟩

/-- Parameters need a process in front of them. -/
theorem setParameters_cases (conf : Conf) (value : List Char) :
    (conf.names.mappings = [] ∧ conf.setParameters value = .error .emptyBack) ∨
      conf.names.mappings ≠ [] ∧
        ∃ conf', conf.setParameters value = .ok conf' ∧ conf'.names = conf.names := by
  have hlast := replaceLast_cases (fun p : CropmappingProcess => (p.name, p.cameraIndex))
    conf.cropmappingProcesses (fun p => { p with parameters := value }) fun _ => rfl
  unfold Conf.setParameters Conf.names
  rcases hlast with ⟨hnil, hnone⟩ | ⟨hne, proc, hsome, hsame⟩
  · rw [hnone]
    exact .inl ⟨hnil, rfl⟩
  · rw [hsome]
    exact .inr ⟨hne, _, rfl, congrArg (Names.mk _ _ ·) hsame⟩

/-- The names after a key: only a camera adds one. -/
def Conf.namesWith (conf : Conf) (key value : List Char) : Names :=
  { conf.names with cameras := conf.names.cameras ++ (cameraKey key value).toList }

theorem namesWith_of_ne {conf : Conf} {key value : List Char} (h : key ≠ "Camera".toList) :
    conf.namesWith key value = conf.names := by
  unfold Conf.namesWith cameraKey
  rw [if_neg h, Option.toList_none, List.append_nil]

/-- **A key** is read without a fault exactly when it has what it needs. -/
theorem readKey_cases (conf : Conf) (key value : List Char) :
    (conf.names.KeyOk key value ∧
      ∃ conf', conf.readKey key value = .ok conf' ∧ conf'.names = conf.namesWith key value) ∨
    (¬ conf.names.KeyOk key value ∧ ∃ fault, conf.readKey key value = .error fault) := by
  unfold Conf.readKey
  by_cases hid : key = "MyID".toList
  · subst hid
    refine .inl ⟨⟨fun h => absurd h (by decide), fun h => absurd h (by decide)⟩, _, if_pos rfl, ?_⟩
    exact (namesWith_of_ne (by decide)).symm
  rw [if_neg hid]
  by_cases hcamera : key = "Camera".toList
  · subst hcamera
    rw [if_pos rfl]
    refine .inl ⟨⟨fun h => absurd h (by decide), fun h => absurd h (by decide)⟩, ?_⟩
    unfold Conf.namesWith cameraKey
    rw [if_pos rfl]
    cases twoFields ',' value with
    | none => exact ⟨conf, rfl, by simp⟩
    | some fields => exact ⟨_, rfl, by simp [Conf.names]⟩
  rw [if_neg hcamera, namesWith_of_ne hcamera]
  by_cases hroi : key = "ROI".toList
  · subst hroi
    rw [if_pos rfl]
    -- a zone can fail by itself, or for want of a detector
    cases hzone : readZone value with
    | error fault =>
      refine .inr ⟨?_, fault, rfl⟩
      intro hok
      obtain ⟨zone, hz⟩ := (readZone_ok_iff value).mpr (hok.roi rfl).1
      rw [hzone] at hz
      cases hz
    | ok zone =>
      have hcommas := (readZone_ok_iff value).mp ⟨zone, hzone⟩
      rcases pushZone_cases conf zone with ⟨hnil, hfault⟩ | ⟨hne, hpush⟩
      · refine .inr ⟨?_, _, hfault⟩
        intro hok
        exact (hok.roi rfl).2 hnil
      · exact .inl ⟨⟨fun _ => ⟨hcommas, hne⟩, fun h => absurd h (by decide)⟩, hpush⟩
  rw [if_neg hroi]
  by_cases hcrop : key = "CROP".toList
  · subst hcrop
    rw [if_pos rfl]
    rcases setParameters_cases conf value with ⟨hnil, hfault⟩ | ⟨hne, hset⟩
    · refine .inr ⟨?_, _, hfault⟩
      intro hok
      exact hok.crop rfl hnil
    · exact .inl ⟨⟨fun h => absurd h (by decide), fun _ => hne⟩, hset⟩
  rw [if_neg hcrop]
  refine .inl ⟨⟨fun h => absurd h hroi, fun h => absurd h hcrop⟩, ?_⟩
  split
  · cases twoFields ':' value with
    | none => exact ⟨conf, rfl, rfl⟩
    | some fields => exact ⟨_, rfl, rfl⟩
  · split
    · exact ⟨_, rfl, rfl⟩
    · exact ⟨conf, rfl, rfl⟩

/-- **A line** is read without a fault exactly when the names before it allow it, and it
adds its own. -/
theorem readLine_cases (conf : Conf) (line : List Char) :
    (conf.names.LineOk line ∧
      ∃ conf', conf.readLine line = .ok conf' ∧ conf'.names = conf.names.next line) ∨
    (¬ conf.names.LineOk line ∧ ∃ fault, conf.readLine line = .error fault) := by
  unfold Conf.readLine Names.next cameraName detectorName mappingName
  -- only a key needs anything
  have hfree : (∀ key value, entry line ≠ .keyed key value) → conf.names.LineOk line := by
    intro h key value he
    exact absurd he (h key value)
  cases hentry : entry line with
  | skipped => exact .inl ⟨hfree (by simp [hentry]), conf, rfl, by simp⟩
  | detector name => exact .inl ⟨hfree (by simp [hentry]), _, rfl, by simp [Conf.names]⟩
  | mapping name => exact .inl ⟨hfree (by simp [hentry]), _, rfl, by simp [Conf.names]⟩
  | keyed key value =>
    have hok : conf.names.LineOk line ↔ conf.names.KeyOk key value := by
      constructor
      · intro h
        exact h key value hentry
      · intro h k v hkv
        obtain ⟨rfl, rfl⟩ := Entry.keyed.inj (hentry.symm.trans hkv)
        exact h
    rw [hok]
    rcases readKey_cases conf key value with ⟨hkey, conf', hread, hnames⟩ | hfault
    · refine .inl ⟨hkey, conf', hread, ?_⟩
      rw [hnames]
      simp [Conf.namesWith]
    · exact .inr hfault

/-- A line changes the names as its entry says. -/
theorem readLine_names (conf : Conf) (line : List Char) (conf' : Conf)
    (h : conf.readLine line = .ok conf') : conf'.names = conf.names.next line := by
  rcases readLine_cases conf line with ⟨-, m, hm, hnames⟩ | ⟨-, fault, hfault⟩
  · rw [← hnames, Except.ok.inj (hm.symm.trans h)]
  · cases hfault.symm.trans h

/-- A line is read when its entry can be. -/
theorem readLine_ok_iff (conf : Conf) (line : List Char) :
    (∃ conf', conf.readLine line = .ok conf') ↔ conf.names.LineOk line := by
  rcases readLine_cases conf line with ⟨hok, m, hm, -⟩ | ⟨hok, fault, hfault⟩
  · exact iff_of_true ⟨m, hm⟩ hok
  · constructor
    · intro hm
      obtain ⟨_, hm⟩ := hm
      cases hfault.symm.trans hm
    · intro h
      exact absurd h hok

/-- **The file** is read without a fault exactly when every line is allowed by the names
before it. -/
theorem readConf_ok_iff (text : List Char) : (∃ conf, Conf.readConf text = .ok conf) ↔
    ∀ before line after, CText.lines text = before ++ line :: after →
      (before.foldl Names.next ⟨[], [], []⟩).LineOk line :=
  Runs.run_ok_iff_view readLine_names readLine_ok_iff

/-- The names of a file that was read. -/
theorem readConf_names {text : List Char} {conf : Conf} (h : Conf.readConf text = .ok conf) :
    conf.names =
      { cameras := (CText.lines text).filterMap cameraName
        detectors := ((CText.lines text).filterMap detectorName).map (·, -1)
        mappings := ((CText.lines text).filterMap mappingName).map (·, -1) } := by
  have hview := Runs.run_view readLine_names h
  rw [Names.foldl_next] at hview
  simpa [Conf.names] using hview

/-! ## The cameras of the main loop -/

/-- An index that starts at `-1` is one of a camera exactly when there is a camera of the
name. -/
theorem cameraIndex_mem (conf : Conf) (name : List Char) :
    (0 ≤ (conf.cameraIndex name).elim (-1 : Int) (↑) ∧
      (conf.cameraIndex name).elim (-1 : Int) (↑) < conf.realsenseCameras.length) ↔
    name ∈ conf.names.cameras := by
  unfold Conf.cameraIndex Conf.names
  rw [List.mem_map]
  cases hfind : conf.realsenseCameras.findIdx? (·.name = name) with
  | none =>
    have hnone := List.findIdx?_eq_none_iff.mp hfind
    constructor
    · intro h
      exact absurd h.1 (by decide)
    · intro hmem
      obtain ⟨cam, hcam, hname⟩ := hmem
      exact absurd (hnone cam hcam) (by simp [hname])
  | some i =>
    obtain ⟨hi, hname, -⟩ := List.findIdx?_eq_some_iff_getElem.mp hfind
    refine iff_of_true ⟨Int.natCast_nonneg i, Int.ofNat_lt.mpr hi⟩ ?_
    exact ⟨_, List.getElem_mem hi, by simpa using hname⟩

/-- Every access of an iteration is to a camera. -/
def Conf.InRange (conf : Conf) : Prop :=
  ∀ navigates, ∀ i ∈ conf.lookUp.accesses navigates, 0 ≤ i ∧ i < conf.realsenseCameras.length

/-- Devices that were read with the index `-1`: the ones found have a camera of their name. -/
theorem lookedUp_iff (conf : Conf) {devices : List (List Char × Int)} (h : ∀ d ∈ devices, d.2 = -1) :
    (∀ i ∈ devices.map fun d => (conf.cameraIndex d.1).elim d.2 ((↑) : Nat → Int),
      0 ≤ i ∧ i < conf.realsenseCameras.length) ↔ ∀ d ∈ devices, d.1 ∈ conf.names.cameras := by
  rw [List.forall_mem_map]
  refine forall₂_congr fun d hd => ?_
  rw [h d hd]
  exact cameraIndex_mem conf d.1

/-- The indices that are looked up are in range exactly when the cameras are named. -/
theorem inRange_iff {conf : Conf} (hd : ∀ d ∈ conf.names.detectors, d.2 = -1)
    (hm : ∀ m ∈ conf.names.mappings, m.2 = -1) : conf.InRange ↔
    (∀ d ∈ conf.names.detectors, d.1 ∈ conf.names.cameras) ∧
      ∀ m ∈ conf.names.mappings, m.1 ∈ conf.names.cameras := by
  have hdetectors : conf.lookUp.objectDetectors.map (·.cameraId) =
      conf.names.detectors.map fun d => (conf.cameraIndex d.1).elim d.2 (↑) := by
    rw [Conf.lookUp, Conf.names, List.map_map, List.map_map]
    rfl
  have hmappings : conf.lookUp.cropmappingProcesses.map (·.cameraIndex) =
      conf.names.mappings.map fun m => (conf.cameraIndex m.1).elim m.2 (↑) := by
    rw [Conf.lookUp, Conf.names, List.map_map, List.map_map]
    rfl
  rw [← lookedUp_iff conf hd, ← lookedUp_iff conf hm, ← hdetectors, ← hmappings]
  constructor
  · intro h
    exact ⟨fun i hi => h false i (List.mem_append_left _ hi),
      fun i hi => h true i (List.mem_append_right _ hi)⟩
  · rintro ⟨hds, hms⟩ navigates i hi
    rcases List.mem_append.mp hi with hi | hi
    · exact hds i hi
    · cases navigates with
      | false => exact absurd hi (by simp)
      | true => exact hms i hi

/-! ## The condition on the text -/

/-- What the lines of the file need of each other. -/
structure WellReferenced (text : List Char) : Prop where
  /-- A `ROI` has six commas, and a detector is before it. -/
  roi : ∀ before line after value, CText.lines text = before ++ line :: after →
    entry line = .keyed "ROI".toList value →
      6 ≤ commas value ∧ ∃ l ∈ before, ∃ name, entry l = .detector name
  /-- A process is before a `CROP`. -/
  crop : ∀ before line after value, CText.lines text = before ++ line :: after →
    entry line = .keyed "CROP".toList value → ∃ l ∈ before, ∃ name, entry l = .mapping name
  /-- A detector has the name of a camera. -/
  detector : ∀ line ∈ CText.lines text, ∀ name, entry line = .detector name →
    ∃ l ∈ CText.lines text, cameraName l = some name
  /-- A process has the name of a camera. -/
  mapping : ∀ line ∈ CText.lines text, ∀ name, entry line = .mapping name →
    ∃ l ∈ CText.lines text, cameraName l = some name

theorem detectorName_eq_some {line name : List Char} :
    detectorName line = some name ↔ entry line = .detector name := by
  unfold detectorName
  cases entry line <;> simp

theorem mappingName_eq_some {line name : List Char} :
    mappingName line = some name ↔ entry line = .mapping name := by
  unfold mappingName
  cases entry line <;> simp

/-- A vector is not empty when a line has added something to it. -/
theorem added_ne_nil {f : List Char → Option (List Char)} {before : List (List Char)} :
    (before.filterMap f).map (·, (-1 : Int)) ≠ [] ↔ ∃ l ∈ before, ∃ name, f l = some name := by
  rw [Ne, List.map_eq_nil_iff, List.filterMap_eq_nil_iff, not_forall]
  simp only [Classical.not_imp, Option.ne_none_iff_exists', ← ne_eq]

/-- What is added has the index `-1`. -/
theorem added_index {f : List Char → Option (List Char)} {lines : List (List Char)} :
    ∀ d ∈ (lines.filterMap f).map (·, (-1 : Int)), d.2 = -1 := by
  intro d hd
  obtain ⟨name, -, rfl⟩ := List.mem_map.mp hd
  rfl

/-- What holds of all names that the lines add. -/
theorem forall_added {f : List Char → Option (List Char)} {lines : List (List Char)}
    {P : List Char → Prop} : (∀ d ∈ (lines.filterMap f).map (·, (-1 : Int)), P d.1) ↔
      ∀ l ∈ lines, ∀ name, f l = some name → P name := by
  rw [List.forall_mem_map, List.forall_mem_filterMap]

/-- What the lines before a line allow. -/
theorem lineOk_iff {before : List (List Char)} {line : List Char} :
    (before.foldl Names.next ⟨[], [], []⟩).LineOk line ↔
      (∀ value, entry line = .keyed "ROI".toList value →
        6 ≤ commas value ∧ ∃ l ∈ before, ∃ name, entry l = .detector name) ∧
      ∀ value, entry line = .keyed "CROP".toList value →
        ∃ l ∈ before, ∃ name, entry l = .mapping name := by
  have hdetectors := @added_ne_nil detectorName before
  have hmappings := @added_ne_nil mappingName before
  simp only [detectorName_eq_some] at hdetectors
  simp only [mappingName_eq_some] at hmappings
  rw [Names.foldl_next, ← hdetectors, ← hmappings]
  constructor
  · intro h
    constructor
    · intro value he
      exact (h _ value he).roi rfl
    · intro value he
      exact (h _ value he).crop rfl
  · intro hneeds key value he
    obtain ⟨hroi, hcrop⟩ := hneeds
    constructor
    · intro hk
      exact hroi value (hk ▸ he)
    · intro hk
      exact hcrop value (hk ▸ he)

/-- The file is read without a fault, and the main loop finds the cameras. -/
def ReferencesSafe (text : List Char) : Prop :=
  ∃ conf, Conf.readConf text = .ok conf ∧ conf.InRange

/-- **The references of the configuration** are safe exactly when the lines have what
they need. -/
theorem references_safe_iff (text : List Char) : ReferencesSafe text ↔ WellReferenced text := by
  have hread := readConf_ok_iff text
  simp only [lineOk_iff] at hread
  -- the names of a configuration that was read are those of the lines
  have hnames : ∀ conf, Conf.readConf text = .ok conf → (conf.InRange ↔
      (∀ line ∈ CText.lines text, ∀ name, entry line = .detector name →
        ∃ l ∈ CText.lines text, cameraName l = some name) ∧
      ∀ line ∈ CText.lines text, ∀ name, entry line = .mapping name →
        ∃ l ∈ CText.lines text, cameraName l = some name) := by
    intro conf hconf
    have hn := readConf_names hconf
    rw [inRange_iff (by rw [hn]; exact added_index) (by rw [hn]; exact added_index), hn]
    have hd := @forall_added detectorName (CText.lines text)
      (· ∈ (CText.lines text).filterMap cameraName)
    have hm := @forall_added mappingName (CText.lines text)
      (· ∈ (CText.lines text).filterMap cameraName)
    simp only [detectorName_eq_some, mappingName_eq_some, List.mem_filterMap] at hd hm
    simp only [List.mem_filterMap]
    exact and_congr hd hm
  constructor
  · intro hsafe
    obtain ⟨conf, hconf, hrange⟩ := hsafe
    have hlines := hread.mp ⟨conf, hconf⟩
    obtain ⟨hd, hm⟩ := (hnames conf hconf).mp hrange
    refine ⟨?_, ?_, hd, hm⟩
    · intro before line after value h he
      exact (hlines before line after h).1 value he
    · intro before line after value h he
      exact (hlines before line after h).2 value he
  · intro h
    obtain ⟨conf, hconf⟩ := hread.mpr fun before line after hs =>
      ⟨fun value he => h.roi before line after value hs he,
        fun value he => h.crop before line after value hs he⟩
    exact ⟨conf, hconf, (hnames conf hconf).mpr ⟨h.detector, h.mapping⟩⟩

/-- A zone before the detector it is for, and a detector for a camera that is not in
the file. -/
theorem references_fault :
    Conf.readConf "ROI=0,0,424,240,100,900,50\n".toList = .error .emptyBack ∧
    ¬ ReferencesSafe "ROI=0,0,424,240,100,900,50\n".toList ∧
    ¬ ReferencesSafe "ObjectDetectionCamera Left\n".toList := by
  have hback : Conf.readConf "ROI=0,0,424,240,100,900,50\n".toList = .error .emptyBack := by
    decide
  have hdetector : Conf.readConf "ObjectDetectionCamera Left\n".toList
      = .ok { objectDetectors := [{ cameraName := "Left".toList }] } := by decide
  refine ⟨hback, ?_, ?_⟩
  · intro hsafe
    obtain ⟨conf, hconf, -⟩ := hsafe
    cases hback.symm.trans hconf
  · intro hsafe
    obtain ⟨conf, hconf, hrange⟩ := hsafe
    obtain rfl := Except.ok.inj (hdetector.symm.trans hconf)
    exact absurd (hrange false (-1) (by decide)).1 (by decide)

end Solarbot.Config
