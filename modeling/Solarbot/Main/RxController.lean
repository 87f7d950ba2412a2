import Solarbot.Link.Crc16
import Solarbot.Main.Step

/-!
# The datagrams of the remote controller

`ReadRxControllerThread` receives every datagram into the same 32 bytes and reads them
as a `ControlFrame`, without a look at how many bytes there were. `receive` is one
datagram; what it does to the robot is the event `remote` of `step`, with the frame that
is in the buffer then (`receive_remote`). A datagram of the size of a `ControlFrame` or
more puts its own frame there. Behind a shorter one the rest is left of earlier
datagrams (`run_byte`), and `integrity_iff` says when that does harm.

Mirroring notes vs `Solarbot.cpp`:
- `recv` stores the front of the datagram and leaves the rest of `buff` as it is.
- `buff` has no initialiser, so it holds any bytes at first.
- A frame is read at the offsets of the packed struct. Its other fields are not read.
-/

namespace Solarbot.Main

open Link

/-- `sizeof(ControlFrame)`. -/
def sizeofControlFrame : Nat := 28

/-- The `ControlFrame` at the start of `bytes`. -/
def Robot.ControlFrame.ofBytes (bytes : List UInt8) : Robot.ControlFrame :=
  let b := fun i => bytes.getD i 0
  { leftSpeed := (le16 (b 4) (b 5)).toInt16.toInt
    rightSpeed := (le16 (b 6) (b 7)).toInt16.toInt
    command := (le16 (b 8) (b 9)).toNat + 65536 * (le16 (b 10) (b 11)).toNat
    value := (le16 (b 12) (b 13)).toNat + 65536 * (le16 (b 14) (b 15)).toNat }

/-- The thread: its buffer, and the robot it drives. -/
structure RxThread (D : Type) where
  buff : List UInt8
  robot : Robot D
  size : buff.length = 32

variable {D : Type}

namespace RxThread

/-- `rx_controller_sock.recv(buff, 32)`. -/
def recv (buff datagram : List UInt8) : List UInt8 :=
  datagram.take 32 ++ buff.drop datagram.length

theorem recv_length {buff : List UInt8} (h : buff.length = 32) (datagram : List UInt8) :
    (recv buff datagram).length = 32 := by
  rw [recv, List.length_append, List.length_take, List.length_drop, h]
  omega

/-- The frame in the buffer when the datagram was received. -/
def frame (t : RxThread D) (datagram : List UInt8) : Robot.ControlFrame :=
  .ofBytes (recv t.buff datagram)

/-- The motor driver. -/
def unit (t : RxThread D) : Nav.ControlUnit := t.robot.navigator.driver

/-- One pass of the loop of `Solarbot::ReadRxControllerThread`. -/
def receive (t : RxThread D) (datagram : List UInt8) : RxThread D :=
  { buff := recv t.buff datagram
    robot := t.robot.readRxController (t.frame datagram)
    size := recv_length t.size datagram }

/-- The pass, as a relation. -/
def Receive (t : RxThread D) (datagram : List UInt8) (t' : RxThread D) : Prop :=
  t' = t.receive datagram

/-- The pass is the event `remote` of the robot. -/
theorem receive_remote [Nav.Dbl D] (t : RxThread D) (datagram : List UInt8) :
    step t.robot (.remote (t.frame datagram)) = .ok (t.receive datagram).robot := by
  rw [step, receive]
  rfl

/-! ## What is in the buffer -/

theorem recv_getD (buff datagram : List UInt8) {k : Nat} (hk : k < 32) :
    (recv buff datagram).getD k 0 = datagram.getD k (buff.getD k 0) := by
  unfold recv
  by_cases hd : k < datagram.length
  · rw [List.getD_append _ _ _ _ (by rw [List.length_take]; omega),
      List.getD_eq_getElem _ _ (by rw [List.length_take]; omega), List.getElem_take,
      List.getD_eq_getElem _ _ hd]
  · rw [List.take_of_length_le (by omega), List.getD_append_right _ _ _ _ (by omega),
      List.getD_eq_default datagram _ (by omega), List.getD_eq_getElem?_getD,
      List.getD_eq_getElem?_getD, List.getElem?_drop, Nat.add_sub_cancel' (by omega)]

/-- Byte `k` of the last datagram that has one, or else what was there before. -/
def lastByte (k : Nat) (before : UInt8) (datagrams : List (List UInt8)) : UInt8 :=
  datagrams.foldl (fun b datagram => datagram.getD k b) before

/-- **The buffer over a run.** -/
theorem run_byte (t : RxThread D) (datagrams : List (List UInt8)) {k : Nat} (hk : k < 32) :
    (datagrams.foldl receive t).buff.getD k 0 = lastByte k (t.buff.getD k 0) datagrams := by
  induction datagrams generalizing t with
  | nil => rfl
  | cons d ds ih =>
    rw [List.foldl_cons, ih, receive, recv_getD _ d hk]
    rfl

/-- A frame is read from the first sixteen bytes. -/
theorem ofBytes_congr {as bs : List UInt8} (h : ∀ k < 16, as.getD k 0 = bs.getD k 0) :
    Robot.ControlFrame.ofBytes as = Robot.ControlFrame.ofBytes bs := by
  unfold Robot.ControlFrame.ofBytes
  simp only [h, Nat.reduceLT]

/-- A whole frame is the one of its datagram. -/
theorem frame_full (t : RxThread D) {datagram : List UInt8}
    (h : sizeofControlFrame ≤ datagram.length) : t.frame datagram = .ofBytes datagram := by
  apply ofBytes_congr
  intro k hk
  have hlen : k < datagram.length := lt_of_lt_of_le (by unfold sizeofControlFrame; omega) h
  rw [recv_getD _ datagram (by omega), List.getD_eq_getElem _ _ hlen,
    List.getD_eq_getElem _ _ hlen]

/-! ## Integrity -/

/-- A datagram shorter than a frame leaves the driver alone, and a longer one acts as
the frame it holds. -/
structure Integrity (t : RxThread D) (datagram : List UInt8) (t' : RxThread D) : Prop where
  short : datagram.length < sizeofControlFrame → t'.unit = t.unit
  full : sizeofControlFrame ≤ datagram.length →
    t'.robot = t.robot.readRxController (.ofBytes datagram)

/-- No datagram shorter than a frame leaves bytes in the buffer that drive, or that
release a driver the controller holds. -/
def Harmless (t : RxThread D) (datagram : List UInt8) (_ : RxThread D) : Prop :=
  datagram.length < sizeofControlFrame →
    ¬ (t.frame datagram).Drives ∧
      ((t.frame datagram).Releases → t.unit.remoteControllerActivate = false)

theorem integrity_iff_harmless {t t' : RxThread D} {datagram : List UInt8}
    (h : t.Receive datagram t') : t.Integrity datagram t' ↔ t.Harmless datagram t' := by
  subst h
  obtain ⟨d, hd, hcases⟩ := Robot.readRxController_cases t.robot (t.frame datagram)
  have hunit : (t.receive datagram).unit = d := by rw [unit, receive, hd]
  constructor
  · intro hint hshort
    have hsame := hint.short hshort
    rw [hunit] at hsame
    rcases hcases with ⟨hdrives, rfl⟩ | ⟨hrel, rfl⟩ | ⟨hnot, hnrel, rfl⟩
    · -- a command was written
      have := congrArg (fun u => u.written.length) hsame
      simp [Nav.ControlUnit.remoteControllerWrite, Nav.ControlUnit.directWrite, unit] at this
    · -- the driver was released, which shows when it was held
      constructor
      · intro hdrives
        exact hrel.2 hdrives.2
      · intro _
        rw [← hsame]
        rfl
    · refine ⟨hnot, ?_⟩
      intro hrel
      exact absurd hrel hnrel
  · intro hharm
    constructor
    · intro hshort
      obtain ⟨hnot, hheld⟩ := hharm hshort
      rw [hunit]
      rcases hcases with ⟨hdrives, -⟩ | ⟨hrel, rfl⟩ | ⟨-, -, rfl⟩
      · exact absurd hdrives hnot
      · rw [Nav.ControlUnit.release, ← hheld hrel]
        rfl
      · rfl
    · intro hfull
      rw [← frame_full t hfull]
      rfl

/-- **Datagram integrity.** Whatever is in the buffer at first, the datagrams of a run
drive as their own frames say exactly when none of the short ones does harm. -/
theorem integrity_iff (t : RxThread D) (datagrams : List (List UInt8)) :
    Runs.Steps Receive Integrity t datagrams ↔ Runs.Steps Receive Harmless t datagrams :=
  Runs.Steps.congr_all (fun _ _ _ h => integrity_iff_harmless h) t datagrams

/-! ## An empty datagram behind a frame that drives -/

/-- Both speeds are 100. -/
def sampleDrive : List UInt8 :=
  [0, 0, 1, 0, 100, 0, 100, 0, 0x02, 0x73, 0, 0, 1, 0, 0, 0, 0, 0, 0, 0, 0, 0, 0, 0, 0, 0, 0, 0]

example : Robot.ControlFrame.ofBytes sampleDrive = ⟨100, 100, 0x7302, 1⟩ := by decide

noncomputable def sampleThread : RxThread ℝ where
  buff := List.replicate 32 0
  robot := (plainConfig "standby".toList none).constructed
  size := List.length_replicate

/-- The empty datagram drives once more with the speeds of the one before. -/
theorem empty_drives :
    ¬ Runs.Steps Receive Integrity sampleThread [sampleDrive, []] := by
  intro h
  have hstep := ((h _ rfl).2 _ rfl).1
  rw [integrity_iff_harmless rfl] at hstep
  have hframe : (sampleThread.receive sampleDrive).frame [] = .ofBytes sampleDrive :=
    frame_full sampleThread (by decide)
  refine (hstep (by decide)).1 ?_
  rw [hframe]
  exact ⟨by decide, by decide⟩

end RxThread

end Solarbot.Main
