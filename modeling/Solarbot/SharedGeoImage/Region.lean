import Mathlib
import Solarbot.Lib.Runs

/-!
# `SharedGeoImage`: the shared region, its sender and its reader

Two processes map one region: a header with a semaphore, the position, the heading and
a frame counter, and an image behind it. `Write` stores item after item and posts
the semaphore; `Read` waits for the semaphore, for a second at most, and loads item
after item. Each store, load, post and wait is one step of `Step`, so that a run is
any interleaving of any number of calls.

Mirroring notes vs `SharedGeoImage.cpp`:
- The items are told apart by their name (`Item`), in the order in which both calls
  go through them; `IdFrame++` is one store.
- The semaphore is constructed with the count 1. The sender never waits for it.
- `Read` may be called without a place for `IdFrame`, which it then does not load.
- A `timed_wait` that runs out makes `Read` return `-2`, and changes nothing.

The history says where the values come from: `source` has, for each item, the
number of the `Write` that stored it last, and `writes` the arguments of all calls. `ahead` is the
order of two steps: whether the `Write` under way had stored the latitude when the reader loaded
it.
-/

namespace Solarbot.SharedGeoImage

/-- The items of the region: the members of `shared_memory_header` besides the
semaphore, and the image. -/
inductive Item
  | latitude | longitude | heading | idFrame | image
  deriving DecidableEq, Repr

namespace Item

/-- The values of an item; `D` is the type of the doubles. -/
def Val (D : Type) : Item → Type
  | .latitude => D
  | .longitude => D
  | .heading => D
  | .idFrame => UInt8
  | .image => List UInt8

/-- The place in the order of the stores and of the loads. -/
def index : Item → Nat
  | .latitude => 0
  | .longitude => 1
  | .heading => 2
  | .idFrame => 3
  | .image => 4

/-- The item `Write` stores next. -/
def next : Item → Option Item
  | .latitude => some .longitude
  | .longitude => some .heading
  | .heading => some .idFrame
  | .idFrame => some .image
  | .image => none

/-- The item `Read` loads next, with or without a place for `IdFrame`. -/
def nextLoad (withId : Bool) : Item → Option Item
  | .latitude => some .longitude
  | .longitude => some .heading
  | .heading => some (if withId then .idFrame else .image)
  | .idFrame => some .image
  | .image => none

end Item

variable {D : Type}

/-- The arguments of a `Write`. -/
structure Args (D : Type) where
  latitude : D
  longitude : D
  heading : D
  buff : List UInt8

/-- What a `Write` with these arguments leaves in an item, when its `IdFrame` is this. -/
def Args.value (w : Args D) (idFrame : UInt8) : (f : Item) → f.Val D
  | .latitude => w.latitude
  | .longitude => w.longitude
  | .heading => w.heading
  | .idFrame => idFrame
  | .image => w.buff

/-- Where the sender is in `Write`. -/
inductive Sender (D : Type)
  | idle
  | storing (w : Args D) (f : Item)
  | posting

/-- A loaded value, and the `Write` it comes from. -/
structure Load (α : Type) where
  value : α
  source : Nat

/-- What a `Read` has loaded. -/
abbrev Loads (D : Type) : Type := (f : Item) → Option (Load (f.Val D))

/-- Where the reader is in `Read`; `returned` is the call that returned 0. -/
inductive Reader (D : Type)
  | idle
  | loading (withId : Bool) (f : Item) (got : Loads D)
  | returned (withId : Bool) (got : Loads D)

structure Shared (D : Type) where
  /-- The count of the semaphore. -/
  mutex : Nat
  region : (f : Item) → f.Val D
  sender : Sender D
  reader : Reader D
  /-- The number of the `Write` that stored the item last. -/
  source : Item → Nat
  /-- The calls of `Write` begun so far. -/
  writes : List (Args D)
  /-- How many of them have posted. -/
  completed : Nat
  /-- The reader has loaded the latitude of the `Write` under way. -/
  ahead : Bool

/-- The constructed header, on what the memory held. -/
def Shared.new (region : (f : Item) → f.Val D) : Shared D :=
  { mutex := 1, region, sender := .idle, reader := .idle, source := fun _ => 0, writes := []
    completed := 0, ahead := false }

inductive Event (D : Type)
  /-- `Write` is called. -/
  | write (w : Args D)
  | store
  | post
  /-- `Read` is called and `timed_wait` returns true. -/
  | wait (withId : Bool)
  /-- `Read` is called and `timed_wait` runs out. -/
  | timeout
  | load

namespace Shared

variable (s : Shared D)

/-- The sender has stored the item in the `Write` under way. -/
def past (f : Item) : Bool :=
  match s.sender with
  | .idle => false
  | .storing _ g => f.index < g.index
  | .posting => true

/-- The events that can happen. -/
def Enabled : Event D → Prop
  | .write _ => s.sender = .idle
  | .store => ∃ w f, s.sender = .storing w f
  | .post => s.sender = .posting
  | .wait _ => (∀ withId f got, s.reader ≠ .loading withId f got) ∧ 0 < s.mutex
  | .timeout => ∀ withId f got, s.reader ≠ .loading withId f got
  | .load => ∃ withId f got, s.reader = .loading withId f got

/-- The member `IdFrame`. -/
def idFrame : UInt8 := s.region .idFrame

/-- The store of an item. -/
def put (w : Args D) (f : Item) : Shared D :=
  { s with
    region := Function.update s.region f (w.value (s.idFrame + 1) f)
    source := Function.update s.source f s.writes.length
    sender := match f.next with
      | some g => .storing w g
      | none => .posting }

/-- The load of an item; the last one ends the call. -/
def get (withId : Bool) (f : Item) (got : Loads D) : Shared D :=
  let got := Function.update got f (some ⟨s.region f, s.source f⟩)
  { s with
    ahead := if f = .latitude then s.past .latitude else s.ahead
    reader := match f.nextLoad withId with
      | some g => .loading withId g got
      | none => .returned withId got }

/-- What an event does. -/
def next : Event D → Shared D
  | .write w => { s with sender := .storing w .latitude, writes := s.writes ++ [w] }
  | .store =>
    match s.sender with
    | .storing w f => s.put w f
    | _ => s
  | .post =>
    { s with sender := .idle, mutex := s.mutex + 1, completed := s.completed + 1, ahead := false }
  | .wait withId => { s with mutex := s.mutex - 1, reader := .loading withId .latitude fun _ => none }
  | .timeout => s
  | .load =>
    match s.reader with
    | .loading withId f got => s.get withId f got
    | _ => s

/-- One step of the two processes. -/
def Step (s : Shared D) (e : Event D) (s' : Shared D) : Prop := s.Enabled e ∧ s' = s.next e

end Shared

end Solarbot.SharedGeoImage
