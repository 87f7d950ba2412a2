import Solarbot.SharedGeoImage.Region

/-!
# What a `Read` returns

The semaphore tells the reader that a `Write` has posted; it does not keep the sender
out of the region while the reader is in it, and its first count belongs to no `Write`
at all. A `Read` returns one `Write` when the two do not overtake each other (`Apart`):
behind the reader the sender may go on with the next `Write`, but not past what is still
to be loaded; a reader that has found the latitude of the `Write` under way has to stay
behind the sender, and may load the image when this `Write` has posted.

`read_consistent` says so of every interleaving. The invariant has two halves. What holds
of every run (`Inv`): in the region, the item that was stored `k` times holds what the
`k`-th `Write` stored. What holds while the two keep apart (`InStep`): the loads of a `Read`
are all of the same `Write`.
-/

namespace Solarbot.SharedGeoImage

variable {D : Type} {s s' : Shared D} {id₀ : UInt8}

/-! ## The order of the items -/

namespace Item

/-- Items are told apart by their place. -/
theorem index_inj {f g : Item} : f.index = g.index → f = g := by
  cases f <;> cases g <;> decide

/-- The next store is one place further. -/
theorem next_some {f g : Item} : f.next = some g → g.index = f.index + 1 := by
  cases f <;> cases g <;> decide

/-- The image is stored last. -/
theorem next_none {f : Item} : f.next = none → f = .image := by
  cases f <;> decide

/-- Only an item behind the position is stored next. -/
theorem index_lt_succ {f g : Item} (h : g ≠ f) : g.index < f.index + 1 ↔ g.index < f.index := by
  have hne : g.index ≠ f.index := fun he => h (index_inj he)
  omega

/-- The items a `Read` loads. -/
def Wanted (withId : Bool) (f : Item) : Prop := f = .idFrame → withId = true

instance (withId : Bool) (f : Item) : Decidable (Wanted withId f) :=
  inferInstanceAs (Decidable (_ → _))

/-- The items between two loads are not wanted. -/
theorem nextLoad_some {withId : Bool} {f g : Item} (hnext : f.nextLoad withId = some g) :
    Wanted withId g ∧ ∀ h : Item, h.index < g.index → Wanted withId h → h ≠ f →
      h.index < f.index := by
  refine ⟨?_, fun h => ?_⟩
  · revert hnext
    cases withId <;> cases f <;> cases g <;> decide
  · revert hnext
    cases withId <;> cases f <;> cases g <;> cases h <;> decide

/-- Loads go forward, too. -/
theorem nextLoad_index {withId : Bool} {f g : Item} :
    f.nextLoad withId = some g → f.index < g.index := by
  cases withId <;> cases f <;> cases g <;> decide

/-- The image is loaded last. -/
theorem nextLoad_none {withId : Bool} {f : Item} : f.nextLoad withId = none → f = .image := by
  cases withId <;> cases f <;> decide

end Item

/-- Only `IdFrame` depends on the counter. -/
theorem Args.value_congr (w : Args D) {f : Item} {a b : UInt8} (h : f = .idFrame → a = b) :
    w.value a f = w.value b f := by
  cases f with
  | idFrame => exact h rfl
  | latitude => rfl
  | longitude => rfl
  | heading => rfl
  | image => rfl

namespace Shared

open Item

/-- How often the sender has stored the item. -/
def stored (s : Shared D) (f : Item) : Nat := if s.past f then s.completed + 1 else s.completed

/-- The value is what the `k`-th `Write` stored in the item, if there is one. -/
def IsOf (id₀ : UInt8) (s : Shared D) (k : Nat) (f : Item) (v : f.Val D) : Prop :=
  1 ≤ k → ∃ w, s.writes[k - 1]? = some w ∧ v = w.value (id₀ + UInt8.ofNat k) f

/-- The loads of a `Read` that is about to load the item `f`. -/
structure Sound (id₀ : UInt8) (s : Shared D) (withId : Bool) (f : Item) (got : Loads D) :
    Prop where
  load : ∀ g l, got g = some l → s.IsOf id₀ l.source g l.value
  wanted : Wanted withId f
  before : ∀ g : Item, g.index < f.index → Wanted withId g → (got g).isSome
  only : ∀ g : Item, (got g).isSome → g.index < f.index

/-- The invariant. -/
structure Inv (id₀ : UInt8) (s : Shared D) : Prop where
  source : ∀ f, s.source f = s.stored f
  begun : s.writes.length = match s.sender with
    | .idle => s.completed
    | _ => s.completed + 1
  call : ∀ w f, s.sender = .storing w f → s.writes[s.completed]? = some w
  idFrame : s.idFrame = id₀ + UInt8.ofNat (s.source .idFrame)
  region : ∀ f, s.IsOf id₀ (s.source f) f (s.region f)
  loading : ∀ withId f got, s.reader = .loading withId f got → s.Sound id₀ withId f got

/-- A new region has no `Write` behind it. -/
theorem new_inv (region : (f : Item) → f.Val D) : (new region).Inv (new region).idFrame where
  source := fun _ => rfl
  begun := rfl
  call := fun _ _ h => absurd h (by simp [new])
  idFrame := by
    show _ = _ + UInt8.ofNat 0
    exact (UInt8.add_zero _).symm
  region := fun _ h => absurd (show 1 ≤ 0 from h) (by decide)
  loading := fun _ _ _ h => absurd h (by simp [new])

/-- Later calls of `Write` do not change what came from the earlier ones. -/
theorem IsOf.mono {k : Nat} {f : Item} {v : f.Val D} (h : s.IsOf id₀ k f v) {ws : List (Args D)}
    (hws : s'.writes = s.writes ++ ws) : s'.IsOf id₀ k f v := by
  intro hk
  obtain ⟨w, hget, hv⟩ := h hk
  refine ⟨w, ?_, hv⟩
  rw [hws, List.getElem?_append_left (List.getElem?_eq_some_iff.mp hget).1]
  exact hget

theorem Sound.mono {withId : Bool} {f : Item} {got : Loads D} (h : s.Sound id₀ withId f got)
    {ws : List (Args D)} (hws : s'.writes = s.writes ++ ws) : s'.Sound id₀ withId f got :=
  ⟨fun g l hl => (h.load g l hl).mono hws, h.wanted, h.before, h.only⟩

/-! ## One step -/

/-- `Write` is called. -/
theorem write_inv (h : s.Inv id₀) (hidle : s.sender = .idle) (w : Args D) :
    (s.next (.write w)).Inv id₀ := by
  have hbegun : s.writes.length = s.completed := by
    have hb := h.begun
    rw [hidle] at hb
    exact hb
  constructor
  · intro f
    have hpast : s.past f = false := by rw [past, hidle]
    have hsource := h.source f
    rw [stored, hpast] at hsource
    exact hsource
  · show (s.writes ++ [w]).length = s.completed + 1
    rw [List.length_append, hbegun]
    rfl
  · intro w' f hcall
    obtain ⟨rfl, rfl⟩ : w = w' ∧ Item.latitude = f := by
      have hcall : Sender.storing w .latitude = .storing w' f := hcall
      simpa using hcall
    show (s.writes ++ [w])[s.completed]? = some w
    rw [← hbegun, List.getElem?_concat_length]
  · exact h.idFrame
  · exact fun f => (h.region f).mono rfl
  · exact fun withId f got hr => (h.loading withId f got hr).mono rfl

/-- The items in front of the next store are stored. -/
theorem past_storing {w : Args D} {f : Item} (hcall : s.sender = .storing w f) (g : Item) :
    s.past g = decide (g.index < f.index) := by
  rw [past, hcall]

/-- Behind the store of the item `f`, what there is of this `Write`. -/
theorem put_past (s : Shared D) (w : Args D) (f g : Item) :
    (s.put w f).past g = decide (g.index < f.index + 1) := by
  rw [past]
  cases hnext : f.next with
  | some f' => simp only [put, hnext, next_some hnext]
  | none =>
    simp only [put, hnext]
    obtain rfl := next_none hnext
    cases g <;> decide

/-- A store counts for the items up to it. -/
theorem put_stored (s : Shared D) (w : Args D) (f g : Item) :
    (s.put w f).stored g = if g.index < f.index + 1 then s.completed + 1 else s.completed := by
  simp only [stored, put_past, decide_eq_true_eq]
  rfl

/-- The store of an item: it holds what this `Write` stores, and the others are as they
were. -/
theorem put_inv (h : s.Inv id₀) {w : Args D} {f : Item} (hcall : s.sender = .storing w f) :
    (s.put w f).Inv id₀ := by
  have hbegun : s.writes.length = s.completed + 1 := by
    have hb := h.begun
    rw [hcall] at hb
    exact hb
  have hstored : ∀ g, s.source g = if g.index < f.index then s.completed + 1 else s.completed := by
    intro g
    have hsource := h.source g
    simpa only [stored, past_storing hcall, decide_eq_true_eq] using hsource
  -- the counter is stored once a `Write`
  have hcount : f = .idFrame → s.idFrame + 1 = id₀ + UInt8.ofNat s.writes.length := by
    rintro rfl
    have hsource := hstored .idFrame
    rw [if_neg (lt_irrefl _)] at hsource
    rw [h.idFrame, hsource, hbegun, UInt8.ofNat_add, ← UInt8.add_assoc]
    rfl
  constructor
  · intro g
    rw [put_stored]
    show Function.update s.source f s.writes.length g = _
    by_cases hg : g = f
    · rw [hg, Function.update_self, if_pos (Nat.lt_succ_self _), hbegun]
    · rw [Function.update_of_ne hg, hstored g]
      simp only [index_lt_succ hg]
  · show s.writes.length = _
    rw [hbegun]
    cases hnext : f.next with
    | some f' => simp only [put, hnext]
    | none => simp only [put, hnext]
  · intro w' f' hcall'
    have hget := h.call w f hcall
    cases hnext : f.next with
    | some g =>
      simp only [put, hnext, Sender.storing.injEq] at hcall'
      exact hcall'.1 ▸ hget
    | none =>
      simp only [put, hnext] at hcall'
      exact absurd hcall' (by simp)
  · show (Function.update s.region f _ .idFrame : UInt8) =
      id₀ + UInt8.ofNat (Function.update s.source f s.writes.length .idFrame)
    by_cases hf : f = .idFrame
    · subst hf
      rw [Function.update_self, Function.update_self]
      exact hcount rfl
    · rw [Function.update_of_ne (Ne.symm hf), Function.update_of_ne (Ne.symm hf)]
      exact h.idFrame
  · intro g
    show s.IsOf id₀ (Function.update s.source f s.writes.length g) g
      (Function.update s.region f _ g)
    by_cases hg : g = f
    · subst hg
      rw [Function.update_self, Function.update_self]
      intro _
      refine ⟨w, ?_, w.value_congr hcount⟩
      rw [hbegun]
      exact h.call w g hcall
    · rw [Function.update_of_ne hg, Function.update_of_ne hg]
      exact h.region g
  · exact fun withId g got hr => (h.loading withId g got hr).mono (List.append_nil _).symm

/-- What a load leaves that is not the last one. -/
theorem get_loading {withId withId' : Bool} {f g : Item} {got got' : Loads D}
    (h : (s.get withId f got).reader = .loading withId' g got') : withId = withId' ∧
      f.nextLoad withId = some g ∧
      got' = Function.update got f (some ⟨s.region f, s.source f⟩) := by
  cases hnext : f.nextLoad withId with
  | none =>
    simp only [get, hnext] at h
    exact absurd h (by simp)
  | some f' =>
    simp only [get, hnext, Reader.loading.injEq] at h
    exact ⟨h.1, congrArg some h.2.1, h.2.2.symm⟩

/-- A load takes what the region holds. -/
theorem get_inv (h : s.Inv id₀) {withId : Bool} {f : Item} {got : Loads D}
    (hcall : s.reader = .loading withId f got) : (s.get withId f got).Inv id₀ := by
  refine ⟨h.source, h.begun, h.call, h.idFrame, h.region, ?_⟩
  intro withId' g got' hr
  have hsound := h.loading withId f got hcall
  obtain ⟨rfl, hnext, rfl⟩ := get_loading hr
  obtain ⟨hwanted, hbetween⟩ := nextLoad_some hnext
  have hlater := nextLoad_index hnext
  constructor
  · intro k l hl
    by_cases hk : k = f
    · subst hk
      rw [Function.update_self] at hl
      obtain rfl := Option.some.inj hl
      exact h.region k
    · rw [Function.update_of_ne hk] at hl
      exact hsound.load k l hl
  · exact hwanted
  · intro k hk hkw
    by_cases hkf : k = f
    · subst hkf
      rw [Function.update_self]
      rfl
    · rw [Function.update_of_ne hkf]
      exact hsound.before k (hbetween k hk hkw hkf) hkw
  · intro k hk
    by_cases hkf : k = f
    · exact hkf ▸ hlater
    · rw [Function.update_of_ne hkf] at hk
      exact (hsound.only k hk).trans hlater

/-- **One step** keeps the invariant. -/
theorem step_inv {e : Event D} (h : s.Inv id₀) (hs : s.Step e s') : s'.Inv id₀ := by
  obtain ⟨hen, rfl⟩ := hs
  cases e with
  | write w => exact write_inv h hen w
  | store =>
    obtain ⟨w, f, hcall⟩ := hen
    simp only [next, hcall]
    exact put_inv h hcall
  | post =>
    have hcall : s.sender = .posting := hen
    refine ⟨fun f => ?_, ?_, ?_, h.idFrame, h.region, fun withId f got hr => ?_⟩
    · have hpast : s.past f = true := by rw [past, hcall]
      have hsource := h.source f
      rw [stored, hpast] at hsource
      exact hsource
    · have hb := h.begun
      rw [hcall] at hb
      exact hb
    · exact fun w f hidle => absurd hidle (by simp [next])
    · exact (h.loading withId f got hr).mono (List.append_nil _).symm
  | wait withId =>
    refine ⟨h.source, h.begun, h.call, h.idFrame, h.region, ?_⟩
    intro withId' f got hr
    simp only [next, Reader.loading.injEq] at hr
    obtain ⟨rfl, rfl, rfl⟩ := hr
    exact ⟨fun g l hl => absurd hl (by simp), fun hf => absurd hf (by decide),
      fun g hg => absurd hg (Nat.not_lt_zero _), fun g hg => absurd hg Bool.false_ne_true⟩
  | timeout => exact h
  | load =>
    obtain ⟨withId, f, got, hcall⟩ := hen
    simp only [next, hcall]
    exact get_inv h hcall

end Shared

/-! ## The law and its condition -/

/-- The loads of a `Read` that returned are what one completed `Write` stored. -/
def FromOneWrite (id₀ : UInt8) (s : Shared D) (withId : Bool) (got : Loads D) : Prop :=
  ∃ k w, 1 ≤ k ∧ k ≤ s.completed ∧ s.writes[k - 1]? = some w ∧
    ∀ f, Item.Wanted withId f →
      ∃ l, got f = some l ∧ l.source = k ∧ l.value = w.value (id₀ + UInt8.ofNat k) f

/-- The law: a `Read` that returns 0 returns one completed `Write`. -/
def ReadsOneWrite (id₀ : UInt8) (_ : Shared D) (e : Event D) (s' : Shared D) : Prop :=
  e = .load → ∀ withId got, s'.reader = .returned withId got → FromOneWrite id₀ s' withId got

/-- The condition: the sender and a reader that has loaded the latitude do not overtake each other.
An item that the `Read` still has to load is stored only by a `Write` whose latitude the `Read` has,
and then the reader loads only what this `Write` has stored, and the image when it has posted. The
first latitude is one that a `Write` stored. -/
def Apart (s : Shared D) : Event D → Prop
  | .store =>
    match s.sender, s.reader with
    | .storing _ f, .loading withId g _ =>
      g ≠ .latitude → g.index ≤ f.index → Item.Wanted withId f → s.ahead = true
    | _, _ => True
  | .load =>
    match s.reader with
    | .loading _ g _ =>
      if g = .latitude then 0 < s.completed ∨ s.past .latitude = true
      else s.ahead = true → s.past g = true ∧ g ≠ .image
    | _ => True
  | _ => True

/-- The condition at a store beside a `Read`. -/
theorem apart_store {w : Args D} {f g : Item} {withId : Bool} {got : Loads D}
    (hapart : Apart s .store) (hs : s.sender = .storing w f) (hr : s.reader = .loading withId g got) :
    g ≠ .latitude → g.index ≤ f.index → Item.Wanted withId f → s.ahead = true := by
  simpa only [Apart, hs, hr] using hapart

/-- The condition at a load. -/
theorem apart_load {withId : Bool} {g : Item} {got : Loads D} (hapart : Apart s .load)
    (hr : s.reader = .loading withId g got) :
    if g = .latitude then 0 < s.completed ∨ s.past .latitude = true
    else s.ahead = true → s.past g = true ∧ g ≠ .image := by
  simpa only [Apart, hr] using hapart

namespace Shared

open Item

/-- The number of the `Write` that a `Read` loads. -/
def number (s : Shared D) : Nat := if s.ahead then s.completed + 1 else s.completed

/-- What is kept while the two keep apart. -/
structure InStep (s : Shared D) : Prop where
  ahead : s.ahead = true → s.past .latitude = true
  behind : ∀ withId f got, s.reader = .loading withId f got → f ≠ .latitude → s.ahead = false →
    ∀ g, s.past g = true → Wanted withId g → g.index < f.index
  loads : ∀ withId f got, s.reader = .loading withId f got → f ≠ .latitude →
    1 ≤ s.number ∧ ∀ g l, got g = some l → l.source = s.number

theorem new_inStep (region : (f : Item) → f.Val D) : (new region).InStep where
  ahead h := absurd h Bool.false_ne_true
  behind _ _ _ h := absurd h (by simp [new])
  loads _ _ _ h := absurd h (by simp [new])

/-- The latitude is stored first. -/
theorem past_latitude {f : Item} (h : s.past f = true) : s.past .latitude = true := by
  cases hsender : s.sender with
  | idle =>
    rw [past, hsender] at h
    cases h
  | storing w g =>
    rw [past_storing hsender, decide_eq_true_eq] at h ⊢
    exact (Nat.zero_le _).trans_lt h
  | posting => rw [past, hsender]

/-- A `Write` that begins has stored nothing yet. -/
theorem write_inStep (h : s.InStep) (hidle : s.sender = .idle) (w : Args D) :
    (s.next (.write w)).InStep := by
  have hbefore : ∀ f, s.past f = false := fun f => by rw [past, hidle]
  have hahead : s.ahead = false := by
    by_contra hne
    have hpast := h.ahead (Bool.eq_true_of_not_eq_false hne)
    rw [hbefore] at hpast
    cases hpast
  have hafter : ∀ f, (s.next (.write w)).past f = false := by
    intro f
    rw [past_storing (s := s.next (.write w)) rfl]
    exact decide_eq_false (Nat.not_lt_zero _)
  refine ⟨fun hc => ?_, fun _ _ _ _ _ _ g hg => ?_, h.loads⟩
  · rw [show (s.next (.write w)).ahead = s.ahead from rfl, hahead] at hc
    cases hc
  · rw [hafter] at hg
    cases hg

/-- The store of an item, which the reader has or is told to wait for. -/
theorem put_inStep (h : s.InStep) {w : Args D} {f : Item} (hcall : s.sender = .storing w f)
    (hapart : Apart s .store) : (s.put w f).InStep := by
  refine ⟨fun hc => ?_, fun withId g got hr hg hc k hk hwanted => ?_, h.loads⟩
  · rw [put_past]
    exact decide_eq_true (Nat.succ_pos _)
  · rw [put_past, decide_eq_true_eq, Nat.lt_succ_iff] at hk
    by_contra hlater
    have hahead : s.ahead = false := hc
    rcases hk.lt_or_eq with hlt | heq
    · refine hlater (h.behind withId g got hr hg hahead k ?_ hwanted)
      rw [past_storing hcall]
      exact decide_eq_true hlt
    · obtain rfl := index_inj heq
      have htrue := apart_store hapart hcall hr hg (not_lt.mp hlater) hwanted
      rw [hahead] at htrue
      cases htrue

/-- The post counts the `Write` under way as completed. -/
theorem post_inStep (h : s.InStep) (hcall : s.sender = .posting) : (s.next .post).InStep := by
  have hall : ∀ f, s.past f = true := fun f => by rw [past, hcall]
  -- a `Read` in progress has the latitude of this `Write`
  have hahead : ∀ {withId f got}, s.reader = .loading withId f got → f ≠ .latitude →
      s.ahead = true := by
    intro withId f got hr hf
    by_contra hne
    have himage := h.behind withId f got hr hf (Bool.eq_false_of_not_eq_true hne) .image (hall _)
      fun hc => absurd hc (by decide)
    revert himage
    cases f <;> decide
  refine ⟨fun hc => absurd hc Bool.false_ne_true, fun _ _ _ _ _ _ g hg => ?_,
    fun withId f got hr hf => ?_⟩
  · cases hg
  · have hsame : s.number = (s.next .post).number := if_pos (hahead hr hf)
    rw [← hsame]
    exact h.loads withId f got hr hf

/-- A load in step is of the same `Write` as the others. -/
theorem source_eq_number (hinv : s.Inv id₀) (h : s.InStep) {withId : Bool} {f : Item}
    {got : Loads D} (hcall : s.reader = .loading withId f got) (hf : f ≠ .latitude)
    (hguard : s.ahead = true → s.past f = true) : s.source f = s.number := by
  rw [hinv.source f, stored, number]
  cases hahead : s.ahead with
  | true => rw [hguard hahead]
  | false =>
    have hpast : ¬ s.past f = true := fun hc =>
      absurd (h.behind withId f got hcall hf hahead f hc (hinv.loading withId f got hcall).wanted)
        (lt_irrefl _)
    rw [if_neg hpast, if_neg Bool.false_ne_true]

/-- A load that keeps behind loads from the same `Write`. -/
theorem get_inStep (hinv : s.Inv id₀) (h : s.InStep) {withId : Bool} {f : Item} {got : Loads D}
    (hcall : s.reader = .loading withId f got) (hapart : Apart s .load) :
    (s.get withId f got).InStep := by
  have hguard := apart_load hapart hcall
  by_cases hf : f = .latitude
  · subst hf
    -- the latitude comes first: nothing has been loaded yet
    have hnone : ∀ g, (got g).isSome → False := fun g hg =>
      absurd ((hinv.loading withId _ got hcall).only g hg) (Nat.not_lt_zero _)
    refine ⟨id, fun withId' g got' hr hg hc k hk hwanted => ?_, fun withId' g got' hr hg => ?_⟩
    · exact absurd ((past_latitude (show s.past k = true from hk)).symm.trans hc) (by decide)
    · obtain ⟨-, -, rfl⟩ := get_loading hr
      have hnumber : (s.get withId .latitude got).number = s.stored .latitude := rfl
      rw [hnumber]
      refine ⟨?_, fun k l hl => ?_⟩
      · unfold stored
        split
        next => exact Nat.succ_pos _
        next hno => exact hguard.resolve_right hno
      · by_cases hk : k = .latitude
        · subst hk
          rw [Function.update_self] at hl
          obtain rfl := Option.some.inj hl
          exact hinv.source .latitude
        · rw [Function.update_of_ne hk] at hl
          exact (hnone k (Option.isSome_of_eq_some hl)).elim
  · rw [if_neg hf] at hguard
    -- a later item: the `Write` was settled by the latitude
    have hsame : (s.get withId f got).ahead = s.ahead := if_neg hf
    refine ⟨fun hc => h.ahead (hsame ▸ hc), fun withId' g got' hr hg hc k hk hwanted => ?_,
      fun withId' g got' hr hg => ?_⟩
    · obtain ⟨rfl, hnext, -⟩ := get_loading hr
      exact (h.behind withId f got hcall hf (hsame ▸ hc) k hk hwanted).trans (nextLoad_index hnext)
    · obtain ⟨-, -, rfl⟩ := get_loading hr
      have hnumber : (s.get withId f got).number = s.number := by rw [number, hsame, number]; rfl
      obtain ⟨hpos, hloads⟩ := h.loads withId f got hcall hf
      rw [hnumber]
      refine ⟨hpos, fun k l hl => ?_⟩
      by_cases hk : k = f
      · subst hk
        rw [Function.update_self] at hl
        obtain rfl := Option.some.inj hl
        exact source_eq_number hinv h hcall hf fun hc => (hguard hc).1
      · rw [Function.update_of_ne hk] at hl
        exact hloads k l hl

/-- **One step** of two that keep apart. -/
theorem step_inStep {e : Event D} (hinv : s.Inv id₀) (h : s.InStep) (hapart : Apart s e)
    (hs : s.Step e s') : s'.InStep := by
  obtain ⟨hen, rfl⟩ := hs
  cases e with
  | write w => exact write_inStep h hen w
  | store =>
    obtain ⟨w, f, hcall⟩ := hen
    simp only [next, hcall]
    exact put_inStep h hcall hapart
  | post => exact post_inStep h hen
  | wait withId =>
    refine ⟨h.ahead, fun withId' f got hr hf => ?_, fun withId' f got hr hf => ?_⟩
    · simp only [next, Reader.loading.injEq] at hr
      exact absurd hr.2.1.symm hf
    · simp only [next, Reader.loading.injEq] at hr
      exact absurd hr.2.1.symm hf
  | timeout => exact h
  | load =>
    obtain ⟨withId, f, got, hcall⟩ := hen
    simp only [next, hcall]
    exact get_inStep hinv h hcall hapart

/-- The last load: all are of one `Write`, and it has posted. -/
theorem readsOneWrite_of_inStep {e : Event D} (hinv : s.Inv id₀) (h : s.InStep)
    (hapart : Apart s e) (hs : s.Step e s') : ReadsOneWrite id₀ s e s' := by
  obtain ⟨hen, rfl⟩ := hs
  rintro rfl withId' got' hr
  obtain ⟨withId, f, got, hcall⟩ := hen
  have hguard := apart_load hapart hcall
  have hsound := hinv.loading withId f got hcall
  simp only [next, hcall] at hr ⊢
  cases hnext : f.nextLoad withId with
  | some g =>
    -- the call goes on
    simp only [get, hnext] at hr
    exact absurd hr (by simp)
  | none =>
    obtain rfl := nextLoad_none hnext
    obtain ⟨rfl, rfl⟩ : withId = withId' ∧ _ = got' := by
      simp only [get, hnext, Reader.returned.injEq] at hr
      exact hr
    have hposted : s.ahead = false := Bool.eq_false_of_not_eq_true fun hc => (hguard hc).2 rfl
    have hnumber : s.number = s.completed := by rw [number, hposted]; rfl
    obtain ⟨hpos, hloads⟩ := h.loads withId .image got hcall (by decide)
    have himage := source_eq_number hinv h hcall (by decide) fun hc => (hguard hc).1
    rw [hnumber] at hpos hloads himage
    obtain ⟨w, hget, hvalue⟩ := hinv.region .image (himage ▸ hpos)
    rw [himage] at hget hvalue
    refine ⟨s.completed, w, hpos, le_rfl, hget, fun g hg => ?_⟩
    by_cases hlast : g = .image
    · subst hlast
      exact ⟨_, Function.update_self .., himage, hvalue⟩
    · have hbefore : g.index < Item.image.index := by
        revert hlast
        cases g <;> decide
      obtain ⟨l, hl⟩ := Option.isSome_iff_exists.mp (hsound.before g hbefore hg)
      have hsource := hloads g l hl
      -- the same call as that of the image
      obtain ⟨w', hget', hvalue'⟩ := hsound.load g l hl (hsource ▸ hpos)
      rw [hsource] at hget' hvalue'
      obtain rfl := Option.some.inj (hget.symm.trans hget')
      exact ⟨l, by rw [Function.update_of_ne hlast]; exact hl, hsource, hvalue'⟩

end Shared

/-- **When every `Read` returns one `Write`.** In every interleaving of any number of
calls in which sender and reader keep apart, each `Read` that returns 0 returns what one completed
`Write` stored. -/
theorem read_consistent (region : (f : Item) → f.Val D) {es : List (Event D)}
    (hes : Runs.Along Shared.Step Apart (Shared.new region) es) :
    Runs.Steps Shared.Step (ReadsOneWrite (Shared.new region).idFrame) (Shared.new region) es := by
  refine Runs.Steps.guarded (I := fun s : Shared D => s.Inv (Shared.new region).idFrame ∧ s.InStep)
    ?_ ?_ hes ⟨Shared.new_inv region, Shared.new_inStep region⟩
  · intro s e s' h hapart hs
    exact ⟨Shared.step_inv h.1 hs, Shared.step_inStep h.1 h.2 hapart hs⟩
  · intro s e s' h hapart hs
    exact Shared.readsOneWrite_of_inStep h.1 h.2 hapart hs

/-- The memory of a new region. -/
def zeroRegion : (f : Item) → f.Val ℤ := (⟨0, 0, 0, []⟩ : Args ℤ).value 0

/-- A `Read` in which the sender comes back: it stores the next latitude when the reader has
loaded that of the first `Write`. -/
def followedRead : List (Event ℤ) :=
  .write ⟨40, -87, 90, [1, 2]⟩ :: List.replicate 5 .store ++ [.post, .wait true, .load,
    .write ⟨41, -88, 180, [3, 4]⟩, .store] ++ List.replicate 4 .load

/-- An event has one outcome. -/
theorem along_cons {e : Event D} {es : List (Event D)} (h : Apart s e)
    (hes : Runs.Along Shared.Step Apart (s.next e) es) :
    Runs.Along Shared.Step Apart s (e :: es) := by
  refine ⟨h, ?_⟩
  rintro _ ⟨-, rfl⟩
  exact hes

theorem read_consistent_followed :
    Runs.Steps Shared.Step (ReadsOneWrite (Shared.new zeroRegion).idFrame) (Shared.new zeroRegion)
      followedRead ∧
    ∃ got, (followedRead.foldl Shared.next (Shared.new zeroRegion)).reader = .returned true got ∧
      (got .latitude).map Load.value = some (40 : ℤ) := by
  refine ⟨read_consistent _ ?_, _, rfl, rfl⟩
  refine along_cons trivial (along_cons trivial (along_cons trivial (along_cons trivial ?_)))
  refine along_cons trivial (along_cons trivial (along_cons trivial (along_cons trivial ?_)))
  refine along_cons (.inl Nat.one_pos) (along_cons trivial ?_)
  refine along_cons (fun _ h => absurd h (by decide)) ?_
  have hload : ∀ {p : Prop}, false = true → p := fun h => absurd h Bool.false_ne_true
  exact along_cons hload (along_cons hload (along_cons hload (along_cons hload trivial)))

/-- A reader that comes first does not wait: it returns what nobody wrote. -/
theorem reader_first : ¬ Runs.Steps Shared.Step (ReadsOneWrite (Shared.new zeroRegion).idFrame)
    (Shared.new zeroRegion) (.wait true :: List.replicate 5 .load) := by
  intro h
  have hidle : ∀ withId f (got : Loads ℤ), (Shared.new zeroRegion).reader ≠ .loading withId f got := by
    simp [Shared.new]
  have hlatitude := (h _ ⟨⟨hidle, Nat.one_pos⟩, rfl⟩).2
  have hlongitude := (hlatitude _ ⟨⟨true, .latitude, _, rfl⟩, rfl⟩).2
  have hheading := (hlongitude _ ⟨⟨true, .longitude, _, rfl⟩, rfl⟩).2
  have hid := (hheading _ ⟨⟨true, .heading, _, rfl⟩, rfl⟩).2
  have himage := (hid _ ⟨⟨true, .idFrame, _, rfl⟩, rfl⟩).2
  -- the call has returned, and no `Write` has posted
  obtain ⟨k, w, hpos, hposted, -⟩ := (himage _ ⟨⟨true, .image, _, rfl⟩, rfl⟩).1 rfl true _ rfl
  have hposted : k ≤ 0 := hposted
  omega

end Solarbot.SharedGeoImage
