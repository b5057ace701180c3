import QcomCommon.CameraMetadataProofs
import QcomCommon.TransitionProofs

/-! # Who owns the metadata

    Any number of `CameraMetadata` objects and callers that hold buffers of
    their own, in any order of calls.  If the callers keep to what the header
    asks of them, no method uses or frees a buffer that is not there and no
    buffer has two owners (`metadata_owned`); none is lost while there is
    memory and nothing is handed to a locked object (`metadata_covered`); and
    what `getAndLock` gave stays as it is until the object is unlocked or
    destroyed, whatever is called (`locked_kept`).

    Two calls are left out that the header allows.  `append` of an object to
    itself uses a buffer that it has freed, if it has no room for its own
    entries twice (`append_self_bad_iff`); so does `update` with data at the
    first byte of the own buffer, which passes its check, if there is no room
    for the entry (`update_self_bad_iff`). -/

namespace QcomCameraMetadata

open QcomOwnership QcomTransition

variable {C : Type} (L : Library C)

/-- The objects, the buffers in variables of the callers, and the memory. -/
structure State (C : Type) where
  objects : Nat → Option Object
  raw : Nat → Option Nat
  mem : Mem C

/-- Where a pointer to a buffer is kept. -/
inductive Root where
  | object (i : Nat)
  | caller (k : Nat)
deriving DecidableEq

/-- Where an object or a caller points to. -/
def pointer (s : State C) : Root → Option Nat
  | .object i => (s.objects i).bind Object.mBuffer
  | .caller k => s.raw k

/-- A call, or what a caller does with a buffer of its own; `memory` says
    whether there is memory for a new buffer. -/
inductive Op (C : Type) where
  | create (i : Nat)
  | createSized (i entryCapacity dataCapacity : Nat) (memory : Bool)
  | createCopy (i j : Nat) (memory : Bool)
  | createFrom (i k : Nat)
  | destroy (i : Nat)
  | assign (i : Nat) (r : Root) (memory : Bool)
  | getAndLock (i : Nat)
  | unlock (i : Nat) (buffer : Option Nat)
  | release (i k : Nat)
  | clear (i : Nat)
  | acquire (i k : Nat)
  | acquireFrom (i j : Nat)
  | append (i : Nat) (r : Root) (memory : Bool)
  | sort (i : Nat)
  | update (i : Nat) (type : BitVec 8) (tag : BitVec 32) (data : List UInt8)
      (data_count : Nat) (inside : Option (Root × Nat)) (memory : Bool)
  | erase (i : Nat) (tag : BitVec 32)
  | swap (i j : Nat)
  | readFromParcel (i : Nat) (read : Except status_t (Option C))
  | allocateRaw (k : Nat) (c : Option C)
  | writeRaw (k : Nat) (c : C)
  | freeRaw (k : Nat)

/-- The buffer that data is in, told by a pointer to it, and the offset. -/
def inBuffer (s : State C) (inside : Option (Root × Nat)) :
    Option (Nat × Nat) :=
  inside.bind fun d => (pointer s d.1).map fun a => (a, d.2)

/-- An object and the memory behind a method. -/
def State.set (s : State C) (i : Nat) (p : Method C) : State C :=
  { s with objects := Function.update s.objects i (some p.1), mem := p.2 }

/-- A method of the object `i`. -/
def onObject (s : State C) (i : Nat) (f : Method C → Method C) :
    Option (State C) :=
  (s.objects i).map fun o => s.set i (f (o, s.mem))

/-- A constructor. -/
def onNew (s : State C) (i : Nat) (p : Method C) : Option (State C) :=
  if (s.objects i).isSome then none else some (s.set i p)

/-- `acquire(CameraMetadata&)`. -/
def acquireFrom (s : State C) (i j : Nat) : Option (State C) :=
  (s.objects i).bind fun o =>
    (s.objects j).bind fun other =>
      if o.mLocked then some s
      else
        let released := release other
        let s := { s with
          objects := Function.update s.objects j (some released.2) }
        onObject s i (QcomCameraMetadata.acquire released.1)

/-- `swap`; a locked object stays as it is. -/
def swap (s : State C) (i j : Nat) : Option (State C) :=
  (s.objects i).bind fun o =>
    (s.objects j).map fun other =>
      if o.mLocked then s
      else if other.mLocked then s
      else
        let objects := Function.update s.objects j
          (some { other with mBuffer := o.mBuffer })
        { s with
          objects := Function.update objects i
            (some { o with mBuffer := other.mBuffer }) }

/-- A call of a method, on the objects it names. -/
def step (s : State C) : Op C → Option (State C)
  | .create i => onNew s i (.new, s.mem)
  | .createSized i entryCapacity dataCapacity memory =>
      let mBuffer := allocate L memory entryCapacity dataCapacity s.mem
      onNew s i (⟨mBuffer.1, false⟩, mBuffer.2)
  | .createCopy i j memory =>
      (s.objects j).bind fun other =>
        let mBuffer := clone L memory other.mBuffer s.mem
        onNew s i (⟨mBuffer.1, false⟩, mBuffer.2)
  | .createFrom i k =>
      (onNew s i (acquire (s.raw k) (.new, s.mem))).map fun s =>
        { s with raw := Function.update s.raw k none }
  | .destroy i =>
      (s.objects i).map fun o =>
        { s with
          objects := Function.update s.objects i none
          mem := (destroy (o, s.mem)).2 }
  | .assign i r memory => onObject s i (assign L memory (pointer s r))
  | .getAndLock i => onObject s i fun p => ((getAndLock p.1).2, p.2)
  | .unlock i buffer => onObject s i fun p => ((unlock buffer p.1).2, p.2)
  | .release i k =>
      (s.objects i).map fun o =>
        { s with
          objects := Function.update s.objects i (some (release o).2)
          raw := Function.update s.raw k (release o).1 }
  | .clear i => onObject s i clear
  | .acquire i k =>
      (onObject s i (acquire (s.raw k))).map fun s =>
        { s with raw := Function.update s.raw k none }
  | .acquireFrom i j => acquireFrom s i j
  | .append i r memory =>
      match pointer s r with
      | none =>
          (s.objects i).map fun o =>
            if o.mLocked then s
            else { s with mem := { s.mem with bad := true } }
      | some other => onObject s i fun p => (append L memory other p).2
  | .sort i => onObject s i fun p => (sort L p).2
  | .update i type tag data data_count inside memory =>
      onObject s i fun p => (update L type memory tag data data_count
        (inBuffer s inside) p).2
  | .erase i tag => onObject s i fun p => (erase L tag p).2
  | .swap i j => swap s i j
  | .readFromParcel i read => onObject s i fun p => (readFromParcel read p).2
  | .allocateRaw k c =>
      if (s.raw k).isSome then none
      else
        let buffer := s.mem.allocate c
        some { s with
          raw := Function.update s.raw k buffer.1
          mem := buffer.2 }
  | .writeRaw k c =>
      (s.raw k).map fun a => { s with mem := s.mem.write a c }
  | .freeRaw k =>
      (s.raw k).map fun a =>
        { s with
          raw := Function.update s.raw k none
          mem := s.mem.free a }

/-- Objects and callers, from none on. -/
def metadata : TransSys (State C) (Op C) where
  init s := s = ⟨fun _ => none, fun _ => none, ⟨fun _ => none, 0, false⟩⟩
  step := step L

/-- What is asked of the callers: a buffer is released into a variable that has
    none, what is appended is there and is not the object's own, and no object
    is updated with data at the first byte of its own buffer. -/
def Contract (s : State C) : Op C → Prop
  | .release _ k => s.raw k = none
  | .append i r _ => r ≠ .object i ∧ pointer s r ≠ none
  | .update i _ _ _ _ inside _ => inside ≠ some (.object i, 0)
  | _ => True

/-- There is memory for larger buffers, and no locked object is given a buffer,
    which it would not take. -/
def Tidy (s : State C) : Op C → Prop
  | .acquire i k => s.raw k ≠ none → ∀ o ∈ s.objects i, o.mLocked = false
  | .append _ _ memory => memory = true
  | .update _ _ _ _ _ _ memory => memory = true
  | _ => True

instance decidableContract (s : State C) (op : Op C) :
    Decidable (Contract s op) := by
  cases op <;> dsimp only [Contract] <;> infer_instance

instance decidableTidy (s : State C) (op : Op C) : Decidable (Tidy s op) := by
  cases op <;> dsimp only [Tidy] <;> infer_instance

/-- The state of the ownership. -/
def StateOwned (s : State C) : Prop := Owned s.mem (pointer s)

/-- Every live buffer is held by an object or a caller. -/
def StateCovered (s : State C) : Prop := Covered s.mem (pointer s)

/-! ## The pointers behind a step -/

variable {L} {s s' : State C} {i j k : Nat} {o : Object}

theorem pointer_set (p : Method C) :
    pointer (s.set i p)
      = Function.update (pointer s) (.object i) p.1.mBuffer := by
  funext r
  cases r with
  | caller k => rfl
  | object j =>
      by_cases hj : j = i
      · subst hj
        simp [pointer, State.set]
      · rw [Function.update_of_ne fun h => hj (Root.object.inj h)]
        simp [pointer, State.set, Function.update_of_ne hj]

theorem pointer_raw (b : Option Nat) (m : Mem C) :
    pointer { s with raw := Function.update s.raw k b, mem := m }
      = Function.update (pointer s) (.caller k) b := by
  funext r
  cases r with
  | object i => rfl
  | caller j =>
      by_cases hj : j = k
      · subst hj
        simp [pointer]
      · rw [Function.update_of_ne fun h => hj (Root.caller.inj h)]
        exact Function.update_of_ne hj _ _

theorem pointer_destroy (m : Mem C) :
    pointer { s with objects := Function.update s.objects i none, mem := m }
      = Function.update (pointer s) (.object i) none := by
  funext r
  cases r with
  | caller k => rfl
  | object j =>
      by_cases hj : j = i
      · subst hj
        simp [pointer]
      · rw [Function.update_of_ne fun h => hj (Root.object.inj h)]
        simp [pointer, Function.update_of_ne hj]

theorem pointer_object (ho : s.objects i = some o) :
    pointer s (.object i) = o.mBuffer := by
  simp [pointer, ho]

theorem pointer_new (ho : s.objects i = none) :
    pointer s (.object i) = none := by
  simp [pointer, ho]

/-- Ownership is kept, and coverage if the callers are tidy. -/
structure Keeps (t : Prop) (s s' : State C) : Prop where
  owned : StateOwned s'
  covered : t → StateCovered s → StateCovered s'

theorem Keeps.refl {t : Prop} (h : StateOwned s) : Keeps t s s :=
  ⟨h, fun _ hc => hc⟩

theorem Keeps.trans {t : Prop} {s'' : State C} (h : Keeps t s s')
    (h' : Keeps t s' s'') : Keeps t s s'' :=
  ⟨h'.owned, fun ht hc => h'.covered ht (h.covered ht hc)⟩

theorem sound_object (h : StateOwned s) (ho : s.objects i = some o) :
    Sound (o, s.mem) :=
  ⟨h.bounded, pointer_object ho ▸ h.live (.object i)⟩

/-- An effect on one pointer. -/
theorem keeps_effect {t : Prop} (h : StateOwned s) {r : Root}
    {b' : Option Nat} (hp : pointer s' = Function.update (pointer s) r b')
    (heffect : Effect s.mem (pointer s r) s'.mem b')
    (htight : t → Tight s.mem (pointer s r) s'.mem b') :
    Keeps t s s' := by
  constructor
  · rw [StateOwned, hp]
    exact owned_effect h heffect
  · intro ht hc
    rw [StateCovered, hp]
    exact covered_effect hc (htight ht)

/-- A method that meets its specification. -/
theorem keeps_set {t : Prop} (h : StateOwned s) (ho : s.objects i = some o)
    {p : Method C} (hspec : Spec (o, s.mem) p)
    (hnoleak : t → NoLeak (o, s.mem) p) : Keeps t s (s.set i p) := by
  refine keeps_effect h (r := .object i) (pointer_set p) ?_ ?_
  · rw [pointer_object ho]
    exact hspec.effect
  · intro ht
    rw [pointer_object ho]
    exact hnoleak ht

theorem keeps_onObject {t : Prop} (h : StateOwned s)
    {f : Method C → Method C}
    (hspec : ∀ o, s.objects i = some o →
      Spec (o, s.mem) (f (o, s.mem)) ∧ (t → NoLeak (o, s.mem) (f (o, s.mem))))
    (hs : onObject s i f = some s') : Keeps t s s' := by
  obtain ⟨o, ho, rfl⟩ := Option.map_eq_some_iff.mp hs
  exact keeps_set h ho (hspec o ho).1 (hspec o ho).2

theorem onNew_cases {p : Method C} (hs : onNew s i p = some s') :
    s.objects i = none ∧ s' = s.set i p := by
  rw [onNew] at hs
  split at hs
  · exact nomatch hs
  · rename_i hnone
    exact ⟨Option.not_isSome_iff_eq_none.mp hnone, (Option.some.inj hs).symm⟩

/-- A new object with a buffer of its own. -/
theorem keeps_onNew {t : Prop} (h : StateOwned s) {p : Method C}
    (heffect : Effect s.mem none p.2 p.1.mBuffer)
    (htight : Tight s.mem none p.2 p.1.mBuffer)
    (hs : onNew s i p = some s') : Keeps t s s' := by
  obtain ⟨ho, rfl⟩ := onNew_cases hs
  refine keeps_effect h (r := .object i) (pointer_set p) ?_ ?_
  · rw [pointer_new ho]
    exact heffect
  · intro _
    rw [pointer_new ho]
    exact htight

/-- A move of a pointer. -/
theorem keeps_move {t : Prop} (h : StateOwned s) (r r' : Root)
    (hmem : s'.mem = s.mem)
    (hp : pointer s' = Function.update (Function.update (pointer s) r none) r'
      (pointer s r))
    (hempty : t → pointer s r' = none) : Keeps t s s' := by
  constructor
  · rw [StateOwned, hp, hmem]
    exact owned_move h
  · intro ht hc
    rw [StateCovered, hp, hmem]
    exact covered_move hc (hempty ht)

/-- An object that is not locked takes a buffer that is not its own over, once
    its own is freed. -/
theorem acquire_clear {b : Option Nat} {p : Method C} (h : Sound p)
    (hunlocked : p.1.mLocked = false) (hlive : Live p.2 b)
    (hother : ∀ a ∈ b, p.1.mBuffer ≠ some a) :
    acquire b p = ({ (clear p).1 with mBuffer := b }, (clear p).2) := by
  have heffect := (clear_spec h).1.effect
  have htouch : touchMaybe b (clear p).2 = (clear p).2 := by
    cases b with
    | none => rfl
    | some a =>
        refine Mem.touch_live ?_
        rw [heffect.frame a (hlive a rfl) (hother a rfl)]
        exact hlive a rfl
  simp only [acquire, hunlocked, Bool.false_eq_true, if_false, htouch]

/-- No other pointer is that of the object. -/
theorem pointer_ne (h : StateOwned s) (ho : s.objects i = some o) {r : Root}
    (hr : r ≠ .object i) : ∀ a ∈ pointer s r, o.mBuffer ≠ some a := by
  intro a ha hb
  exact hr (h.unique r (.object i) a ha ((pointer_object ho).trans hb))

/-! ## Each call -/

theorem set_set (p q : Method C) : (s.set i p).set i q = s.set i q := by
  simp only [State.set, Function.update_idem]

theorem set_same (ho : s.objects i = some o) : s.set i (o, s.mem) = s := by
  rw [State.set, ← ho, Function.update_eq_self]

/-- An object without a buffer takes that of a caller. -/
theorem keeps_take {t : Prop} (h : StateOwned s)
    (hempty : pointer s (.object i) = none) {p : Method C}
    (hmem : p.2 = s.mem) (hp : p.1.mBuffer = s.raw k) :
    Keeps t s { s.set i p with raw := Function.update s.raw k none } := by
  refine keeps_move h (.caller k) (.object i) hmem ?_
    fun _ => hempty
  have hraw := pointer_raw (s := s.set i p) (k := k) none p.2
  have hcomm := Function.update_comm (a := Root.caller k) (b := .object i)
    nofun none (s.raw k) (pointer s)
  rw [pointer_set, hp] at hraw
  exact hraw.trans hcomm.symm

theorem keeps_createFrom {t : Prop} (h : StateOwned s)
    (hs : step L s (.createFrom i k) = some s') : Keeps t s s' := by
  obtain ⟨s₁, hs₁, rfl⟩ := Option.map_eq_some_iff.mp hs
  obtain ⟨ho, rfl⟩ := onNew_cases hs₁
  have hlive : Live s.mem (s.raw k) := h.live (.caller k)
  have hsound : Sound (Object.new, s.mem) :=
    ⟨h.bounded, fun _ hb => nomatch hb⟩
  have hacquire := acquire_clear hsound rfl hlive fun _ _ => nofun
  rw [hacquire]
  exact keeps_take h (pointer_new ho) rfl rfl

/-- What `acquire` does: a locked object does not take the buffer, which the
    caller does not have any more. -/
theorem acquire_cases (h : StateOwned s)
    (hs : step L s (.acquire i k) = some s') :
    ∃ o, s.objects i = some o
      ∧ ((o.mLocked = true
          ∧ s' = { s with raw := Function.update s.raw k none })
        ∨ (o.mLocked = false ∧ s' = { s.set i
            ({ (clear (o, s.mem)).1 with mBuffer := s.raw k },
              (clear (o, s.mem)).2) with
            raw := Function.update s.raw k none })) := by
  obtain ⟨s₁, hs₁, rfl⟩ := Option.map_eq_some_iff.mp hs
  obtain ⟨o, ho, rfl⟩ := Option.map_eq_some_iff.mp hs₁
  have hlive : Live s.mem (s.raw k) := h.live (.caller k)
  refine ⟨o, ho, ?_⟩
  cases hlocked : o.mLocked with
  | true =>
      have hacquire : acquire (s.raw k) (o, s.mem) = (o, s.mem) := by
        rw [acquire, if_pos hlocked]
      refine .inl ⟨rfl, ?_⟩
      rw [hacquire, set_same ho]
  | false =>
      have hacquire := acquire_clear (sound_object h ho) hlocked hlive
        (pointer_ne h ho (r := .caller k) nofun)
      refine .inr ⟨rfl, ?_⟩
      rw [hacquire]
      rfl

theorem keeps_acquire (h : StateOwned s)
    (hs : step L s (.acquire i k) = some s') :
    Keeps (Tidy s (.acquire i k)) s s' := by
  obtain ⟨o, ho, ⟨hlocked, rfl⟩ | ⟨hlocked, rfl⟩⟩ := acquire_cases h hs
  · refine keeps_effect h (r := .caller k) (pointer_raw none s.mem)
      (effect_forget h.bounded) fun htidy => ?_
    have hnone : s.raw k = none := by
      by_contra hk
      exact absurd ((htidy hk o ho).symm.trans hlocked) (by decide)
    show Tight s.mem (s.raw k) s.mem none
    rw [hnone]
    exact .refl
  · obtain ⟨hspec, hnoleak⟩ := clear_spec (sound_object h ho)
    have hclear := keeps_set (t := Tidy s (.acquire i k)) h ho hspec
      fun _ => hnoleak
    have hcleared : pointer (s.set i (clear (o, s.mem))) (.object i) = none := by
      rw [pointer_set, Function.update_self]
      exact clear_mBuffer hlocked
    rw [← set_set (clear (o, s.mem))]
    exact hclear.trans (keeps_take hclear.owned hcleared rfl rfl)

/-- A buffer is moved into a variable of a caller that has none. -/
theorem keeps_release {t : Prop} (h : StateOwned s) (hk : s.raw k = none)
    (hs : step L s (.release i k) = some s') : Keeps t s s' := by
  obtain ⟨o, ho, rfl⟩ := Option.map_eq_some_iff.mp hs
  cases hlocked : o.mLocked with
  | true =>
      have hrelease : release o = (none, o) := if_pos hlocked
      have hobjects : Function.update s.objects i (some o) = s.objects := by
        rw [← ho, Function.update_eq_self]
      have hraw : Function.update s.raw k none = s.raw := by
        rw [← hk, Function.update_eq_self]
      rw [hrelease, hobjects, hraw]
      exact .refl h
  | false =>
      have hrelease : release o = (o.mBuffer, { o with mBuffer := none }) := by
        simp [release, hlocked]
      have hset := pointer_set (s := s) (i := i)
        ({ o with mBuffer := none }, s.mem)
      have hraw := pointer_raw (s := s.set i ({ o with mBuffer := none }, s.mem))
        (k := k) o.mBuffer s.mem
      rw [hset] at hraw
      rw [hrelease]
      refine keeps_move h (.object i) (.caller k) rfl ?_ fun _ => hk
      rw [pointer_object ho]
      exact hraw

/-- What `acquire` of another object does: nothing if the object is locked or
    the same; a locked one gives nothing, but the own buffer is freed; and any
    other gives its buffer. -/
theorem acquireFrom_cases (h : StateOwned s)
    (hs : acquireFrom s i j = some s') :
    s' = s ∨ ∃ o other, s.objects i = some o ∧ s.objects j = some other
      ∧ o.mLocked = false
      ∧ ((other.mLocked = true ∧ s' = s.set i (clear (o, s.mem)))
        ∨ (other.mLocked = false ∧ i ≠ j
          ∧ s' = (s.set j ({ other with mBuffer := none }, s.mem)).set i
            ({ (clear (o, s.mem)).1 with mBuffer := other.mBuffer },
              (clear (o, s.mem)).2))) := by
  obtain ⟨o, ho, hs⟩ := Option.bind_eq_some_iff.mp hs
  obtain ⟨other, hother, hs⟩ := Option.bind_eq_some_iff.mp hs
  split at hs
  · exact .inl (Option.some.inj hs).symm
  · rename_i hunlocked
    rw [Bool.not_eq_true] at hunlocked
    have hsound := sound_object h ho
    cases hlocked : other.mLocked with
    | true =>
        have hrelease : release other = (none, other) := if_pos hlocked
        have hobjects : Function.update s.objects j (some other)
            = s.objects := by
          rw [← hother, Function.update_eq_self]
        have hacquire := acquire_clear (b := none) hsound hunlocked
          (fun _ hb => nomatch hb) fun _ hb => nomatch hb
        have hcleared : ({ (clear (o, s.mem)).1 with mBuffer := none },
            (clear (o, s.mem)).2) = clear (o, s.mem) := by
          rw [← clear_mBuffer (p := (o, s.mem)) hunlocked]
        rw [hrelease] at hs
        simp only [hobjects] at hs
        obtain ⟨o', ho', rfl⟩ := Option.map_eq_some_iff.mp hs
        obtain rfl := Option.some.inj (ho.symm.trans ho')
        refine .inr ⟨o, other, ho, hother, hunlocked, .inl ⟨hlocked, ?_⟩⟩
        rw [hacquire, hcleared]
    | false =>
        have hrelease : release other
            = (other.mBuffer, { other with mBuffer := none }) := by
          simp [release, hlocked]
        rw [hrelease] at hs
        obtain ⟨o', ho', rfl⟩ := Option.map_eq_some_iff.mp hs
        by_cases hij : i = j
        · -- an object acquires its own buffer back
          subst hij
          obtain rfl := Option.some.inj (ho.symm.trans hother)
          obtain rfl : { o with mBuffer := none } = o' := by
            simpa using ho'
          have htouch : touchMaybe o.mBuffer s.mem = s.mem := by
            cases hb : o.mBuffer with
            | none => rfl
            | some a => exact Mem.touch_live (hsound.2 a hb)
          have hsame : { o with mLocked := false } = o := by
            rw [← hunlocked]
          have hback : acquire o.mBuffer ({ o with mBuffer := none }, s.mem)
              = (o, s.mem) := by
            simp only [acquire, clear, hunlocked, Bool.false_eq_true, if_false,
              htouch]
            exact congrArg (·, s.mem) hsame
          refine .inl ?_
          rw [hback]
          exact (set_set ({ o with mBuffer := none }, s.mem) (o, s.mem)).trans
            (set_same ho)
        · have hji : j ≠ i := Ne.symm hij
          obtain rfl : o = o' := by
            simpa [Function.update_of_ne hij, ho] using ho'
          have hlive : Live s.mem other.mBuffer :=
            pointer_object hother ▸ h.live (.object j)
          have hne := pointer_ne h ho (r := .object j)
            fun hr => hji (Root.object.inj hr)
          rw [pointer_object hother] at hne
          have hacquire := acquire_clear hsound hunlocked hlive hne
          refine .inr ⟨o, other, ho, hother, hunlocked,
            .inr ⟨hlocked, hij, ?_⟩⟩
          rw [hacquire]
          rfl

theorem keeps_acquireFrom {t : Prop} (h : StateOwned s)
    (hs : acquireFrom s i j = some s') : Keeps t s s' := by
  obtain rfl | ⟨o, other, ho, hother, hunlocked, hcase⟩ :=
    acquireFrom_cases h hs
  · exact .refl h
  · obtain ⟨hspec, hnoleak⟩ := clear_spec (sound_object h ho)
    have hclear := keeps_set (t := t) h ho hspec fun _ => hnoleak
    obtain ⟨_, rfl⟩ | ⟨_, hij, rfl⟩ := hcase
    · exact hclear
    · have hroots : Root.object j ≠ .object i :=
        fun hr => hij (Root.object.inj hr).symm
      have hgiven := pointer_set (s := s) (i := j)
        ({ other with mBuffer := none }, s.mem)
      have hmoved := pointer_set (s := s.set j
        ({ other with mBuffer := none }, s.mem)) (i := i)
        ({ (clear (o, s.mem)).1 with mBuffer := other.mBuffer },
          (clear (o, s.mem)).2)
      have hcomm := Function.update_comm (a := Root.object i) (b := .object j)
        hroots.symm (clear (o, s.mem)).1.mBuffer none (pointer s)
      have hptr : pointer (s.set i (clear (o, s.mem))) (.object j)
          = other.mBuffer := by
        rw [pointer_set, Function.update_of_ne hroots]
        exact pointer_object hother
      refine hclear.trans (keeps_move hclear.owned (.object j)
        (.object i) rfl ?_ fun _ => ?_)
      · rw [hmoved, hgiven, hptr, pointer_set, hcomm, Function.update_idem]
      · rw [pointer_set, Function.update_self]
        exact clear_mBuffer hunlocked

/-- What `swap` does: nothing if one of the objects is locked. -/
theorem swap_cases (hs : swap s i j = some s') :
    s' = s ∨ ∃ o other, s.objects i = some o ∧ s.objects j = some other
      ∧ o.mLocked = false ∧ other.mLocked = false
      ∧ s' = (s.set j ({ other with mBuffer := o.mBuffer }, s.mem)).set i
        ({ o with mBuffer := other.mBuffer }, s.mem) := by
  obtain ⟨o, ho, hs⟩ := Option.bind_eq_some_iff.mp hs
  obtain ⟨other, hother, rfl⟩ := Option.map_eq_some_iff.mp hs
  split
  · exact .inl rfl
  · rename_i hunlocked
    rw [Bool.not_eq_true] at hunlocked
    split
    · exact .inl rfl
    · rename_i hunlocked'
      rw [Bool.not_eq_true] at hunlocked'
      exact .inr ⟨o, other, ho, hother, hunlocked, hunlocked', rfl⟩

theorem keeps_swap {t : Prop} (h : StateOwned s)
    (hs : swap s i j = some s') : Keeps t s s' := by
  obtain rfl | ⟨o, other, ho, hother, _, _, rfl⟩ := swap_cases hs
  · exact .refl h
  · have hfirst := pointer_set (s := s) (i := j)
      ({ other with mBuffer := o.mBuffer }, s.mem)
    have hp := pointer_set (s := s.set j
      ({ other with mBuffer := o.mBuffer }, s.mem)) (i := i)
      ({ o with mBuffer := other.mBuffer }, s.mem)
    have hswap : pointer s ∘ Equiv.swap (.object i) (.object j)
        = Function.update (Function.update (pointer s) (.object j) o.mBuffer)
          (.object i) other.mBuffer := by
      rw [Equiv.comp_swap_eq_update, pointer_object ho, pointer_object hother]
    rw [hfirst] at hp
    replace hp := hp.trans hswap.symm
    constructor
    · rw [StateOwned, hp]
      exact owned_swap h _ _
    · intro _ hc
      rw [StateCovered, hp]
      exact covered_swap hc _ _

theorem keeps_append {r : Root} {memory : Bool} (h : StateOwned s)
    (hcontract : Contract s (.append i r memory))
    (hs : step L s (.append i r memory) = some s') :
    Keeps (Tidy s (.append i r memory)) s s' := by
  obtain ⟨hr, hsome⟩ := hcontract
  obtain ⟨other, hother⟩ := Option.ne_none_iff_exists'.mp hsome
  simp only [step, hother] at hs
  refine keeps_onObject h (fun o ho => ?_) hs
  exact append_spec (sound_object h ho) (h.live r other hother)
    (pointer_ne h ho hr other hother) memory

theorem keeps_lock {t : Prop} (h : StateOwned s)
    {f : Method C → Object} (hf : ∀ p, (f p).mBuffer = p.1.mBuffer)
    (hs : onObject s i (fun p => (f p, p.2)) = some s') : Keeps t s s' := by
  obtain ⟨o, ho, rfl⟩ := Option.map_eq_some_iff.mp hs
  have hsame : pointer (s.set i (f (o, s.mem), s.mem)) = pointer s := by
    rw [pointer_set, hf, ← pointer_object ho, Function.update_eq_self]
  constructor
  · rw [StateOwned, hsame]
    exact h
  · intro _ hc
    rw [StateCovered, hsame]
    exact hc

theorem unlock_mBuffer (buffer : Option Nat) (o : Object) :
    (unlock buffer o).2.mBuffer = o.mBuffer := by
  rw [unlock]
  split
  · rfl
  · split <;> rfl

/-- Data in a buffer is there. -/
theorem inBuffer_live (h : StateOwned s) (inside : Option (Root × Nat)) :
    Live s.mem ((inBuffer s inside).map Prod.fst) := by
  intro a ha
  obtain ⟨d, hd, rfl⟩ := Option.map_eq_some_iff.mp ha
  obtain ⟨⟨r, offset⟩, rfl, hr⟩ := Option.bind_eq_some_iff.mp hd
  obtain ⟨b, hb, rfl⟩ := Option.map_eq_some_iff.mp hr
  exact h.live r b hb

/-- Under the contract it is not at the first byte of the own buffer. -/
theorem inBuffer_first (h : StateOwned s) (ho : s.objects i = some o)
    {inside : Option (Root × Nat)} (hinside : inside ≠ some (.object i, 0)) :
    ∀ a, inBuffer s inside = some (a, 0) → o.mBuffer ≠ some a := by
  intro a ha
  obtain ⟨⟨r, offset⟩, rfl, hr⟩ := Option.bind_eq_some_iff.mp ha
  obtain ⟨b, hb, hd⟩ := Option.map_eq_some_iff.mp hr
  obtain ⟨rfl, rfl⟩ := Prod.mk.inj hd
  refine pointer_ne h ho (fun hri => hinside ?_) b hb
  exact congrArg (fun r => some (r, 0)) hri

/-- What a caller does with a variable of its own. -/
theorem keeps_raw {t : Prop} (h : StateOwned s) {b' : Option Nat}
    {m : Mem C} (heffect : Effect s.mem (s.raw k) m b')
    (htight : Tight s.mem (s.raw k) m b') :
    Keeps t s { s with raw := Function.update s.raw k b', mem := m } :=
  keeps_effect h (r := .caller k) (pointer_raw b' m) heffect fun _ => htight

/-- **A STEP** of callers that keep the contract. -/
theorem keeps_step {op : Op C} (h : StateOwned s) (hcontract : Contract s op)
    (hs : step L s op = some s') : Keeps (Tidy s op) s s' := by
  cases op with
  | create i =>
      exact keeps_onNew h (.refl h.bounded (live_none s.mem)) .refl hs
  | createSized i entryCapacity dataCapacity memory =>
      obtain ⟨heffect, htight⟩ := effect_allocate h.bounded
        (if memory then some (L.allocate entryCapacity dataCapacity) else none)
      exact keeps_onNew h heffect htight hs
  | createCopy i j memory =>
      obtain ⟨other, hother, hs⟩ := Option.bind_eq_some_iff.mp hs
      have hlive : Live s.mem other.mBuffer :=
        pointer_object hother ▸ h.live (.object j)
      obtain ⟨heffect, htight⟩ := clone_effect (L := L) h.bounded hlive memory
      exact keeps_onNew h heffect htight hs
  | createFrom i k => exact keeps_createFrom h hs
  | destroy i =>
      obtain ⟨o, ho, rfl⟩ := Option.map_eq_some_iff.mp hs
      have hsound : Sound (({ o with mLocked := false } : Object), s.mem) :=
        ⟨(sound_object h ho).1, (sound_object h ho).2⟩
      obtain ⟨hspec, hnoleak⟩ := clear_spec hsound
      have heffect := hspec.effect
      rw [NoLeak] at hnoleak
      rw [clear_mBuffer rfl] at heffect hnoleak
      refine keeps_effect h (r := .object i) (pointer_destroy _) ?_ ?_
      · rw [pointer_object ho]
        exact heffect
      · intro _
        rw [pointer_object ho]
        exact hnoleak
  | assign i r memory =>
      refine keeps_onObject h (fun o ho => ?_) hs
      obtain ⟨hspec, hnoleak⟩ := assign_spec (L := L) (sound_object h ho)
        (h.live r) memory
      exact ⟨hspec, fun _ => hnoleak⟩
  | getAndLock i =>
      exact keeps_lock h (f := fun p => (getAndLock p.1).2) (fun _ => rfl) hs
  | unlock i buffer =>
      exact keeps_lock h (fun p => unlock_mBuffer buffer p.1) hs
  | release i k => exact keeps_release h hcontract hs
  | clear i =>
      refine keeps_onObject h (fun o ho => ?_) hs
      obtain ⟨hspec, hnoleak⟩ := clear_spec (sound_object h ho)
      exact ⟨hspec, fun _ => hnoleak⟩
  | acquire i k => exact keeps_acquire h hs
  | acquireFrom i j => exact keeps_acquireFrom h hs
  | append i r memory => exact keeps_append h hcontract hs
  | sort i =>
      simp only [step] at hs
      refine keeps_onObject h (fun o ho => ?_) hs
      obtain ⟨hspec, hnoleak⟩ := sort_spec (L := L) (sound_object h ho)
      exact ⟨hspec, fun _ => hnoleak⟩
  | update i type tag data data_count inside memory =>
      simp only [step] at hs
      refine keeps_onObject h (fun o ho => ?_) hs
      exact update_spec (sound_object h ho) (inBuffer_live h inside)
        (inBuffer_first h ho hcontract) type memory tag data data_count
  | erase i tag =>
      simp only [step] at hs
      refine keeps_onObject h (fun o ho => ?_) hs
      obtain ⟨hspec, hnoleak⟩ := erase_spec (L := L) (sound_object h ho) tag
      exact ⟨hspec, fun _ => hnoleak⟩
  | swap i j => exact keeps_swap h hs
  | readFromParcel i read =>
      simp only [step] at hs
      refine keeps_onObject h (fun o ho => ?_) hs
      obtain ⟨hspec, hnoleak⟩ := readFromParcel_spec (sound_object h ho) read
      exact ⟨hspec, fun _ => hnoleak⟩
  | allocateRaw k c =>
      simp only [step] at hs
      split at hs
      · cases hs
      · rename_i hnone
        obtain rfl := Option.some.inj hs
        obtain ⟨heffect, htight⟩ := effect_allocate h.bounded c
        have hk : s.raw k = none := Option.not_isSome_iff_eq_none.mp hnone
        refine keeps_raw h ?_ ?_
        · rw [hk]
          exact heffect
        · rw [hk]
          exact htight
  | writeRaw k c =>
      obtain ⟨a, hk, rfl⟩ := Option.map_eq_some_iff.mp hs
      obtain ⟨heffect, htight⟩ := effect_write h.bounded
        (h.live (.caller k) a hk) c
      rw [← hk] at heffect htight
      have hkeeps := keeps_raw (t := Tidy s (.writeRaw k c)) h (k := k)
        heffect htight
      rwa [Function.update_eq_self] at hkeeps
  | freeRaw k =>
      obtain ⟨a, hk, rfl⟩ := Option.map_eq_some_iff.mp hs
      obtain ⟨heffect, htight⟩ := effect_free h.bounded
        (h.live (.caller k) a hk)
      exact keeps_raw h (hk ▸ heffect) (hk ▸ htight)

/-! ## Metadata as a list -/

/-- Entries with a tag, and the room that there is. -/
structure Entries where
  entries : List (BitVec 32 × List UInt8)
  entryCapacity : Nat
  dataCapacity : Nat

/-- The bytes of the data of all entries. -/
def Entries.dataCount (c : Entries) : Nat :=
  c.entries.foldr (fun e count => e.2.length + count) 0

/-- A library whose tags are all of the type 0, a byte each. -/
def entryLibrary : Library Entries where
  allocate entryCapacity dataCapacity := ⟨[], entryCapacity, dataCapacity⟩
  clone c := ⟨c.entries, c.entries.length, c.dataCount⟩
  entryCount c := c.entries.length
  entryCapacity c := c.entryCapacity
  dataCount c := c.dataCount
  dataCapacity c := c.dataCapacity
  append c other :=
    if c.entries.length + other.entries.length ≤ c.entryCapacity
        ∧ c.dataCount + other.dataCount ≤ c.dataCapacity then
      (OK, { c with entries := c.entries ++ other.entries })
    else (1, c)
  sort c := (OK, c)
  tagType _ := some 0
  entryDataSize _ data_count := data_count
  find c tag :=
    match c.entries.findIdx? fun e => e.1 = tag with
    | some index => (OK, index)
    | none => (NAME_NOT_FOUND, 0)
  add c tag data _ := (OK, { c with entries := c.entries ++ [(tag, data)] })
  update c index data _ :=
    (OK, { c with entries := c.entries.modify index fun e => (e.1, data) })
  delete c index := (OK, { c with entries := c.entries.eraseIdx index })
  ERROR := 1

/-- No object, and no buffer. -/
def noObjects : State Entries :=
  ⟨fun _ => none, fun _ => none, ⟨fun _ => none, 0, false⟩⟩

/-- Metadata is set, locked and copied; one copy is given away and taken back,
    and another has no room for more. -/
def someOps : List (Op Entries) :=
  [.create 0, .update 0 0 7 [1, 2] 2 none true, .getAndLock 0,
    .erase 0 7, .create 1, .append 1 (.object 0) true, .release 1 0,
    .createFrom 2 0, .swap 0 2, .destroy 1, .createCopy 3 0 true]

/-- The state behind these calls. -/
def someState : State Entries :=
  (exec (metadata entryLibrary) noObjects someOps).getD noObjects

theorem someState_reached :
    ReachUnder (metadata entryLibrary) (fun s op => Contract s op ∧ Tidy s op)
      someState :=
  reachUnder_exec someOps (.init rfl) (by decide) rfl

/-! ## Runs -/

theorem init_owned (h : (metadata L).init s) :
    StateOwned s ∧ StateCovered s := by
  obtain rfl := h
  refine ⟨⟨rfl, ?_, ?_, ?_⟩, ?_⟩
  · exact fun _ ha => nomatch ha
  · intro r a ha
    cases r <;> exact nomatch ha
  · intro r r' a ha
    cases r <;> exact nomatch ha
  · exact fun _ ha => nomatch ha

/-- Callers that keep the contract own what they have. -/
theorem reachable_owned (h : ReachUnder (metadata L) Contract s) :
    StateOwned s :=
  reachUnder_inv (fun _ hi => (init_owned (L := L) hi).1)
    (fun _ _ _ hi hg hs => (keeps_step hi hg hs).owned) h

/-- **NO BUFFER IS USED THAT IS NOT THERE**: if the callers keep the contract,
    then in every run, with or without memory, no pointer dangles, no two
    owners have the same buffer, and no method has touched or freed one that
    was not live. -/
theorem metadata_owned (L : Library C) (s : State C)
    (h : ReachUnder (metadata L) Contract s) :
    s.mem.bad = false
      ∧ (∀ r a, pointer s r = some a → (s.mem.heap a).isSome)
      ∧ ∀ r r' a, pointer s r = some a → pointer s r' = some a → r = r' := by
  have howned := reachable_owned h
  exact ⟨howned.bad, howned.live, howned.unique⟩

theorem metadata_owned_someState :
    someState.mem.bad = false
      ∧ (∀ r a, pointer someState r = some a → (someState.mem.heap a).isSome)
      ∧ ∀ r r' a, pointer someState r = some a →
        pointer someState r' = some a → r = r' :=
  metadata_owned entryLibrary someState
    (reachUnder_mono (fun _ _ h => h.1) someState_reached)

/-- **NOTHING LEAKS** in a run with memory in which no locked object is handed
    a buffer: every buffer that is live is that of an object or of a caller. -/
theorem metadata_covered (L : Library C) (s : State C)
    (h : ReachUnder (metadata L) (fun s op => Contract s op ∧ Tidy s op) s) :
    ∀ a, (s.mem.heap a).isSome → ∃ r, pointer s r = some a := by
  have hboth : StateOwned s ∧ StateCovered s := by
    refine reachUnder_inv (fun _ hi => init_owned (L := L) hi) ?_ h
    intro s op s' hi hg hs
    have hkeeps := keeps_step hi.1 hg.1 hs
    exact ⟨hkeeps.owned, hkeeps.covered hg.2 hi.2⟩
  exact hboth.2

theorem metadata_covered_someState : ∃ r, pointer someState r = some 0 :=
  metadata_covered entryLibrary someState someState_reached 0 rfl

/-! ## Locked objects -/

/-- The object is as it was, and so is what is in its buffer. -/
def Same (i : Nat) (o : Object) (s s' : State C) : Prop :=
  s'.objects i = some o ∧ ∀ a ∈ o.mBuffer, s'.mem.heap a = s.mem.heap a

/-- An effect on another pointer does not touch the buffer of the object. -/
theorem same_heap (h : StateOwned s) (ho : s.objects i = some o) {r : Root}
    (hr : r ≠ .object i) {m : Mem C} {b : Option Nat}
    (heffect : Effect s.mem (pointer s r) m b) :
    ∀ a ∈ o.mBuffer, m.heap a = s.mem.heap a := by
  intro a ha
  have hp := (pointer_object ho).trans ha
  refine heffect.frame a (h.live (.object i) a hp) fun hra => ?_
  exact hr (h.unique r (.object i) a hra hp)

theorem set_objects_ne (p : Method C) (hij : i ≠ j) :
    (s.set j p).objects i = s.objects i := Function.update_of_ne hij _ _

/-- A method of a locked object does nothing, and one of another object does
    not touch its buffer. -/
theorem same_onObject (h : StateOwned s) (ho : s.objects i = some o)
    (hlocked : o.mLocked = true) {f : Method C → Method C}
    (hspec : ∀ o, s.objects j = some o → Spec (o, s.mem) (f (o, s.mem)))
    (hs : onObject s j f = some s') : Same i o s s' := by
  obtain ⟨other, hother, rfl⟩ := Option.map_eq_some_iff.mp hs
  by_cases hij : i = j
  · subst hij
    obtain rfl := Option.some.inj (ho.symm.trans hother)
    rw [(hspec o ho).kept hlocked, set_same ho]
    exact ⟨ho, fun _ _ => rfl⟩
  · have heffect := (hspec other hother).effect
    rw [← pointer_object hother] at heffect
    refine ⟨(set_objects_ne _ hij).trans ho, ?_⟩
    exact same_heap h ho (fun hr => hij (Root.object.inj hr).symm) heffect

/-- A new object does not touch the buffer of another. -/
theorem same_onNew (h : StateOwned s) (ho : s.objects i = some o)
    {p : Method C} (heffect : Effect s.mem none p.2 p.1.mBuffer)
    (hs : onNew s j p = some s') : Same i o s s' := by
  obtain ⟨hnone, rfl⟩ := onNew_cases hs
  have hij : i ≠ j := by
    rintro rfl
    exact nomatch ho.symm.trans hnone
  rw [← pointer_new hnone] at heffect
  refine ⟨(set_objects_ne _ hij).trans ho, ?_⟩
  exact same_heap h ho (fun hr => hij (Root.object.inj hr).symm) heffect

/-- A locked object takes nothing, and gives nothing. -/
theorem same_acquireFrom {l : Nat} (h : StateOwned s)
    (ho : s.objects i = some o) (hlocked : o.mLocked = true)
    (hs : acquireFrom s j l = some s') : Same i o s s' := by
  obtain rfl | ⟨own, other, hown, hother, hunlocked, hcase⟩ :=
    acquireFrom_cases h hs
  · exact ⟨ho, fun _ _ => rfl⟩
  · have hij : i ≠ j := by
      rintro rfl
      obtain rfl := Option.some.inj (ho.symm.trans hown)
      exact absurd (hlocked.symm.trans hunlocked) (by decide)
    have hheap := same_heap h ho (r := .object j) (b := _)
      (fun hr => hij (Root.object.inj hr).symm)
      (pointer_object hown ▸ (clear_spec (sound_object h hown)).1.effect)
    obtain ⟨_, rfl⟩ | ⟨hgives, _, rfl⟩ := hcase
    · exact ⟨(set_objects_ne _ hij).trans ho, hheap⟩
    · have hil : i ≠ l := by
        rintro rfl
        obtain rfl := Option.some.inj (ho.symm.trans hother)
        exact absurd (hlocked.symm.trans hgives) (by decide)
      refine ⟨?_, hheap⟩
      exact (set_objects_ne _ hij).trans ((set_objects_ne _ hil).trans ho)

/-- Nor is it swapped. -/
theorem same_swap {l : Nat} (ho : s.objects i = some o)
    (hlocked : o.mLocked = true) (hs : swap s j l = some s') :
    Same i o s s' := by
  obtain rfl | ⟨own, other, hown, hother, hunlocked, hunlocked', rfl⟩ :=
    swap_cases hs
  · exact ⟨ho, fun _ _ => rfl⟩
  · have hij : i ≠ j := by
      rintro rfl
      obtain rfl := Option.some.inj (ho.symm.trans hown)
      exact absurd (hlocked.symm.trans hunlocked) (by decide)
    have hil : i ≠ l := by
      rintro rfl
      obtain rfl := Option.some.inj (ho.symm.trans hother)
      exact absurd (hlocked.symm.trans hunlocked') (by decide)
    refine ⟨?_, fun _ _ => rfl⟩
    exact (set_objects_ne _ hij).trans ((set_objects_ne _ hil).trans ho)

/-- Nor does it take a buffer of a caller. -/
theorem same_acquire (h : StateOwned s) (ho : s.objects i = some o)
    (hlocked : o.mLocked = true) (hs : step L s (.acquire j k) = some s') :
    Same i o s s' := by
  obtain ⟨own, hown, ⟨_, rfl⟩ | ⟨hunlocked, rfl⟩⟩ := acquire_cases h hs
  · exact ⟨ho, fun _ _ => rfl⟩
  · have hij : i ≠ j := by
      rintro rfl
      obtain rfl := Option.some.inj (ho.symm.trans hown)
      exact absurd (hlocked.symm.trans hunlocked) (by decide)
    refine ⟨(set_objects_ne _ hij).trans ho, ?_⟩
    exact same_heap h ho (r := .object j) (b := _)
      (fun hr => hij (Root.object.inj hr).symm)
      (pointer_object hown ▸ (clear_spec (sound_object h hown)).1.effect)

/-- An object that is made from a buffer of a caller is another one. -/
theorem same_createFrom (h : StateOwned s) (ho : s.objects i = some o)
    (hs : step L s (.createFrom j k) = some s') : Same i o s s' := by
  obtain ⟨s₁, hs₁, rfl⟩ := Option.map_eq_some_iff.mp hs
  obtain ⟨hnone, rfl⟩ := onNew_cases hs₁
  have hlive : Live s.mem (s.raw k) := h.live (.caller k)
  have hsound : Sound (Object.new, s.mem) :=
    ⟨h.bounded, fun _ hb => nomatch hb⟩
  have hij : i ≠ j := by
    rintro rfl
    exact nomatch ho.symm.trans hnone
  rw [acquire_clear hsound rfl hlive fun _ _ => nofun]
  exact ⟨(set_objects_ne _ hij).trans ho, fun _ _ => rfl⟩

/-- Another object is destroyed. -/
theorem same_destroy (h : StateOwned s) (ho : s.objects i = some o)
    (hij : i ≠ j) (hs : step L s (.destroy j) = some s') : Same i o s s' := by
  obtain ⟨other, hother, rfl⟩ := Option.map_eq_some_iff.mp hs
  have hsound : Sound (({ other with mLocked := false } : Object), s.mem) :=
    ⟨(sound_object h hother).1, (sound_object h hother).2⟩
  have hspec := (clear_spec hsound).1.effect
  have heffect : Effect s.mem (pointer s (.object j))
      (destroy (other, s.mem)).2 (destroy (other, s.mem)).1.mBuffer := by
    rw [pointer_object hother]
    exact hspec
  refine ⟨(Function.update_of_ne hij _ _).trans ho, ?_⟩
  exact same_heap h ho (fun hr => hij (Root.object.inj hr).symm) heffect

/-- A locked object is locked again, or another one is. -/
theorem same_getAndLock (ho : s.objects i = some o) (hlocked : o.mLocked = true)
    (hs : step L s (.getAndLock j) = some s') : Same i o s s' := by
  obtain ⟨other, hother, rfl⟩ := Option.map_eq_some_iff.mp hs
  refine ⟨?_, fun _ _ => rfl⟩
  by_cases hij : i = j
  · subst hij
    obtain rfl := Option.some.inj (ho.symm.trans hother)
    have hsame : (getAndLock o).2 = o := by
      rw [getAndLock, ← hlocked]
    show (s.set i ((getAndLock o).2, s.mem)).objects i = _
    rw [hsame, set_same ho]
    exact ho
  · exact (set_objects_ne _ hij).trans ho

/-- A locked object hands nothing over. -/
theorem same_release (ho : s.objects i = some o) (hlocked : o.mLocked = true)
    (hs : step L s (.release j k) = some s') : Same i o s s' := by
  obtain ⟨other, hother, rfl⟩ := Option.map_eq_some_iff.mp hs
  refine ⟨?_, fun _ _ => rfl⟩
  by_cases hij : i = j
  · subst hij
    obtain rfl := Option.some.inj (ho.symm.trans hother)
    have hsame : (release o).2 = o := by
      rw [release, if_pos hlocked]
    rw [hsame]
    exact Function.update_self _ _ _
  · exact (Function.update_of_ne hij _ _).trans ho

/-- Neither unlocks nor destroys the object. -/
def Leaves (i : Nat) : Op C → Prop
  | .unlock j _ => j ≠ i
  | .destroy j => j ≠ i
  | _ => True

instance decidableLeaves (i : Nat) (op : Op C) : Decidable (Leaves i op) := by
  cases op <;> dsimp only [Leaves] <;> infer_instance

/-- One step of callers that keep the contract and leave the object locked. -/
theorem same_step {op : Op C} (h : StateOwned s) (ho : s.objects i = some o)
    (hlocked : o.mLocked = true) (hcontract : Contract s op)
    (hleaves : Leaves i op) (hs : step L s op = some s') : Same i o s s' := by
  cases op with
  | create j =>
      exact same_onNew h ho
        (.refl h.bounded (b := none) fun _ hb => nomatch hb) hs
  | createSized j entryCapacity dataCapacity memory =>
      exact same_onNew h ho (effect_allocate h.bounded _).1 hs
  | createCopy j l memory =>
      obtain ⟨other, hother, hs⟩ := Option.bind_eq_some_iff.mp hs
      have hlive : Live s.mem other.mBuffer :=
        pointer_object hother ▸ h.live (.object l)
      exact same_onNew h ho (clone_effect h.bounded hlive memory).1 hs
  | createFrom j k => exact same_createFrom h ho hs
  | destroy j => exact same_destroy h ho (Ne.symm hleaves) hs
  | assign j r memory =>
      exact same_onObject h ho hlocked (fun _ hother =>
        (assign_spec (sound_object h hother) (h.live r) memory).1) hs
  | getAndLock j => exact same_getAndLock ho hlocked hs
  | unlock j buffer =>
      obtain ⟨other, hother, rfl⟩ := Option.map_eq_some_iff.mp hs
      exact ⟨(set_objects_ne _ (Ne.symm hleaves)).trans ho, fun _ _ => rfl⟩
  | release j k => exact same_release ho hlocked hs
  | clear j =>
      exact same_onObject h ho hlocked
        (fun _ hother => (clear_spec (sound_object h hother)).1) hs
  | acquire j k => exact same_acquire h ho hlocked hs
  | acquireFrom j l => exact same_acquireFrom h ho hlocked hs
  | append j r memory =>
      obtain ⟨hr, hsome⟩ := hcontract
      obtain ⟨other, hother⟩ := Option.ne_none_iff_exists'.mp hsome
      simp only [step, hother] at hs
      refine same_onObject h ho hlocked (fun own hown => ?_) hs
      exact (append_spec (sound_object h hown) (h.live r other hother)
        (pointer_ne h hown hr other hother) memory).1
  | sort j =>
      simp only [step] at hs
      exact same_onObject h ho hlocked
        (fun _ hother => (sort_spec (sound_object h hother)).1) hs
  | update j type tag data data_count inside memory =>
      simp only [step] at hs
      exact same_onObject h ho hlocked (fun _ hother =>
        (update_spec (sound_object h hother) (inBuffer_live h inside)
          (inBuffer_first h hother hcontract) type memory tag data
          data_count).1) hs
  | erase j tag =>
      simp only [step] at hs
      exact same_onObject h ho hlocked
        (fun _ hother => (erase_spec (sound_object h hother) tag).1) hs
  | swap j l => exact same_swap ho hlocked hs
  | readFromParcel j read =>
      simp only [step] at hs
      exact same_onObject h ho hlocked
        (fun _ hother => (readFromParcel_spec (sound_object h hother) read).1) hs
  | allocateRaw k c =>
      simp only [step] at hs
      split at hs
      · exact nomatch hs
      · rename_i hnone
        obtain rfl := Option.some.inj hs
        have heffect := (effect_allocate h.bounded c).1
        have hk : s.raw k = none := Option.not_isSome_iff_eq_none.mp hnone
        rw [← hk] at heffect
        exact ⟨ho, same_heap h ho (r := .caller k) nofun heffect⟩
  | writeRaw k c =>
      obtain ⟨a, hk, rfl⟩ := Option.map_eq_some_iff.mp hs
      have heffect := (effect_write h.bounded (h.live (.caller k) a hk) c).1
      rw [← hk] at heffect
      exact ⟨ho, same_heap h ho (r := .caller k) nofun heffect⟩
  | freeRaw k =>
      obtain ⟨a, hk, rfl⟩ := Option.map_eq_some_iff.mp hs
      have heffect := (effect_free h.bounded (h.live (.caller k) a hk)).1
      rw [← hk] at heffect
      exact ⟨ho, same_heap h ho (r := .caller k) nofun heffect⟩

/-- The runs from a state. -/
def metadataFrom (s : State C) : TransSys (State C) (Op C) where
  init t := t = s
  step := step L

/-- **WHAT `getAndLock` GAVE** stays: from any state on, an object that is
    locked and that nobody unlocks or destroys keeps its buffer with what is
    in it, whatever is called on it and on all others. -/
theorem locked_kept (L : Library C) (s : State C)
    (h : ReachUnder (metadata L) Contract s) (i : Nat) (o : Object)
    (ho : s.objects i = some o) (hlocked : o.mLocked = true) (s' : State C)
    (hrun : ReachUnder (metadataFrom (L := L) s)
      (fun t op => Contract t op ∧ Leaves i op) s') :
    s'.objects i = some o
      ∧ ∀ a ∈ o.mBuffer, (s'.mem.heap a).isSome
        ∧ s'.mem.heap a = s.mem.heap a := by
  have howned := reachable_owned h
  have hinv : StateOwned s' ∧ Same i o s s' := by
    refine reachUnder_inv (I := fun t => StateOwned t ∧ Same i o s t) ?_ ?_
      hrun
    · rintro _ rfl
      exact ⟨howned, ho, fun _ _ => rfl⟩
    · intro t op t' hi hg hs
      have hsame := same_step hi.1 hi.2.1 hlocked hg.1 hg.2 hs
      refine ⟨(keeps_step hi.1 hg.1 hs).owned, hsame.1, fun a ha => ?_⟩
      exact (hsame.2 a ha).trans (hi.2.2 a ha)
  refine ⟨hinv.2.1, fun a ha => ⟨?_, hinv.2.2 a ha⟩⟩
  rw [hinv.2.2 a ha]
  exact howned.live (.object i) a ((pointer_object ho).trans ha)

/-- Calls behind which the first object is as it was. -/
def moreOps : List (Op Entries) :=
  [.update 0 0 7 [3] 1 none true, .acquireFrom 0 2, .clear 2,
    .assign 2 (.object 0) true, .update 2 0 9 [0] 1 (some (.object 0, 0)) true,
    .sort 2, .acquireFrom 2 0, .unlock 2 none]

/-- The state behind more of them. -/
def laterState : State Entries :=
  (exec (metadata entryLibrary) someState moreOps).getD noObjects

theorem locked_kept_laterState :
    laterState.objects 0 = some ⟨some 0, true⟩
      ∧ ∀ a ∈ (⟨some 0, true⟩ : Object).mBuffer,
        (laterState.mem.heap a).isSome
          ∧ laterState.mem.heap a = someState.mem.heap a :=
  locked_kept entryLibrary someState
    (reachUnder_mono (fun _ _ h => h.1) someState_reached) 0 ⟨some 0, true⟩
    rfl rfl laterState
    (reachUnder_exec moreOps (.init rfl) (by decide) rfl)

/-! ## An object and its own buffer -/

/-- **SELF-APPEND**: an object that is appended to itself reads the buffer that
    it has freed, exactly if there is no room for its entries twice and there
    is memory for a larger buffer. -/
theorem append_self_bad_iff (L : Library C) (s : State C)
    (h : ReachUnder (metadata L) Contract s) (i : Nat) (o : Object)
    (ho : s.objects i = some o) (hunlocked : o.mLocked = false) (a : Nat)
    (ha : o.mBuffer = some a) (c : C) (hc : s.mem.heap a = some c)
    (memory : Bool) :
    ((step L s (.append i (.object i) memory)).map fun s' => s'.mem.bad)
        = some true
      ↔ memory = true
        ∧ (L.entryCapacity c < L.entryCount c + L.entryCount c
          ∨ L.dataCapacity c < L.dataCount c + L.dataCount c) := by
  have howned := reachable_owned h
  have hbad := howned.bad
  obtain rfl : o = ⟨some a, false⟩ := by
    rw [← ha, ← hunlocked]
  have hptr : pointer s (.object i) = some a := pointer_object ho
  have hstep : (step L s (.append i (.object i) memory)).map
      (fun s' => s'.mem.bad)
        = some (append L memory a (⟨some a, false⟩, s.mem)).2.2.bad := by
    simp only [step, hptr, onObject, ho, Option.map_some]
    rfl
  rw [hstep, Option.some.injEq]
  simp only [append, hc, Bool.false_eq_true, if_false]
  by_cases hroom : NoRoom (L := L) (L.entryCount c) (L.dataCount c) c
  · cases memory with
    | true =>
        -- the buffer has been freed when it is read again
        have hgone : (resizeIfNeeded L true (L.entryCount c) (L.dataCount c)
            (⟨some a, false⟩, s.mem)).2.2.heap a = none :=
          (resize_gone howned.bounded hc hroom).2
        simp only [hgone, Mem.touch, Option.isSome_none, Bool.false_eq_true,
          if_false, true_and]
        exact ⟨fun _ => hroom, fun _ => trivial⟩
    | false =>
        simp only [resize_lost hc hroom, hc, onBuffer, hbad, Bool.false_eq_true,
          false_and]
  · have hwrite := (onBuffer_effect (L := L) (sound_object howned ho)
      fun own => L.append own c).1.bad
    simp only [resize_room hc hroom memory, hc]
    rw [hwrite, hbad]
    exact ⟨(by cases ·), fun hno => absurd hno.2 hroom⟩

theorem append_self_bad_iff_someState :
    ((step entryLibrary someState (.append 3 (.object 3) true)).map
        fun s' => s'.mem.bad) = some true
      ↔ true = true ∧ (1 < 1 + 1 ∨ 2 < 2 + 2) :=
  append_self_bad_iff entryLibrary someState
    (reachUnder_mono (fun _ _ h => h.1) someState_reached) 3 ⟨some 2, false⟩
    rfl rfl 2 rfl ⟨[(7, [1, 2])], 1, 2⟩ rfl true

/-- **THE FIRST BYTE**: an object that is updated with data at the first byte of
    its own buffer reads it when it is freed, exactly if there is no room for
    the entry and there is memory for a larger buffer. -/
theorem update_self_bad_iff (L : Library C) (s : State C)
    (h : ReachUnder (metadata L) Contract s) (i : Nat) (o : Object)
    (ho : s.objects i = some o) (hunlocked : o.mLocked = false) (a : Nat)
    (ha : o.mBuffer = some a) (c : C) (hc : s.mem.heap a = some c)
    (tag : BitVec 32) (type : BitVec 8) (htype : L.tagType tag = some type)
    (data : List UInt8) (data_count : Nat) (memory : Bool) :
    ((step L s (.update i type tag data data_count (some (.object i, 0))
        memory)).map fun s' => s'.mem.bad) = some true
      ↔ memory = true
        ∧ (L.entryCapacity c < L.entryCount c + 1
          ∨ L.dataCapacity c
            < L.dataCount c + L.entryDataSize type data_count) := by
  have howned := reachable_owned h
  have hbad := howned.bad
  obtain rfl : o = ⟨some a, false⟩ := by
    rw [← ha, ← hunlocked]
  have hin : inBuffer s (some (.object i, 0)) = some (a, 0) := by
    rw [inBuffer, Option.bind_some, pointer_object ho]
    rfl
  have hcheck : checkType L tag type = OK := by
    rw [checkType, htype]
    exact if_neg (not_not_intro rfl)
  have hpasses : pointsInside (some (a, 0)) ⟨some a, false⟩ = false := by
    rw [pointsInside, Option.any_some]
    exact decide_eq_false fun hin => Nat.lt_irrefl 0 hin.2
  have hstep : (step L s (.update i type tag data data_count
      (some (.object i, 0)) memory)).map (fun s' => s'.mem.bad)
        = some (update L type memory tag data data_count (some (a, 0))
          (⟨some a, false⟩, s.mem)).2.2.bad := by
    simp only [step, hin, onObject, ho, Option.map_some]
    rfl
  rw [hstep, Option.some.injEq]
  simp only [update, updateImpl, hcheck, htype, hpasses, Bool.false_eq_true,
    if_false, ne_eq, not_true_eq_false, Option.map_some]
  by_cases hroom : NoRoom (L := L) 1 (L.entryDataSize type data_count) c
  · cases memory with
    | true =>
        -- the data is read behind the resize
        let resized := resizeIfNeeded L true 1
          (L.entryDataSize type data_count) (⟨some a, false⟩, s.mem)
        have hgone : resized.1 = OK ∧ resized.2.2.heap a = none :=
          resize_gone howned.bounded hc hroom
        have htouch : (touchMaybe (some a) resized.2.2).bad = true := by
          show (resized.2.2.touch a).bad = true
          rw [Mem.touch, hgone.2]
          rfl
        simp only [true_and]
        show (if resized.1 = OK then _ else resized).2.2.bad = true ↔ _
        rw [if_pos hgone.1]
        exact ⟨fun _ => hroom, fun _ => onBuffer_bad _ htouch⟩
    | false =>
        have hno : NO_MEMORY ≠ OK := by decide
        simp only [resize_lost hc hroom, if_neg hno, hbad, Bool.false_eq_true,
          false_and]
  · have hwrite := (onBuffer_effect (L := L) (sound_object howned ho)
      (setEntry L tag data data_count)).1.bad
    have htouch : touchMaybe (some a) s.mem = s.mem := Mem.touch_live (hc ▸ rfl)
    simp only [resize_room hc hroom memory, if_true, htouch]
    rw [hwrite, hbad]
    exact ⟨(by cases ·), fun hno => absurd hno.2 hroom⟩

end QcomCameraMetadata
