import QcomCommon.TransitionProofs

/-! # The callbacks of a camera object

    `Camera.cpp` of `libshims`: a thread takes the callbacks of the camera
    service one after the other, reads under the lock who listens, and calls
    him behind it, while the application changes the listeners.  A recording
    frame goes to the recording listener, else to the listener, else back.

    No callback is passed over or passed on twice, and no recording frame is
    lost before the camera is disconnected (`callbacks_passedOn`).  A recording
    listener gets all frames while it is set, but for the one that the thread
    was done looking up; a listener that was replaced gets only the call that
    was looked up for it (`listener_span`). -/

namespace QcomCameraClient

open QcomTransition

/-- A number of a callback. -/
abbrev Word := BitVec 32

variable {M F : Type}

/-- A callback of the service, with the memory `M` of a frame and the faces
    `F` in it. -/
inductive Callback (M F : Type) where
  | notifyCallback (msgType ext1 ext2 : Word)
  | dataCallback (msgType : Word) (dataPtr : M) (metadata : F)
  | dataCallbackTimestamp (timestamp : Int) (msgType : Word) (dataPtr : M)

/-- A frame that whoever gets it gives back. -/
def Callback.recordingFrame : Callback M F → Prop
  | .dataCallbackTimestamp _ _ _ => True
  | _ => False

/-- What became of a callback. -/
inductive Fate (M F : Type) where
  | recorded (listener : Nat) (c : Callback M F)
  | heard (listener : Nat) (c : Callback M F)
  | released (c : Callback M F)
  | lost (c : Callback M F)

namespace Fate

/-- The callback that came to this end. -/
def callback : Fate M F → Callback M F
  | recorded _ c | heard _ c | released c | lost c => c

/-- A listener was called. -/
def toListener (l : Nat) : Fate M F → Bool
  | recorded k _ | heard k _ => k == l
  | _ => false

end Fate

/-- Where the thread is: in front of the lock, behind it with the listener
    that was read, and in `releaseRecordingFrame`. -/
inductive Place (M F : Type) where
  | idle
  | called (c : Callback M F)
  | recording (listener : Nat) (c : Callback M F)
  | unrecorded (c : Callback M F)
  | listening (listener : Nat) (c : Callback M F)
  | releasing (c : Callback M F)
  | returning (c : Callback M F)

namespace Place

/-- The callback that the thread has in hand. -/
def callback : Place M F → Option (Callback M F)
  | idle => none
  | called c | recording _ c | unrecorded c | listening _ c | releasing c
  | returning c => some c

/-- The callback of a thread that has looked for the recording listener. -/
def lookedUp : Place M F → Option (Callback M F)
  | idle | called _ => none
  | recording _ c | unrecorded c | listening _ c | releasing c
  | returning c => some c

/-- A listener is going to be called. -/
def toListener (l : Nat) : Place M F → Bool
  | recording k _ | listening k _ => k == l
  | _ => false

end Place

/-- `Camera`, with the callbacks that are waiting, all that there were, and
    what became of them. -/
structure Camera (M F : Type) where
  mCamera : Bool
  mListener : Option Nat
  mRecordingProxyListener : Option Nat
  place : Place M F
  queue : List (Callback M F)
  made : List (Callback M F)
  fates : List (Fate M F)

/-- What the service, the thread and the application do. -/
inductive Step (M F : Type) where
  | call (c : Callback M F)
  | thread
  | setListener (listener : Option Nat)
  | setRecordingProxyListener (listener : Option Nat)
  | stopRecording
  | disconnect

/-- The thread is done with a callback. -/
def Camera.finish (s : Camera M F) (f : Fate M F) : Camera M F :=
  { s with place := .idle, fates := s.fates ++ [f] }

/-- A step of the thread in `notifyCallback`, `dataCallback` or
    `dataCallbackTimestamp`. -/
def threadStep (s : Camera M F) : Option (Camera M F) :=
  match s.place with
  | .idle => s.queue.head?.map fun c =>
      { s with place := .called c, queue := s.queue.tail }
  | .called (.dataCallbackTimestamp timestamp msgType dataPtr) =>
      let c := .dataCallbackTimestamp timestamp msgType dataPtr
      some (s.mRecordingProxyListener.elim { s with place := .unrecorded c }
        fun l => { s with place := .recording l c })
  | .called c =>
      some (s.mListener.elim (s.finish (.lost c))
        fun l => { s with place := .listening l c })
  | .recording l c => some (s.finish (.recorded l c))
  | .unrecorded c =>
      some (s.mListener.elim { s with place := .releasing c }
        fun l => { s with place := .listening l c })
  | .listening l c => some (s.finish (.heard l c))
  | .releasing c =>
      some (if s.mCamera then { s with place := .returning c }
        else s.finish (.lost c))
  | .returning c => some (s.finish (.released c))

/-- A step of the service, the thread or the application. -/
def step (s : Camera M F) : Step M F → Option (Camera M F)
  | .call c => some { s with queue := s.queue ++ [c], made := s.made ++ [c] }
  | .thread => threadStep s
  | .setListener listener => some { s with mListener := listener }
  | .setRecordingProxyListener listener =>
      some { s with mRecordingProxyListener := listener }
  | .stopRecording => some { s with mRecordingProxyListener := none }
  | .disconnect => some { s with mCamera := false }

/-- A camera that was connected. -/
def connected : Camera M F := ⟨true, none, none, .idle, [], [], []⟩

/-- The runs from a state on. -/
def cameraFrom (s : Camera M F) : TransSys (Camera M F) (Step M F) where
  init t := t = s
  step := step

variable {s s' : Camera M F}

/-! ## One step of the thread -/

/-- A place that the thread comes to with the callback that it has. -/
inductive Moves (s : Camera M F) : Place M F → Prop where
  | recording {c : Callback M F} {l : Nat} (h : s.place = .called c)
      (hframe : c.recordingFrame) (hl : s.mRecordingProxyListener = some l) :
      Moves s (.recording l c)
  | unrecorded {c : Callback M F} (h : s.place = .called c)
      (hframe : c.recordingFrame) (hnone : s.mRecordingProxyListener = none) :
      Moves s (.unrecorded c)
  | listening {c : Callback M F} {l : Nat}
      (h : s.place = .called c ∧ ¬ c.recordingFrame ∨ s.place = .unrecorded c)
      (hl : s.mListener = some l) : Moves s (.listening l c)
  | releasing {c : Callback M F} (h : s.place = .unrecorded c)
      (hnone : s.mListener = none) : Moves s (.releasing c)
  | returning {c : Callback M F} (h : s.place = .releasing c)
      (hcamera : s.mCamera = true) : Moves s (.returning c)

/-- What the thread ends a callback with. -/
inductive Ends (s : Camera M F) : Fate M F → Prop where
  | recorded {c : Callback M F} {l : Nat} (h : s.place = .recording l c) :
      Ends s (.recorded l c)
  | heard {c : Callback M F} {l : Nat} (h : s.place = .listening l c) :
      Ends s (.heard l c)
  | released {c : Callback M F} (h : s.place = .returning c) :
      Ends s (.released c)
  | unheard {c : Callback M F} (h : s.place = .called c)
      (hframe : ¬ c.recordingFrame) (hnone : s.mListener = none) :
      Ends s (.lost c)
  | disconnected {c : Callback M F} (h : s.place = .releasing c)
      (hcamera : s.mCamera = false) : Ends s (.lost c)

/-- All that a step of the thread can do. -/
theorem threadStep_cases (h : threadStep s = some s') :
    (∃ c q, s.place = .idle ∧ s.queue = c :: q
        ∧ s' = { s with place := .called c, queue := q })
      ∨ (∃ p, Moves s p ∧ s' = { s with place := p })
      ∨ ∃ f, Ends s f ∧ s' = s.finish f := by
  rw [threadStep] at h
  split at h
  · next hplace =>
      left
      obtain ⟨c, hc, rfl⟩ := Option.map_eq_some_iff.mp h
      obtain ⟨q, hq⟩ := List.head?_eq_some_iff.mp hc
      refine ⟨c, q, hplace, hq, ?_⟩
      rw [hq]
      rfl
  · next hplace =>
      right; left
      cases hl : s.mRecordingProxyListener with
      | none =>
          rw [hl] at h
          exact ⟨_, .unrecorded hplace trivial hl, (Option.some.inj h).symm⟩
      | some l =>
          rw [hl] at h
          exact ⟨_, .recording hplace trivial hl, (Option.some.inj h).symm⟩
  · next c hc hplace =>
      right
      have hframe : ¬ c.recordingFrame := by
        cases c with
        | dataCallbackTimestamp timestamp msgType dataPtr =>
            exact absurd rfl (hc timestamp msgType dataPtr)
        | _ => exact id
      cases hl : s.mListener with
      | none =>
          rw [hl] at h
          exact .inr ⟨_, .unheard hplace hframe hl, (Option.some.inj h).symm⟩
      | some l =>
          rw [hl] at h
          exact .inl ⟨_, .listening (.inl ⟨hplace, hframe⟩) hl,
            (Option.some.inj h).symm⟩
  · next hplace =>
      exact .inr (.inr ⟨_, .recorded hplace, (Option.some.inj h).symm⟩)
  · next hplace =>
      right; left
      cases hl : s.mListener with
      | none =>
          rw [hl] at h
          exact ⟨_, .releasing hplace hl, (Option.some.inj h).symm⟩
      | some l =>
          rw [hl] at h
          exact ⟨_, .listening (.inr hplace) hl, (Option.some.inj h).symm⟩
  · next hplace =>
      exact .inr (.inr ⟨_, .heard hplace, (Option.some.inj h).symm⟩)
  · next hplace =>
      right
      cases hcamera : s.mCamera with
      | true =>
          rw [hcamera, if_pos rfl] at h
          exact .inl ⟨_, .returning hplace hcamera, (Option.some.inj h).symm⟩
      | false =>
          rw [hcamera, if_neg (by decide)] at h
          exact .inr ⟨_, .disconnected hplace hcamera,
            (Option.some.inj h).symm⟩
  · next hplace =>
      exact .inr (.inr ⟨_, .released hplace, (Option.some.inj h).symm⟩)

/-- The thread keeps its callback when it moves on. -/
theorem Moves.callback {p : Place M F} (h : Moves s p) :
    p.callback = s.place.callback := by
  cases h with
  | recording h | unrecorded h | releasing h | returning h => rw [h]; rfl
  | listening h =>
      rcases h with ⟨h, -⟩ | h <;> (rw [h]; rfl)

/-- A fate is the fate of the callback in hand. -/
theorem Ends.callback {f : Fate M F} (h : Ends s f) :
    s.place.callback = some f.callback := by
  cases h with
  | recorded h | heard h | released h | unheard h | disconnected h =>
      rw [h]; rfl

/-! ## No callback is lost -/

/-- The callbacks are in their order, and each is where it can be. -/
structure Passed (s : Camera M F) : Prop where
  order : s.fates.map Fate.callback ++ s.place.callback.toList ++ s.queue
    = s.made
  place : ∀ c, s.place = .unrecorded c ∨ s.place = .releasing c
    ∨ s.place = .returning c → c.recordingFrame
  recorded : ∀ l c, s.place = .recording l c ∨ .recorded l c ∈ s.fates →
    c.recordingFrame
  released : ∀ c, .released c ∈ s.fates → c.recordingFrame
  lost : s.mCamera = true → ∀ c, .lost c ∈ s.fates → ¬ c.recordingFrame

/-- A camera that was just connected was called for nothing. -/
theorem passed_connected : Passed (connected : Camera M F) where
  order := rfl
  place c h := by rcases h with h | h | h <;> cases h
  recorded l c h := by rcases h with h | h <;> cases h
  released c h := by cases h
  lost _ c h := by cases h

/-- The next callback of the queue is taken. -/
theorem passed_take {c : Callback M F} {q : List (Callback M F)}
    (h : Passed s) (hplace : s.place = .idle) (hqueue : s.queue = c :: q) :
    Passed { s with place := .called c, queue := q } where
  order := by
    have horder := h.order
    rw [hplace, hqueue] at horder
    simpa [Place.callback] using horder
  place c h := by rcases h with h | h | h <;> cases h
  recorded l c hc := by
    rcases hc with hc | hc
    · cases hc
    · exact h.recorded l c (.inr hc)
  released := h.released
  lost := h.lost

/-- The thread moves on with its callback. -/
theorem passed_move {p : Place M F} (h : Passed s) (hp : Moves s p) :
    Passed { s with place := p } where
  order := by
    have horder := h.order
    rw [← hp.callback] at horder
    exact horder
  place c hc := by
    cases hp with
    | recording | listening => rcases hc with hc | hc | hc <;> cases hc
    | unrecorded _ hframe =>
        rcases hc with hc | hc | hc <;> cases hc
        exact hframe
    | releasing hplace =>
        rcases hc with hc | hc | hc <;> cases hc
        exact h.place c (.inl hplace)
    | returning hplace =>
        rcases hc with hc | hc | hc <;> cases hc
        exact h.place c (.inr (.inl hplace))
  recorded l c hc := by
    rcases hc with hc | hc
    · cases hp with
      | recording _ hframe =>
          cases hc
          exact hframe
      | _ => cases hc
    · exact h.recorded l c (.inr hc)
  released := h.released
  lost := h.lost

/-- A callback comes to its end. -/
theorem passed_finish {f : Fate M F} (h : Passed s) (hf : Ends s f) :
    Passed (s.finish f) where
  order := by
    have horder := h.order
    rw [hf.callback] at horder
    simpa [Camera.finish, Place.callback] using horder
  place c hc := by rcases hc with hc | hc | hc <;> cases hc
  recorded l c hc := by
    rcases hc with hc | hc
    · cases hc
    · rcases List.mem_append.mp hc with hc | hc
      · exact h.recorded l c (.inr hc)
      · obtain rfl := List.mem_singleton.mp hc
        cases hf with
        | recorded hplace => exact h.recorded l c (.inl hplace)
  released c hc := by
    rcases List.mem_append.mp hc with hc | hc
    · exact h.released c hc
    · obtain rfl := List.mem_singleton.mp hc
      cases hf with
      | released hplace => exact h.place c (.inr (.inr hplace))
  lost hcamera c hc := by
    rcases List.mem_append.mp hc with hc | hc
    · exact h.lost hcamera c hc
    · obtain rfl := List.mem_singleton.mp hc
      cases hf with
      | unheard _ hframe => exact hframe
      | disconnected _ hgone =>
          exact absurd (hcamera.symm.trans hgone) (by decide)

/-- A step of the thread keeps the order. -/
theorem passed_thread (h : Passed s) (hs : threadStep s = some s') :
    Passed s' := by
  rcases threadStep_cases hs with ⟨c, q, hplace, hqueue, rfl⟩ | ⟨p, hp, rfl⟩
    | ⟨f, hf, rfl⟩
  · exact passed_take h hplace hqueue
  · exact passed_move h hp
  · exact passed_finish h hf

/-- Every step keeps it. -/
theorem passed_step {a : Step M F} (h : Passed s) (hs : step s a = some s') :
    Passed s' := by
  cases a with
  | call c =>
      obtain rfl := Option.some.inj hs
      refine ⟨?_, h.place, h.recorded, h.released, h.lost⟩
      show _ ++ _ ++ (s.queue ++ [c]) = s.made ++ [c]
      rw [← h.order, List.append_assoc _ s.queue]
  | thread => exact passed_thread h hs
  | setListener listener | setRecordingProxyListener listener
  | stopRecording =>
      obtain rfl := Option.some.inj hs
      exact ⟨h.order, h.place, h.recorded, h.released, h.lost⟩
  | disconnect =>
      obtain rfl := Option.some.inj hs
      exact ⟨h.order, h.place, h.recorded, h.released, fun h => by cases h⟩

/-- How many steps the thread is away from its next callback. -/
def Place.toIdle : Place M F → Nat
  | .idle => 0
  | .called _ => 4
  | .unrecorded _ => 3
  | .releasing _ => 2
  | .recording _ _ | .listening _ _ | .returning _ => 1

/-- The thread is held up by nothing. -/
theorem thread_runs (s : Camera M F) (h : s.place ≠ .idle) :
    ∃ t, threadStep s = some t ∧ t.place.toIdle < s.place.toIdle := by
  rw [threadStep]
  cases hplace : s.place with
  | idle => exact absurd hplace h
  | called c =>
      cases c with
      | dataCallbackTimestamp timestamp msgType dataPtr =>
          refine ⟨_, rfl, ?_⟩
          cases s.mRecordingProxyListener <;> (simp [Place.toIdle])
      | notifyCallback msgType ext1 ext2 =>
          refine ⟨_, rfl, ?_⟩
          cases s.mListener <;> (simp [Place.toIdle, Camera.finish])
      | dataCallback msgType dataPtr metadata =>
          refine ⟨_, rfl, ?_⟩
          cases s.mListener <;> (simp [Place.toIdle, Camera.finish])
  | recording l c | listening l c =>
      exact ⟨_, rfl, by simp [Place.toIdle, Camera.finish]⟩
  | unrecorded c =>
      refine ⟨_, rfl, ?_⟩
      cases s.mListener <;> (simp [Place.toIdle])
  | releasing c =>
      refine ⟨_, rfl, ?_⟩
      cases s.mCamera <;> (simp [Place.toIdle, Camera.finish])
  | returning c => exact ⟨_, rfl, by simp [Place.toIdle, Camera.finish]⟩

/-- **THE CALLBACKS** come to an end in their order, each once: with a
    listener, given back, or lost where nobody listens; and the thread is at
    most four steps away from the next.  Recording listeners get frames only,
    only frames are given back, and none of these is lost before the camera is
    disconnected. -/
theorem callbacks_passedOn {s : Camera M F}
    (h : Reach (cameraFrom (connected : Camera M F)) s) :
    s.fates.map Fate.callback ++ s.place.callback.toList ++ s.queue = s.made
      ∧ (s.place ≠ .idle →
        ∃ t, threadStep s = some t ∧ t.place.toIdle < s.place.toIdle)
      ∧ (∀ l c, .recorded l c ∈ s.fates → c.recordingFrame)
      ∧ (∀ c, .released c ∈ s.fates → c.recordingFrame)
      ∧ (s.mCamera = true → ∀ c, .lost c ∈ s.fates → ¬ c.recordingFrame) := by
  have hpassed : Passed s := by
    refine reachUnder_inv (I := Passed) (fun t ht => ?_)
      (fun t a t' ht _ hs => passed_step ht hs) h
    obtain rfl : t = connected := ht
    exact passed_connected
  exact ⟨hpassed.order, thread_runs s,
    fun l c hc => hpassed.recorded l c (.inr hc), hpassed.released,
    hpassed.lost⟩

/-- A recorder 7 that is stopped while a frame is on its way to it; the next
    frame has no listener. -/
def someSteps : List (Step Nat Unit) :=
  [.setRecordingProxyListener (some 7), .call (.dataCallbackTimestamp 33 32 1),
    .call (.dataCallbackTimestamp 66 32 2), .thread, .thread, .stopRecording,
    .thread, .thread, .thread, .thread, .thread, .thread]

/-- A camera with two callbacks on their way. -/
def someCamera : Camera Nat Unit where
  mCamera := true
  mListener := none
  mRecordingProxyListener := none
  place := .idle
  queue := []
  made := [.dataCallbackTimestamp 33 32 1, .dataCallbackTimestamp 66 32 2]
  fates := [.recorded 7 (.dataCallbackTimestamp 33 32 1),
    .released (.dataCallbackTimestamp 66 32 2)]

theorem callbacks_passedOn_someCamera :
    someCamera.fates.map Fate.callback ++ someCamera.place.callback.toList
        ++ someCamera.queue = someCamera.made
      ∧ ∀ c, .lost c ∈ someCamera.fates → ¬ c.recordingFrame := by
  have h := callbacks_passedOn
    (reach_exec someSteps (.init rfl) (rfl : _ = some someCamera))
  exact ⟨h.1, h.2.2.2.2 rfl⟩

/-! ## While a listener is set, and behind that -/

/-- A listener is not set again. -/
def NotSet (l : Nat) (_ : Camera M F) : Step M F → Prop
  | .setListener listener | .setRecordingProxyListener listener =>
      listener ≠ some l
  | _ => True

/-- The recording listener is left as it is. -/
def RecordingKept (_ : Camera M F) : Step M F → Prop
  | .setRecordingProxyListener _ | .stopRecording => False
  | _ => True

/-- The calls that a listener has got, and the one that is on its way. -/
def calls (l : Nat) (s : Camera M F) : Nat :=
  s.fates.countP (Fate.toListener l) + (s.place.toListener l).toNat

/-- A listener is set nowhere. -/
structure Unset (l : Nat) (s : Camera M F) : Prop where
  mListener : s.mListener ≠ some l
  mRecordingProxyListener : s.mRecordingProxyListener ≠ some l

/-- A callback that ends stays one call of its listener. -/
theorem calls_finish {f : Fate M F} {l : Nat} (hf : Ends s f) :
    calls l (s.finish f) = calls l s := by
  have hsame : Fate.toListener l f = s.place.toListener l := by
    cases hf with
    | recorded h | heard h | released h | unheard h | disconnected h =>
        rw [h]; rfl
  rw [calls, calls, Camera.finish, List.countP_append, ← hsame]
  cases hfate : Fate.toListener l f <;>
    simp [hfate, Place.toListener]

/-- A thread that moves on without the listener set adds no call of it. -/
theorem calls_move {p : Place M F} {l : Nat} (h : Unset l s)
    (hp : Moves s p) : calls l { s with place := p } ≤ calls l s := by
  have hnone : p.toListener l = false := by
    cases hp with
    | recording _ _ hl =>
        exact beq_false_of_ne fun hkl =>
          h.mRecordingProxyListener (hkl ▸ hl)
    | listening _ hl => exact beq_false_of_ne fun hkl => h.mListener (hkl ▸ hl)
    | _ => rfl
  simp [calls, hnone]

/-- A step of the thread adds none. -/
theorem calls_thread {l : Nat} (h : Unset l s) (hs : threadStep s = some s') :
    Unset l s' ∧ calls l s' ≤ calls l s := by
  rcases threadStep_cases hs with ⟨c, q, hplace, -, rfl⟩ | ⟨p, hp, rfl⟩
    | ⟨f, hf, rfl⟩
  · refine ⟨⟨h.mListener, h.mRecordingProxyListener⟩, ?_⟩
    simp [calls, hplace, Place.toListener]
  · exact ⟨⟨h.mListener, h.mRecordingProxyListener⟩, calls_move h hp⟩
  · exact ⟨⟨h.mListener, h.mRecordingProxyListener⟩,
      Nat.le_of_eq (calls_finish hf)⟩

/-- Nor does any other step that does not set it. -/
theorem calls_step {l : Nat} {a : Step M F} (h : Unset l s)
    (ha : NotSet l s a) (hs : step s a = some s') :
    Unset l s' ∧ calls l s' ≤ calls l s := by
  cases a with
  | thread => exact calls_thread h hs
  | call c | disconnect =>
      obtain rfl := Option.some.inj hs
      exact ⟨⟨h.mListener, h.mRecordingProxyListener⟩, Nat.le_refl _⟩
  | setListener listener =>
      obtain rfl := Option.some.inj hs
      exact ⟨⟨ha, h.mRecordingProxyListener⟩, Nat.le_refl _⟩
  | setRecordingProxyListener listener =>
      obtain rfl := Option.some.inj hs
      exact ⟨⟨h.mListener, ha⟩, Nat.le_refl _⟩
  | stopRecording =>
      obtain rfl := Option.some.inj hs
      exact ⟨⟨h.mListener, fun h => by cases h⟩, Nat.le_refl _⟩

/-- **A LISTENER THAT WAS REPLACED** gets only the call that the thread had
    looked up for it, if there is one. -/
theorem replaced_silent {l : Nat} {s s' : Camera M F} (h : Unset l s)
    (hrun : ReachUnder (cameraFrom s) (NotSet l) s') :
    s'.fates.countP (Fate.toListener l)
      ≤ s.fates.countP (Fate.toListener l)
        + (s.place.toListener l).toNat := by
  have hinv : Unset l s' ∧ calls l s' ≤ calls l s := by
    refine reachUnder_inv (I := fun t => Unset l t ∧ calls l t ≤ calls l s)
      (fun t ht => ?_) (fun t a t' ht ha hs => ?_) hrun
    · obtain rfl : t = s := ht
      exact ⟨h, Nat.le_refl _⟩
    · obtain ⟨hunset, hle⟩ := calls_step ht.1 ha hs
      exact ⟨hunset, Nat.le_trans hle ht.2⟩
  exact Nat.le_trans (Nat.le_add_right _ _) hinv.2

/-- The thread has looked up no other recording listener. -/
def Fresh (l : Nat) (p : Place M F) : Prop :=
  ∀ c ∈ p.callback, c.recordingFrame → p = .called c ∨ p = .recording l c

/-- From `s₀` on, the listener has got all frames but the one that had been
    looked up. -/
def Recorded (l : Nat) (s₀ s : Camera M F) : Prop :=
  s.mRecordingProxyListener = some l
    ∧ ∃ first rest, s.fates = s₀.fates ++ first ++ rest
      ∧ first.length ≤ 1
      ∧ (∀ f ∈ first, s₀.place.lookedUp = some f.callback)
      ∧ (∀ f ∈ rest, f.callback.recordingFrame → f = .recorded l f.callback)
      ∧ (Fresh l s.place ∨ first = [] ∧ rest = []
        ∧ ∃ c, s₀.place.lookedUp = some c ∧ s.place.callback = some c)

/-- The span starts with the listener set. -/
theorem recorded_start {l : Nat} (h : s.mRecordingProxyListener = some l) :
    Recorded l s s := by
  refine ⟨h, [], [], by simp, Nat.zero_le 1,
    fun f hf => absurd hf List.not_mem_nil,
    fun f hf => absurd hf List.not_mem_nil, ?_⟩
  cases s.place with
  | idle => exact .inl fun c hc => by cases hc
  | called c =>
      refine .inl fun c' hc' _ => .inl ?_
      rw [← Option.some.inj hc']
  | recording _ c | unrecorded c | listening _ c | releasing c
  | returning c => exact .inr ⟨rfl, rfl, c, rfl, rfl⟩

/-- A callback that looks now finds the listener that is set. -/
theorem fresh_move {l : Nat} {p : Place M F} (h : Fresh l s.place)
    (hl : s.mRecordingProxyListener = some l) (hp : Moves s p) :
    Fresh l p := by
  intro c hc hframe
  have hold := h c (hp.callback ▸ hc) hframe
  cases hp with
  | recording _ _ hk =>
      obtain rfl := Option.some.inj (hl.symm.trans hk)
      obtain rfl := Option.some.inj hc
      exact .inr rfl
  | unrecorded _ _ hnone => exact absurd (hl.symm.trans hnone) (by simp)
  | listening hat =>
      rcases hat with ⟨-, hno⟩ | hat
      · obtain rfl := Option.some.inj hc
        exact absurd hframe hno
      · rw [hat] at hold
        rcases hold with hold | hold <;> cases hold
  | releasing hat | returning hat =>
      rw [hat] at hold
      rcases hold with hold | hold <;> cases hold

/-- A frame that is looked up while the listener is set ends there. -/
theorem fresh_ends {l : Nat} {f : Fate M F} (h : Fresh l s.place)
    (hf : Ends s f) (hframe : f.callback.recordingFrame) :
    f = .recorded l f.callback := by
  have hat := h _ hf.callback hframe
  cases hf with
  | recorded h =>
      rw [h] at hat
      rcases hat with hat | hat <;> cases hat
      rfl
  | heard h | released h | disconnected h =>
      rw [h] at hat
      rcases hat with hat | hat <;> cases hat
  | unheard _ hno => exact absurd hframe hno

/-- A step of the thread keeps the span. -/
theorem recorded_thread {l : Nat} {s₀ : Camera M F} (h : Recorded l s₀ s)
    (hs : threadStep s = some s') : Recorded l s₀ s' := by
  obtain ⟨hl, first, rest, hfates, hlen, hfirst, hrest, hplace⟩ := h
  rcases threadStep_cases hs with ⟨c, q, hidle, -, rfl⟩ | ⟨p, hp, rfl⟩
    | ⟨f, hf, rfl⟩
  · refine ⟨hl, first, rest, hfates, hlen, hfirst, hrest,
      .inl fun c' hc' _ => .inl ?_⟩
    rw [← Option.some.inj hc']
  · refine ⟨hl, first, rest, hfates, hlen, hfirst, hrest, ?_⟩
    rcases hplace with hfresh | ⟨hnone, hnone', c, hc, hat⟩
    · exact .inl (fresh_move hfresh hl hp)
    · exact .inr ⟨hnone, hnone', c, hc, hp.callback.trans hat⟩
  · have hidle : Fresh l (s.finish f).place := fun c hc => by cases hc
    rcases hplace with hfresh | ⟨rfl, rfl, c, hc, hat⟩
    · refine ⟨hl, first, rest ++ [f], ?_, hlen, hfirst, fun f' hf' hframe => ?_,
        .inl hidle⟩
      · show s.fates ++ [f] = _
        rw [hfates, List.append_assoc _ rest]
      · rcases List.mem_append.mp hf' with hf' | hf'
        · exact hrest f' hf' hframe
        · obtain rfl := List.mem_singleton.mp hf'
          exact fresh_ends hfresh hf hframe
    · -- the callback that had been looked up comes to its end
      refine ⟨hl, [f], [], ?_, Nat.le_refl 1, fun f' hf' => ?_,
        fun f' hf' => absurd hf' List.not_mem_nil, .inl hidle⟩
      · show s.fates ++ [f] = _
        rw [hfates]
        simp
      · obtain rfl := List.mem_singleton.mp hf'
        exact hc.trans (hat.symm.trans hf.callback)

/-- Every step that keeps the listener does. -/
theorem recorded_step {l : Nat} {s₀ : Camera M F} {a : Step M F}
    (h : Recorded l s₀ s) (ha : RecordingKept s a)
    (hs : step s a = some s') : Recorded l s₀ s' := by
  cases a with
  | thread => exact recorded_thread h hs
  | call c | setListener listener | disconnect =>
      obtain rfl := Option.some.inj hs
      exact h
  | setRecordingProxyListener listener | stopRecording => exact ha.elim

/-- **A RECORDING LISTENER** gets all frames while it is set, but for the one
    that the thread had looked up before. -/
theorem recorder_hearsAll {l : Nat} {s s' : Camera M F}
    (h : s.mRecordingProxyListener = some l)
    (hrun : ReachUnder (cameraFrom s) RecordingKept s') :
    ∃ first rest, s'.fates = s.fates ++ first ++ rest ∧ first.length ≤ 1
      ∧ (∀ f ∈ first, s.place.lookedUp = some f.callback)
      ∧ ∀ f ∈ rest, f.callback.recordingFrame →
        f = .recorded l f.callback := by
  have hinv : Recorded l s s' := by
    refine reachUnder_inv (I := Recorded l s) (fun t ht => ?_)
      (fun t a t' ht ha hs => recorded_step ht ha hs) hrun
    obtain rfl : t = s := ht
    exact recorded_start h
  obtain ⟨-, first, rest, hfates, hlen, hfirst, hrest, -⟩ := hinv
  exact ⟨first, rest, hfates, hlen, hfirst, hrest⟩

/-- **THE SPAN OF A LISTENER**: a recording listener gets all frames while it
    is set, but for the one that the thread had looked up before, if there is
    one; and a listener that is set nowhere gets only the call that had been
    looked up for it. -/
theorem listener_span (l : Nat) (s s' : Camera M F) :
    (s.mRecordingProxyListener = some l →
      ReachUnder (cameraFrom s) RecordingKept s' →
      ∃ first rest, s'.fates = s.fates ++ first ++ rest ∧ first.length ≤ 1
        ∧ (∀ f ∈ first, s.place.lookedUp = some f.callback)
        ∧ ∀ f ∈ rest, f.callback.recordingFrame →
          f = .recorded l f.callback)
      ∧ (Unset l s → ReachUnder (cameraFrom s) (NotSet l) s' →
        s'.fates.countP (Fate.toListener l)
          ≤ s.fates.countP (Fate.toListener l)
            + (s.place.toListener l).toNat) :=
  ⟨recorder_hearsAll, replaced_silent⟩

/-- The recorder 7 is set when the thread has found none for a frame. -/
def startedCamera : Camera Nat Unit :=
  { someCamera with
    mRecordingProxyListener := some 7
    place := .unrecorded (.dataCallbackTimestamp 33 32 1)
    queue := [.dataCallbackTimestamp 66 32 2]
    fates := [] }

/-- It gets the next one. -/
def recordedCamera : Camera Nat Unit :=
  { startedCamera with
    place := .idle
    queue := []
    fates := [.released (.dataCallbackTimestamp 33 32 1),
      .recorded 7 (.dataCallbackTimestamp 66 32 2)] }

/-- The recorder 7 is stopped, with a frame on its way to it. -/
def stoppedCamera : Camera Nat Unit :=
  { someCamera with
    place := .recording 7 (.dataCallbackTimestamp 33 32 1)
    queue := [.dataCallbackTimestamp 66 32 2]
    fates := [] }

theorem listener_span_both :
    (∃ first rest, recordedCamera.fates = startedCamera.fates ++ first ++ rest
        ∧ first.length ≤ 1
        ∧ (∀ f ∈ first, startedCamera.place.lookedUp = some f.callback)
        ∧ ∀ f ∈ rest, f.callback.recordingFrame → f = .recorded 7 f.callback)
      ∧ someCamera.fates.countP (Fate.toListener 7)
        ≤ stoppedCamera.fates.countP (Fate.toListener 7)
          + (stoppedCamera.place.toListener 7).toNat := by
  have hunset : Unset 7 stoppedCamera :=
    ⟨fun h => (by cases h), fun h => (by cases h)⟩
  constructor
  · exact (listener_span 7 startedCamera recordedCamera).1 rfl
      (reachUnder_exec (List.replicate 6 .thread) (.init rfl)
        (by simp [StepsMeet, RecordingKept, List.replicate]) rfl)
  · exact (listener_span 7 stoppedCamera someCamera).2 hunset
      (reachUnder_exec (List.replicate 6 .thread) (.init rfl)
        (by simp [StepsMeet, NotSet, List.replicate]) rfl)

end QcomCameraClient
