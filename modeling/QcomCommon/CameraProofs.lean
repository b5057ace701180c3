import QcomCommon.AssignProofs
import QcomCommon.TransitionProofs

/-! # The parameter strings of the camera wrapper

    `CameraWrapper.cpp` keeps the last parameters of every camera in one
    array, `fixed_set_params`.  `camera_device_open` allocates a new array,
    `camera_fixup_setparams` replaces the string of a camera, and
    `camera_device_close` frees all strings and leaves their addresses.

    So the strings are safe along a run if and only if every device opened
    has an id in range, and every close finds no string in the array and, if
    it is the last, no string at all (`params_safe_iff`). -/

namespace QcomCamera

open QcomTransition QcomAssign

/-! ## Strings -/

/-- The strings of `strdup` that are live, and whether one was freed that was
    not. -/
structure Heap where
  strings : Nat → Option String
  next : Nat
  freedTwice : Bool

/-- A string is freed; a second time is noted. -/
def Heap.free (heap : Heap) (p : Nat) : Heap :=
  match heap.strings p with
  | some _ => { heap with strings := put heap.strings (p, none) }
  | none => { heap with freedTwice := true }

/-- `strdup`, if there is memory; NULL otherwise. -/
def Heap.strdup (heap : Heap) (memory : Bool) (s : String) :
    Option Nat × Heap :=
  if memory then
    (some heap.next,
      { heap with
        strings := put heap.strings (heap.next, some s)
        next := heap.next + 1 })
  else (none, heap)

/-- `if (p) free(p)`. -/
def Heap.freeEntry (heap : Heap) (p : Option Nat) : Heap :=
  match p with
  | some p => heap.free p
  | none => heap

/-- The class `CameraParameters` of the framework, as far as it is used. -/
structure CameraParameters (Params : Type) where
  unflatten : String → Params
  get : Params → String → Option String
  remove : Params → String → Params
  flatten : Params → String
  KEY_SCENE_MODE : String
  SCENE_MODE_HDR : String
  KEY_QC_HDR_NEED_1X : String

/-! ## The wrapper -/

/-- `devices` are the ids of the open devices. -/
structure Camera where
  gVendorModule : Bool
  fixed_set_params : Option (List (Option Nat))
  heap : Heap
  devices : Nat → Option Int
  nextDevice : Nat

/-- What the vendor module and `malloc` answer to an open. -/
structure OpenAnswers where
  vendorModule : Bool
  params : Bool
  device : Bool
  vendorOpen : Bool
  ops : Bool
deriving DecidableEq, Repr

variable {Params : Type} (cp : CameraParameters Params) (num_cameras : Nat)

/-- The text of `camera_fixup_setparams`. -/
def fixedParams (settings : String) : String :=
  let params := cp.unflatten settings
  let params := if cp.get params cp.KEY_SCENE_MODE = some cp.SCENE_MODE_HDR
    then cp.remove params cp.KEY_QC_HDR_NEED_1X else params
  cp.flatten params

/-- `camera_fixup_setparams`: the string it returns.  An id out of the range
    of the array, and no array, are undefined. -/
def camera_fixup_setparams (s : Camera) (id : Int) (settings : String)
    (memory : Bool) : Option (Option Nat × Camera) :=
  match s.fixed_set_params with
  | none => none
  | some params =>
      if 0 ≤ id ∧ id < params.length then
        let heap := s.heap.freeEntry (params.getD id.toNat none)
        let r := heap.strdup memory (fixedParams cp settings)
        some (r.1, { s with
          fixed_set_params := some (params.set id.toNat r.1), heap := r.2 })
      else none

/-- `camera_set_parameters` of an open device. -/
def camera_set_parameters (s : Camera) (device : Nat) (params : String)
    (memory : Bool) : Option Camera :=
  (s.devices device).bind (fun id =>
    (camera_fixup_setparams cp s id params memory).map Prod.snd)

/-- The number of the vendor module, if it can be had. -/
def camera_get_number_of_cameras (s : Camera) : Nat :=
  if s.gVendorModule then num_cameras else 0

/-- The loop of `camera_device_close`; with cameras and no array it is
    undefined. -/
def freeParams (s : Camera) : Option Heap :=
  let count := camera_get_number_of_cameras num_cameras s
  match s.fixed_set_params with
  | some params => some ((params.take count).foldl Heap.freeEntry s.heap)
  | none => if count = 0 then some s.heap else none

/-- `camera_device_close` of an open device. -/
def camera_device_close (s : Camera) (device : Nat) : Option Camera :=
  (s.devices device).bind (fun _ =>
    (freeParams num_cameras s).map (fun heap =>
      { s with heap, devices := put s.devices (device, none) }))

/-- The id of the device that an open gives, if it gives one; `name` is the
    number that `atoi` reads. -/
def openedId (s : Camera) (name : Option Int) (answers : OpenAnswers) :
    Option Int :=
  name.filter (fun cameraid =>
    (s.gVendorModule || answers.vendorModule) && answers.params &&
      decide (¬ cameraid > num_cameras) && answers.device &&
      answers.vendorOpen && answers.ops)

/-- `camera_device_open`. -/
def camera_device_open (s : Camera) (name : Option Int)
    (answers : OpenAnswers) : Camera :=
  match name with
  | none => s
  | some cameraid =>
      -- check_vendor_module
      if (s.gVendorModule || answers.vendorModule) = false then s
      else
        let s := { s with gVendorModule := true }
        if answers.params = false then { s with fixed_set_params := none }
        else
          let s := { s with
            fixed_set_params := some (List.replicate num_cameras none) }
          if cameraid > num_cameras then s
          else if answers.device = false then s
          else if answers.vendorOpen = false then s
          else if answers.ops = false then s
          else { s with
            devices := put s.devices (s.nextDevice, some cameraid)
            nextDevice := s.nextDevice + 1 }

/-- A call of the wrapper. -/
inductive CameraAction where
  | device_open (name : Option Int) (answers : OpenAnswers)
  | set_parameters (device : Nat) (params : String) (memory : Bool)
  | device_close (device : Nat)

/-- The calls come in any order, with any devices open at once. -/
def cameraStep (s : Camera) : CameraAction → Option Camera
  | .device_open name answers =>
      some (camera_device_open num_cameras s name answers)
  | .set_parameters device params memory =>
      camera_set_parameters cp s device params memory
  | .device_close device => camera_device_close num_cameras s device

/-- Before the first call. -/
def newCamera : Camera where
  gVendorModule := false
  fixed_set_params := none
  heap := ⟨fun _ => none, 0, false⟩
  devices _ := none
  nextDevice := 0

/-- The wrapper from its start on. -/
def cameraSys : TransSys Camera CameraAction where
  init s := s = newCamera
  step := cameraStep cp num_cameras

/-! ## Safe strings -/

/-- Entry `i` of `fixed_set_params` is the string `p`. -/
def Camera.Entry (s : Camera) (i p : Nat) : Prop :=
  ∃ params, s.fixed_set_params = some params ∧ params[i]? = some (some p)

/-- **SAFE PARAMETERS**: the ids of the open devices are in range, an entry
    is NULL or a live string, no string was freed twice, and none is live
    when all devices are closed. -/
structure ParamsSafe (s : Camera) : Prop where
  ids : ∀ device id, s.devices device = some id → 0 ≤ id ∧ id < num_cameras
  entries : ∀ i p, s.Entry i p → s.heap.strings p ≠ none
  once : s.heap.freedTwice = false
  closed : (∀ device, s.devices device = none) →
    ∀ p, s.heap.strings p = none

/-- A call that keeps the strings safe. -/
def Careful (s : Camera) : CameraAction → Prop
  | .device_open name answers =>
      ∀ id, openedId num_cameras s name answers = some id →
        0 ≤ id ∧ id < num_cameras
  | .set_parameters _ _ _ => True
  | .device_close device =>
      (∀ i p, ¬ s.Entry i p) ∧
        ((∃ other, other ≠ device ∧ s.devices other ≠ none) ∨
          ∀ p, s.heap.strings p = none)

/-! ## The heap -/

theorem free_live {heap : Heap} {p : Nat} (h : heap.strings p ≠ none) :
    heap.free p = { heap with strings := put heap.strings (p, none) } := by
  obtain ⟨v, hv⟩ := Option.ne_none_iff_exists'.mp h
  rw [Heap.free, hv]

/-- Freeing makes no string live. -/
theorem free_dead {heap : Heap} {q : Nat} (p : Nat)
    (h : heap.strings q = none) : (heap.free p).strings q = none := by
  rw [Heap.free]
  cases heap.strings p with
  | none => exact h
  | some v =>
      show (if q = p then none else heap.strings q) = none
      rw [h, ite_self]

theorem free_self (heap : Heap) (p : Nat) :
    (heap.free p).strings p = none := by
  rw [Heap.free]
  cases hp : heap.strings p with
  | none => exact hp
  | some v => exact if_pos rfl

/-- The loop frees the strings of all entries. -/
theorem freeAll_dead {params : List (Option Nat)} {heap : Heap} {q : Nat}
    (h : heap.strings q = none ∨ some q ∈ params) :
    (params.foldl Heap.freeEntry heap).strings q = none := by
  induction params generalizing heap with
  | nil => exact h.resolve_right List.not_mem_nil
  | cons e params ih =>
      rw [List.foldl_cons]
      apply ih
      rcases h with h | h
      · cases e with
        | none => exact Or.inl h
        | some p => exact Or.inl (free_dead p h)
      · rcases List.mem_cons.mp h with rfl | h
        · exact Or.inl (free_self heap q)
        · exact Or.inr h

/-- And nothing if there are none. -/
theorem freeAll_null {params : List (Option Nat)} (heap : Heap)
    (h : ∀ p, some p ∉ params) : params.foldl Heap.freeEntry heap = heap := by
  induction params with
  | nil => rfl
  | cons e params ih =>
      cases e with
      | none => exact ih (fun p hp => h p (List.mem_cons_of_mem _ hp))
      | some p => exact absurd List.mem_cons_self (h p)

/-! ## The law -/

/-- Safe strings, each in one entry, of an array as long as there are
    cameras. -/
structure CameraLaw (s : Camera) : Prop where
  safe : ParamsSafe num_cameras s
  distinct : ∀ i j p, s.Entry i p → s.Entry j p → i = j
  fresh : ∀ p, s.heap.next ≤ p → s.heap.strings p = none
  whole : ∀ params, s.fixed_set_params = some params →
    params.length = num_cameras
  loaded : ∀ device, s.devices device ≠ none → s.gVendorModule = true

variable {num_cameras}

/-- The strings that the loop of a close meets are all of the array. -/
theorem freeParams_eq {s : Camera} (h : CameraLaw num_cameras s)
    {device : Nat} (hopen : s.devices device ≠ none) {heap : Heap}
    (hfree : freeParams num_cameras s = some heap) :
    heap = (s.fixed_set_params.getD []).foldl Heap.freeEntry s.heap := by
  have hcount : camera_get_number_of_cameras num_cameras s = num_cameras := by
    rw [camera_get_number_of_cameras, h.loaded device hopen, if_pos rfl]
  rw [freeParams, hcount] at hfree
  cases hp : s.fixed_set_params with
  | some params =>
      rw [hp] at hfree
      have hlen := h.whole params hp
      rw [← hlen] at hfree
      dsimp only at hfree
      rw [List.take_length] at hfree
      exact (Option.some.inj hfree).symm
  | none =>
      rw [hp] at hfree
      dsimp only at hfree
      by_cases hn : num_cameras = 0
      · rw [if_pos hn] at hfree
        exact (Option.some.inj hfree).symm
      · rw [if_neg hn] at hfree
        cases hfree

theorem entry_iff {s : Camera} {p : Nat} :
    (∃ i, s.Entry i p) ↔ some p ∈ s.fixed_set_params.getD [] := by
  constructor
  · rintro ⟨i, params, hp, hi⟩
    rw [hp]
    exact List.mem_of_getElem? hi
  · intro hmem
    cases hp : s.fixed_set_params with
    | none =>
        rw [hp] at hmem
        cases hmem
    | some params =>
        rw [hp] at hmem
        obtain ⟨i, hi⟩ := List.getElem?_of_mem hmem
        exact ⟨i, params, hp, hi⟩

/-! ## Opening -/

/-- What an open does to the wrapper. -/
structure OpenEffect (num_cameras : Nat) (s s' : Camera) (opened : Option Int) :
    Prop where
  heap : s'.heap = s.heap
  devices : s'.devices = match opened with
    | some id => put s.devices (s.nextDevice, some id)
    | none => s.devices
  params : s'.fixed_set_params = s.fixed_set_params ∨
    s'.fixed_set_params = none ∨
    s'.fixed_set_params = some (List.replicate num_cameras none)
  module : s.gVendorModule = true ∨ opened ≠ none → s'.gVendorModule = true

/-- **AN OPEN** leaves the strings, and gives a device or none. -/
theorem open_effect (num_cameras : Nat) (s : Camera) (name : Option Int)
    (answers : OpenAnswers) :
    OpenEffect num_cameras s (camera_device_open num_cameras s name answers)
      (openedId num_cameras s name answers) := by
  cases name with
  | none => exact ⟨rfl, rfl, Or.inl rfl, fun h => h.resolve_right (absurd rfl)⟩
  | some cameraid =>
      by_cases hmodule : (s.gVendorModule || answers.vendorModule) = false
      · have hid : openedId num_cameras s (some cameraid) answers = none := by
          simp [openedId, hmodule]
        rw [hid, camera_device_open, if_pos hmodule]
        exact ⟨rfl, rfl, Or.inl rfl, fun h => h.resolve_right (absurd rfl)⟩
      · rw [camera_device_open, if_neg hmodule]
        rw [Bool.not_eq_false] at hmodule
        by_cases hparams : answers.params = false
        · have hid : openedId num_cameras s (some cameraid) answers = none := by
            simp [openedId, hparams]
          rw [hid, if_pos hparams]
          exact ⟨rfl, rfl, Or.inr (Or.inl rfl), fun _ => rfl⟩
        · rw [if_neg hparams]
          by_cases hid : openedId num_cameras s (some cameraid) answers = none
          · -- one of the later checks fails
            rw [hid]
            split_ifs with hrange hdevice hvendor hops
            · exact ⟨rfl, rfl, Or.inr (Or.inr rfl), fun _ => rfl⟩
            · exact ⟨rfl, rfl, Or.inr (Or.inr rfl), fun _ => rfl⟩
            · exact ⟨rfl, rfl, Or.inr (Or.inr rfl), fun _ => rfl⟩
            · exact ⟨rfl, rfl, Or.inr (Or.inr rfl), fun _ => rfl⟩
            · simp [openedId, hmodule, hparams, hrange, hdevice, hvendor,
                hops] at hid
          · obtain ⟨id, hsome⟩ := Option.ne_none_iff_exists'.mp hid
            rw [openedId, Option.filter_eq_some_iff] at hsome
            simp only [Bool.and_eq_true, decide_eq_true_eq] at hsome
            obtain ⟨hname, ⟨⟨⟨⟨⟨-, -⟩, hrange⟩, hdevice⟩, hvendor⟩, hops⟩⟩ :=
              hsome
            obtain rfl := Option.some.inj hname
            have hle : cameraid ≤ num_cameras := Int.not_lt.mp hrange
            have hopened : openedId num_cameras s (some cameraid) answers
                = some cameraid := by
              simp [openedId, hmodule, hparams, hle, hdevice, hvendor, hops]
            rw [hopened, if_neg hrange]
            simp only [hdevice, hvendor, hops, Bool.true_eq_false, if_false]
            exact ⟨rfl, rfl, Or.inr (Or.inr rfl), fun _ => rfl⟩

/-- After an open that changes the array there is no entry in it. -/
theorem entry_of_open {s s' : Camera} {opened : Option Int}
    (h : OpenEffect num_cameras s s' opened) {i p : Nat}
    (hentry : s'.Entry i p) : s.Entry i p := by
  obtain ⟨params, hp, hi⟩ := hentry
  rcases h.params with hsame | hnone | hnull
  · exact ⟨params, hsame ▸ hp, hi⟩
  · rw [hnone] at hp
    cases hp
  · rw [hnull] at hp
    obtain rfl := Option.some.inj hp
    have hmem := List.mem_of_getElem? hi
    rw [List.mem_replicate] at hmem
    cases hmem.2

/-- **AN OPEN** keeps the law if its device has an id in range. -/
theorem law_open {s s' : Camera} (h : CameraLaw num_cameras s)
    {opened : Option Int} (he : OpenEffect num_cameras s s' opened)
    (hid : ∀ id, opened = some id → 0 ≤ id ∧ id < num_cameras) :
    CameraLaw num_cameras s' where
  safe :=
    { ids := by
        intro device id hd
        rw [he.devices] at hd
        cases opened with
        | none => exact h.safe.ids device id hd
        | some id' =>
            simp only [put] at hd
            by_cases hnew : device = s.nextDevice
            · rw [if_pos hnew] at hd
              exact hid id (by rw [← hd])
            · rw [if_neg hnew] at hd
              exact h.safe.ids device id hd
      entries := by
        intro i p hentry
        rw [he.heap]
        exact h.safe.entries i p (entry_of_open he hentry)
      once := he.heap ▸ h.safe.once
      closed := by
        intro hnone p
        rw [he.heap]
        rw [he.devices] at hnone
        cases opened with
        | none => exact h.safe.closed hnone p
        | some id =>
            have hnew := hnone s.nextDevice
            simp only [put, if_true] at hnew
            cases hnew }
  distinct i j p hi hj :=
    h.distinct i j p (entry_of_open he hi) (entry_of_open he hj)
  fresh p hp := by
    rw [he.heap] at hp ⊢
    exact h.fresh p hp
  whole params hp := by
    rcases he.params with hsame | hnone | hnull
    · exact h.whole params (hsame ▸ hp)
    · rw [hnone] at hp
      cases hp
    · rw [hnull] at hp
      obtain rfl := Option.some.inj hp
      exact List.length_replicate
  loaded device hd := by
    refine he.module ?_
    cases opened with
    | none => exact Or.inl (h.loaded device (by rw [he.devices] at hd; exact hd))
    | some id => exact Or.inr (by rintro ⟨⟩)

/-! ## Setting parameters -/

/-- What setting the parameters of a camera changes. -/
theorem fixup_spec {cp : CameraParameters Params} {s s' : Camera} {id : Int}
    {settings : String} {memory : Bool} {q : Option Nat}
    (h : camera_fixup_setparams cp s id settings memory = some (q, s')) :
    ∃ params, s.fixed_set_params = some params ∧
      id.toNat < params.length ∧
      s'.fixed_set_params = some (params.set id.toNat q) ∧
      (q, s'.heap) = (s.heap.freeEntry (params.getD id.toNat none)).strdup
        memory (fixedParams cp settings) ∧
      s'.devices = s.devices ∧ s'.gVendorModule = s.gVendorModule := by
  rw [camera_fixup_setparams] at h
  cases hp : s.fixed_set_params with
  | none =>
      rw [hp] at h
      cases h
  | some params =>
      rw [hp] at h
      dsimp only at h
      by_cases hid : 0 ≤ id ∧ id < params.length
      · rw [if_pos hid] at h
        obtain ⟨rfl, rfl⟩ := Prod.mk.injEq .. ▸ Option.some.inj h
        refine ⟨params, rfl, ?_, rfl, rfl, rfl, rfl⟩
        omega
      · rw [if_neg hid] at h
        cases h

/-- The entries after it: the new string, and those of the other cameras. -/
theorem entry_set {s s' : Camera} {params : List (Option Nat)} {k : Nat}
    {q : Option Nat} (hp : s.fixed_set_params = some params)
    (hp' : s'.fixed_set_params = some (params.set k q)) {i p : Nat}
    (h : s'.Entry i p) : (i = k ∧ q = some p) ∨ (i ≠ k ∧ s.Entry i p) := by
  obtain ⟨params', he, hi⟩ := h
  rw [hp'] at he
  obtain rfl := Option.some.inj he
  rw [List.getElem?_set] at hi
  by_cases hik : k = i
  · rw [if_pos hik] at hi
    by_cases hlt : k < params.length
    · rw [if_pos hlt] at hi
      exact Or.inl ⟨hik.symm, Option.some.inj hi⟩
    · rw [if_neg hlt] at hi
      cases hi
  · rw [if_neg hik] at hi
    exact Or.inr ⟨fun h => hik h.symm, params, hp, hi⟩

/-- Freeing the entry of a camera leaves the strings of the others, and is no
    second time. -/
theorem freeEntry_spec {s : Camera} (h : CameraLaw num_cameras s)
    {params : List (Option Nat)} (hp : s.fixed_set_params = some params)
    (k : Nat) :
    let heap := s.heap.freeEntry (params.getD k none)
    heap.freedTwice = false ∧ heap.next = s.heap.next ∧
      (∀ i p, i ≠ k → s.Entry i p → heap.strings p ≠ none) ∧
      ∀ p, s.heap.strings p = none → heap.strings p = none := by
  cases he : params.getD k none with
  | none =>
      exact ⟨h.safe.once, rfl, fun i p _ hi => h.safe.entries i p hi,
        fun _ hp => hp⟩
  | some q =>
      have hk : s.Entry k q := by
        refine ⟨params, hp, ?_⟩
        rw [List.getD_eq_getElem?_getD] at he
        cases hget : params[k]? with
        | none =>
            rw [hget] at he
            cases he
        | some e =>
            rw [hget, Option.getD_some] at he
            rw [he]
      have hlive := h.safe.entries k q hk
      have hfree : s.heap.freeEntry (some q)
          = { s.heap with strings := put s.heap.strings (q, none) } :=
        free_live hlive
      dsimp only
      rw [hfree]
      refine ⟨h.safe.once, rfl, fun i p hne hi => ?_, fun p hnone => ?_⟩
      · -- two cameras have different strings
        have hpq : p ≠ q := fun e => hne (h.distinct i k p hi (e ▸ hk))
        simp only [put, if_neg hpq]
        exact h.safe.entries i p hi
      · simp only [put]
        rw [hnone, ite_self]

/-- The string of `strdup` is live and new; the others are as they were. -/
theorem strdup_spec {heap heap' : Heap} {memory : Bool} {text : String}
    {q : Option Nat} (h : (q, heap') = heap.strdup memory text) :
    heap'.freedTwice = heap.freedTwice ∧
      (∀ p, q = some p → p = heap.next ∧ heap'.strings p = some text) ∧
      (∀ p, heap.strings p ≠ none → heap'.strings p ≠ none) ∧
      ((∀ p, heap.next ≤ p → heap.strings p = none) →
        ∀ p, heap'.next ≤ p → heap'.strings p = none) := by
  rw [Heap.strdup] at h
  cases memory with
  | false =>
      obtain ⟨rfl, rfl⟩ := Prod.mk.injEq .. ▸ h
      exact ⟨rfl, fun _ hq => (by cases hq), fun _ hp => hp, fun hf => hf⟩
  | true =>
      obtain ⟨rfl, rfl⟩ := Prod.mk.injEq .. ▸ h
      refine ⟨rfl, fun p hq => ?_, fun p hp => ?_, fun hf p hp => ?_⟩
      · obtain rfl := Option.some.inj hq
        exact ⟨rfl, if_pos rfl⟩
      · simp only [put]
        by_cases hnew : p = heap.next
        · rw [if_pos hnew]
          rintro ⟨⟩
        · rw [if_neg hnew]
          exact hp
      · have hlt : heap.next < p := hp
        simp only [put, if_neg (Nat.ne_of_gt hlt)]
        exact hf p (Nat.le_of_lt hlt)

/-- **SETTING PARAMETERS** keeps the law. -/
theorem law_set {cp : CameraParameters Params} {s s' : Camera}
    (h : CameraLaw num_cameras s) {device : Nat} {settings : String}
    {memory : Bool}
    (hs : camera_set_parameters cp s device settings memory = some s') :
    CameraLaw num_cameras s' := by
  obtain ⟨id, hopen, hs⟩ := Option.bind_eq_some_iff.mp hs
  obtain ⟨⟨q, t⟩, hfix, rfl⟩ := Option.map_eq_some_iff.mp hs
  obtain ⟨params, hp, hlt, hp', hheap, hdevices, hmodule⟩ := fixup_spec hfix
  obtain ⟨honce, hnext, hothers, hdead⟩ := freeEntry_spec h hp id.toNat
  obtain ⟨honce', hnew, hkept, hfresh⟩ := strdup_spec hheap
  dsimp only
  refine ⟨⟨?_, ?_, ?_, ?_⟩, ?_, ?_, ?_, ?_⟩
  · rw [hdevices]
    exact h.safe.ids
  · intro i p hi
    rcases entry_set hp hp' hi with ⟨-, hq⟩ | ⟨hne, hi⟩
    · rw [(hnew p hq).2]
      rintro ⟨⟩
    · exact hkept p (hothers i p hne hi)
  · exact honce'.trans honce
  · -- the device is still open
    intro hnone
    rw [hdevices] at hnone
    rw [hnone device] at hopen
    cases hopen
  · -- a new string is no string of another camera
    have hlive : ∀ i p, s.Entry i p → q ≠ some p := by
      intro i p hi hq
      have hge : s.heap.next ≤ p :=
        Nat.le_of_eq ((hnew p hq).1.trans hnext).symm
      exact h.safe.entries i p hi (h.fresh p hge)
    intro i j p hi hj
    rcases entry_set hp hp' hi with ⟨hik, hq⟩ | ⟨-, hi⟩
    · rcases entry_set hp hp' hj with ⟨hjk, -⟩ | ⟨-, hj⟩
      · rw [hik, hjk]
      · exact absurd hq (hlive j p hj)
    · rcases entry_set hp hp' hj with ⟨-, hq⟩ | ⟨-, hj⟩
      · exact absurd hq (hlive i p hi)
      · exact h.distinct i j p hi hj
  · refine hfresh (fun p hge => hdead p (h.fresh p ?_))
    rw [hnext] at hge
    exact hge
  · intro params' he
    rw [hp'] at he
    obtain rfl := Option.some.inj he
    rw [List.length_set]
    exact h.whole params hp
  · rw [hdevices, hmodule]
    exact h.loaded

/-! ## Closing -/

/-- What a close changes. -/
theorem close_spec {s s' : Camera} (h : CameraLaw num_cameras s)
    {device : Nat} (hs : camera_device_close num_cameras s device = some s') :
    s' = { s with
      heap := (s.fixed_set_params.getD []).foldl Heap.freeEntry s.heap
      devices := put s.devices (device, none) } := by
  obtain ⟨id, hopen, hs⟩ := Option.bind_eq_some_iff.mp hs
  obtain ⟨heap, hfree, rfl⟩ := Option.map_eq_some_iff.mp hs
  have hne : s.devices device ≠ none := by
    rw [hopen]
    rintro ⟨⟩
  rw [freeParams_eq h hne hfree]

/-- Without a string in the array a close frees nothing. -/
theorem freeAll_of_null {s : Camera} (h : ∀ i p, ¬ s.Entry i p) :
    (s.fixed_set_params.getD []).foldl Heap.freeEntry s.heap = s.heap := by
  refine freeAll_null _ (fun p hp => ?_)
  obtain ⟨i, hi⟩ := entry_iff.mpr hp
  exact h i p hi

/-- **A CLOSE** keeps the law if there is no string in the array, and none at
    all or another device. -/
theorem law_close {s s' : Camera} (h : CameraLaw num_cameras s)
    {device : Nat} (hg : Careful num_cameras s (.device_close device))
    (hs : camera_device_close num_cameras s device = some s') :
    CameraLaw num_cameras s' := by
  obtain ⟨hnull, hlast⟩ := hg
  have hclosed : ∀ d id, put s.devices (device, none) d = some id →
      s.devices d = some id := by
    intro d id hd
    by_cases hdd : d = device
    · simp only [put, if_pos hdd] at hd
      cases hd
    · simp only [put, if_neg hdd] at hd
      exact hd
  rw [close_spec h hs, freeAll_of_null hnull]
  refine ⟨⟨?_, h.safe.entries, h.safe.once, ?_⟩, h.distinct, h.fresh, h.whole,
    ?_⟩
  · exact fun d id hd => h.safe.ids d id (hclosed d id hd)
  · intro hnone
    rcases hlast with ⟨other, hne, hopen⟩ | hdead
    · have hother := hnone other
      simp only [put, if_neg hne] at hother
      exact absurd hother hopen
    · exact hdead
  · intro d hd
    obtain ⟨id, hid⟩ := Option.ne_none_iff_exists'.mp hd
    refine h.loaded d ?_
    rw [hclosed d id hid]
    rintro ⟨⟩

/-- And otherwise leaves an entry that dangles, or a string that is lost. -/
theorem close_unsafe {s s' : Camera} (h : CameraLaw num_cameras s)
    {device : Nat} (hg : ¬ Careful num_cameras s (.device_close device))
    (hs : camera_device_close num_cameras s device = some s') :
    ¬ ParamsSafe num_cameras s' := by
  intro hsafe
  rw [close_spec h hs] at hsafe
  have hnull : ∀ i p, ¬ s.Entry i p := by
    -- an entry stays, and its string is freed
    intro i p hi
    refine hsafe.entries i p hi (freeAll_dead (Or.inr ?_))
    exact entry_iff.mp ⟨i, hi⟩
  rw [freeAll_of_null hnull] at hsafe
  refine hg ⟨hnull, ?_⟩
  by_cases hother : ∃ other, other ≠ device ∧ s.devices other ≠ none
  · exact Or.inl hother
  · refine Or.inr (hsafe.closed (fun d => ?_))
    by_cases hd : d = device
    · simp only [put, if_pos hd]
    · simp only [put, if_neg hd]
      by_contra hopen
      exact hother ⟨d, hd, hopen⟩

/-! ## Every run -/

/-- **ONE CALL** that is careful keeps the law. -/
theorem law_step {cp : CameraParameters Params} {s s' : Camera}
    {a : CameraAction} (h : CameraLaw num_cameras s)
    (hg : Careful num_cameras s a)
    (hs : cameraStep cp num_cameras s a = some s') :
    CameraLaw num_cameras s' := by
  cases a with
  | device_open name answers =>
      obtain rfl := Option.some.inj hs
      exact law_open h (open_effect num_cameras s name answers) hg
  | set_parameters device params memory => exact law_set h hs
  | device_close device => exact law_close h hg hs

/-- And one that is not ends unsafe. -/
theorem unsafe_step {cp : CameraParameters Params} {s s' : Camera}
    {a : CameraAction} (h : CameraLaw num_cameras s)
    (hg : ¬ Careful num_cameras s a)
    (hs : cameraStep cp num_cameras s a = some s') :
    ¬ ParamsSafe num_cameras s' := by
  cases a with
  | device_open name answers =>
      obtain rfl := Option.some.inj hs
      -- the device has an id out of range
      intro hsafe
      refine hg (fun id hid => ?_)
      have he := open_effect num_cameras s name answers
      refine hsafe.ids s.nextDevice id ?_
      rw [he.devices, hid]
      exact if_pos rfl
  | set_parameters device params memory => exact absurd trivial hg
  | device_close device => exact close_unsafe h hg hs

theorem law_new : CameraLaw num_cameras newCamera where
  safe :=
    { ids := by rintro _ _ ⟨⟩
      entries := by rintro _ _ ⟨_, ⟨⟩, _⟩
      once := rfl
      closed := fun _ _ => rfl }
  distinct := by rintro _ _ _ ⟨_, ⟨⟩, _⟩
  fresh _ _ := rfl
  whole := by rintro _ ⟨⟩
  loaded _ h := absurd rfl h

/-- **THE PARAMETER STRINGS** are safe along a run if and only if all its
    calls are careful. -/
theorem params_safe_iff (cp : CameraParameters Params) (num_cameras : Nat)
    (l : List CameraAction) :
    HoldsAlong (cameraSys cp num_cameras) (ParamsSafe num_cameras) newCamera l
      ↔ StepsMeet (cameraSys cp num_cameras) (Careful num_cameras)
        newCamera l :=
  holdsAlong_iff_stepsMeet (fun _ h => h.safe)
    (fun _ _ _ h hg hs => law_step h hg hs)
    (fun _ _ _ h hg hs => unsafe_step h hg hs) l law_new

/-! ## An entry that dangles -/

/-- A framework whose parameters are the text itself. -/
def plainParameters : CameraParameters String where
  unflatten := id
  get _ _ := none
  remove params _ := params
  flatten := id
  KEY_SCENE_MODE := "scene-mode"
  SCENE_MODE_HDR := "hdr"
  KEY_QC_HDR_NEED_1X := "hdr-need-1x"

/-- A camera is opened, its parameters are set, and it is closed. -/
def oneSession : List CameraAction :=
  [.device_open (some 0) ⟨true, true, true, true, true⟩,
    .set_parameters 0 "flash-mode=off" true, .device_close 0]

/-- The entry of the camera is still the string that the close has freed. -/
theorem close_leaves_entry :
    ¬ HoldsAlong (cameraSys plainParameters 1) (ParamsSafe 1) newCamera
      oneSession := by
  intro h
  have hentry := (h.last rfl).entries 0 0 ⟨_, rfl, rfl⟩
  exact hentry rfl

end QcomCamera
