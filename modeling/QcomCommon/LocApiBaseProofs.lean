import QcomCommon.SlotTableProofs
import Mathlib.Data.Finset.Card
import Mathlib.Data.Finset.Basic

/-! # The adapter registry of `LocApiBase`

    `src/gps/core/LocApiBase.cpp` keeps the adapters of one GNSS engine in an
    array of `MAX_ADAPTERS` pointers.  `addAdapter` stores a new adapter in
    the first empty slot; `removeAdapter` fills the hole it makes with the
    last adapter, re-using the index of its outer loop to look for it.  Every
    report of the engine goes through one of two loops that stop at the first
    empty slot, `TO_ALL_ADAPTERS` and `TO_1ST_HANDLING_ADAPTER`, so a hole
    would cut the adapters behind it off.

    The abstract registry is a finite set of adapters, `registered`.  As long
    as no more than `MAX_ADAPTERS` are registered the array holds that set
    without a hole after every run of calls (`registers_run`). -/

namespace QcomLocApi

open QcomSlots

/-- `MAX_ADAPTERS`. -/
abbrev MAX_ADAPTERS : Nat := 10

/-- `LOC_API_ADAPTER_EVENT_MASK_T`, an `unsigned int`. -/
abbrev EvtMask : Type := BitVec 32

/-- `loc_registration_mask_status`. -/
inductive RegistrationMaskStatus where
  | enabled
  | disabled
  deriving DecidableEq

/-- What a call does outside of the registry: a `LocOpenMsg` goes to the
    message task, or the connection to the engine is closed. -/
inductive Effect where
  | sendMsg (mMask : EvtMask)
  | close
  deriving DecidableEq

/-- A `LocApiBase`; the masks are fields of the adapters themselves. -/
structure LocApiBase (α : Type) where
  mLocAdapters : Vector (Option α) MAX_ADAPTERS
  mExcludedMask : EvtMask
  mEvtMask : α → EvtMask

variable {α σ : Type}

/-- The constructor, which clears the array. -/
def init (excludedMask : EvtMask) (mEvtMask : α → EvtMask) : LocApiBase α where
  mLocAdapters := Vector.replicate MAX_ADAPTERS none
  mExcludedMask := excludedMask
  mEvtMask := mEvtMask

/-- `TO_ALL_ADAPTERS`, from index `i` on. -/
def toAllAdapters (adapters : Vector (Option α) MAX_ADAPTERS)
    (call : σ → α → σ) (i : Nat) (w : σ) : σ :=
  if h : i < MAX_ADAPTERS then
    match adapters[i] with
    | none => w
    | some a => toAllAdapters adapters call (i + 1) (call w a)
  else w
termination_by MAX_ADAPTERS - i

/-- `TO_1ST_HANDLING_ADAPTER`, from index `i` on. -/
def to1stHandlingAdapter (adapters : Vector (Option α) MAX_ADAPTERS)
    (call : σ → α → Bool × σ) (i : Nat) (w : σ) : σ :=
  if h : i < MAX_ADAPTERS then
    match adapters[i] with
    | none => w
    | some a =>
        if (call w a).1 then (call w a).2
        else to1stHandlingAdapter adapters call (i + 1) (call w a).2
  else w
termination_by MAX_ADAPTERS - i

/-- `LocApiBase::getEvtMask`. -/
def getEvtMask (s : LocApiBase α) : EvtMask :=
  toAllAdapters s.mLocAdapters (fun mask a => mask ||| s.mEvtMask a) 0 0
    &&& ~~~s.mExcludedMask

/-- Where `while (++i < MAX_ADAPTERS && mLocAdapters[i] != NULL);` leaves
    `i`. -/
def scan (adapters : Vector (Option α) MAX_ADAPTERS) (i : Nat) : Nat :=
  if h : i + 1 < MAX_ADAPTERS then
    match adapters[i + 1] with
    | none => i + 1
    | some _ => scan adapters (i + 1)
  else i + 1
termination_by MAX_ADAPTERS - i

/-- The scan goes forward. -/
theorem lt_scan (adapters : Vector (Option α) MAX_ADAPTERS) (i : Nat) :
    i < scan adapters i := by
  fun_induction scan adapters i with
  | case1 => omega
  | case2 => omega
  | case3 => omega

/-- It ends with the table. -/
theorem scan_le (adapters : Vector (Option α) MAX_ADAPTERS) {i : Nat}
    (h : i < MAX_ADAPTERS) : scan adapters i ≤ MAX_ADAPTERS := by
  fun_induction scan adapters i with
  | case1 => omega
  | case2 i hlt a _ ih => exact ih hlt
  | case3 => omega

section Registry

variable [DecidableEq α]

/-- The loop of `LocApiBase::addAdapter`, from index `i` on. -/
def addAdapterFrom (s : LocApiBase α) (adapter : α) (i : Nat) :
    LocApiBase α × List Effect :=
  if h : i < MAX_ADAPTERS then
    match s.mLocAdapters[i] with
    | none =>
        ({ s with mLocAdapters := s.mLocAdapters.set i (some adapter) },
          [.sendMsg (s.mEvtMask adapter)])
    | some a =>
        if a = adapter then (s, []) else addAdapterFrom s adapter (i + 1)
  else (s, [])
termination_by MAX_ADAPTERS - i

/-- `LocApiBase::addAdapter`. -/
def addAdapter (s : LocApiBase α) (adapter : α) :
    LocApiBase α × List Effect :=
  addAdapterFrom s adapter 0

/-- The index that `i--` gives after the scan behind the emptied slot. -/
def lastIndex (adapters : Vector (Option α) MAX_ADAPTERS) (j : Nat)
    (h : j < MAX_ADAPTERS) : Nat :=
  scan (adapters.set j none) j - 1

omit [DecidableEq α] in
/-- The last adapter is not in front of this one. -/
theorem le_lastIndex (adapters : Vector (Option α) MAX_ADAPTERS) {j : Nat}
    (h : j < MAX_ADAPTERS) : j ≤ lastIndex adapters j h :=
  Nat.le_pred_of_lt (lt_scan _ j)

omit [DecidableEq α] in
theorem lastIndex_lt (adapters : Vector (Option α) MAX_ADAPTERS) {j : Nat}
    (h : j < MAX_ADAPTERS) : lastIndex adapters j h < MAX_ADAPTERS := by
  have hle := scan_le (adapters.set j none) h
  have hlt := lt_scan (adapters.set j none) j
  unfold lastIndex
  omega

/-- What `removeAdapter` does to the array at the slot `j` of the adapter:
    the slot is emptied, gets what the last slot holds by then, and the last
    slot is emptied. -/
def removeSlot (adapters : Vector (Option α) MAX_ADAPTERS) (j : Nat)
    (h : j < MAX_ADAPTERS) : Vector (Option α) MAX_ADAPTERS :=
  ((adapters.set j none).set j
      (adapters.set j none)[(⟨lastIndex adapters j h, lastIndex_lt adapters h⟩ :
        Fin MAX_ADAPTERS)]).set
    (lastIndex adapters j h) none (lastIndex_lt adapters h)

/-- The outer loop of `LocApiBase::removeAdapter`, from index `i` on. -/
def removeAdapterFrom (s : LocApiBase α) (adapter : α) (i : Nat) :
    LocApiBase α × List Effect :=
  if h : i < MAX_ADAPTERS then
    match s.mLocAdapters[i] with
    | none => (s, [])
    | some a =>
        if a = adapter then
          let s' := { s with mLocAdapters := removeSlot s.mLocAdapters i h }
          let k := lastIndex s.mLocAdapters i h
          let effect := if k = 0 then Effect.close else .sendMsg (getEvtMask s')
          have : i ≤ k := le_lastIndex s.mLocAdapters h
          let rest := removeAdapterFrom s' adapter (k + 1)
          (rest.1, effect :: rest.2)
        else removeAdapterFrom s adapter (i + 1)
  else (s, [])
termination_by MAX_ADAPTERS - i

/-- `LocApiBase::removeAdapter`. -/
def removeAdapter (s : LocApiBase α) (adapter : α) :
    LocApiBase α × List Effect :=
  removeAdapterFrom s adapter 0

/-- `LocAdapterBase::updateEvtMask` of an adapter, which ends in
    `LocApiBase::updateEvtMask`. -/
def updateEvtMask (s : LocApiBase α) (adapter : α) (event : EvtMask)
    (isEnabled : RegistrationMaskStatus) : LocApiBase α × List Effect :=
  let mask :=
    if isEnabled = .enabled then s.mEvtMask adapter ||| event
    else s.mEvtMask adapter &&& ~~~event
  let s' := { s with mEvtMask := Function.update s.mEvtMask adapter mask }
  (s', [.sendMsg (getEvtMask s')])

/-- A call of an adapter. -/
inductive Call (α : Type) where
  | addAdapter (adapter : α)
  | removeAdapter (adapter : α)
  | updateEvtMask (adapter : α) (event : EvtMask)
      (isEnabled : RegistrationMaskStatus)

/-- One call: the registry after it, and what it did. -/
def step (s : LocApiBase α) : Call α → LocApiBase α × List Effect
  | .addAdapter a => addAdapter s a
  | .removeAdapter a => removeAdapter s a
  | .updateEvtMask a event isEnabled => updateEvtMask s a event isEnabled

/-- The registry after a run of calls. -/
def run (s : LocApiBase α) (calls : List (Call α)) : LocApiBase α :=
  calls.foldl (fun s c => (step s c).1) s

/-- What a call does to the set of the registered adapters. -/
def register (R : Finset α) : Call α → Finset α
  | .addAdapter a => insert a R
  | .removeAdapter a => R.erase a
  | .updateEvtMask _ _ _ => R

/-- The adapters that are registered after a run of calls. -/
def registered (calls : List (Call α)) : Finset α :=
  calls.foldl register ∅

end Registry

/-! ## The two broadcasts -/

section Broadcast

variable {v : Vector (Option α) MAX_ADAPTERS} {l : List α}

/-- From where the list ends on there is nobody to call. -/
theorem toAllAdapters_end (hv : Holds v l) (call : σ → α → σ) {i : Nat}
    (hi : l.length ≤ i) (w : σ) : toAllAdapters v call i w = w := by
  rw [toAllAdapters]
  by_cases h : i < MAX_ADAPTERS
  · rw [dif_pos h, (hv.eq_none_iff h).mpr hi]
  · rw [dif_neg h]

/-- From a place on all adapters are called, in order. -/
theorem toAllAdapters_from (hv : Holds v l) (call : σ → α → σ) {i : Nat}
    (hi : i ≤ l.length) (w : σ) :
    toAllAdapters v call i w = (l.drop i).foldl call w := by
  induction hi using Nat.decreasingInduction generalizing w with
  | self =>
      rw [toAllAdapters_end hv call (Nat.le_refl _), List.drop_length,
        List.foldl_nil]
  | of_succ i hi ih =>
      have hlt : i < MAX_ADAPTERS := Nat.lt_of_lt_of_le hi hv.fits
      rw [toAllAdapters, dif_pos hlt, hv.eq_some hi hlt]
      dsimp only
      rw [ih, List.drop_eq_getElem_cons hi, List.foldl_cons]

/-- `TO_ALL_ADAPTERS` calls the adapters of the list one after the other. -/
theorem toAllAdapters_eq (hv : Holds v l) (call : σ → α → σ) (w : σ) :
    toAllAdapters v call 0 w = l.foldl call w := by
  rw [toAllAdapters_from hv call (Nat.zero_le _), List.drop_zero]

/-- `asked` are called in this order, and none but the last of them, which
    does if `b`, handles the call. -/
inductive Asks (call : σ → α → Bool × σ) : List α → σ → Bool → σ → Prop where
  | nobody (w : σ) : Asks call [] w false w
  | handles {a : α} {w w' : σ} (h : call w a = (true, w')) :
      Asks call [a] w true w'
  | declines {a : α} {asked : List α} {w w' w'' : σ} {b : Bool}
      (h : call w a = (false, w')) (hrest : Asks call asked w' b w'') :
      Asks call (a :: asked) w b w''

/-- The adapters of `l` are asked until one handles the call, which takes `w`
    to `w'`. -/
def AsksUntilHandled (call : σ → α → Bool × σ) (l : List α) (w w' : σ) : Prop :=
  ∃ asked rest b, l = asked ++ rest ∧ Asks call asked w b w' ∧
    (b = false → rest = [])

theorem asksUntilHandled_nil (call : σ → α → Bool × σ) (w : σ) :
    AsksUntilHandled call [] w w :=
  ⟨[], [], false, rfl, .nobody w, fun _ => rfl⟩

theorem asksUntilHandled_cons (call : σ → α → Bool × σ) {a : α} {l : List α}
    {w w' : σ}
    (hrest : (call w a).1 = false → AsksUntilHandled call l (call w a).2 w')
    (hyes : (call w a).1 = true → w' = (call w a).2) :
    AsksUntilHandled call (a :: l) w w' := by
  rcases hc : call w a with ⟨_ | _, u⟩
  · rw [hc] at hrest
    obtain ⟨asked, rest, b, rfl, hasks, hall⟩ := hrest rfl
    exact ⟨a :: asked, rest, b, rfl, .declines hc hasks, hall⟩
  · rw [hc] at hyes
    obtain rfl := hyes rfl
    exact ⟨[a], l, true, rfl, .handles hc, fun h => by cases h⟩

/-- Behind the last adapter nothing is called. -/
theorem to1stHandlingAdapter_end (hv : Holds v l) (call : σ → α → Bool × σ)
    {i : Nat} (hi : l.length ≤ i) (w : σ) :
    to1stHandlingAdapter v call i w = w := by
  rw [to1stHandlingAdapter]
  by_cases h : i < MAX_ADAPTERS
  · rw [dif_pos h, (hv.eq_none_iff h).mpr hi]
  · rw [dif_neg h]

/-- From a place on the adapters are asked until one has handled it. -/
theorem to1stHandlingAdapter_from (hv : Holds v l) (call : σ → α → Bool × σ)
    {i : Nat} (hi : i ≤ l.length) (w : σ) :
    AsksUntilHandled call (l.drop i) w (to1stHandlingAdapter v call i w) := by
  induction hi using Nat.decreasingInduction generalizing w with
  | self =>
      rw [to1stHandlingAdapter_end hv call (Nat.le_refl _), List.drop_length]
      exact asksUntilHandled_nil call w
  | of_succ i hi ih =>
      have hlt : i < MAX_ADAPTERS := Nat.lt_of_lt_of_le hi hv.fits
      rw [to1stHandlingAdapter, dif_pos hlt, hv.eq_some hi hlt,
        List.drop_eq_getElem_cons hi]
      refine asksUntilHandled_cons call (fun hno => ?_) (fun hyes => ?_)
      · dsimp only
        rw [hno]
        exact ih _
      · dsimp only
        rw [if_pos hyes]

/-- `TO_1ST_HANDLING_ADAPTER` asks the adapters of the list in order and stops
    at the first that handles the call. -/
theorem to1stHandlingAdapter_asks (hv : Holds v l) (call : σ → α → Bool × σ)
    (w : σ) :
    AsksUntilHandled call l w (to1stHandlingAdapter v call 0 w) := by
  have h := to1stHandlingAdapter_from hv call (Nat.zero_le _) w
  rwa [List.drop_zero] at h

end Broadcast

/-! ## The mask -/

/-- The bits of a fold of masks are those of its start and of the masks. -/
theorem getLsbD_foldl_or (f : α → EvtMask) (l : List α) (m : EvtMask)
    (k : Nat) :
    (l.foldl (fun mask a => mask ||| f a) m).getLsbD k = true ↔
      m.getLsbD k = true ∨ ∃ a ∈ l, (f a).getLsbD k = true := by
  induction l generalizing m with
  | nil => simp
  | cons a l ih =>
      rw [List.foldl_cons, ih, BitVec.getLsbD_or, Bool.or_eq_true]
      simp only [List.mem_cons, exists_eq_or_imp, or_assoc]

/-- `getEvtMask` is the union of the masks without the excluded one. -/
theorem getLsbD_getEvtMask {s : LocApiBase α} {l : List α}
    (hv : Holds s.mLocAdapters l) (k : Nat) :
    (getEvtMask s).getLsbD k = true ↔
      (∃ a ∈ l, (s.mEvtMask a).getLsbD k = true) ∧
        s.mExcludedMask.getLsbD k = false := by
  have hbits := getLsbD_foldl_or s.mEvtMask l 0 k
  rw [← toAllAdapters_eq hv] at hbits
  unfold getEvtMask
  rw [BitVec.getLsbD_and, Bool.and_eq_true, hbits, BitVec.getLsbD_not]
  simp only [BitVec.ofNat_eq_ofNat, BitVec.getLsbD_zero, Bool.false_eq_true,
    false_or, Bool.and_eq_true, decide_eq_true_eq, Bool.not_eq_true']
  constructor
  · rintro ⟨hex, -, hno⟩
    exact ⟨hex, hno⟩
  · rintro ⟨⟨a, ha, hbit⟩, hno⟩
    exact ⟨⟨a, ha, hbit⟩, BitVec.lt_of_getLsbD hbit, hno⟩

/-! ## Adding -/

section Registry

variable [DecidableEq α]

/-- Another adapter is passed over. -/
theorem addAdapterFrom_skip {s : LocApiBase α} {l : List α}
    (hv : Holds s.mLocAdapters l) {adapter : α} {i : Nat} (hi : i < l.length)
    (hne : l[i] ≠ adapter) :
    addAdapterFrom s adapter i = addAdapterFrom s adapter (i + 1) := by
  have hlt : i < MAX_ADAPTERS := Nat.lt_of_lt_of_le hi hv.fits
  rw [addAdapterFrom, dif_pos hlt, hv.eq_some hi hlt]
  dsimp only
  rw [if_neg hne]

/-- An adapter that is not in the array gets the first empty slot. -/
theorem addAdapterFrom_new {s : LocApiBase α} {l : List α}
    (hv : Holds s.mLocAdapters l) {adapter : α} (hnew : adapter ∉ l)
    (hroom : l.length < MAX_ADAPTERS) {i : Nat} (hi : i ≤ l.length) :
    addAdapterFrom s adapter i
      = ({ s with mLocAdapters := s.mLocAdapters.set l.length (some adapter) },
          [.sendMsg (s.mEvtMask adapter)]) := by
  induction hi using Nat.decreasingInduction with
  | self =>
      rw [addAdapterFrom, dif_pos hroom,
        (hv.eq_none_iff hroom).mpr (Nat.le_refl _)]
  | of_succ i hi ih =>
      have hne : l[i] ≠ adapter := fun he => hnew (he ▸ List.getElem_mem hi)
      rw [addAdapterFrom_skip hv hi hne, ih]

/-- One that is in the array is not added again. -/
theorem addAdapterFrom_known {s : LocApiBase α} {l : List α}
    (hv : Holds s.mLocAdapters l) {j : Nat} (hj : j < l.length)
    (hl : l.Nodup) {i : Nat} (hi : i ≤ j) :
    addAdapterFrom s l[j] i = (s, []) := by
  induction hi using Nat.decreasingInduction with
  | self =>
      have hlt : j < MAX_ADAPTERS := Nat.lt_of_lt_of_le hj hv.fits
      rw [addAdapterFrom, dif_pos hlt, hv.eq_some hj hlt]
      dsimp only
      rw [if_pos rfl]
  | of_succ i hi ih =>
      have hne : l[i] ≠ l[j] := fun he =>
        Nat.ne_of_lt hi (hl.getElem_inj_iff.mp he)
      rw [addAdapterFrom_skip hv (Nat.lt_trans hi hj) hne, ih]

/-- A full array takes no further adapter, and nobody is told. -/
theorem addAdapterFrom_full {s : LocApiBase α} {l : List α}
    (hv : Holds s.mLocAdapters l) {adapter : α} (hnew : adapter ∉ l)
    (hfull : l.length = MAX_ADAPTERS) {i : Nat} (hi : i ≤ l.length) :
    addAdapterFrom s adapter i = (s, []) := by
  induction hi using Nat.decreasingInduction with
  | self => rw [addAdapterFrom, dif_neg (by omega)]
  | of_succ i hi ih =>
      have hne : l[i] ≠ adapter := fun he => hnew (he ▸ List.getElem_mem hi)
      rw [addAdapterFrom_skip hv hi hne, ih]

/-! ## Removing -/

omit [DecidableEq α] in
/-- Behind the emptied slot the scan runs to the end of the list. -/
theorem scan_set {v : Vector (Option α) MAX_ADAPTERS} {l : List α}
    (hv : Holds v l) {j : Nat} (h : j < MAX_ADAPTERS) {i : Nat} (hj : j ≤ i)
    (hi : i + 1 ≤ l.length) : scan (v.set j none) i = l.length := by
  have hbehind : ∀ hk : i + 1 < MAX_ADAPTERS,
      (v.set j none)[i + 1] = none ↔ l.length ≤ i + 1 := by
    intro hk
    rw [Vector.getElem_set, if_neg (by omega), hv.eq_none_iff hk]
  fun_induction scan (v.set j none) i with
  | case1 i hk hnone =>
      exact Nat.le_antisymm hi ((hbehind hk).mp hnone)
  | case2 i hk a hsome ih =>
      have hmore : ¬ l.length ≤ i + 1 := by
        rw [← hbehind hk, hsome]
        exact Option.some_ne_none a
      refine ih (Nat.le_succ_of_le hj) (by omega) fun hk' => ?_
      rw [Vector.getElem_set, if_neg (by omega), hv.eq_none_iff hk']
  | case3 i hk =>
      have hfits := hv.fits
      omega

omit [DecidableEq α] in
/-- The last adapter stands at the end of the list. -/
theorem lastIndex_eq {v : Vector (Option α) MAX_ADAPTERS} {l : List α}
    (hv : Holds v l) {j : Nat} (h : j < MAX_ADAPTERS) (hj : j < l.length) :
    lastIndex v j h = l.length - 1 := by
  unfold lastIndex
  rw [scan_set hv h (Nat.le_refl j) hj]

omit [DecidableEq α] in
/-- The adapter of the slot is taken out, and no hole is left. -/
theorem removeSlot_holds {v : Vector (Option α) MAX_ADAPTERS} {l : List α}
    (hv : Holds v l) {j : Nat} (h : j < MAX_ADAPTERS) (hj : j < l.length) :
    Holds (removeSlot v j h) (swapOut l j) := by
  have hlast := lastIndex_eq hv h hj
  unfold removeSlot
  rw [Vector.set_set]
  refine hv.takeOut (le_lastIndex v h) (by omega) h (lastIndex_lt v h)
    fun hlt => ?_
  rw [Fin.getElem_fin, Vector.getElem_set, if_neg (Nat.ne_of_lt hlt)]

/-- Another adapter is passed over. -/
theorem removeAdapterFrom_skip {s : LocApiBase α} {l : List α}
    (hv : Holds s.mLocAdapters l) {adapter : α} {i : Nat} (hi : i < l.length)
    (hne : l[i] ≠ adapter) :
    removeAdapterFrom s adapter i = removeAdapterFrom s adapter (i + 1) := by
  have hlt : i < MAX_ADAPTERS := Nat.lt_of_lt_of_le hi hv.fits
  rw [removeAdapterFrom, dif_pos hlt, hv.eq_some hi hlt]
  dsimp only
  rw [if_neg hne]

/-- Behind the last one nothing is removed. -/
theorem removeAdapterFrom_end {s : LocApiBase α} {l : List α}
    (hv : Holds s.mLocAdapters l) {adapter : α} {i : Nat}
    (hi : l.length ≤ i) : removeAdapterFrom s adapter i = (s, []) := by
  rw [removeAdapterFrom]
  by_cases h : i < MAX_ADAPTERS
  · rw [dif_pos h, (hv.eq_none_iff h).mpr hi]
  · rw [dif_neg h]

/-- An adapter that is not in the array is not missed. -/
theorem removeAdapterFrom_absent {s : LocApiBase α} {l : List α}
    (hv : Holds s.mLocAdapters l) {adapter : α} (habs : adapter ∉ l) {i : Nat}
    (hi : i ≤ l.length) : removeAdapterFrom s adapter i = (s, []) := by
  induction hi using Nat.decreasingInduction with
  | self => exact removeAdapterFrom_end hv (Nat.le_refl _)
  | of_succ i hi ih =>
      have hne : l[i] ≠ adapter := fun he => habs (he ▸ List.getElem_mem hi)
      rw [removeAdapterFrom_skip hv hi hne, ih]

/-- The registry after the adapter of slot `j` has been removed. -/
def without (s : LocApiBase α) (j : Nat) (h : j < MAX_ADAPTERS) :
    LocApiBase α :=
  { s with mLocAdapters := removeSlot s.mLocAdapters j h }

/-- The loop finds the adapter, closes or tells the engine once, and ends: the
    index it goes on from is behind the last adapter. -/
theorem removeAdapterFrom_present {s : LocApiBase α} {l : List α}
    (hv : Holds s.mLocAdapters l) {j : Nat} (hj : j < l.length)
    (hlt : j < MAX_ADAPTERS) (hl : l.Nodup) {i : Nat} (hi : i ≤ j) :
    removeAdapterFrom s l[j] i
      = (without s j hlt,
          [if l.length = 1 then .close
            else .sendMsg (getEvtMask (without s j hlt))]) := by
  induction hi using Nat.decreasingInduction with
  | self =>
      have hlast := lastIndex_eq hv hlt hj
      have hrest : Holds (without s j hlt).mLocAdapters (swapOut l j) :=
        removeSlot_holds hv hlt hj
      have hend : (swapOut l j).length ≤ l.length - 1 + 1 := by
        rw [length_swapOut hj]
        exact Nat.le_succ _
      have hone : l.length - 1 = 0 ↔ l.length = 1 := by omega
      rw [removeAdapterFrom, dif_pos hlt, hv.eq_some hj hlt]
      dsimp only
      rw [if_pos rfl, hlast, if_congr hone rfl rfl]
      exact congrArg (fun r : LocApiBase α × List Effect => (r.1, _ :: r.2))
        (removeAdapterFrom_end hrest hend)
  | of_succ i hi ih =>
      have hne : l[i] ≠ l[j] := fun he =>
        Nat.ne_of_lt hi (hl.getElem_inj_iff.mp he)
      rw [removeAdapterFrom_skip hv (Nat.lt_trans hi hj) hne, ih]

/-! ## The registry over a run -/

/-- The array holds the adapters of `R`, each of them once, without a hole. -/
def Registers (s : LocApiBase α) (R : Finset α) : Prop :=
  ∃ l, Holds s.mLocAdapters l ∧ l.Nodup ∧ ∀ a, a ∈ l ↔ a ∈ R

/-- A list without repetitions is as long as its set is large. -/
theorem length_eq_card {l : List α} {R : Finset α} (hl : l.Nodup)
    (hmem : ∀ a, a ∈ l ↔ a ∈ R) : l.length = R.card := by
  have hR : l.toFinset = R := by
    ext a
    rw [List.mem_toFinset, hmem]
  rw [← hR, List.toFinset_card_of_nodup hl]

omit [DecidableEq α] in
/-- The registry starts without adapters. -/
theorem registers_init (excludedMask : EvtMask) (mEvtMask : α → EvtMask) :
    Registers (init excludedMask mEvtMask) ∅ :=
  ⟨[], Holds.empty, List.nodup_nil, fun a => by simp⟩

/-- An adapter that is there is not added. -/
theorem addAdapter_known {s : LocApiBase α} {R : Finset α}
    (hs : Registers s R) {a : α} (ha : a ∈ R) : addAdapter s a = (s, []) := by
  obtain ⟨l, hv, hl, hmem⟩ := hs
  obtain ⟨j, hj, rfl⟩ := List.getElem_of_mem ((hmem a).mpr ha)
  exact addAdapterFrom_known hv hj hl (Nat.zero_le j)

/-- A new one is, and the modem is told of its events. -/
theorem addAdapter_new {s : LocApiBase α} {R : Finset α}
    (hs : Registers s R) {a : α} (ha : a ∉ R)
    (hroom : (insert a R).card ≤ MAX_ADAPTERS) :
    (addAdapter s a).2 = [.sendMsg (s.mEvtMask a)] ∧
      Registers (addAdapter s a).1 (insert a R) := by
  obtain ⟨l, hv, hl, hmem⟩ := hs
  rw [Finset.card_insert_of_notMem ha, ← length_eq_card hl hmem] at hroom
  have hnew : a ∉ l := fun h => ha ((hmem a).mp h)
  unfold addAdapter
  rw [addAdapterFrom_new hv hnew hroom (Nat.zero_le _)]
  refine ⟨rfl, l ++ [a], hv.push hroom a, ?_, fun b => ?_⟩
  · rw [List.nodup_append_comm]
    exact List.nodup_cons.mpr ⟨hnew, hl⟩
  · rw [List.mem_append, List.mem_singleton, Finset.mem_insert, hmem, or_comm]

/-- A full registry takes no further adapter, and nobody is told. -/
theorem addAdapter_full {s : LocApiBase α} {R : Finset α}
    (hs : Registers s R) {a : α} (ha : a ∉ R) (hfull : R.card = MAX_ADAPTERS) :
    addAdapter s a = (s, []) := by
  obtain ⟨l, hv, hl, hmem⟩ := hs
  rw [← length_eq_card hl hmem] at hfull
  exact addAdapterFrom_full hv (fun h => ha ((hmem a).mp h)) hfull
    (Nat.zero_le _)

/-- An adapter that is not there is not removed. -/
theorem removeAdapter_absent {s : LocApiBase α} {R : Finset α}
    (hs : Registers s R) {a : α} (ha : a ∉ R) :
    removeAdapter s a = (s, []) := by
  obtain ⟨l, hv, -, hmem⟩ := hs
  exact removeAdapterFrom_absent hv (fun h => ha ((hmem a).mp h))
    (Nat.zero_le _)

/-- One that is goes, and the modem is told of the events that are left, or
    closed. -/
theorem removeAdapter_present {s : LocApiBase α} {R : Finset α}
    (hs : Registers s R) {a : α} (ha : a ∈ R) :
    (removeAdapter s a).2
        = [if R.card = 1 then .close
            else .sendMsg (getEvtMask (removeAdapter s a).1)] ∧
      Registers (removeAdapter s a).1 (R.erase a) := by
  obtain ⟨l, hv, hl, hmem⟩ := hs
  obtain ⟨j, hj, rfl⟩ := List.getElem_of_mem ((hmem a).mpr ha)
  have hlt : j < MAX_ADAPTERS := Nat.lt_of_lt_of_le hj hv.fits
  unfold removeAdapter
  rw [removeAdapterFrom_present hv hj hlt hl (Nat.zero_le j),
    length_eq_card hl hmem]
  refine ⟨rfl, swapOut l j, removeSlot_holds hv hlt hj, nodup_swapOut hl hj,
    fun b => ?_⟩
  rw [mem_swapOut hl hj, Finset.mem_erase, hmem, and_comm]

/-- Every call keeps the array in step with the set, as long as there is room
    for the adapters of the set. -/
theorem step_registers {s : LocApiBase α} {R : Finset α} (hs : Registers s R)
    (c : Call α) (hroom : (register R c).card ≤ MAX_ADAPTERS) :
    Registers (step s c).1 (register R c) := by
  cases c with
  | addAdapter a =>
      by_cases ha : a ∈ R
      · show Registers (addAdapter s a).1 (insert a R)
        rwa [addAdapter_known hs ha, Finset.insert_eq_of_mem ha]
      · exact (addAdapter_new hs ha hroom).2
  | removeAdapter a =>
      by_cases ha : a ∈ R
      · exact (removeAdapter_present hs ha).2
      · show Registers (removeAdapter s a).1 (R.erase a)
        rwa [removeAdapter_absent hs ha, Finset.erase_eq_of_notMem ha]
  | updateEvtMask a event isEnabled => exact hs

/-- A call closes the connection when it takes the last adapter out, and only
    then. -/
theorem count_close_step {s : LocApiBase α} {R : Finset α} (hs : Registers s R)
    (c : Call α) (hroom : (register R c).card ≤ MAX_ADAPTERS) :
    (step s c).2.count .close
      = if R.Nonempty ∧ register R c = ∅ then 1 else 0 := by
  cases c with
  | addAdapter a =>
      have hne : register R (.addAdapter a) ≠ ∅ := Finset.insert_ne_empty a R
      rw [if_neg (fun h => hne h.2)]
      by_cases ha : a ∈ R
      · show (addAdapter s a).2.count .close = 0
        rw [addAdapter_known hs ha]
        rfl
      · show (addAdapter s a).2.count .close = 0
        rw [(addAdapter_new hs ha hroom).1]
        rfl
  | removeAdapter a =>
      show (removeAdapter s a).2.count .close
        = if R.Nonempty ∧ R.erase a = ∅ then 1 else 0
      by_cases ha : a ∈ R
      · have hlast : (R.Nonempty ∧ R.erase a = ∅) ↔ R.card = 1 := by
          rw [← Finset.card_eq_zero, Finset.card_erase_of_mem ha]
          have hpos : 0 < R.card := Finset.card_pos.mpr ⟨a, ha⟩
          exact ⟨fun h => by omega, fun h => ⟨⟨a, ha⟩, by omega⟩⟩
        rw [(removeAdapter_present hs ha).1, if_congr hlast rfl rfl]
        by_cases hone : R.card = 1
        · rw [if_pos hone, if_pos hone]
          rfl
        · rw [if_neg hone, if_neg hone]
          rfl
      · rw [removeAdapter_absent hs ha, Finset.erase_eq_of_notMem ha, if_neg]
        · rfl
        · exact fun h => h.1.ne_empty h.2
  | updateEvtMask a event isEnabled =>
      rw [if_neg (fun h => h.1.ne_empty h.2)]
      rfl

theorem addAdapterFrom_excluded (s : LocApiBase α) (adapter : α) (i : Nat) :
    (addAdapterFrom s adapter i).1.mExcludedMask = s.mExcludedMask := by
  fun_induction addAdapterFrom s adapter i with
  | case1 => rfl
  | case2 => rfl
  | case3 i h a _ _ ih => exact ih
  | case4 => rfl

theorem removeAdapterFrom_excluded (s : LocApiBase α) (adapter : α) (i : Nat) :
    (removeAdapterFrom s adapter i).1.mExcludedMask = s.mExcludedMask := by
  fun_induction removeAdapterFrom s adapter i with
  | case1 => rfl
  | case2 s i h _ s' k effect _ rest ih => exact ih
  | case3 s i h a _ _ ih => exact ih
  | case4 => rfl

/-- No call changes the excluded mask. -/
theorem step_excluded (s : LocApiBase α) (c : Call α) :
    (step s c).1.mExcludedMask = s.mExcludedMask := by
  cases c with
  | addAdapter a => exact addAdapterFrom_excluded s a 0
  | removeAdapter a => exact removeAdapterFrom_excluded s a 0
  | updateEvtMask a event isEnabled => rfl

theorem run_concat (s : LocApiBase α) (calls : List (Call α)) (c : Call α) :
    run s (calls ++ [c]) = (step (run s calls) c).1 :=
  List.foldl_concat ..

theorem registered_concat (calls : List (Call α)) (c : Call α) :
    registered (calls ++ [c]) = register (registered calls) c :=
  List.foldl_concat ..

/-- No call changes the mask of what is excluded. -/
theorem run_excluded (s : LocApiBase α) (calls : List (Call α)) :
    (run s calls).mExcludedMask = s.mExcludedMask := by
  induction calls using List.reverseRecOn with
  | nil => rfl
  | append_singleton calls c ih => rw [run_concat, step_excluded, ih]

/-- At no time of the run are more adapters registered than there are
    slots. -/
def Fits (calls : List (Call α)) : Prop :=
  ∀ pre, pre <+: calls → (registered pre).card ≤ MAX_ADAPTERS

theorem Fits.of_prefix {pre calls : List (Call α)} (h : Fits calls)
    (hpre : pre <+: calls) : Fits pre :=
  fun q hq => h q (hq.trans hpre)

/-- After every run that fits the array holds the registered adapters. -/
theorem registers_run (excludedMask : EvtMask) (mEvtMask : α → EvtMask)
    {calls : List (Call α)} (hfit : Fits calls) :
    Registers (run (init excludedMask mEvtMask) calls) (registered calls) := by
  induction calls using List.reverseRecOn with
  | nil => exact registers_init excludedMask mEvtMask
  | append_singleton calls c ih =>
      have hbefore := ih (hfit.of_prefix (List.prefix_append calls [c]))
      have hroom := hfit _ List.prefix_rfl
      rw [registered_concat] at hroom
      rw [run_concat, registered_concat]
      exact step_registers hbefore c hroom

/-- Through every run of additions, removals and changes of masks that fits:
    the array is a list of the registered adapters without repetition and
    without a hole; both broadcasts go along that list, the one to its end and
    the other to the first adapter that handles the call; the mask is the
    union of theirs without the excluded one; and the connection is closed by
    the calls that take the last adapter out, once, and by no other. -/
theorem registry_run (excludedMask : EvtMask) (mEvtMask : α → EvtMask)
    (calls : List (Call α)) (hfit : Fits calls) :
    (∃ l : List α, l.Nodup ∧ (∀ a, a ∈ l ↔ a ∈ registered calls) ∧
      Holds (run (init excludedMask mEvtMask) calls).mLocAdapters l ∧
      (∀ (σ : Type) (call : σ → α → σ) (w : σ),
        toAllAdapters (run (init excludedMask mEvtMask) calls).mLocAdapters
          call 0 w = l.foldl call w) ∧
      ∀ (σ : Type) (call : σ → α → Bool × σ) (w : σ),
        AsksUntilHandled call l w
          (to1stHandlingAdapter
            (run (init excludedMask mEvtMask) calls).mLocAdapters call 0 w)) ∧
    (∀ k, (getEvtMask (run (init excludedMask mEvtMask) calls)).getLsbD k
        = true ↔
      (∃ a ∈ registered calls,
        ((run (init excludedMask mEvtMask) calls).mEvtMask a).getLsbD k = true) ∧
      excludedMask.getLsbD k = false) ∧
    ∀ pre c, pre ++ [c] <+: calls →
      (step (run (init excludedMask mEvtMask) pre) c).2.count .close
        = if (registered pre).Nonempty ∧ registered (pre ++ [c]) = ∅ then 1
          else 0 := by
  refine ⟨?_, fun k => ?_, fun pre c hpre => ?_⟩
  · obtain ⟨l, hv, hl, hmem⟩ := registers_run excludedMask mEvtMask hfit
    exact ⟨l, hl, hmem, hv, fun σ => toAllAdapters_eq hv,
      fun σ => to1stHandlingAdapter_asks hv⟩
  · obtain ⟨l, hv, -, hmem⟩ := registers_run excludedMask mEvtMask hfit
    rw [getLsbD_getEvtMask hv, run_excluded]
    simp only [hmem]
    exact Iff.rfl
  · have hbefore : pre <+: calls := (List.prefix_append pre [c]).trans hpre
    have hroom := hfit _ hpre
    rw [registered_concat] at hroom
    rw [registered_concat]
    exact count_close_step
      (registers_run excludedMask mEvtMask (hfit.of_prefix hbefore)) c hroom

/-- The adapter in front is taken out of three; the last one moves there, and
    two are left, with their masks. -/
theorem registry_run_three :
    (∃ l : List Nat, l.Nodup ∧ (∀ a, a ∈ l ↔ a ∈ ({2, 4} : Finset Nat)) ∧
      Holds (run (init 4#32 (BitVec.ofNat 32))
        [.addAdapter 1, .addAdapter 2, .addAdapter 4, .addAdapter 2,
          .removeAdapter 1, .removeAdapter 8]).mLocAdapters l) ∧
    (step (run (init 4#32 (BitVec.ofNat 32))
        [.addAdapter 1, .addAdapter 2, .addAdapter 4, .addAdapter 2])
      (.removeAdapter 1)).2.count .close = 0 := by
  have hfit : Fits [Call.addAdapter 1, .addAdapter 2, .addAdapter 4,
      .addAdapter 2, .removeAdapter 1, .removeAdapter 8] := by
    intro pre hpre
    have hall : ∀ q ∈ List.inits [Call.addAdapter 1, .addAdapter 2,
        .addAdapter 4, .addAdapter 2, .removeAdapter 1, .removeAdapter 8],
        (registered q).card ≤ MAX_ADAPTERS := by decide
    exact hall pre ((List.mem_inits pre _).mpr hpre)
  have h := registry_run 4#32 (BitVec.ofNat 32) _ hfit
  obtain ⟨l, hl, hmem, hv, -⟩ := h.1
  have hset : registered [Call.addAdapter 1, .addAdapter 2, .addAdapter 4,
      .addAdapter 2, .removeAdapter 1, .removeAdapter 8] = {2, 4} := by decide
  rw [hset] at hmem
  exact ⟨⟨l, hl, hmem, hv⟩, h.2.2 _ (.removeAdapter 1) ⟨[.removeAdapter 8], rfl⟩⟩

/-- The slots after that run. -/
example : ((run (init 4#32 (BitVec.ofNat 32)) [.addAdapter 1, .addAdapter 2,
    .addAdapter 4, .addAdapter 2, .removeAdapter 1,
    .removeAdapter 8]).mLocAdapters.take 3).toList = [some 4, some 2, none] := by
  decide +kernel

end Registry
end QcomLocApi
