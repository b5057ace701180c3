import QcomCommon.AgpsNotifyProofs
import QcomCommon.AgpsAnswerProofs

/-! # Which subscribers are live when they are looked at

    The machine of `loc_eng_agps.cpp` with its subscribers as objects: the
    list holds handles, `addSubscriber` makes a clone, a notification with
    `postNotifyDelete` frees what it takes out, and every object a function
    compares, notifies or makes inactive is written down with whether it was
    live then.

    `unsubscribeRsrc` hands the entry it finds to the state, which makes it
    the receiver of a notification that frees it and then searches again
    with the same receiver.  An unsubscription looks at live subscribers
    only if and only if nothing is left to compare when the entry is freed,
    or it is not freed (`unsubscribeRsrc_live_iff`); every other call does
    in any case (`holdsAlong_live_iff`). -/

namespace QcomObjects

open QcomSweep QcomTransition QcomAgps

/-! ## The machine -/

namespace Objects

/-- `new`. -/
def make (o : Objects) (s : Subscriber) : Objects :=
  { o with
    live := fun h => if h = o.next then some s else o.live h
    next := o.next + 1 }

/-- A write to the object `h`. -/
def write (o : Objects) (h : Handle) (s : Subscriber) : Objects :=
  { o with
    live := fun h' => if h' = h then (o.live h).map (fun _ => s)
      else o.live h' }

end Objects

/-- The notification for one subscriber; its group is not read. -/
def Notification.to (h : Handle) (status : AgpsRsrcStatus) (del : Bool) :
    Notification :=
  ⟨some h, .BROADCAST_ALL, status, del⟩

/-- The notification for a group. -/
def Notification.broadcast (g : GroupID) (status : AgpsRsrcStatus)
    (del : Bool) : Notification :=
  ⟨none, g, status, del⟩

/-- The machine with the objects and what was written of them. -/
structure Machine where
  mSubscribers : List Handle
  objs : Objects
  tr : Trace

/-- `AgpsState::onRsrcEvent` with its data: the object of the caller, or the
    entry found. -/
inductive RsrcEvent where
  | subscribe (subscriber : Handle)
  | unsubscribe (entry : Handle)
  | granted
  | released
  | denied
deriving DecidableEq, Repr

/-- The calls from outside; `dropAllSubscribers` comes with a restart of the
    modem. -/
inductive Action where
  | subscribeRsrc (subscriber : Subscriber)
  | unsubscribeRsrc (subscriber : Subscriber)
  | onRsrcEvent (event : AgpsRsrcStatus)
  | dropAllSubscribers
deriving DecidableEq, Repr

namespace Machine

/-- The list is not empty. -/
def hasSubscribers (M : Machine) : Bool :=
  !M.mSubscribers.isEmpty

/-- The state of the machine. -/
def state (M : Machine) : AgpsState :=
  M.tr.m.mStatePtr

/-- The machine goes to a state. -/
def setState (M : Machine) (p : AgpsState) : Machine :=
  { M with tr := { M.tr with m := { M.tr.m with mStatePtr := p } } }

/-- `linked_list_flush` with `deleteObj`. -/
def dropAllSubscribers (M : Machine) : Machine :=
  { M with
    mSubscribers := []
    objs := M.mSubscribers.foldl Objects.delete M.objs }

/-- `setInactive` of the object `h`. -/
def setInactive (h : Handle) (M : Machine) : Machine :=
  let r := QcomAgps.setInactive (M.objs.read h) M.tr.m
  { M with
    objs := M.objs.write h r.1
    tr := { M.tr with m := r.2 }.see M.objs .inactivated h }

section Notify

variable [SubscriberEquals]

/-- `linked_list_search` with `hasSubscriber`. -/
def findSubscriber (M : Machine) (n : Notification) :
    Option Handle × Machine :=
  let r := visit (hasSubscriber M.objs n) false M.mSubscribers M.tr
  (r.1, { M with tr := r.2.2 })

/-- `notifyRsrcStatus` of the object `h`. -/
def notifyRsrcStatus (n : Notification) (h : Handle) (M : Machine) :
    Machine :=
  { M with tr := (QcomObjects.notifyRsrcStatus M.objs n h M.tr).2 }

/-- `AgpsStateMachine::notifySubscribers`; one more search than there are
    entries is enough. -/
def notifySubscribers (M : Machine) (n : Notification) : Machine :=
  if n.postNotifyDelete then
    match notifyHandles n (M.mSubscribers.length + 1) M.mSubscribers M.objs
        M.tr with
    | some (q, o, tr) => ⟨q, o, tr⟩
    | none => M
  else
    { M with
      tr := (visit (notifySubscriber M.objs n) false M.mSubscribers M.tr).2.2 }

/-- `addSubscriber` of the object `h`. -/
def addSubscriber (M : Machine) (h : Handle) : Machine :=
  let r := M.findSubscriber (.to h .RSRC_STATUS_MAX false)
  match r.1 with
  | none =>
      { r.2 with
        mSubscribers := M.objs.next :: M.mSubscribers
        objs := M.objs.make (M.objs.read h).clone }
  | some _ => r.2

/-- A subscriber of the list is active; the search reads them. -/
def hasActiveSubscribers (M : Machine) : Bool × Machine :=
  let r := M.findSubscriber (.broadcast .BROADCAST_ACTIVE .RSRC_STATUS_MAX
    false)
  (r.1.isSome, r.2)

variable (send : SendRsrcRequest)

/-- The virtual `sendRsrcRequest`: a search for an active entry, and what
    `send` does with what it finds. -/
def sendRsrcRequest (action : AGpsStatusValue) (M : Machine) :
    Int × Machine :=
  let M' := M.hasActiveSubscribers.2
  let r := send action (M'.tr.machine (M'.mSubscribers.map M'.objs.read))
  (r.1, { M' with tr := { M'.tr with m := r.2 } })

/-! ## The four states -/

/-- `AgpsReleasedState::onRsrcEvent`. -/
def releasedOnRsrcEvent (event : RsrcEvent) (M : Machine) :
    AgpsState × Machine :=
  match event with
  | .subscribe h =>
      let r := (M.addSubscriber h).sendRsrcRequest send
        .GPS_REQUEST_AGPS_DATA_CONN
      (if r.1 = 0 then .Pending else .Released, r.2)
  | .unsubscribe h =>
      (.Released, M.notifyRsrcStatus (.to h .RSRC_UNSUBSCRIBE false) h)
  | _ => (.Released, M)

/-- What the three other states do with the entry of an unsubscription. -/
def dropSubscriber (h : Handle) (M : Machine) : Machine :=
  if (M.objs.read h).waitForCloseComplete then M.setInactive h
  else M.notifySubscribers (.to h .RSRC_UNSUBSCRIBE true)

/-- What Pending and Acquired do after that. -/
def releaseIfUnused (this : AgpsState) (M : Machine) : AgpsState × Machine :=
  if !M.hasSubscribers then
    (.Released, (M.sendRsrcRequest send .GPS_RELEASE_AGPS_DATA_CONN).2)
  else
    let r := M.hasActiveSubscribers
    if !r.1 then
      (.Releasing, (r.2.sendRsrcRequest send .GPS_RELEASE_AGPS_DATA_CONN).2)
    else (this, r.2)

/-- `AgpsPendingState::onRsrcEvent`. -/
def pendingOnRsrcEvent (event : RsrcEvent) (M : Machine) :
    AgpsState × Machine :=
  match event with
  | .subscribe h => (.Pending, M.addSubscriber h)
  | .unsubscribe h => (M.dropSubscriber h).releaseIfUnused send .Pending
  | .granted =>
      (.Acquired,
        M.notifySubscribers (.broadcast .BROADCAST_ACTIVE .RSRC_GRANTED false))
  | .released => (.Pending, M)
  | .denied =>
      (.Released,
        M.notifySubscribers (.broadcast .BROADCAST_ALL .RSRC_DENIED true))

/-- `AgpsAcquiredState::onRsrcEvent`. -/
def acquiredOnRsrcEvent (event : RsrcEvent) (M : Machine) :
    AgpsState × Machine :=
  match event with
  | .subscribe h =>
      (.Acquired,
        (M.notifyRsrcStatus (.to h .RSRC_GRANTED false) h).addSubscriber h)
  | .unsubscribe h => (M.dropSubscriber h).releaseIfUnused send .Acquired
  | .granted => (.Acquired, M)
  | .released =>
      (.Released,
        M.notifySubscribers (.broadcast .BROADCAST_ALL .RSRC_RELEASED true))
  | .denied => (.Acquired, M)

/-- RELEASED and DENIED in Releasing. -/
def finishRelease (status : AgpsRsrcStatus) (M : Machine) :
    AgpsState × Machine :=
  let r := (M.notifySubscribers
    (.broadcast .BROADCAST_INACTIVE status true)).hasActiveSubscribers
  if r.1 then
    (.Pending, (r.2.sendRsrcRequest send .GPS_REQUEST_AGPS_DATA_CONN).2)
  else (.Released, r.2)

/-- `AgpsReleasingState::onRsrcEvent`. -/
def releasingOnRsrcEvent (event : RsrcEvent) (M : Machine) :
    AgpsState × Machine :=
  match event with
  | .subscribe h => (.Releasing, M.addSubscriber h)
  | .unsubscribe h =>
      let M' := M.dropSubscriber h
      (if !M'.hasSubscribers then .Released else .Releasing, M')
  | .granted => (.Releasing, M)
  | .released => M.finishRelease send .RSRC_RELEASED
  | .denied => M.finishRelease send .RSRC_DENIED

/-- The virtual `onRsrcEvent` of the current state. -/
def stateOnRsrcEvent (event : RsrcEvent) (M : Machine) :
    AgpsState × Machine :=
  match M.state with
  | .Released => M.releasedOnRsrcEvent send event
  | .Pending => M.pendingOnRsrcEvent send event
  | .Acquired => M.acquiredOnRsrcEvent send event
  | .Releasing => M.releasingOnRsrcEvent send event

/-- `mStatePtr = mStatePtr->onRsrcEvent(event, data)`. -/
def stateEvent (M : Machine) (event : RsrcEvent) : Machine :=
  let r := M.stateOnRsrcEvent send event
  r.2.setState r.1

/-- `AgpsStateMachine::onRsrcEvent`. -/
def onRsrcEvent (M : Machine) (event : AgpsRsrcStatus) : Machine :=
  match event with
  | .RSRC_GRANTED => M.stateEvent send .granted
  | .RSRC_RELEASED => M.stateEvent send .released
  | .RSRC_DENIED => M.stateEvent send .denied
  | _ => M

/-! ## The calls, with an object the caller makes and frees -/

/-- `subscribeRsrc` with the object that its caller has made. -/
def subscribeRsrc (M : Machine) (s : Subscriber) : Machine :=
  let h := M.objs.next
  let M₁ : Machine := { M with objs := M.objs.make s }
  let M₂ :=
    if M₁.tr.m.mEnforceSingleSubscriber && M₁.hasSubscribers then
      { M₁ with tr := (notifySubscriber M₁.objs
          (.broadcast .BROADCAST_ALL .RSRC_DENIED true) h M₁.tr).2 }
    else M₁.stateEvent send (.subscribe h)
  { M₂ with objs := M₂.objs.delete h }

/-- `unsubscribeRsrc` with the object that its caller has made. -/
def unsubscribeRsrc (M : Machine) (s : Subscriber) : Bool × Machine :=
  let h := M.objs.next
  let M₁ : Machine := { M with objs := M.objs.make s }
  let r := M₁.findSubscriber (.to h .RSRC_STATUS_MAX false)
  let M₂ := match r.1 with
    | some e => r.2.stateEvent send (.unsubscribe e)
    | none => r.2
  (r.1.isSome, { M₂ with objs := M₂.objs.delete h })

/-- A call of the machine. -/
def act (M : Machine) : Action → Machine
  | .subscribeRsrc s => M.subscribeRsrc send s
  | .unsubscribeRsrc s => (M.unsubscribeRsrc send s).2
  | .onRsrcEvent event => M.onRsrcEvent send event
  | .dropAllSubscribers => M.dropAllSubscribers

end Notify

end Machine

/-- A machine as it is made, whatever objects were made before it. -/
structure IsNew (M : Machine) : Prop where
  released : M.state = .Released
  empty : M.mSubscribers = []
  bound : ∀ h, M.objs.isLive h = true → h < M.objs.next
  unseen : M.tr.seen = []

/-- A machine with its objects, from its start on. -/
def liveSys [SubscriberEquals] (send : SendRsrcRequest) :
    TransSys Machine Action where
  init := IsNew
  step M a := some (M.act send a)

/-! ## What is seen -/

/-- From `tr` to `tr'` everything seen has `P`. -/
def Sees (P : Seen → Prop) (tr tr' : Trace) : Prop :=
  ∃ new, tr'.seen = tr.seen ++ new ∧ ∀ u ∈ new, P u

theorem Sees.refl (P : Seen → Prop) (tr : Trace) : Sees P tr tr :=
  ⟨[], (List.append_nil _).symm, fun _ hu => by cases hu⟩

theorem Sees.trans {P : Seen → Prop} {tr tr' tr'' : Trace}
    (h : Sees P tr tr') (h' : Sees P tr' tr'') : Sees P tr tr'' := by
  obtain ⟨new, hseen, hnew⟩ := h
  obtain ⟨new', hseen', hnew'⟩ := h'
  refine ⟨new ++ new', by rw [hseen', hseen, List.append_assoc], ?_⟩
  intro u hu
  rcases List.mem_append.mp hu with hu | hu
  · exact hnew u hu
  · exact hnew' u hu

theorem Sees.mono {P P' : Seen → Prop} (hP : ∀ u, P u → P' u)
    {tr tr' : Trace} (h : Sees P tr tr') : Sees P' tr tr' := by
  obtain ⟨new, hseen, hnew⟩ := h
  exact ⟨new, hseen, fun u hu => hP u (hnew u hu)⟩

theorem sees_see {P : Seen → Prop} {tr : Trace} {o : Objects} {use : Use}
    {h : Handle} (hp : P ⟨use, h, o.isLive h⟩) :
    Sees P tr (tr.see o use h) :=
  ⟨[⟨use, h, o.isLive h⟩], rfl, fun u hu => by
    rw [List.mem_singleton.mp hu]
    exact hp⟩

/-- The handles may be looked at as whatever they are, by `P`. -/
def May (P : Seen → Prop) (o : Objects) (h : Handle) : Prop :=
  ∀ use, P ⟨use, h, o.isLive h⟩

theorem sees_seeRcver {P : Seen → Prop} {n : Notification} {o : Objects}
    (hr : ∀ r ∈ n.rcver, May P o r) (tr : Trace) :
    Sees P tr (n.seeRcver o tr) := by
  unfold Notification.seeRcver
  cases h : n.rcver with
  | none => exact .refl P tr
  | some r => exact sees_see (hr r h .rcver)

theorem sees_compares {P : Seen → Prop} {n : Notification} {o : Objects}
    {h : Handle} (hh : May P o h) (hr : ∀ r ∈ n.rcver, May P o r)
    (tr : Trace) : Sees P tr (n.compares o tr h) :=
  (sees_see (hh .entry)).trans (sees_seeRcver hr _)

/-- What is live. -/
def Live (u : Seen) : Prop := u.live = true

/-- Nothing is asked of what is seen. -/
def Any (_ : Seen) : Prop := True

theorem may_live {o : Objects} {h : Handle} (hl : o.isLive h = true) :
    May Live o h := fun _ => hl

/-- From `tr` to `tr'` an object was looked at that was not live. -/
def SeesDead (tr tr' : Trace) : Prop :=
  ∃ new, tr'.seen = tr.seen ++ new ∧
    ∃ u ∈ new, u.use ≠ .deleted ∧ u.live = false

theorem SeesDead.after {P : Seen → Prop} {tr tr' tr'' : Trace}
    (h : Sees P tr tr') (h' : SeesDead tr' tr'') : SeesDead tr tr'' := by
  obtain ⟨new, hseen, -⟩ := h
  obtain ⟨new', hseen', u, hu, hdead⟩ := h'
  exact ⟨new ++ new', by rw [hseen', hseen, List.append_assoc], u,
    List.mem_append_right new hu, hdead⟩

theorem SeesDead.before {P : Seen → Prop} {tr tr' tr'' : Trace}
    (h : SeesDead tr tr') (h' : Sees P tr' tr'') : SeesDead tr tr'' := by
  obtain ⟨new, hseen, u, hu, hdead⟩ := h
  obtain ⟨new', hseen', -⟩ := h'
  exact ⟨new ++ new', by rw [hseen', hseen, List.append_assoc], u,
    List.mem_append_left new' hu, hdead⟩

/-- A comparison with a receiver that was freed. -/
theorem seesDead_compares {n : Notification} {o : Objects} {r : Handle}
    (hr : n.rcver = some r) (hdead : o.isLive r = false) (h : Handle)
    (tr : Trace) : SeesDead tr (n.compares o tr h) := by
  unfold Notification.compares Notification.seeRcver
  rw [hr]
  refine ⟨[⟨.entry, h, o.isLive h⟩, ⟨.rcver, r, o.isLive r⟩],
    List.append_assoc _ _ _, ⟨.rcver, r, o.isLive r⟩, ?_, ?_, hdead⟩
  · exact List.mem_cons_of_mem _ List.mem_cons_self
  · exact fun h => (by cases h)

section Looks

variable [SubscriberEquals]

theorem sees_notifyRsrcStatus {P : Seen → Prop} {n : Notification}
    {o : Objects} {h : Handle} (hh : May P o h)
    (hr : ∀ r ∈ n.rcver, May P o r) (tr : Trace) :
    Sees P tr (notifyRsrcStatus o n h tr).2 := by
  have hcompares := sees_compares hh hr tr
  unfold notifyRsrcStatus
  by_cases hm : (forMe o n h tr).1 = true
  · dsimp only
    rw [if_pos hm]
    by_cases hc : (classStatus (o.read h) n.rsrcStatus
        (forMe o n h tr).2.m).1 = true
    · dsimp only
      rw [if_pos hc]
      exact hcompares.trans (sees_see (hh .notified))
    · dsimp only
      rw [if_neg hc]
      exact hcompares
  · dsimp only
    rw [if_neg hm]
    exact hcompares

/-- Whatever the callback is, a search sees the entries and the receiver. -/
theorem sees_visit {P : Seen → Prop} {n : Notification} {o : Objects}
    {t : Handle → Trace → Bool × Trace}
    (ht : t = hasSubscriber o n ∨ t = notifySubscriber o n) {q : List Handle}
    (hq : ∀ h ∈ q, May P o h) (hr : ∀ r ∈ n.rcver, May P o r) (rm : Bool)
    (tr : Trace) : Sees P tr (visit t rm q tr).2.2 := by
  refine visit_rel (Sees.refl P) (fun _ _ _ => Sees.trans) rm ?_ tr
  intro h hh tr
  rcases ht with rfl | rfl
  · exact sees_compares (hq h hh) hr tr
  · exact sees_notifyRsrcStatus (hq h hh) hr tr

/-- A notification compares first. -/
theorem compares_notifyRsrcStatus (n : Notification) (o : Objects)
    (h : Handle) (tr : Trace) :
    Sees Any (n.compares o tr h) (notifyRsrcStatus o n h tr).2 := by
  unfold notifyRsrcStatus
  by_cases hm : (forMe o n h tr).1 = true
  · dsimp only
    rw [if_pos hm]
    by_cases hc : (classStatus (o.read h) n.rsrcStatus
        (forMe o n h tr).2.m).1 = true
    · dsimp only
      rw [if_pos hc]
      exact sees_see trivial
    · dsimp only
      rw [if_neg hc]
      exact .refl Any _
  · dsimp only
    rw [if_neg hm]
    exact .refl Any _

/-- With a receiver that was freed, a search of a list that is not empty
    looks at it. -/
theorem seesDead_visit {n : Notification} {o : Objects} {r : Handle}
    (hr : n.rcver = some r) (hdead : o.isLive r = false) (rm : Bool)
    (h : Handle) (q : List Handle) (tr : Trace) :
    SeesDead tr (visit (notifySubscriber o n) rm (h :: q) tr).2.2 := by
  have hone : SeesDead tr (notifySubscriber o n h tr).2 :=
    (seesDead_compares hr hdead h tr).before
      (compares_notifyRsrcStatus n o h tr)
  rw [visit]
  rcases ht : notifySubscriber o n h tr with ⟨_ | _, tr₁⟩
  · rw [ht] at hone
    exact hone.before (sees_visit (P := Any) (Or.inr rfl)
      (fun _ _ _ => trivial) (fun _ _ _ => trivial) rm tr₁)
  · rw [ht] at hone
    exact hone

end Looks

/-! ## The list and the objects -/

namespace Objects

theorem make_isLive (o : Objects) (s : Subscriber) (h : Handle) :
    (o.make s).isLive h = true ↔ h = o.next ∨ o.isLive h = true := by
  show ((if h = o.next then some s else o.live h).isSome = true) ↔ _
  by_cases hh : h = o.next
  · rw [if_pos hh]
    exact ⟨fun _ => Or.inl hh, fun _ => rfl⟩
  · rw [if_neg hh]
    exact ⟨Or.inr, fun hl => hl.resolve_left hh⟩

theorem make_read_self (o : Objects) (s : Subscriber) :
    (o.make s).read o.next = s := by
  show (if o.next = o.next then some s else o.live o.next).getD _ = s
  rw [if_pos rfl, Option.getD_some]

theorem make_read_ne {o : Objects} {h : Handle} (hne : h ≠ o.next)
    (s : Subscriber) : (o.make s).read h = o.read h := by
  show (if h = o.next then some s else o.live h).getD _ = _
  rw [if_neg hne]
  rfl

theorem write_isLive (o : Objects) (h h' : Handle) (s : Subscriber) :
    (o.write h s).isLive h' = o.isLive h' := by
  show (if h' = h then (o.live h).map (fun _ => s) else o.live h').isSome
    = (o.live h').isSome
  by_cases hh : h' = h
  · rw [if_pos hh, Option.isSome_map, hh]
  · rw [if_neg hh]

theorem delete_isLive (o : Objects) (h h' : Handle) :
    (o.delete h).isLive h' = true ↔ h' ≠ h ∧ o.isLive h' = true := by
  by_cases hh : h' = h
  · rw [isLive, hh, delete_live_self]
    exact ⟨fun h => (by cases h), fun h => absurd rfl h.1⟩
  · rw [isLive, delete_live_ne hh]
    exact ⟨fun hl => ⟨hh, hl⟩, fun hl => hl.2⟩

end Objects

/-- Everything compared, notified or made inactive so far was live. -/
def LiveSoFar (M : Machine) : Prop :=
  ∀ u ∈ M.tr.seen, u.use ≠ .deleted → u.live = true

theorem LiveSoFar.sees {M M' : Machine} (h : LiveSoFar M)
    (hs : Sees Live M.tr M'.tr) : LiveSoFar M' := by
  obtain ⟨new, hseen, hnew⟩ := hs
  intro u hu hdel
  rw [hseen] at hu
  rcases List.mem_append.mp hu with hu | hu
  · exact h u hu hdel
  · exact hnew u hu

theorem not_liveSoFar {M M' : Machine} (hs : SeesDead M.tr M'.tr) :
    ¬ LiveSoFar M' := by
  obtain ⟨new, hseen, u, hu, hdel, hdead⟩ := hs
  intro h
  have hlive := h u (by
    rw [hseen]
    exact List.mem_append_right _ hu) hdel
  rw [hdead] at hlive
  cases hlive

/-- The list holds live objects, each once; so are the objects of the callers
    `C`, which it does not hold; and no object is newer than `next`. -/
structure Holding (C : List Handle) (q : List Handle) (o : Objects) : Prop where
  nodup : q.Nodup
  live : ∀ h ∈ q, o.isLive h = true
  caller : ∀ c ∈ C, o.isLive c = true ∧ c ∉ q
  bound : ∀ h, o.isLive h = true → h < o.next

theorem Holding.next_notMem {C q : List Handle} {o : Objects}
    (h : Holding C q o) : o.next ∉ q := fun hm =>
  Nat.lt_irrefl _ (h.bound _ (h.live _ hm))

/-- An entry is taken out and freed. -/
theorem Holding.delete {C l₁ l₂ : List Handle} {s : Handle} {o : Objects}
    (h : Holding C (l₁ ++ s :: l₂) o) :
    Holding C (l₁ ++ l₂) (o.delete s) := by
  have hnd := List.nodup_middle.mp h.nodup
  have hsub : ∀ e ∈ l₁ ++ l₂, e ∈ l₁ ++ s :: l₂ := by
    intro e he
    rcases List.mem_append.mp he with he | he
    · exact List.mem_append_left _ he
    · exact List.mem_append_right _ (List.mem_cons_of_mem s he)
  have hs : s ∈ l₁ ++ s :: l₂ := List.mem_append_right l₁ List.mem_cons_self
  refine ⟨(List.nodup_cons.mp hnd).2, ?_, ?_, ?_⟩
  · intro e he
    refine (o.delete_isLive s e).mpr ⟨?_, h.live e (hsub e he)⟩
    rintro rfl
    exact (List.nodup_cons.mp hnd).1 he
  · intro c hc
    obtain ⟨hl, hn⟩ := h.caller c hc
    refine ⟨(o.delete_isLive s c).mpr ⟨?_, hl⟩, fun hm => hn (hsub c hm)⟩
    rintro rfl
    exact hn hs
  · intro e he
    exact h.bound e ((o.delete_isLive s e).mp he).2

/-- An object is made, and put in front or kept by a caller. -/
theorem Holding.make {q : List Handle} {o : Objects} {C : List Handle}
    (h : Holding C q o) (s : Subscriber) :
    Holding C (o.next :: q) (o.make s) ∧
      Holding (o.next :: C) q (o.make s) := by
  have hlive : ∀ e, o.isLive e = true → (o.make s).isLive e = true :=
    fun e he => (o.make_isLive s e).mpr (Or.inr he)
  have hnew : (o.make s).isLive o.next = true :=
    (o.make_isLive s o.next).mpr (Or.inl rfl)
  have hbound : ∀ e, (o.make s).isLive e = true → e < (o.make s).next := by
    intro e he
    rcases (o.make_isLive s e).mp he with rfl | he
    · exact Nat.lt_succ_self _
    · exact Nat.lt_succ_of_lt (h.bound e he)
  refine ⟨⟨List.nodup_cons.mpr ⟨h.next_notMem, h.nodup⟩, ?_, ?_, hbound⟩,
    ⟨h.nodup, fun e he => hlive e (h.live e he), ?_, hbound⟩⟩
  · intro e he
    rcases List.mem_cons.mp he with rfl | he
    · exact hnew
    · exact hlive e (h.live e he)
  · intro c hc
    obtain ⟨hl, hn⟩ := h.caller c hc
    refine ⟨hlive c hl, fun hm => ?_⟩
    rcases List.mem_cons.mp hm with rfl | hm
    · exact Nat.lt_irrefl _ (h.bound _ hl)
    · exact hn hm
  · intro c hc
    rcases List.mem_cons.mp hc with rfl | hc
    · exact ⟨hnew, h.next_notMem⟩
    · exact ⟨hlive c (h.caller c hc).1, (h.caller c hc).2⟩

theorem Holding.write {C q : List Handle} {o : Objects} (h : Holding C q o)
    (e : Handle) (s : Subscriber) : Holding C q (o.write e s) := by
  refine ⟨h.nodup, ?_, ?_, ?_⟩
  · intro e' he'
    rw [o.write_isLive]
    exact h.live e' he'
  · intro c hc
    rw [o.write_isLive]
    exact h.caller c hc
  · intro e' he'
    rw [o.write_isLive] at he'
    exact h.bound e' he'

/-- The object of a caller is freed. -/
theorem Holding.leave {c : Handle} {q : List Handle} {o : Objects}
    (h : Holding [c] q o) : Holding [] q (o.delete c) := by
  refine ⟨h.nodup, ?_, fun c hc => (by cases hc), ?_⟩
  · intro e he
    refine (o.delete_isLive c e).mpr ⟨?_, h.live e he⟩
    rintro rfl
    exact (h.caller e List.mem_cons_self).2 he
  · intro e he
    exact h.bound e ((o.delete_isLive c e).mp he).2

/-- What a notification sees is live if it is for a group. -/
def LiveForGroup (n : Notification) (u : Seen) : Prop :=
  n.rcver = none → u.live = true

theorem may_liveForGroup {n : Notification} {o : Objects} {h : Handle}
    (hl : o.isLive h = true) : May (LiveForGroup n) o h := fun _ _ => hl

theorem may_rcver (n : Notification) (o : Objects) :
    ∀ r ∈ n.rcver, May (LiveForGroup n) o r := by
  intro r hr use hnone
  rw [hnone] at hr
  cases hr

/-- The machine is sound, with the objects of the callers `C`. -/
def Sound (C : List Handle) (M : Machine) : Prop :=
  Holding C M.mSubscribers M.objs

/-- From the machine `M`, with the objects of the callers `C`, to `M'`, which
    is sound too, everything seen has `P`. -/
structure Goes (C : List Handle) (P : Seen → Prop) (M M' : Machine) :
    Prop where
  sound : Sound C M'
  sees : Sees P M.tr M'.tr

theorem Goes.trans {C : List Handle} {P : Seen → Prop} {M M' M'' : Machine}
    (h : Goes C P M M') (h' : Goes C P M' M'') : Goes C P M M'' :=
  ⟨h'.sound, h.sees.trans h'.sees⟩

theorem Goes.mono {C : List Handle} {P P' : Seen → Prop} {M M' : Machine}
    (hP : ∀ u, P u → P' u) (h : Goes C P M M') : Goes C P' M M' :=
  ⟨h.sound, h.sees.mono hP⟩

theorem Goes.refl {C : List Handle} {P : Seen → Prop} {M : Machine}
    (h : Sound C M) : Goes C P M M :=
  ⟨h, .refl P M.tr⟩

namespace Machine

variable {C : List Handle} {M : Machine}

theorem setInactive_goes (hM : Sound C M) {h : Handle}
    (hh : M.objs.isLive h = true) : Goes C Live M (M.setInactive h) :=
  ⟨Holding.write hM h _, sees_see (may_live hh .inactivated)⟩

end Machine

section Machine

variable [SubscriberEquals]

/-- The loop of `notifySubscribers` ends, keeps the list sound and takes
    nothing into it. -/
theorem notifyHandles_holding (n : Notification) {C : List Handle} :
    ∀ (fuel : Nat) {q : List Handle} {o : Objects} (tr : Trace),
      Holding C q o → q.length < fuel →
      ∃ q' o' tr', notifyHandles n fuel q o tr = some (q', o', tr') ∧
        Holding C q' o' ∧ Sees (LiveForGroup n) tr tr' := by
  intro fuel
  induction fuel with
  | zero => intro q o tr _ hlt; exact absurd hlt (Nat.not_lt_zero _)
  | succ fuel ih =>
      intro q o tr hq hlt
      have hsees := sees_visit (Or.inr rfl) (fun h hh =>
        may_liveForGroup (n := n) (hq.live h hh)) (may_rcver n o) true tr
      rw [notifyHandles]
      rcases hv : visit (notifySubscriber o n) true q tr with ⟨_ | s, q₁, tr₁⟩
      · rw [hv] at hsees
        obtain rfl := visit_nothing hv
        exact ⟨_, o, tr₁, rfl, hq, hsees⟩
      · rw [hv] at hsees
        obtain ⟨l₁, l₂, rfl, hq₁⟩ := visit_found hv
        rw [if_pos rfl] at hq₁
        subst hq₁
        have hs := hq.live s (List.mem_append_right l₁ List.mem_cons_self)
        have hlt' : (l₁ ++ l₂).length < fuel := by
          rw [List.length_append, List.length_cons] at hlt
          rw [List.length_append]
          omega
        obtain ⟨q', o', tr', hrun, hq', hsees'⟩ :=
          ih (tr₁.see o .deleted s) hq.delete hlt'
        refine ⟨q', o', tr', hrun, hq', ?_⟩
        exact (hsees.trans (sees_see (may_liveForGroup hs .deleted))).trans
          hsees'

/-- The loop goes on with a receiver that was freed. -/
theorem notifyHandles_dead {n : Notification} {C : List Handle} {fuel : Nat}
    {h r : Handle} {q q' : List Handle} {o o' : Objects} {tr tr' : Trace}
    (hq : Holding C (h :: q) o) (hr : n.rcver = some r)
    (hdead : o.isLive r = false) (hlt : (h :: q).length < fuel)
    (hrun : notifyHandles n fuel (h :: q) o tr = some (q', o', tr')) :
    SeesDead tr tr' := by
  cases fuel with
  | zero => exact absurd hlt (Nat.not_lt_zero _)
  | succ fuel =>
      have hvisit := seesDead_visit hr hdead true h q tr
      rw [notifyHandles] at hrun
      rcases hv : visit (notifySubscriber o n) true (h :: q) tr with
        ⟨_ | s, q₁, tr₁⟩
      · rw [hv] at hrun hvisit
        cases hrun
        exact hvisit
      · rw [hv] at hrun hvisit
        obtain ⟨l₁, l₂, hl, hq₁⟩ := visit_found hv
        rw [if_pos rfl] at hq₁
        subst hq₁
        rw [hl] at hq hlt
        have hlt' : (l₁ ++ l₂).length < fuel := by
          rw [List.length_append, List.length_cons] at hlt
          rw [List.length_append]
          omega
        obtain ⟨q₂, o₂, tr₂, hrest, -, hsees⟩ := notifyHandles_holding n fuel
          (tr₁.see o .deleted s) hq.delete hlt'
        cases hrest.symm.trans hrun
        exact hvisit.before ((sees_see trivial).trans
          (hsees.mono (fun _ _ => trivial) : Sees Any _ _))

/-- When the entry `e` is freed nothing is left to compare it with: it is the
    last of the list, and those before it are freed before it. -/
def GoesLast (o : Objects) (pre : List Handle) (e : Handle)
    (post : List Handle) : Prop :=
  (∀ b ∈ pre, SubscriberEquals.equals (o.read b) (o.read e) = true) ∧
    post = []

/-- Who is freed before the entry does not matter to it. -/
theorem goesLast_delete {o : Objects} {l₁ l₂ post : List Handle}
    {s e : Handle}
    (hs : SubscriberEquals.equals (o.read s) (o.read e) = true)
    (hne : ∀ b ∈ (l₁ ++ l₂) ++ e :: post, b ≠ s) :
    GoesLast (o.delete s) (l₁ ++ l₂) e post
      ↔ GoesLast o (l₁ ++ s :: l₂) e post := by
  have hread : ∀ b ∈ (l₁ ++ l₂) ++ e :: post,
      (o.delete s).read b = o.read b :=
    fun b hb => Objects.delete_read_ne (hne b hb)
  have he := hread e (List.mem_append_right _ List.mem_cons_self)
  unfold GoesLast
  rw [he]
  refine and_congr_left (fun _ => ⟨fun h b hb => ?_, fun h b hb => ?_⟩)
  · rcases List.mem_append.mp hb with hb | hb
    · rw [← hread b (List.mem_append_left _ (List.mem_append_left _ hb))]
      exact h b (List.mem_append_left _ hb)
    · rcases List.mem_cons.mp hb with rfl | hb
      · exact hs
      · rw [← hread b (List.mem_append_left _ (List.mem_append_right _ hb))]
        exact h b (List.mem_append_right _ hb)
  · rw [hread b (List.mem_append_left _ hb)]
    refine h b ?_
    rcases List.mem_append.mp hb with hb | hb
    · exact List.mem_append_left _ hb
    · exact List.mem_append_right _ (List.mem_cons_of_mem s hb)

/-- A visit for an entry of the list looks at live objects. -/
theorem sees_visit_entry {C q : List Handle} {o : Objects} {e : Handle}
    (hq : Holding C q o) (hmem : e ∈ q) (rm : Bool) (tr : Trace) :
    Sees Live tr (visit (notifySubscriber o
      (.to e .RSRC_UNSUBSCRIBE true)) rm q tr).2.2 := by
  refine sees_visit (Or.inr rfl) (fun h hh => may_live (hq.live h hh)) ?_ rm tr
  intro r hr
  cases hr
  exact may_live (hq.live e hmem)

/-- The receiver is the first entry the notification is for: it is freed and
    looked at again for each entry that is left. -/
theorem notifyHandles_first
    (hself : ∀ s, SubscriberEquals.equals s s = true) {C : List Handle}
    {e : Handle} {pre post q' : List Handle} {fuel : Nat} {o o' : Objects}
    {tr tr' : Trace} (hq : Holding C (pre ++ e :: post) o)
    (hlt : (pre ++ e :: post).length < fuel + 1)
    (hno : ∀ b ∈ pre, SubscriberEquals.equals (o.read b) (o.read e) = false)
    (hrun : notifyHandles (.to e .RSRC_UNSUBSCRIBE true) (fuel + 1)
      (pre ++ e :: post) o tr = some (q', o', tr')) :
    (GoesLast o pre e post → Sees Live tr tr') ∧
      (¬ GoesLast o pre e post → SeesDead tr tr') := by
  have hdec := notifySubscriber_decides
    (n := .to e .RSRC_UNSUBSCRIBE true) rfl rfl o
  have hmem : e ∈ pre ++ e :: post :=
    List.mem_append_right pre List.mem_cons_self
  have hvisit := sees_visit_entry hq hmem true tr
  rw [notifyHandles] at hrun
  rw [visit_accepted hdec true post hno (hself (o.read e))] at hrun hvisit
  rw [if_pos rfl] at hrun
  have hdead : (o.delete e).isLive e = false := by
    rw [Objects.isLive, Objects.delete_live_self]
    rfl
  have hsees := hvisit.trans
    (sees_see (o := o) (may_live (hq.live e hmem) .deleted))
  dsimp only at hrun
  rcases hrest : pre ++ post with _ | ⟨x, rest⟩
  · -- nothing is left: the loop ends
    obtain ⟨rfl, rfl⟩ := List.append_eq_nil_iff.mp hrest
    rw [hrest] at hrun
    rcases fuel with _ | fuel
    · exact absurd hlt (Nat.lt_irrefl 1)
    · cases hrun
      exact ⟨fun _ => hsees, fun h =>
        absurd ⟨fun _ hb => (by cases hb), rfl⟩ h⟩
  · have hdel := hq.delete
    rw [hrest] at hdel hrun
    have hlt' : (x :: rest).length < fuel := by
      rw [← hrest]
      rw [List.length_append, List.length_cons] at hlt
      rw [List.length_append]
      omega
    refine ⟨?_, fun _ => SeesDead.after hsees
      (notifyHandles_dead hdel rfl hdead hlt' hrun)⟩
    -- who is before the entry is not for it, so the entry is not last
    rintro ⟨hall, rfl⟩
    cases pre with
    | nil => cases hrest
    | cons b pre =>
        have hb := hno b List.mem_cons_self
        rw [hall b List.mem_cons_self] at hb
        cases hb

/-- **THE RECEIVER**: the loop with an entry of the list for the receiver
    looks at live objects only if and only if the entry goes last. -/
theorem notifyHandles_entry
    (hself : ∀ s, SubscriberEquals.equals s s = true) {C : List Handle}
    {e : Handle} {post : List Handle} :
    ∀ (fuel : Nat) {pre q' : List Handle} {o o' : Objects} {tr tr' : Trace},
      Holding C (pre ++ e :: post) o → (pre ++ e :: post).length < fuel →
      notifyHandles (.to e .RSRC_UNSUBSCRIBE true) fuel (pre ++ e :: post) o tr
        = some (q', o', tr') →
      (GoesLast o pre e post → Sees Live tr tr') ∧
        (¬ GoesLast o pre e post → SeesDead tr tr') := by
  intro fuel
  induction fuel with
  | zero =>
      intro pre q' o o' tr tr' _ hlt
      exact absurd hlt (Nat.not_lt_zero _)
  | succ fuel ih =>
      intro pre q' o o' tr tr' hq hlt hrun
      rcases first_accepted (fun b => SubscriberEquals.equals (o.read b)
        (o.read e)) pre with hno | ⟨l₁, s, l₂, rfl, hno, hs⟩
      · exact notifyHandles_first hself hq hlt hno hrun
      · -- another entry is freed before it
        have hdec := notifySubscriber_decides
          (n := .to e .RSRC_UNSUBSCRIBE true) rfl rfl o
        have hvisit := sees_visit_entry hq
          (List.mem_append_right _ List.mem_cons_self) true tr
        have hassoc : (l₁ ++ s :: l₂) ++ e :: post
            = l₁ ++ s :: (l₂ ++ e :: post) := by
          rw [List.append_assoc, List.cons_append]
        have hassoc' : l₁ ++ (l₂ ++ e :: post) = (l₁ ++ l₂) ++ e :: post :=
          (List.append_assoc _ _ _).symm
        rw [notifyHandles] at hrun
        rw [hassoc] at hq hlt hrun hvisit
        rw [visit_accepted hdec true (l₂ ++ e :: post) hno hs] at hrun hvisit
        rw [if_pos rfl] at hrun
        have hlive := hq.live s (List.mem_append_right l₁ List.mem_cons_self)
        have hnd := (List.nodup_cons.mp (List.nodup_middle.mp hq.nodup)).1
        have hdel := hq.delete
        have hlt' : ((l₁ ++ l₂) ++ e :: post).length < fuel := by
          rw [← hassoc', List.length_append]
          rw [List.length_append, List.length_cons] at hlt
          omega
        rw [hassoc'] at hdel hnd
        dsimp only at hrun
        rw [hassoc'] at hrun
        have hlast := goesLast_delete hs (o := o) (fun b hb heq =>
          hnd (heq ▸ hb))
        obtain ⟨hgood, hbad⟩ := ih hdel hlt' hrun
        have hsees := hvisit.trans (sees_see (o := o)
          (may_live hlive .deleted))
        exact ⟨fun h => hsees.trans (hgood (hlast.mpr h)),
          fun h => SeesDead.after hsees (hbad (fun h' => h (hlast.mp h')))⟩

namespace Machine

variable {C : List Handle} {M : Machine}

/-- A search of a sound list with a receiver that is live. -/
theorem findSubscriber_goes (hM : Sound C M) {n : Notification}
    (hr : ∀ r ∈ n.rcver, M.objs.isLive r = true) :
    Goes C Live M (M.findSubscriber n).2 :=
  ⟨hM, sees_visit (Or.inl rfl) (fun h hh => may_live (hM.live h hh))
    (fun r hrc => may_live (hr r hrc)) false M.tr⟩

/-- A search with `hasSubscriber` leaves the machine as it is. -/
theorem findSubscriber_m (M : Machine) (n : Notification) :
    (M.findSubscriber n).2.tr.m = M.tr.m :=
  visit_rel (R := fun (tr tr' : Trace) => tr'.m = tr.m) (fun _ => rfl)
    (fun _ _ _ (h : _ = _) (h' : _ = _) => h'.trans h) false
    (fun h _ tr => compares_m n M.objs tr h) M.tr

theorem findSubscriber_state (M : Machine) (n : Notification) :
    (M.findSubscriber n).2.state = M.state :=
  congrArg AgpsStateMachine.mStatePtr (M.findSubscriber_m n)

theorem notifyRsrcStatus_goes (hM : Sound C M) {n : Notification} {h : Handle}
    (hh : M.objs.isLive h = true) (hr : ∀ r ∈ n.rcver, M.objs.isLive r = true) :
    Goes C Live M (M.notifyRsrcStatus n h) :=
  ⟨hM, sees_notifyRsrcStatus (may_live hh) (fun r hrc => may_live (hr r hrc))
    M.tr⟩

/-- With a group the notification sees what is live. -/
theorem notifySubscribers_goes (hM : Sound C M) (n : Notification) :
    Goes C (LiveForGroup n) M (M.notifySubscribers n) := by
  rw [notifySubscribers]
  by_cases hdel : n.postNotifyDelete = true
  · obtain ⟨q', o', tr', hrun, hq', hsees⟩ :=
      notifyHandles_holding n (M.mSubscribers.length + 1) M.tr hM
        (Nat.lt_succ_self _)
    rw [if_pos hdel, hrun]
    exact ⟨hq', hsees⟩
  · rw [if_neg hdel]
    exact ⟨hM, sees_visit (Or.inr rfl)
      (fun h hh => may_liveForGroup (hM.live h hh)) (may_rcver n M.objs)
      false M.tr⟩

/-- On the linked list that holds the entries it is the loop with the
    searches of the list. -/
theorem notifySubscribers_holds (hM : Sound C M) (n : Notification)
    {l : QcomLinkedList.ListState Handle}
    (hl : QcomLinkedList.Holds l M.mSubscribers) :
    ∃ l', QcomObjects.notifySubscribers (M.mSubscribers.length + 1) n l M.objs
        M.tr = some (l', (M.notifySubscribers n).objs,
          (M.notifySubscribers n).tr) ∧
      QcomLinkedList.Holds l' (M.notifySubscribers n).mSubscribers := by
  unfold QcomObjects.notifySubscribers notifySubscribers
  by_cases hdel : n.postNotifyDelete = true
  · obtain ⟨q', o', tr', hrun, -⟩ := notifyHandles_holding n
      (M.mSubscribers.length + 1) M.tr hM (Nat.lt_succ_self _)
    rw [if_pos hdel, if_pos hdel, hrun]
    exact notifyLoop_holds hl hrun
  · rw [if_neg hdel, if_neg hdel]
    obtain ⟨r, hr, -, hlist, hworld, -⟩ :=
      QcomLinkedList.linkedListSearch_holds hl (notifySubscriber M.objs n)
        false false M.tr
    refine ⟨r.list, by rw [hr, Option.map_some, hworld], ?_⟩
    rwa [visit_keeps] at hlist

theorem notifyGroup_goes (hM : Sound C M) (g : GroupID)
    (status : AgpsRsrcStatus) (del : Bool) :
    Goes C Live M (M.notifySubscribers (.broadcast g status del)) :=
  (notifySubscribers_goes hM _).mono (fun _ hu => hu rfl)

theorem addSubscriber_goes (hM : Sound C M) {h : Handle} (hh : h ∈ C) :
    Goes C Live M (M.addSubscriber h) := by
  have hfind := findSubscriber_goes hM
    (n := .to h .RSRC_STATUS_MAX false) (fun r hr => by
      cases hr
      exact (hM.caller h hh).1)
  rw [addSubscriber]
  cases (M.findSubscriber (.to h .RSRC_STATUS_MAX false)).1 with
  | none =>
      have hmake := (Holding.make hM (M.objs.read h).clone).1
      exact ⟨hmake, hfind.sees⟩
  | some e => exact hfind

theorem hasActiveSubscribers_goes (hM : Sound C M) :
    Goes C Live M M.hasActiveSubscribers.2 :=
  findSubscriber_goes hM (fun r hr => by cases hr)

theorem sendRsrcRequest_goes (hM : Sound C M) (send : SendRsrcRequest)
    (action : AGpsStatusValue) :
    Goes C Live M (M.sendRsrcRequest send action).2 :=
  ⟨hM, (hasActiveSubscribers_goes hM).sees⟩

theorem releaseIfUnused_goes (hM : Sound C M) (send : SendRsrcRequest)
    (this : AgpsState) : Goes C Live M (M.releaseIfUnused send this).2 := by
  have hactive := hasActiveSubscribers_goes hM
  rw [releaseIfUnused]
  by_cases he : (!M.hasSubscribers) = true
  · rw [if_pos he]
    exact sendRsrcRequest_goes hM send _
  · rw [if_neg he]
    dsimp only
    by_cases ha : (!M.hasActiveSubscribers.1) = true
    · rw [if_pos ha]
      exact hactive.trans (sendRsrcRequest_goes hactive.sound send _)
    · rw [if_neg ha]
      exact hactive

theorem finishRelease_goes (hM : Sound C M) (send : SendRsrcRequest)
    (status : AgpsRsrcStatus) :
    Goes C Live M (M.finishRelease send status).2 := by
  have hnotify := notifyGroup_goes hM .BROADCAST_INACTIVE status true
  have hactive := hnotify.trans (hasActiveSubscribers_goes hnotify.sound)
  rw [finishRelease]
  by_cases ha : (M.notifySubscribers (.broadcast .BROADCAST_INACTIVE status
      true)).hasActiveSubscribers.1 = true
  · rw [if_pos ha]
    exact hactive.trans (sendRsrcRequest_goes hactive.sound send _)
  · rw [if_neg ha]
    exact hactive

/-- The event comes with an object of the callers, or with nothing. -/
def Handed (C : List Handle) : RsrcEvent → Prop
  | .subscribe h => h ∈ C
  | .unsubscribe _ => False
  | .granted => True
  | .released => True
  | .denied => True

theorem stateEvent_goes_of {P : Seen → Prop} {send : SendRsrcRequest}
    {e : RsrcEvent} (h : Goes C P M (M.stateOnRsrcEvent send e).2) :
    Goes C P M (M.stateEvent send e) :=
  ⟨h.sound, h.sees⟩

/-- Every event but an unsubscription looks at what is live. -/
theorem stateEvent_goes (hM : Sound C M) (send : SendRsrcRequest)
    {e : RsrcEvent} (he : Handed C e) : Goes C Live M (M.stateEvent send e) := by
  have hadd : ∀ {h}, h ∈ C → Goes C Live M (M.addSubscriber h) :=
    fun hh => addSubscriber_goes hM hh
  refine stateEvent_goes_of ?_
  rw [stateOnRsrcEvent]
  cases M.state with
  | Released =>
      cases e with
      | subscribe h =>
          exact (hadd he).trans (sendRsrcRequest_goes (hadd he).sound send _)
      | unsubscribe h => cases he
      | granted => exact .refl hM
      | released => exact .refl hM
      | denied => exact .refl hM
  | Pending =>
      cases e with
      | subscribe h => exact hadd he
      | unsubscribe h => cases he
      | granted => exact notifyGroup_goes hM .BROADCAST_ACTIVE _ false
      | released => exact .refl hM
      | denied => exact notifyGroup_goes hM .BROADCAST_ALL _ true
  | Acquired =>
      cases e with
      | subscribe h =>
          have hlive := (hM.caller h he).1
          have htold := notifyRsrcStatus_goes hM (n := .to h .RSRC_GRANTED
            false) hlive (fun r hr => by
              cases hr
              exact hlive)
          exact htold.trans (addSubscriber_goes htold.sound he)
      | unsubscribe h => cases he
      | granted => exact .refl hM
      | released => exact notifyGroup_goes hM .BROADCAST_ALL _ true
      | denied => exact .refl hM
  | Releasing =>
      cases e with
      | subscribe h => exact hadd he
      | unsubscribe h => cases he
      | granted => exact .refl hM
      | released => exact finishRelease_goes hM send _
      | denied => exact finishRelease_goes hM send _

/-- Where the resource is not released, an unsubscription drops the entry and
    looks whether the list is in use, or has been looked at before. -/
theorem stateOnRsrcEvent_unsubscribe (send : SendRsrcRequest) {e : Handle}
    (hstate : M.state ≠ .Released) :
    (M.stateOnRsrcEvent send (.unsubscribe e)).2 = M.dropSubscriber e ∨
      ∃ this, (M.stateOnRsrcEvent send (.unsubscribe e)).2
        = ((M.dropSubscriber e).releaseIfUnused send this).2 := by
  rw [stateOnRsrcEvent]
  cases hs : M.state with
  | Released => exact absurd hs hstate
  | Pending => exact Or.inr ⟨.Pending, rfl⟩
  | Acquired => exact Or.inr ⟨.Acquired, rfl⟩
  | Releasing => exact Or.inl rfl

/-- What an unsubscription does before it looks whether the list is in use. -/
theorem unsubscribe_goes (send : SendRsrcRequest)
    {P : Seen → Prop} (hP : ∀ u, Live u → P u) {e : Handle}
    (hstate : M.state ≠ .Released) (hdrop : Goes C P M (M.dropSubscriber e)) :
    Goes C P M (M.stateEvent send (.unsubscribe e)) := by
  refine stateEvent_goes_of ?_
  rcases stateOnRsrcEvent_unsubscribe send hstate with heq | ⟨this, heq⟩
  · rw [heq]
    exact hdrop
  · rw [heq]
    exact hdrop.trans ((releaseIfUnused_goes hdrop.sound send this).mono hP)

/-- An entry that does not linger and does not go last is looked at after it
    is freed. -/
theorem dropSubscriber_goes (hself : ∀ s, SubscriberEquals.equals s s = true)
    (hM : Sound C M) {pre post : List Handle} {e : Handle}
    (hlist : M.mSubscribers = pre ++ e :: post) :
    Goes C Any M (M.dropSubscriber e) ∧
    ((M.objs.read e).waitForCloseComplete = true ∨
      GoesLast M.objs pre e post → Goes C Live M (M.dropSubscriber e)) ∧
    (¬ ((M.objs.read e).waitForCloseComplete = true ∨
      GoesLast M.objs pre e post) → SeesDead M.tr (M.dropSubscriber e).tr) := by
  have hmem : e ∈ M.mSubscribers := by
    rw [hlist]
    exact List.mem_append_right pre List.mem_cons_self
  rw [dropSubscriber]
  by_cases hw : (M.objs.read e).waitForCloseComplete = true
  · rw [if_pos hw]
    have hset := setInactive_goes hM (hM.live e hmem)
    exact ⟨hset.mono (fun _ _ => trivial), fun _ => hset,
      fun h => absurd (Or.inl hw) h⟩
  · rw [if_neg hw]
    have hnotify := notifySubscribers_goes hM (.to e .RSRC_UNSUBSCRIBE true)
    obtain ⟨q', o', tr', hrun, hq', -⟩ :=
      notifyHandles_holding (.to e .RSRC_UNSUBSCRIBE true)
        (M.mSubscribers.length + 1) M.tr hM (Nat.lt_succ_self _)
    have heq : M.notifySubscribers (.to e .RSRC_UNSUBSCRIBE true)
        = ⟨q', o', tr'⟩ := by
      rw [notifySubscribers, if_pos (by rfl), hrun]
    unfold Sound at hM
    rw [hlist] at hM hrun
    obtain ⟨hgood, hbad⟩ := notifyHandles_entry hself _ hM
      (Nat.lt_succ_self _) hrun
    rw [heq] at hnotify ⊢
    exact ⟨hnotify.mono (fun _ _ => trivial),
      fun h => ⟨hq', hgood (h.resolve_left hw)⟩,
      fun h => hbad (fun hlast => h (Or.inr hlast))⟩

/-- The unsubscription of an entry. -/
theorem stateEvent_unsubscribe
    (hself : ∀ s, SubscriberEquals.equals s s = true) (hM : Sound C M)
    (send : SendRsrcRequest) {pre post : List Handle} {e : Handle}
    (hlist : M.mSubscribers = pre ++ e :: post) :
    Goes C Any M (M.stateEvent send (.unsubscribe e)) ∧
    (M.state = .Released ∨ (M.objs.read e).waitForCloseComplete = true ∨
      GoesLast M.objs pre e post →
      Sees Live M.tr (M.stateEvent send (.unsubscribe e)).tr) ∧
    (¬ (M.state = .Released ∨ (M.objs.read e).waitForCloseComplete = true ∨
      GoesLast M.objs pre e post) →
      SeesDead M.tr (M.stateEvent send (.unsubscribe e)).tr) := by
  have hmem : e ∈ M.mSubscribers := by
    rw [hlist]
    exact List.mem_append_right pre List.mem_cons_self
  by_cases hstate : M.state = .Released
  · have hlive := hM.live e hmem
    have htold := notifyRsrcStatus_goes hM (n := .to e .RSRC_UNSUBSCRIBE false)
      hlive (fun r hr => by
        cases hr
        exact hlive)
    have hgoes : Goes C Live M (M.stateEvent send (.unsubscribe e)) := by
      refine stateEvent_goes_of ?_
      rw [stateOnRsrcEvent, hstate]
      exact htold
    exact ⟨hgoes.mono (fun _ _ => trivial), fun _ => hgoes.sees,
      fun h => absurd (Or.inl hstate) h⟩
  · obtain ⟨hany, hgood, hbad⟩ := dropSubscriber_goes hself hM hlist
    refine ⟨unsubscribe_goes send (fun _ _ => trivial) hstate hany,
      fun h => (unsubscribe_goes send (fun _ hu => hu) hstate
        (hgood (h.resolve_left hstate))).sees, fun h => ?_⟩
    have hdead := hbad (fun h' => h (Or.inr h'))
    show SeesDead M.tr (M.stateOnRsrcEvent send (.unsubscribe e)).2.tr
    rcases stateOnRsrcEvent_unsubscribe send hstate with heq | ⟨this, heq⟩
    · rw [heq]
      exact hdead
    · rw [heq]
      exact hdead.before (releaseIfUnused_goes hany.sound send this).sees

/-- The entry found for `s` is not freed by the unsubscription, or goes
    last. -/
def FoundGoesLast (M : Machine) (s : Subscriber) : Prop :=
  let other := fun b => !SubscriberEquals.equals (M.objs.read b) s
  match M.mSubscribers.dropWhile other with
  | [] => True
  | e :: post =>
      M.state = .Released ∨ (M.objs.read e).waitForCloseComplete = true ∨
        GoesLast M.objs (M.mSubscribers.takeWhile other) e post

/-- An entry is found for `s`, or none. -/
theorem findSubscriber_found (hM : Sound [] M) (s : Subscriber) {M₁ : Machine}
    (hM₁ : M₁ = { M with objs := M.objs.make s }) :
    ((M₁.findSubscriber (.to M.objs.next .RSRC_STATUS_MAX false)).1 = none ∧
      M.FoundGoesLast s) ∨
    ∃ pre e post, M.mSubscribers = pre ++ e :: post ∧
      (M₁.findSubscriber (.to M.objs.next .RSRC_STATUS_MAX false)).1
        = some e ∧ (∀ b ∈ pre, M₁.objs.read b ≠ M₁.objs.read e) ∧
      (M.FoundGoesLast s ↔ M.state = .Released ∨
        (M₁.objs.read e).waitForCloseComplete = true ∨
        GoesLast M₁.objs pre e post) := by
  subst hM₁
  have hread : ∀ b ∈ M.mSubscribers,
      (M.objs.make s).read b = M.objs.read b :=
    fun b hb => Objects.make_read_ne (fun h => hM.next_notMem (h ▸ hb)) s
  have hdec : Decides (hasSubscriber (M.objs.make s)
      (.to M.objs.next .RSRC_STATUS_MAX false))
      (fun b => SubscriberEquals.equals ((M.objs.make s).read b)
        ((M.objs.make s).read M.objs.next))
      ((Notification.to M.objs.next .RSRC_STATUS_MAX false).compares
        (M.objs.make s))
      ((Notification.to M.objs.next .RSRC_STATUS_MAX false).compares
        (M.objs.make s)) := by
    refine ⟨fun b tr h => ?_, fun b tr h => ?_⟩
    · exact Prod.ext h rfl
    · exact Prod.ext h rfl
  rw [Objects.make_read_self] at hdec
  unfold findSubscriber
  rcases first_accepted (fun b => SubscriberEquals.equals
    ((M.objs.make s).read b) s) M.mSubscribers with hno | ⟨pre, e, post, hl, hno, he⟩
  · refine Or.inl ⟨?_, ?_⟩
    · dsimp only
      rw [visit_refused hdec false hno]
    · have hno' : ∀ b ∈ M.mSubscribers,
          SubscriberEquals.equals (M.objs.read b) s = false := by
        intro b hb
        rw [← hread b hb, hno b hb]
      unfold FoundGoesLast
      dsimp only
      rw [dropWhile_refused hno']
      trivial
  · have hmem : ∀ b ∈ pre, b ∈ M.mSubscribers := by
      intro b hb
      rw [hl]
      exact List.mem_append_left _ hb
    have hmeme : e ∈ M.mSubscribers := by
      rw [hl]
      exact List.mem_append_right pre List.mem_cons_self
    obtain ⟨hdrop, htake⟩ := while_accepted
      (p := fun b => SubscriberEquals.equals (M.objs.read b) s) post
      (fun b hb => hread b (hmem b hb) ▸ hno b hb) (hread e hmeme ▸ he)
    refine Or.inr ⟨pre, e, post, hl, ?_, ?_, ?_⟩
    · dsimp only
      rw [hl, visit_accepted hdec false post hno he]
    · intro b hb heq
      have hb := hno b hb
      rw [heq, he] at hb
      cases hb
    · unfold FoundGoesLast GoesLast
      dsimp only
      rw [hl, hdrop, htake]
      dsimp only
      rw [hread e hmeme]
      have hall : (∀ b ∈ pre, SubscriberEquals.equals
          ((M.objs.make s).read b) (M.objs.read e) = true) ↔
          ∀ b ∈ pre, SubscriberEquals.equals (M.objs.read b)
            (M.objs.read e) = true := by
        refine forall₂_congr (fun b hb => ?_)
        rw [hread b (hmem b hb)]
      rw [hall]

/-! ## The calls -/

/-- **UNSUBSCRIBE**: it looks at live subscribers only if and only if the
    entry found goes last or is not freed. -/
theorem unsubscribeRsrc_goes
    (hself : ∀ s, SubscriberEquals.equals s s = true) (hM : Sound [] M)
    (send : SendRsrcRequest) (s : Subscriber) :
    Goes [] Any M (M.unsubscribeRsrc send s).2 ∧
    (M.FoundGoesLast s → Sees Live M.tr (M.unsubscribeRsrc send s).2.tr) ∧
    (¬ M.FoundGoesLast s → SeesDead M.tr (M.unsubscribeRsrc send s).2.tr) := by
  have hM₁ : Sound [M.objs.next] { M with objs := M.objs.make s } :=
    (Holding.make hM s).2
  have hfind := findSubscriber_goes hM₁
    (n := .to M.objs.next .RSRC_STATUS_MAX false) (fun r hr => by
      cases hr
      exact (hM₁.caller _ List.mem_cons_self).1)
  unfold unsubscribeRsrc
  dsimp only
  rcases findSubscriber_found hM s rfl with ⟨hnone, hlast⟩ |
    ⟨pre, e, post, hl, hsome, -, hiff⟩
  · rw [hnone]
    exact ⟨⟨hfind.sound.leave, hfind.sees.mono (fun _ _ => trivial)⟩,
      fun _ => hfind.sees, fun h => absurd hlast h⟩
  · rw [hsome]
    obtain ⟨hany, hgood, hbad⟩ :=
      stateEvent_unsubscribe hself hfind.sound send hl
    rw [findSubscriber_state] at hgood hbad
    refine ⟨⟨hany.sound.leave, ?_⟩, fun h => ?_, fun h => ?_⟩
    · exact (hfind.sees.mono (fun _ _ => trivial)).trans hany.sees
    · exact hfind.sees.trans (hgood (hiff.mp h))
    · exact SeesDead.after hfind.sees (hbad (fun h' => h (hiff.mpr h')))

/-- A subscription looks at live subscribers. -/
theorem subscribeRsrc_goes (hM : Sound [] M) (send : SendRsrcRequest)
    (s : Subscriber) : Goes [] Live M (M.subscribeRsrc send s) := by
  have hM₁ : Sound [M.objs.next] { M with objs := M.objs.make s } :=
    (Holding.make hM s).2
  unfold subscribeRsrc
  dsimp only
  by_cases he : (M.tr.m.mEnforceSingleSubscriber
      && hasSubscribers { M with objs := M.objs.make s }) = true
  · rw [if_pos he]
    have htold := sees_notifyRsrcStatus
      (n := .broadcast .BROADCAST_ALL .RSRC_DENIED true)
      (may_live (hM₁.caller _ List.mem_cons_self).1)
      (fun r hr => by cases hr) M.tr
    exact ⟨hM₁.leave, htold⟩
  · rw [if_neg he]
    have hevent := stateEvent_goes hM₁ send (e := .subscribe M.objs.next)
      List.mem_cons_self
    exact ⟨hevent.sound.leave, hevent.sees⟩

omit [SubscriberEquals] in
theorem dropAllSubscribers_goes (hM : Sound C M) :
    Goes C Live M M.dropAllSubscribers := by
  refine ⟨?_, .refl Live M.tr⟩
  have hall : ∀ (q : List Handle) (o : Objects), Holding C q o →
      Holding C [] (q.foldl Objects.delete o) := by
    intro q
    induction q with
    | nil => exact fun o h => h
    | cons e q ih =>
        intro o h
        have hone : Holding C ([] ++ e :: q) o := h
        exact ih _ hone.delete
  exact hall M.mSubscribers M.objs hM

theorem onRsrcEvent_goes (hM : Sound C M) (send : SendRsrcRequest)
    (event : AgpsRsrcStatus) : Goes C Live M (M.onRsrcEvent send event) := by
  cases event with
  | RSRC_GRANTED => exact stateEvent_goes hM send (e := .granted) trivial
  | RSRC_RELEASED => exact stateEvent_goes hM send (e := .released) trivial
  | RSRC_DENIED => exact stateEvent_goes hM send (e := .denied) trivial
  | RSRC_SUBSCRIBE => exact .refl hM
  | RSRC_UNSUBSCRIBE => exact .refl hM
  | RSRC_STATUS_MAX => exact .refl hM

/-- An unsubscription finds an entry that goes last. -/
def Lets (M : Machine) : Action → Prop
  | .unsubscribeRsrc s => M.FoundGoesLast s
  | .subscribeRsrc _ => True
  | .onRsrcEvent _ => True
  | .dropAllSubscribers => True

theorem act_goes (hself : ∀ s, SubscriberEquals.equals s s = true)
    (hM : Sound [] M) (send : SendRsrcRequest) (a : Action) :
    Goes [] Any M (M.act send a) ∧
    (M.Lets a → Sees Live M.tr (M.act send a).tr) ∧
    (¬ M.Lets a → SeesDead M.tr (M.act send a).tr) := by
  have hquiet : ∀ {M'}, Goes [] Live M M' → Goes [] Any M M' ∧
      (True → Sees Live M.tr M'.tr) ∧ (¬ True → SeesDead M.tr M'.tr) :=
    fun h => ⟨h.mono (fun _ _ => trivial), fun _ => h.sees,
      fun hn => absurd trivial hn⟩
  cases a with
  | subscribeRsrc s => exact hquiet (subscribeRsrc_goes hM send s)
  | unsubscribeRsrc s => exact unsubscribeRsrc_goes hself hM send s
  | onRsrcEvent event => exact hquiet (onRsrcEvent_goes hM send event)
  | dropAllSubscribers => exact hquiet (dropAllSubscribers_goes hM)

end Machine

/-! ## Runs -/

omit [SubscriberEquals] in
theorem sound_new {M : Machine} (h : IsNew M) : Sound [] M := by
  unfold Sound
  rw [h.empty]
  exact ⟨List.nodup_nil, fun h hh => (by cases hh), fun c hc => (by cases hc),
    h.bound⟩

theorem sound_reach (hself : ∀ s, SubscriberEquals.equals s s = true)
    {send : SendRsrcRequest} {M : Machine} (h : Reach (liveSys send) M) :
    Sound [] M := by
  refine reachUnder_inv (I := Sound []) (fun _ hnew => sound_new hnew) ?_ h
  intro M a M' hM _ hs
  cases Option.some.inj hs
  exact (Machine.act_goes hself hM send a).1.sound

end Machine

/-- **WHAT AN UNSUBSCRIPTION LOOKS AT**, with the code's `equals`: in every
    reachable state, everything the call compares, notifies or makes inactive
    is live if and only if the entry found is not freed or goes last. -/
theorem unsubscribeRsrc_live_iff (bytes : Subscriber → List UInt8)
    (send : SendRsrcRequest) {M : Machine}
    (h : Reach (@liveSys (codeEquals (castReads bytes)) send) M)
    (s : Subscriber) :
    ∃ new, (@Machine.unsubscribeRsrc (codeEquals (castReads bytes)) send M
        s).2.tr.seen = M.tr.seen ++ new ∧
      ((∀ u ∈ new, u.use ≠ .deleted → u.live = true) ↔
        @Machine.FoundGoesLast (codeEquals (castReads bytes)) M s) := by
  have hsound := @sound_reach (codeEquals (castReads bytes))
    (codeEquals_self bytes) send M h
  obtain ⟨⟨-, -⟩, hgood, hbad⟩ := @Machine.unsubscribeRsrc_goes
    (codeEquals (castReads bytes)) M (codeEquals_self bytes) hsound send s
  by_cases hlast : @Machine.FoundGoesLast (codeEquals (castReads bytes)) M s
  · obtain ⟨new, hseen, hnew⟩ := hgood hlast
    exact ⟨new, hseen, fun _ => hlast, fun _ u hu _ => hnew u hu⟩
  · obtain ⟨new, hseen, u, hu, hdel, hdead⟩ := hbad hlast
    refine ⟨new, hseen, fun hall => ?_, fun hl => absurd hl hlast⟩
    rw [hall u hu hdel] at hdead
    cases hdead

/-- The code's `equals` with no bytes behind modem clients. -/
@[reducible] def atlEquals : SubscriberEquals :=
  codeEquals (castReads (fun _ => []))

/-- The plain machine with it. -/
abbrev atlSys : TransSys Machine Action :=
  @liveSys atlEquals (@AgpsStateMachine.sendRsrcRequest atlEquals)

/-- The machine after modem clients subscribed. -/
def atlMachine (IDs : List UInt32) : Machine :=
  IDs.foldl (fun M ID => @Machine.act atlEquals
      (@AgpsStateMachine.sendRsrcRequest atlEquals) M
      (.subscribeRsrc (.ATLSubscriber ID false)))
    ⟨[], ⟨fun _ => none, fun _ => .ATLSubscriber 0 false, 0⟩,
      ⟨newMachine .AGPS_TYPE_WWAN_ANY, []⟩⟩

theorem reach_atlMachine (IDs : List UInt32) :
    Reach atlSys (atlMachine IDs) := by
  have hrun : ∀ (IDs : List UInt32) {M : Machine}, Reach atlSys M →
      Reach atlSys (IDs.foldl (fun M ID => @Machine.act atlEquals
        (@AgpsStateMachine.sendRsrcRequest atlEquals) M
        (.subscribeRsrc (.ATLSubscriber ID false))) M) := by
    intro IDs
    induction IDs with
    | nil => exact fun h => h
    | cons ID IDs ih => exact fun h => ih (.step h trivial rfl)
  exact hrun IDs (.init ⟨rfl, rfl, fun h hh => (by cases hh), rfl⟩)

/-- The unsubscription of a modem client. -/
def atlUnsubscribe (IDs : List UInt32) (ID : UInt32) : Machine :=
  (@Machine.unsubscribeRsrc atlEquals
    (@AgpsStateMachine.sendRsrcRequest atlEquals) (atlMachine IDs)
    (.ATLSubscriber ID false)).2

/-- The only client unsubscribes. -/
theorem unsubscribeRsrc_live_atl :
    ∃ new, (atlUnsubscribe [1] 1).tr.seen = (atlMachine [1]).tr.seen ++ new ∧
      ∀ u ∈ new, u.use ≠ .deleted → u.live = true := by
  obtain ⟨new, hseen, hiff⟩ := unsubscribeRsrc_live_iff (fun _ => [])
    (@AgpsStateMachine.sendRsrcRequest atlEquals) (reach_atlMachine [1])
    (.ATLSubscriber 1 false)
  exact ⟨new, hseen, hiff.mpr (Or.inr (Or.inr
    ⟨fun b hb => (by cases hb), rfl⟩))⟩

/-- The first of two clients unsubscribes: its entry is the last of the list,
    and the other one is compared with it when it is freed. -/
theorem unsubscribeRsrc_looks_freed :
    Reach atlSys (atlMachine [1, 2]) ∧
      ∃ new, (atlUnsubscribe [1, 2] 1).tr.seen
          = (atlMachine [1, 2]).tr.seen ++ new ∧
        ∃ u ∈ new, u.use = .rcver ∧ u.live = false := by
  refine ⟨reach_atlMachine [1, 2],
    (atlUnsubscribe [1, 2] 1).tr.seen.drop (atlMachine [1, 2]).tr.seen.length,
    ?_, ?_⟩
  · decide +kernel
  · decide +kernel

/-- Which runs look at live subscribers only. -/
theorem holdsAlong_live_iff (bytes : Subscriber → List UInt8)
    (send : SendRsrcRequest) (l : List Action) {M : Machine} (h : IsNew M) :
    HoldsAlong (@liveSys (codeEquals (castReads bytes)) send) LiveSoFar M l
      ↔ StepsMeet (@liveSys (codeEquals (castReads bytes)) send)
        (@Machine.Lets (codeEquals (castReads bytes))) M l := by
  refine @holdsAlong_iff_stepsMeet _ _ _ _ (fun M => Sound [] M ∧ LiveSoFar M) _
    (fun _ hM => hM.2) ?_ ?_ l M ⟨sound_new h, ?_⟩
  · rintro M a M' ⟨hM, hlive⟩ hlets hs
    cases Option.some.inj hs
    obtain ⟨hany, hgood, -⟩ := @Machine.act_goes
      (codeEquals (castReads bytes)) M (codeEquals_self bytes) hM send a
    exact ⟨hany.sound, hlive.sees (hgood hlets)⟩
  · rintro M a M' ⟨hM, -⟩ hlets hs
    cases Option.some.inj hs
    exact not_liveSoFar ((@Machine.act_goes (codeEquals (castReads bytes)) M
      (codeEquals_self bytes) hM send a).2.2 hlets)
  · intro u hu
    rw [h.unseen] at hu
    cases hu

end QcomObjects
