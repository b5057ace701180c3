import QcomCommon.AgpsLiveProofs

/-! # The objects read as subscribers

    The machine of handles and objects, with every entry read for the
    subscriber it is, is the machine on the list of subscribers: each call
    that looks at live objects only leads to the same state, the same list
    and the same calls to the outside (`act_view`), so a run of such calls
    is a run of that machine (`reach_view`), and what its reachable states
    have the objects have (`objects_invariant`).

    What a freed object reads as does not matter to such a call. -/

namespace QcomObjects

open QcomSweep QcomTransition QcomAgps

/-! ## The view -/

/-- The machine with its entries read. -/
def Machine.view (M : Machine) : AgpsStateMachine :=
  M.tr.machine (M.mSubscribers.map M.objs.read)

/-- The event with its object read. -/
def RsrcEvent.reads (o : Objects) : RsrcEvent → QcomAgps.RsrcEvent
  | .subscribe h => .subscribe (o.read h)
  | .unsubscribe e => .unsubscribe (o.read e)
  | .granted => .granted
  | .released => .released
  | .denied => .denied

/-- A result with its machine viewed. -/
def viewed {β : Type} (r : β × Machine) : β × AgpsStateMachine :=
  (r.1, r.2.view)

/-- One call on the list of subscribers. -/
def valueAct [SubscriberEquals] (send : SendRsrcRequest)
    (m : AgpsStateMachine) : Action → AgpsStateMachine
  | .subscribeRsrc s => m.subscribeRsrc send s
  | .unsubscribeRsrc s => (m.unsubscribeRsrc send s).2
  | .onRsrcEvent event => m.onRsrcEvent send event
  | .dropAllSubscribers => m.dropAllSubscribers

/-- A machine without objects, from any released one on. -/
def valueSys [SubscriberEquals] (send : SendRsrcRequest) :
    TransSys AgpsStateMachine Action where
  init m := m.mStatePtr = .Released ∧ m.mSubscribers = []
  step m a := some (valueAct send m a)

/-- `sendRsrcRequest` leaves the list as it is. -/
def KeepsList (send : SendRsrcRequest) : Prop :=
  ∀ action m, (send action m).2.mSubscribers = m.mSubscribers

/-- An entry that is to be told or dropped is the first of those that read
    like it, and not looked at once it is freed. -/
def Machine.Clear [SubscriberEquals] (M : Machine) : RsrcEvent → Prop
  | .unsubscribe e => ∃ pre post, M.mSubscribers = pre ++ e :: post ∧
      (∀ b ∈ pre, M.objs.read b ≠ M.objs.read e) ∧
      (M.state = .Released ∨ (M.objs.read e).waitForCloseComplete = true ∨
        GoesLast M.objs pre e post)
  | .subscribe _ => True
  | .granted => True
  | .released => True
  | .denied => True

/-- The list of a machine does not matter to what is told it. -/
theorem setInactive_machine (s : Subscriber) (tr : Trace)
    (l : List Subscriber) :
    QcomAgps.setInactive s (tr.machine l)
      = ((QcomAgps.setInactive s tr.m).1,
        { (QcomAgps.setInactive s tr.m).2 with mSubscribers := l }) := by
  cases s <;> rfl

namespace Objects

theorem write_read_self {o : Objects} {h : Handle} (hl : o.isLive h = true)
    (s : Subscriber) : (o.write h s).read h = s := by
  obtain ⟨s', hs'⟩ := Option.isSome_iff_exists.mp hl
  show (if h = h then (o.live h).map (fun _ => s) else o.live h).getD _ = s
  rw [if_pos rfl, hs', Option.map_some, Option.getD_some]

theorem write_read_ne {o : Objects} {h h' : Handle} (hne : h' ≠ h)
    (s : Subscriber) : (o.write h s).read h' = o.read h' := by
  show (if h' = h then (o.live h).map (fun _ => s) else o.live h').getD _ = _
  rw [if_neg hne]
  rfl

/-- Who is not freed reads as before. -/
theorem without_read {o o' : Objects} {gone : List Handle}
    (hw : o.Without o' gone) {h : Handle} (hh : h ∉ gone) :
    o'.read h = o.read h := by
  obtain ⟨hjunk, -, hlive⟩ := hw
  rw [read, read, hlive h, if_neg hh, hjunk]

end Objects

namespace Machine

variable {C : List Handle} {M : Machine}

/-- What happens to objects that are not in the list is not seen. -/
theorem view_objs {o : Objects}
    (h : ∀ e ∈ M.mSubscribers, o.read e = M.objs.read e) :
    ({ M with objs := o } : Machine).view = M.view := by
  unfold view
  rw [List.map_congr_left h]

theorem view_make (hM : Sound C M) (s : Subscriber) :
    ({ M with objs := M.objs.make s } : Machine).view = M.view :=
  view_objs (fun _ he =>
    Objects.make_read_ne (fun h => hM.next_notMem (h ▸ he)) s)

theorem view_leave {c : Handle} (hM : Sound [c] M) :
    ({ M with objs := M.objs.delete c } : Machine).view = M.view :=
  view_objs (fun _ he => Objects.delete_read_ne (fun h =>
    (hM.caller c List.mem_cons_self).2 (h ▸ he)))

theorem read_write_entry (hM : Sound C M) {pre post : List Handle}
    {e : Handle} (hlist : M.mSubscribers = pre ++ e :: post)
    (hfirst : ∀ b ∈ pre, M.objs.read b ≠ M.objs.read e) (s : Subscriber) :
    M.mSubscribers.map (M.objs.write e s).read
      = (M.mSubscribers.map M.objs.read).replace (M.objs.read e) s := by
  have hnodup := hM.nodup
  have hlive := hM.live e (by
    rw [hlist]
    exact List.mem_append_right pre List.mem_cons_self)
  rw [hlist] at hnodup ⊢
  have hnew := (List.nodup_cons.mp (List.nodup_middle.mp hnodup)).1
  have hread : ∀ b ∈ pre ++ post, (M.objs.write e s).read b = M.objs.read b := by
    intro b hb
    refine Objects.write_read_ne ?_ s
    rintro rfl
    exact hnew hb
  have hno : M.objs.read e ∉ pre.map M.objs.read := by
    intro hmem
    obtain ⟨b, hb, heq⟩ := List.mem_map.mp hmem
    exact hfirst b hb heq
  rw [List.map_append, List.map_cons, List.map_append, List.map_cons,
    List.replace_append_right hno, List.replace_cons_self,
    Objects.write_read_self hlive,
    List.map_congr_left (fun b hb => hread b (List.mem_append_left post hb)),
    List.map_congr_left (fun b hb => hread b (List.mem_append_right pre hb))]

theorem view_hasSubscribers (M : Machine) :
    M.view.hasSubscribers = M.hasSubscribers :=
  congrArg not List.isEmpty_map

theorem view_dropAllSubscribers (M : Machine) :
    M.dropAllSubscribers.view = M.view.dropAllSubscribers :=
  rfl

section Notify

variable [SubscriberEquals]

/-! ## Searches and notifications -/

theorem findSubscriber_view (M : Machine) (n : Notification) :
    (M.findSubscriber n).2.view = M.view := by
  have hm := M.findSubscriber_m n
  show ({ (M.findSubscriber n).2.tr.m with
    mSubscribers := M.mSubscribers.map M.objs.read } : AgpsStateMachine) = _
  rw [hm]
  rfl

/-- **SEARCH**: the entry found reads as the subscriber found. -/
theorem view_findSubscriber (M : Machine) (n : Notification) :
    M.view.findSubscriber (n.reads M.objs)
      = (M.findSubscriber n).1.map M.objs.read := by
  have hfind : (M.findSubscriber n).1 = M.mSubscribers.find? (isMine n M.objs) :=
    visit_find (t := hasSubscriber M.objs n) (p := isMine n M.objs)
      (fun _ _ => rfl) false M.mSubscribers M.tr
  rw [findSubscriber_eq, hfind]
  exact List.find?_map

theorem hasActiveSubscribers_view (M : Machine) :
    viewed M.hasActiveSubscribers = (M.view.hasActiveSubscribers, M.view) := by
  refine Prod.ext ?_ (findSubscriber_view M _)
  have hfind := view_findSubscriber M
    (.broadcast .BROADCAST_ACTIVE .RSRC_STATUS_MAX false)
  show (M.findSubscriber _).1.isSome = (M.view.findSubscriber _).isSome
  rw [← Option.isSome_map (f := M.objs.read), ← hfind]
  rfl

/-- **ADD**: the clone made is the clone put in front. -/
theorem addSubscriber_view (hM : Sound C M) (h : Handle) :
    (M.addSubscriber h).view = M.view.addSubscriber (M.objs.read h) := by
  have hfind := view_findSubscriber M (.to h .RSRC_STATUS_MAX false)
  have hview := findSubscriber_view M (.to h .RSRC_STATUS_MAX false)
  have hm := M.findSubscriber_m (.to h .RSRC_STATUS_MAX false)
  unfold addSubscriber AgpsStateMachine.addSubscriber
  dsimp only
  change M.view.findSubscriber ⟨.rcver (M.objs.read h), .RSRC_STATUS_MAX,
    false⟩ = _ at hfind
  rw [hfind]
  cases (M.findSubscriber (.to h .RSRC_STATUS_MAX false)).1 with
  | some e => exact hview
  | none =>
      have hread : ∀ e ∈ M.mSubscribers, (M.objs.make
          (M.objs.read h).clone).read e = M.objs.read e := fun e he =>
        Objects.make_read_ne (fun heq => hM.next_notMem (heq ▸ he)) _
      show ({ (M.findSubscriber _).2.tr.m with
        mSubscribers := (M.objs.next :: M.mSubscribers).map
          (M.objs.make (M.objs.read h).clone).read } : AgpsStateMachine) = _
      rw [hm, List.map_cons, Objects.make_read_self, List.map_congr_left hread]
      rfl

theorem notifyRsrcStatus_view (M : Machine) {n : Notification}
    (hst : handled n.rsrcStatus = true) (h : Handle) :
    (M.notifyRsrcStatus n h).view
      = (QcomAgps.notifyRsrcStatus (n.reads M.objs) (M.objs.read h) M.view).2
      := by
  rw [notifyRsrcStatus_eq]
  show (QcomObjects.notifyRsrcStatus M.objs n h M.tr).2.machine _ = _
  by_cases hm : isMine n M.objs h = true
  · have htells := tells_machine (tells_tells (rfl : M.objs.read h = _) n M.tr)
      M.view.mSubscribers M.view.mSubscribers
    rw [notifyRsrcStatus_mine hst hm]
    refine htells.trans ?_
    rw [List.map_singleton, List.flatMap_singleton]
    exact congrArg _ (if_pos hm).symm
  · have htells := tells_machine (tells_compares M.objs.read n M.objs M.tr h)
      M.view.mSubscribers M.view.mSubscribers
    rw [notifyRsrcStatus_other (Bool.eq_false_iff.mpr hm)]
    exact htells.trans (congrArg _ (if_neg hm).symm)

/-- A group is told and freed entry by entry. -/
theorem notifyGroup_view (hM : Sound C M) {g : GroupID}
    {status : AgpsRsrcStatus} (hst : handled status = true) (del : Bool) :
    (M.notifySubscribers (.broadcast g status del)).view
      = M.view.notifySubscribers ⟨g.recipient, status, del⟩ := by
  rw [notifySubscribers]
  cases del with
  | true =>
      have hle := List.length_filter_le
        (isMine (.broadcast g status true) M.objs) M.mSubscribers
      obtain ⟨o', tr', hrun, htells, hwithout⟩ := notifyHandles_once
        (n := .broadcast g status true) hst rfl (fun r hr => (by cases hr))
        (M.mSubscribers.length + 1) M.mSubscribers M.objs M.tr hM.nodup
        (fun h hh => hh) ⟨rfl, fun _ _ => rfl, fun _ _ => rfl⟩
        (Nat.lt_succ_of_le hle)
      rw [if_pos (by rfl), hrun]
      refine Eq.trans ?_ (tells_refines hst htells).symm
      have hread : ∀ h ∈ M.mSubscribers.filter
          (fun h => !isMine (.broadcast g status true) M.objs h),
          o'.read h = M.objs.read h := by
        intro h hh
        refine Objects.without_read hwithout (fun hgone => ?_)
        have hno := (List.mem_filter.mp hh).2
        rw [(List.mem_filter.mp hgone).2] at hno
        cases hno
      exact congrArg tr'.machine (List.map_congr_left hread)
  | false =>
      obtain ⟨tr', hvisit, htells⟩ := visit_once
        (n := .broadcast g status false) hst rfl M.objs M.mSubscribers M.tr
      rw [if_neg (fun h => (by cases h)), hvisit]
      exact (tells_refines hst htells).symm

/-- The head is freed, and the loop goes on with the rest. -/
theorem notifyHandles_head {n : Notification}
    (hst : handled n.rsrcStatus = true) (hdel : n.postNotifyDelete = true)
    {o : Objects} {h : Handle} (hm : isMine n o h = true) (fuel : Nat)
    (q : List Handle) (tr : Trace) :
    notifyHandles n (fuel + 1) (h :: q) o tr
      = notifyHandles n fuel q (o.delete h)
        ((n.tells o tr h).see o .deleted h) := by
  rw [notifyHandles, visit, (notifySubscriber_decides hst hdel o).yes h tr hm]
  rfl

/-- Where all entries are freed and the receiver goes last, it is never read
    once it is freed. -/
theorem notifyHandles_last {status : AgpsRsrcStatus}
    (hst : handled status = true) (hself : ∀ s, SubscriberEquals.equals s s = true)
    {o₀ : Objects} {e : Handle} :
    ∀ (pre : List Handle) {fuel : Nat} {o : Objects} (tr : Trace),
      (pre ++ [e]).Nodup → (∀ h ∈ pre ++ [e], o.read h = o₀.read h) →
      (∀ b ∈ pre, SubscriberEquals.equals (o₀.read b) (o₀.read e) = true) →
      (pre ++ [e]).length < fuel →
      ∃ o' tr', notifyHandles (.to e status true) fuel (pre ++ [e]) o tr
          = some ([], o', tr') ∧
        Tells o₀.read status tr tr' (pre ++ [e]) (pre ++ [e]) := by
  intro pre
  induction pre with
  | nil =>
      intro fuel o tr _ hread _ hlt
      obtain ⟨fuel, rfl⟩ : ∃ k, fuel = k + 1 + 1 := ⟨fuel - 2, by
        rw [List.nil_append, List.length_singleton] at hlt
        omega⟩
      have hone := tells_tells (hread e List.mem_cons_self)
        (.to e status true) tr
      rw [List.nil_append, notifyHandles_head (n := .to e status true) hst rfl
        (hself (o.read e))]
      exact ⟨_, _, rfl, hone.trans (tells_delete o₀.read status _ o e)⟩
  | cons b pre ih =>
      intro fuel o tr hnodup hread hall hlt
      have he : e ∈ b :: (pre ++ [e]) :=
        List.mem_append_right (b :: pre) List.mem_cons_self
      have hb : isMine (.to e status true) o b = true := by
        show SubscriberEquals.equals (o.read b) (o.read e) = true
        rw [hread b List.mem_cons_self, hread e he]
        exact hall b List.mem_cons_self
      have hone := tells_tells (hread b List.mem_cons_self)
        (.to e status true) tr
      obtain ⟨hnew, hnodup⟩ := List.nodup_cons.mp hnodup
      cases fuel with
      | zero => exact absurd hlt (Nat.not_lt_zero _)
      | succ fuel =>
          obtain ⟨o', tr', hrun, htells⟩ := ih (o := o.delete b)
            (((Notification.to e status true).tells o tr
              b).see o .deleted b) hnodup
            (fun h hh => by
              have hne : h ≠ b := by
                rintro rfl
                exact hnew hh
              rw [Objects.delete_read_ne hne]
              exact hread h (List.mem_cons_of_mem b hh))
            (fun c hc => hall c (List.mem_cons_of_mem b hc))
            (Nat.lt_of_succ_lt_succ hlt)
          refine ⟨o', tr', ?_, (hone.trans
            (tells_delete o₀.read status _ o b)).trans htells⟩
          rw [List.cons_append,
            notifyHandles_head (n := .to e status true) hst rfl hb]
          exact hrun

/-! ## An entry that unsubscribes -/

/-- **DROP**: the entry lingers, or is freed after all the others that are
    freed with it. -/
theorem dropSubscriber_view (hself : ∀ s, SubscriberEquals.equals s s = true)
    (hM : Sound C M) {pre post : List Handle} {e : Handle}
    (hlist : M.mSubscribers = pre ++ e :: post)
    (hfirst : ∀ b ∈ pre, M.objs.read b ≠ M.objs.read e)
    (hlast : (M.objs.read e).waitForCloseComplete = true ∨
      GoesLast M.objs pre e post) :
    (M.dropSubscriber e).view
      = QcomAgps.dropSubscriber (M.objs.read e) M.view := by
  rw [dropSubscriber, QcomAgps.dropSubscriber]
  by_cases hw : (M.objs.read e).waitForCloseComplete = true
  · rw [if_pos hw, if_pos hw, view, view, setInactive_machine]
    exact congrArg (Trace.machine _) (read_write_entry hM hlist hfirst _)
  · obtain ⟨hall, rfl⟩ := hlast.resolve_left hw
    have hnodup := hM.nodup
    rw [hlist] at hnodup
    have hhandled : handled .RSRC_UNSUBSCRIBE = true := rfl
    obtain ⟨o', tr', hrun, htells⟩ := notifyHandles_last hhandled hself pre
      M.tr hnodup (fun _ _ => rfl) hall (Nat.lt_succ_self _)
    have hmine : ∀ b ∈ M.mSubscribers,
        isMine (.to e .RSRC_UNSUBSCRIBE true) M.objs b = true := by
      intro b hb
      rw [hlist] at hb
      rcases List.mem_append.mp hb with hb | hb
      · exact hall b hb
      · rw [List.mem_singleton.mp hb]
        exact hself _
    have htold := List.filter_eq_self.mpr hmine
    have hkept : Notification.keeps (.to e .RSRC_UNSUBSCRIBE true) M.objs
        M.mSubscribers = [] := by
      refine List.filter_eq_nil_iff.mpr (fun b hb => ?_)
      rw [hmine b hb]
      exact Bool.false_ne_true
    rw [← hlist, ← htold] at htells
    have hvalue := tells_refines (n := .to e .RSRC_UNSUBSCRIBE true) rfl htells
    rw [hkept] at hvalue
    rw [if_neg hw, if_neg hw, notifySubscribers, if_pos (by rfl)]
    rw [← hlist] at hrun
    rw [hrun]
    exact hvalue.symm

/-! ## The four states -/

variable {send : SendRsrcRequest} (hsend : KeepsList send)

include hsend

theorem sendRsrcRequest_view (M : Machine) (action : AGpsStatusValue) :
    viewed (M.sendRsrcRequest send action) = send action M.view := by
  have hview : M.hasActiveSubscribers.2.view = M.view := findSubscriber_view M _
  have hlist := hsend action M.hasActiveSubscribers.2.view
  have hkeep : (M.sendRsrcRequest send action).2.view
      = (send action M.hasActiveSubscribers.2.view).2 := by
    show ({ (send action M.hasActiveSubscribers.2.view).2 with
      mSubscribers := M.hasActiveSubscribers.2.view.mSubscribers }
        : AgpsStateMachine) = _
    rw [← hlist]
  rw [← hview]
  exact Prod.ext rfl hkeep

theorem releaseIfUnused_view (M : Machine) (this : AgpsState) :
    viewed (M.releaseIfUnused send this)
      = QcomAgps.releaseIfUnused send this M.view := by
  obtain ⟨hactive, hview⟩ := Prod.mk.inj (hasActiveSubscribers_view M)
  have hsent := fun M => congrArg Prod.snd (sendRsrcRequest_view hsend M
    .GPS_RELEASE_AGPS_DATA_CONN)
  rw [releaseIfUnused, QcomAgps.releaseIfUnused, view_hasSubscribers]
  by_cases he : (!M.hasSubscribers) = true
  · rw [if_pos he, if_pos he]
    exact Prod.ext rfl (hsent M)
  · rw [if_neg he, if_neg he]
    dsimp only
    rw [← hactive]
    by_cases ha : (!M.hasActiveSubscribers.1) = true
    · rw [if_pos ha, if_pos ha]
      refine Prod.ext rfl ((hsent _).trans ?_)
      rw [hview]
    · rw [if_neg ha, if_neg ha]
      exact Prod.ext rfl hview

theorem finishRelease_view (hM : Sound C M) {status : AgpsRsrcStatus}
    (hst : handled status = true) :
    viewed (M.finishRelease send status)
      = QcomAgps.finishRelease send status M.view := by
  have hnotify := notifyGroup_view hM (g := .BROADCAST_INACTIVE) hst true
  obtain ⟨hactive, hview⟩ := Prod.mk.inj (hasActiveSubscribers_view
    (M.notifySubscribers (.broadcast .BROADCAST_INACTIVE status true)))
  rw [hnotify] at hactive hview
  rw [finishRelease, QcomAgps.finishRelease]
  dsimp only [GroupID.recipient] at hactive hview ⊢
  rw [← hactive]
  by_cases ha : (M.notifySubscribers (.broadcast .BROADCAST_INACTIVE status
      true)).hasActiveSubscribers.1 = true
  · have hsent := congrArg Prod.snd (sendRsrcRequest_view hsend
      (M.notifySubscribers (.broadcast .BROADCAST_INACTIVE status
        true)).hasActiveSubscribers.2 .GPS_REQUEST_AGPS_DATA_CONN)
    rw [if_pos ha, if_pos ha, ← hview]
    exact Prod.ext rfl hsent
  · rw [if_neg ha, if_neg ha]
    exact Prod.ext rfl hview

/-- **STATE**: one case per state and event. -/
theorem stateOnRsrcEvent_view (hself : ∀ s, SubscriberEquals.equals s s = true)
    (hM : Sound C M) {e : RsrcEvent} (he : M.Clear e) :
    viewed (M.stateOnRsrcEvent send e)
      = QcomAgps.stateOnRsrcEvent send (e.reads M.objs) M.view := by
  have hgroup : ∀ {g status} (_ : handled status = true) (del : Bool)
      (p : AgpsState),
      viewed (p, M.notifySubscribers (.broadcast g status del))
        = (p, M.view.notifySubscribers ⟨g.recipient, status, del⟩) :=
    fun hst del p => Prod.ext rfl (notifyGroup_view hM hst del)
  have hadd : ∀ (h : Handle) (p : AgpsState),
      viewed (p, M.addSubscriber h)
        = (p, M.view.addSubscriber (M.objs.read h)) :=
    fun h p => Prod.ext rfl (addSubscriber_view hM h)
  have hdrop : ∀ {b}, e = .unsubscribe b → M.state ≠ .Released →
      (M.dropSubscriber b).view
        = QcomAgps.dropSubscriber (M.objs.read b) M.view := by
    rintro b rfl hstate
    obtain ⟨pre, post, hlist, hfirst, hlast⟩ := he
    exact dropSubscriber_view hself hM hlist hfirst
      (hlast.resolve_left hstate)
  have hstate : M.view.mStatePtr = M.state := rfl
  unfold stateOnRsrcEvent QcomAgps.stateOnRsrcEvent
  rw [hstate]
  cases hs : M.state with
  | Released =>
      cases e with
      | subscribe h =>
          have hsent := sendRsrcRequest_view hsend (M.addSubscriber h)
            .GPS_REQUEST_AGPS_DATA_CONN
          rw [addSubscriber_view hM] at hsent
          show _ = (if (send _ (M.view.addSubscriber _)).1 = 0 then _ else _, _)
          rw [← hsent]
          rfl
      | unsubscribe h => exact Prod.ext rfl (notifyRsrcStatus_view M rfl h)
      | granted => rfl
      | released => rfl
      | denied => rfl
  | Pending =>
      cases e with
      | subscribe h => exact hadd h .Pending
      | unsubscribe h =>
          refine (releaseIfUnused_view hsend _ .Pending).trans ?_
          rw [hdrop rfl (by rw [hs]; exact AgpsState.noConfusion)]
          rfl
      | granted => exact hgroup rfl false .Acquired
      | released => rfl
      | denied => exact hgroup rfl true .Released
  | Acquired =>
      cases e with
      | subscribe h =>
          have htold : Sound C
              (M.notifyRsrcStatus (.to h .RSRC_GRANTED false) h) := hM
          have hview := addSubscriber_view htold h
          rw [notifyRsrcStatus_view M rfl h] at hview
          exact Prod.ext rfl hview
      | unsubscribe h =>
          refine (releaseIfUnused_view hsend _ .Acquired).trans ?_
          rw [hdrop rfl (by rw [hs]; exact AgpsState.noConfusion)]
          rfl
      | granted => rfl
      | released => exact hgroup rfl true .Released
      | denied => rfl
  | Releasing =>
      cases e with
      | subscribe h => exact hadd h .Releasing
      | unsubscribe h =>
          have hview := hdrop rfl (by rw [hs]; exact AgpsState.noConfusion)
          refine Prod.ext ?_ hview
          show (if !(M.dropSubscriber h).hasSubscribers then _ else _)
            = if !AgpsStateMachine.hasSubscribers _ then _ else _
          rw [← view_hasSubscribers, hview]
      | granted => rfl
      | released => exact finishRelease_view hsend hM rfl
      | denied => exact finishRelease_view hsend hM rfl

theorem stateEvent_view (hself : ∀ s, SubscriberEquals.equals s s = true)
    (hM : Sound C M) {e : RsrcEvent} (he : M.Clear e) :
    (M.stateEvent send e).view
      = M.view.stateEvent send (e.reads M.objs) := by
  have hstate := stateOnRsrcEvent_view hsend hself hM he
  rw [stateEvent, AgpsStateMachine.stateEvent, ← hstate]
  rfl

/-! ## The calls -/

theorem onRsrcEvent_view (hself : ∀ s, SubscriberEquals.equals s s = true)
    (hM : Sound C M) (event : AgpsRsrcStatus) :
    (M.onRsrcEvent send event).view = M.view.onRsrcEvent send event := by
  cases event with
  | RSRC_GRANTED => exact stateEvent_view hsend hself hM (e := .granted) trivial
  | RSRC_RELEASED =>
      exact stateEvent_view hsend hself hM (e := .released) trivial
  | RSRC_DENIED => exact stateEvent_view hsend hself hM (e := .denied) trivial
  | RSRC_SUBSCRIBE => rfl
  | RSRC_UNSUBSCRIBE => rfl
  | RSRC_STATUS_MAX => rfl

theorem subscribeRsrc_view (hself : ∀ s, SubscriberEquals.equals s s = true)
    (hM : Sound [] M) (s : Subscriber) :
    (M.subscribeRsrc send s).view = M.view.subscribeRsrc send s := by
  have hM₁ : Sound [M.objs.next] { M with objs := M.objs.make s } :=
    (Holding.make hM s).2
  have hmake := view_make hM s
  rw [subscribeRsrc, AgpsStateMachine.subscribeRsrc]
  dsimp only
  by_cases he : (M.tr.m.mEnforceSingleSubscriber
      && hasSubscribers { M with objs := M.objs.make s }) = true
  · have he' : (M.view.mEnforceSingleSubscriber
        && M.view.hasSubscribers) = true := by
      rw [view_hasSubscribers]
      exact he
    have htold := notifyRsrcStatus_view { M with objs := M.objs.make s }
      (n := .broadcast .BROADCAST_ALL .RSRC_DENIED true) rfl M.objs.next
    have hM₂ : Sound [M.objs.next] (notifyRsrcStatus
        (.broadcast .BROADCAST_ALL .RSRC_DENIED true) M.objs.next
        { M with objs := M.objs.make s }) := hM₁
    rw [if_pos he, if_pos he']
    refine (view_leave hM₂).trans (htold.trans ?_)
    rw [hmake, Objects.make_read_self]
    rfl
  · have he' : ¬ (M.view.mEnforceSingleSubscriber
        && M.view.hasSubscribers) = true := by
      rw [view_hasSubscribers]
      exact he
    have hsound := (stateEvent_goes hM₁ send (e := .subscribe M.objs.next)
      List.mem_cons_self).sound
    have hevent := stateEvent_view hsend hself hM₁
      (e := .subscribe M.objs.next) trivial
    rw [if_neg he, if_neg he']
    refine (view_leave hsound).trans (hevent.trans ?_)
    rw [hmake, RsrcEvent.reads, Objects.make_read_self]

/-- **UNSUBSCRIBE**, where it looks at live objects only. -/
theorem unsubscribeRsrc_view (hself : ∀ s, SubscriberEquals.equals s s = true)
    (hM : Sound [] M) {s : Subscriber} (hlast : M.FoundGoesLast s) :
    viewed (M.unsubscribeRsrc send s) = M.view.unsubscribeRsrc send s := by
  have hM₁ : Sound [M.objs.next] { M with objs := M.objs.make s } :=
    (Holding.make hM s).2
  have hmake := view_make hM s
  have hfind := view_findSubscriber { M with objs := M.objs.make s }
    (.to M.objs.next .RSRC_STATUS_MAX false)
  have hsearch := findSubscriber_view { M with objs := M.objs.make s }
    (.to M.objs.next .RSRC_STATUS_MAX false)
  have hgoes := findSubscriber_goes hM₁
    (n := .to M.objs.next .RSRC_STATUS_MAX false) (fun r hr => by
      cases hr
      exact (hM₁.caller _ List.mem_cons_self).1)
  have hreads : (Notification.to M.objs.next .RSRC_STATUS_MAX false).reads
      (M.objs.make s) = ⟨.rcver s, .RSRC_STATUS_MAX, false⟩ :=
    congrArg (fun t => (⟨.rcver t, .RSRC_STATUS_MAX, false⟩ :
      QcomAgps.Notification)) (Objects.make_read_self M.objs s)
  rw [hmake] at hsearch hfind
  rw [hreads] at hfind
  rw [unsubscribeRsrc, AgpsStateMachine.unsubscribeRsrc, hfind]
  dsimp only
  rcases findSubscriber_found hM s rfl with ⟨hnone, -⟩ |
    ⟨pre, e, post, hl, hsome, hfirst, hiff⟩
  · rw [hnone]
    exact Prod.ext rfl ((view_leave hgoes.sound).trans hsearch)
  · rw [hsome]
    have hstate := findSubscriber_state { M with objs := M.objs.make s }
      (.to M.objs.next .RSRC_STATUS_MAX false)
    have hclear : Clear (findSubscriber { M with objs := M.objs.make s }
        (.to M.objs.next .RSRC_STATUS_MAX false)).2 (.unsubscribe e) := by
      refine ⟨pre, post, hl, hfirst, ?_⟩
      rw [hstate]
      exact hiff.mp hlast
    have hevent := stateEvent_view hsend hself hgoes.sound hclear
    have hsound := (stateEvent_unsubscribe hself hgoes.sound send hl).1.sound
    rw [hsearch] at hevent
    exact Prod.ext rfl ((view_leave hsound).trans hevent)

/-- **REFINEMENT**: a call that looks at live objects only is the call on the
    list of subscribers. -/
theorem act_view (hself : ∀ s, SubscriberEquals.equals s s = true)
    (hM : Sound [] M) {a : Action} (ha : M.Lets a) :
    (M.act send a).view = valueAct send M.view a := by
  cases a with
  | subscribeRsrc s => exact subscribeRsrc_view hsend hself hM s
  | unsubscribeRsrc s =>
      exact congrArg Prod.snd (unsubscribeRsrc_view hsend hself hM ha)
  | onRsrcEvent event => exact onRsrcEvent_view hsend hself hM event
  | dropAllSubscribers => exact view_dropAllSubscribers M

end Notify

end Machine

/-! ## Runs -/

section Runs

variable [SubscriberEquals]

/-- A run of the objects that looks at live ones only is a run on the list of
    subscribers. -/
theorem reach_view (hself : ∀ s, SubscriberEquals.equals s s = true)
    {send : SendRsrcRequest} (hsend : KeepsList send) {M : Machine}
    (h : ReachUnder (liveSys send) Machine.Lets M) :
    Reach (valueSys send) M.view := by
  refine reachUnder_map (f := Machine.view) (I := Sound [])
    (fun _ hr => sound_reach hself (reach_of_reachUnder hr)) ?_ ?_ h
  · intro M hnew
    exact ⟨hnew.released, congrArg (List.map M.objs.read) hnew.empty⟩
  · intro M a M' hM hlets hs
    cases Option.some.inj hs
    exact ⟨a, trivial, congrArg some
      (Machine.act_view hsend hself hM hlets).symm⟩

omit [SubscriberEquals] in
theorem keepsList_of_sends {send : SendRsrcRequest} {R : RequestCalls}
    (h : Sends send R) : KeepsList send := by
  intro action m
  obtain ⟨cs, -, hleads⟩ := h action m
  exact hleads.subscribers

/-- The plain machine that serves any number of subscribers. -/
def manySys : TransSys Machine Action where
  init M := IsNew M ∧ M.tr.m.mEnforceSingleSubscriber = false
  step := (liveSys AgpsStateMachine.sendRsrcRequest).step

/-- The calls between two restarts of the modem, of subscribers of the
    population `P`, that look at live objects only. -/
def Ordinary (P : Subscriber → Prop) (M : Machine) : Action → Prop
  | .subscribeRsrc s => P s
  | .unsubscribeRsrc s => M.FoundGoesLast s
  | .onRsrcEvent _ => True
  | .dropAllSubscribers => False

theorem reach_agps (hself : ∀ s, SubscriberEquals.equals s s = true)
    {P : Subscriber → Prop} {M : Machine}
    (h : ReachUnder manySys (Ordinary P) M) :
    ReachUnder agpsSys (From P) M.view := by
  have hsound : ∀ M, ReachUnder manySys (Ordinary P) M → Sound [] M := by
    intro M hr
    have hreach : Reach (liveSys AgpsStateMachine.sendRsrcRequest) M := by
      refine reachUnder_map (f := id) (I := fun _ => True)
        (fun _ _ => trivial) ?_ ?_ hr
      · exact fun _ hinit => hinit.1
      · exact fun _ a _ _ _ hs => ⟨a, trivial, hs⟩
    exact sound_reach hself hreach
  have hsend := keepsList_of_sends sends_plain
  refine reachUnder_map (f := Machine.view) (I := Sound []) hsound ?_ ?_ h
  · rintro M ⟨hnew, hmany⟩
    exact ⟨hnew.released, congrArg (List.map M.objs.read) hnew.empty, hmany⟩
  · intro M a M' hM hord hs
    cases Option.some.inj hs
    have hview : ∀ a : Action, M.Lets a →
        some (valueAct AgpsStateMachine.sendRsrcRequest M.view a)
          = some (M.act AgpsStateMachine.sendRsrcRequest a).view :=
      fun a hlets => congrArg some
        (Machine.act_view hsend hself hM hlets).symm
    cases a with
    | subscribeRsrc s =>
        exact ⟨.subscribeRsrc s, hord, hview (.subscribeRsrc s) trivial⟩
    | unsubscribeRsrc s =>
        exact ⟨.unsubscribeRsrc s, trivial, hview (.unsubscribeRsrc s) hord⟩
    | onRsrcEvent event =>
        exact ⟨.onRsrcEvent event, trivial, hview (.onRsrcEvent event) trivial⟩
    | dropAllSubscribers => cases hord

/-- **STATE AND OBJECTS AGREE** in every state such calls reach. -/
theorem objects_invariant (hself : ∀ s, SubscriberEquals.equals s s = true)
    {P : Subscriber → Prop} (hP : QcomLease.Lawful agpsClients P) {M : Machine}
    (h : ReachUnder manySys (Ordinary P) M) :
    (M.state = .Released ↔ M.mSubscribers = []) ∧
    (M.state = .Pending ∨ M.state = .Acquired →
      ∃ e ∈ M.mSubscribers, (M.objs.read e).isInactive = false) ∧
    (M.state = .Releasing →
      ∃ e ∈ M.mSubscribers, (M.objs.read e).isInactive = true) ∧
    M.mSubscribers.Pairwise (fun d e =>
      SubscriberEquals.equals (M.objs.read d) (M.objs.read e) = false) := by
  have hreach := reach_agps hself h
  obtain ⟨hempty, hactive⟩ := (lawabiding_reach hreach).law
  have hcons := consistent_reach hP hreach
  have hentry : ∀ {p : Subscriber → Prop}, (∃ s ∈ M.view.mSubscribers, p s) →
      ∃ e ∈ M.mSubscribers, p (M.objs.read e) := by
    rintro p ⟨s, hs, hp⟩
    obtain ⟨e, he, rfl⟩ := List.mem_map.mp hs
    exact ⟨e, he, hp⟩
  refine ⟨hempty.trans List.map_eq_nil_iff, fun hp => hentry (hactive hp),
    fun hp => hentry (inactive_of_releasing hcons hp),
    List.pairwise_map.mp hcons.entries.distinct⟩

end Runs

end QcomObjects
