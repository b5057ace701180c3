import Mathlib.Data.String.Basic
import QcomCommon.CameraProofs
import QcomCommon.SortedMapProofs

/-! # The fix-ups of the camera parameters

    `camera_fixup_setparams` and `camera_fixup_getparams` of
    `CameraWrapper.cpp` read the settings into a map, edit the map and print
    it, with the class `CameraParameters` of `libshims`.  Nothing is escaped;
    but a key that is read has no `=` and a value no `;`, the edits keep this
    (`Clean`), and such a map is read as it was printed
    (`unflatten_flatten`).  So the framework finds the edited keys and all
    others as they were (`fixups_own_keys`). -/

namespace QcomCameraParams

open QcomCamera QcomSortedMap

/-! ## The class -/

/-- `DefaultKeyedVector<String8, String8>`: the strings are those of C, a
    character for each byte. -/
abbrev Map := SortedMap String String

/-- The text before `strchr(a, c)` and the text behind it. -/
def cutAt (c : Char) : List Char → Option (List Char × List Char)
  | [] => none
  | x :: a =>
      if x = c then some ([], a)
      else (cutAt c a).map fun p => (x :: p.1, p.2)

theorem cutAt_eq_some {c : Char} {a w b : List Char}
    (h : cutAt c a = some (w, b)) : a = w ++ c :: b ∧ c ∉ w := by
  induction a generalizing w with
  | nil => cases h
  | cons x a ih =>
      rw [cutAt] at h
      split at h
      · next hx =>
          cases h
          exact ⟨congrArg (· :: b) hx, List.not_mem_nil⟩
      · next hx =>
          obtain ⟨⟨w', b'⟩, hcut, heq⟩ := Option.map_eq_some_iff.mp h
          cases heq
          obtain ⟨rfl, hw⟩ := ih hcut
          refine ⟨rfl, fun hmem => ?_⟩
          rcases List.mem_cons.mp hmem with rfl | hmem
          · exact hx rfl
          · exact hw hmem

theorem cutAt_append {c : Char} {w : List Char} (h : c ∉ w) (b : List Char) :
    cutAt c (w ++ c :: b) = some (w, b) := by
  induction w with
  | nil => exact if_pos rfl
  | cons x w ih =>
      have hx : x ≠ c := fun e => h (e ▸ List.mem_cons_self)
      rw [List.cons_append, cutAt, if_neg hx,
        ih fun hmem => h (List.mem_cons_of_mem x hmem)]
      rfl

theorem cutAt_eq_none {c : Char} {a : List Char} :
    cutAt c a = none ↔ c ∉ a := by
  constructor
  · intro h hmem
    obtain ⟨w, b, rfl, hw⟩ := List.eq_append_cons_of_mem hmem
    rw [cutAt_append hw] at h
    cases h
  · intro h
    refine Option.eq_none_iff_forall_not_mem.mpr fun p hp => h ?_
    rw [(cutAt_eq_some hp).1]
    exact List.mem_append_right _ List.mem_cons_self

theorem length_cutAt {c : Char} {a w b : List Char}
    (h : cutAt c a = some (w, b)) : b.length < a.length := by
  rw [(cutAt_eq_some h).1, List.length_append, List.length_cons]
  omega

/-- The loop of `CameraParameters::unflatten`. -/
def unflattenFrom (a : List Char) (mMap : Map) : Map :=
  match _hkey : cutAt '=' a with
  | none => mMap
  | some (k, a') =>
      match _hvalue : cutAt ';' a' with
      | none => mMap.add (String.ofList k) (String.ofList a')
      | some (v, a'') =>
          unflattenFrom a'' (mMap.add (String.ofList k) (String.ofList v))
termination_by a.length
decreasing_by exact (length_cutAt _hvalue).trans (length_cutAt _hkey)

/-- `CameraParameters::unflatten`. -/
def unflatten (params : String) : Map :=
  unflattenFrom params.toList SortedMap.empty

/-- The loop of `CameraParameters::flatten`. -/
def flattenItems : List (String × String) → List Char
  | [] => []
  | [e] => e.1.toList ++ '=' :: e.2.toList
  | e :: e' :: l =>
      e.1.toList ++ '=' :: (e.2.toList ++ ';' :: flattenItems (e' :: l))

/-- `CameraParameters::flatten`. -/
def flatten (mMap : Map) : String := String.ofList (flattenItems mMap.items)

/-- A string without a separator. -/
def Plain (s : String) : Prop := '=' ∉ s.toList ∧ ';' ∉ s.toList

instance (s : String) : Decidable (Plain s) :=
  inferInstanceAs (Decidable (_ ∧ _))

/-- `CameraParameters::set`; `none` is `NULL`. -/
def set (mMap : Map) : Option String → Option String → Map
  | some key, some value =>
      if ¬ Plain key then mMap
      else if ¬ Plain value then mMap
      else mMap.add key value
  | _, _ => mMap

/-- `CameraParameters::get`; the value of a key that is missing is empty. -/
def get (mMap : Map) (key : String) : Option String :=
  let v := (mMap.find key).getD ""
  if v.length = 0 then none else some v

/-- `CameraParameters::remove`. -/
def remove (mMap : Map) (key : String) : Map := mMap.remove key

/-- The key of the scene mode. -/
def KEY_SCENE_MODE : String := "scene-mode"

/-- The key of the scene modes there are. -/
def KEY_SUPPORTED_SCENE_MODES : String := "scene-mode-values"

/-- A key that getparams removes. -/
def KEY_AUTO_WHITEBALANCE_LOCK_SUPPORTED : String :=
  "auto-whitebalance-lock-supported"

/-- The scene mode for which setparams removes a key. -/
def SCENE_MODE_HDR : String := "hdr"

/-- The other key that getparams removes. -/
def KEY_QC_LONGSHOT_SUPPORTED : String := "longshot-supported"

/-- The key of the position of the focus. -/
def KEY_QC_MANUAL_FOCUS_POSITION : String := "manual-focus-position"

/-- The key of what the position is counted in. -/
def KEY_QC_MANUAL_FOCUS_POS_TYPE : String := "manual-focus-pos-type"

/-- The key that is set for the type 2. -/
def KEY_QC_FOCUS_POSITION_SCALE : String := "cur-focus-scale"

/-- The key that is set for the type 3. -/
def KEY_QC_FOCUS_POSITION_DIOPTER : String := "cur-focus-diopter"

/-- The key that setparams removes. -/
def KEY_QC_HDR_NEED_1X : String := "hdr-need-1x"

/-- The class of `libshims`, to the wrapper. -/
def shim : CameraParameters Map where
  unflatten := unflatten
  get := get
  remove := remove
  flatten := flatten
  KEY_SCENE_MODE := KEY_SCENE_MODE
  SCENE_MODE_HDR := SCENE_MODE_HDR
  KEY_QC_HDR_NEED_1X := KEY_QC_HDR_NEED_1X

/-- A focus key takes the manual position, or `"0"`. -/
def setFocus (params : Map) (key : String)
    (manualFocusPosition : Option String) : Map :=
  match manualFocusPosition with
  | some position => set params (some key) (some position)
  | none => set params (some key) (some "0")

/-- The focus keys of `camera_fixup_getparams`. -/
def fixFocus (params : Map) : Map :=
  let manualFocusPosition := get params KEY_QC_MANUAL_FOCUS_POSITION
  match get params KEY_QC_MANUAL_FOCUS_POS_TYPE with
  | some manualFocusPositionType =>
      if manualFocusPositionType = "2" then
        setFocus params KEY_QC_FOCUS_POSITION_SCALE manualFocusPosition
      else if manualFocusPositionType = "3" then
        setFocus params KEY_QC_FOCUS_POSITION_DIOPTER manualFocusPosition
      else params
  | none => params

/-- `camera_fixup_getparams`: the text that it returns. -/
def camera_fixup_getparams (settings : String) : String :=
  let params := unflatten settings
  let params := remove params KEY_QC_LONGSHOT_SUPPORTED
  let params := remove params KEY_AUTO_WHITEBALANCE_LOCK_SUPPORTED
  let params := set params (some KEY_SUPPORTED_SCENE_MODES) (some "auto,hdr")
  flatten (fixFocus params)

/-! ## Reading what was printed -/

/-- The key has no `=` and the value no `;`. -/
def CleanItem (e : String × String) : Prop :=
  '=' ∉ e.1.toList ∧ ';' ∉ e.2.toList

/-- No key or value of the map would be cut by the text. -/
def Clean (m : Map) : Prop := ∀ e ∈ m.items, CleanItem e

theorem clean_empty : Clean SortedMap.empty := fun _ h => by cases h

theorem clean_add {m : Map} {k v : String} (h : Clean m)
    (hitem : CleanItem (k, v)) : Clean (m.add k v) := by
  intro e he
  rcases SortedMap.mem_add.mp he with rfl | ⟨he, -⟩
  · exact hitem
  · exact h e he

theorem clean_remove {m : Map} (h : Clean m) (k : String) :
    Clean (m.remove k) :=
  fun e he => h e (SortedMap.mem_remove.mp he).1

theorem clean_set {m : Map} (h : Clean m) (key value : Option String) :
    Clean (set m key value) := by
  unfold set
  split
  · next key value =>
      split
      · exact h
      · next hkey =>
          split
          · exact h
          · next hvalue =>
              exact clean_add h
                ⟨(not_not.mp hkey).1, (not_not.mp hvalue).2⟩
  · exact h

/-- Without a `=` nothing more is read. -/
theorem unflattenFrom_stop {a : List Char} (m : Map)
    (hkey : cutAt '=' a = none) : unflattenFrom a m = m := by
  rw [unflattenFrom]
  split
  · rfl
  · next h => cases hkey.symm.trans h

/-- The last item. -/
theorem unflattenFrom_last {a k a' : List Char} (m : Map)
    (hkey : cutAt '=' a = some (k, a')) (hvalue : cutAt ';' a' = none) :
    unflattenFrom a m = m.add (String.ofList k) (String.ofList a') := by
  rw [unflattenFrom]
  split
  · next h => cases hkey.symm.trans h
  · next h =>
      cases hkey.symm.trans h
      split
      · rfl
      · next h => cases hvalue.symm.trans h

/-- An item and the text behind it. -/
theorem unflattenFrom_item {a k a' v a'' : List Char} (m : Map)
    (hkey : cutAt '=' a = some (k, a')) (hvalue : cutAt ';' a' = some (v, a'')) :
    unflattenFrom a m
      = unflattenFrom a'' (m.add (String.ofList k) (String.ofList v)) := by
  rw [unflattenFrom]
  split
  · next h => cases hkey.symm.trans h
  · next h =>
      cases hkey.symm.trans h
      split
      · next h => cases hvalue.symm.trans h
      · next h =>
          cases hvalue.symm.trans h
          rfl

theorem cleanItem_ofList {k v : List Char} (hk : '=' ∉ k) (hv : ';' ∉ v) :
    CleanItem (String.ofList k, String.ofList v) := by
  constructor
  · rw [String.toList_ofList]
    exact hk
  · rw [String.toList_ofList]
    exact hv

/-- **WHAT IS READ** is clean. -/
theorem clean_unflattenFrom (a : List Char) {m : Map} (h : Clean m) :
    Clean (unflattenFrom a m) := by
  induction a, m using unflattenFrom.induct with
  | case1 a m hkey =>
      rw [unflattenFrom_stop m hkey]
      exact h
  | case2 a m k a' hkey hvalue =>
      rw [unflattenFrom_last m hkey hvalue]
      have hk := (cutAt_eq_some hkey).2
      exact clean_add h (cleanItem_ofList hk (cutAt_eq_none.mp hvalue))
  | case3 a m k a' hkey v a'' hvalue ih =>
      rw [unflattenFrom_item m hkey hvalue]
      have hk := (cutAt_eq_some hkey).2
      have hv := (cutAt_eq_some hvalue).2
      exact ih (clean_add h (cleanItem_ofList hk hv))

theorem clean_unflatten (params : String) : Clean (unflatten params) :=
  clean_unflattenFrom params.toList clean_empty

/-- Printed items are read one after the other. -/
theorem unflattenFrom_flattenItems {l : List (String × String)}
    (h : ∀ e ∈ l, CleanItem e) (m : Map) :
    unflattenFrom (flattenItems l) m
      = l.foldl (fun m e => m.add e.1 e.2) m := by
  induction l using flattenItems.induct generalizing m with
  | case1 => exact unflattenFrom_stop m rfl
  | case2 e =>
      obtain ⟨hk, hv⟩ := h e List.mem_cons_self
      rw [flattenItems, unflattenFrom_last m (cutAt_append hk _)
        (cutAt_eq_none.mpr hv), String.ofList_toList, String.ofList_toList]
      rfl
  | case3 e e' l ih =>
      obtain ⟨hk, hv⟩ := h e List.mem_cons_self
      rw [flattenItems, unflattenFrom_item m (cutAt_append hk _)
        (cutAt_append hv _), String.ofList_toList, String.ofList_toList]
      exact ih (fun e he => h e (List.mem_cons_of_mem _ he)) _

/-- **THE ROUND TRIP**: a clean map is read as it was printed. -/
theorem unflatten_flatten {m : Map} (h : Clean m) :
    unflatten (flatten m) = m := by
  rw [unflatten, flatten, String.toList_ofList, unflattenFrom_flattenItems h]
  exact SortedMap.foldl_add_items m

/-! ## What the framework finds -/

theorem get_eq_some_iff {m : Map} {k v : String} :
    get m k = some v ↔ m.find k = some v ∧ v ≠ "" := by
  unfold get
  cases m.find k with
  | none => simp
  | some w =>
      by_cases hw : w = ""
      · simp [hw, eq_comm]
      · have hlen : w.length ≠ 0 := by simpa using hw
        simp only [Option.getD_some, if_neg hlen, Option.some.injEq]
        exact ⟨fun h => ⟨h, h ▸ hw⟩, fun h => h.1⟩

theorem find_set (m : Map) (k v key : String) :
    (set m (some k) (some v)).find key
      = if key = k ∧ Plain k ∧ Plain v then some v else m.find key := by
  unfold set
  by_cases hk : Plain k
  · by_cases hv : Plain v
    · simp [hk, hv, SortedMap.find_add]
    · simp [hk, hv]
  · simp [hk]

/-- What becomes of a map in `camera_fixup_setparams`. -/
def setparamsValue (old : String → Option String) (key : String) :
    Option String :=
  if key = KEY_QC_HDR_NEED_1X ∧ old KEY_SCENE_MODE = some SCENE_MODE_HDR
  then none else old key

/-- The manual focus position, or `"0"`. -/
def focusPosition (old : String → Option String) : String :=
  match old KEY_QC_MANUAL_FOCUS_POSITION with
  | some position => if position = "" then "0" else position
  | none => "0"

/-- The key that takes the focus position. -/
def focusKey (old : String → Option String) : Option String :=
  if old KEY_QC_MANUAL_FOCUS_POS_TYPE = some "2"
  then some KEY_QC_FOCUS_POSITION_SCALE
  else if old KEY_QC_MANUAL_FOCUS_POS_TYPE = some "3"
  then some KEY_QC_FOCUS_POSITION_DIOPTER
  else none

/-- What becomes of a map in `camera_fixup_getparams`. -/
def getparamsValue (old : String → Option String) (key : String) :
    Option String :=
  if key = KEY_QC_LONGSHOT_SUPPORTED ∨
      key = KEY_AUTO_WHITEBALANCE_LOCK_SUPPORTED then none
  else if key = KEY_SUPPORTED_SCENE_MODES then some "auto,hdr"
  else if focusKey old = some key ∧ Plain (focusPosition old)
  then some (focusPosition old)
  else old key

/-- **SETTING**: the text is that of the old map without one key. -/
theorem find_fixedParams (settings key : String) :
    (unflatten (fixedParams shim settings)).find key
      = setparamsValue (unflatten settings).find key := by
  have hclean := clean_unflatten settings
  have hscene : get (unflatten settings) KEY_SCENE_MODE = some SCENE_MODE_HDR
      ↔ (unflatten settings).find KEY_SCENE_MODE = some SCENE_MODE_HDR :=
    get_eq_some_iff.trans (and_iff_left (by decide))
  have htext : fixedParams shim settings = flatten
      (if get (unflatten settings) KEY_SCENE_MODE = some SCENE_MODE_HDR
        then remove (unflatten settings) KEY_QC_HDR_NEED_1X
        else unflatten settings) := rfl
  rw [htext, setparamsValue]
  by_cases h : (unflatten settings).find KEY_SCENE_MODE = some SCENE_MODE_HDR
  · rw [if_pos (hscene.mpr h), remove,
      unflatten_flatten (clean_remove hclean _), SortedMap.find_remove]
    simp only [h, and_true]
  · rw [if_neg (fun hget => h (hscene.mp hget)), unflatten_flatten hclean,
      if_neg fun hand => h hand.2]

/-- The position as `get` gives it. -/
theorem focusPosition_eq (m : Map) :
    focusPosition m.find
      = (get m KEY_QC_MANUAL_FOCUS_POSITION).getD "0" := by
  unfold focusPosition get
  cases m.find KEY_QC_MANUAL_FOCUS_POSITION with
  | none => rfl
  | some position =>
      by_cases h : position = ""
      · simp [h]
      · simp [h]

theorem setFocus_eq (m : Map) (k : String) :
    setFocus m k (get m KEY_QC_MANUAL_FOCUS_POSITION)
      = set m (some k) (some (focusPosition m.find)) := by
  rw [focusPosition_eq]
  cases get m KEY_QC_MANUAL_FOCUS_POSITION with
  | none => rfl
  | some position => rfl

/-- The focus key is set to the position. -/
theorem fixFocus_eq (m : Map) :
    fixFocus m = (focusKey m.find).elim m fun k =>
      set m (some k) (some (focusPosition m.find)) := by
  have htype : ∀ v, v ≠ "" → (m.find KEY_QC_MANUAL_FOCUS_POS_TYPE = some v ↔
      get m KEY_QC_MANUAL_FOCUS_POS_TYPE = some v) :=
    fun v hv => (get_eq_some_iff.trans (and_iff_left hv)).symm
  have h2 := htype "2" (by decide)
  have h3 := htype "3" (by decide)
  rw [focusKey, fixFocus]
  simp only [h2, h3, setFocus_eq]
  cases get m KEY_QC_MANUAL_FOCUS_POS_TYPE with
  | none => rfl
  | some t =>
      simp only [Option.some.injEq]
      by_cases ht2 : t = "2"
      · rw [if_pos ht2, if_pos ht2]
        rfl
      · rw [if_neg ht2, if_neg ht2]
        by_cases ht3 : t = "3"
        · rw [if_pos ht3, if_pos ht3]
          rfl
        · rw [if_neg ht3, if_neg ht3]
          rfl

/-- The focus keys are plain, and no others of the wrapper. -/
theorem focusKey_own {old : String → Option String} {key : String}
    (h : focusKey old = some key) :
    Plain key ∧ key ≠ KEY_QC_LONGSHOT_SUPPORTED ∧
      key ≠ KEY_AUTO_WHITEBALANCE_LOCK_SUPPORTED ∧
      key ≠ KEY_SUPPORTED_SCENE_MODES := by
  unfold focusKey at h
  split_ifs at h
  · obtain rfl := Option.some.inj h
    decide
  · obtain rfl := Option.some.inj h
    decide

theorem clean_fixFocus {m : Map} (h : Clean m) : Clean (fixFocus m) := by
  rw [fixFocus_eq]
  cases focusKey m.find with
  | none => exact h
  | some k =>
      show Clean (set m (some k) (some (focusPosition m.find)))
      exact clean_set h _ _

theorem find_fixFocus (m : Map) (key : String) :
    (fixFocus m).find key
      = if focusKey m.find = some key ∧ Plain (focusPosition m.find)
        then some (focusPosition m.find) else m.find key := by
  rw [fixFocus_eq]
  cases hk : focusKey m.find with
  | none => rfl
  | some k =>
      show (set m (some k) (some (focusPosition m.find))).find key = _
      rw [find_set]
      simp only [(focusKey_own hk).1, true_and, Option.some.injEq, eq_comm]

/-- The map before the edit of the focus key. -/
def getparamsBase (m : Map) : Map :=
  set (remove (remove m KEY_QC_LONGSHOT_SUPPORTED)
    KEY_AUTO_WHITEBALANCE_LOCK_SUPPORTED)
    (some KEY_SUPPORTED_SCENE_MODES) (some "auto,hdr")

theorem find_getparamsBase (m : Map) (key : String) :
    (getparamsBase m).find key
      = if key = KEY_SUPPORTED_SCENE_MODES then some "auto,hdr"
        else if key = KEY_AUTO_WHITEBALANCE_LOCK_SUPPORTED then none
        else if key = KEY_QC_LONGSHOT_SUPPORTED then none
        else m.find key := by
  have hkey : Plain KEY_SUPPORTED_SCENE_MODES := by decide
  have hvalue : Plain "auto,hdr" := by decide
  rw [getparamsBase, find_set, remove, remove, SortedMap.find_remove,
    SortedMap.find_remove]
  simp only [hkey, hvalue, and_true]

/-- It has the manual focus of the old one. -/
theorem focus_getparamsBase (m : Map) :
    focusKey (getparamsBase m).find = focusKey m.find ∧
      focusPosition (getparamsBase m).find = focusPosition m.find := by
  have htype : (getparamsBase m).find KEY_QC_MANUAL_FOCUS_POS_TYPE
      = m.find KEY_QC_MANUAL_FOCUS_POS_TYPE := by
    rw [find_getparamsBase, if_neg (by decide), if_neg (by decide),
      if_neg (by decide)]
  have hposition : (getparamsBase m).find KEY_QC_MANUAL_FOCUS_POSITION
      = m.find KEY_QC_MANUAL_FOCUS_POSITION := by
    rw [find_getparamsBase, if_neg (by decide), if_neg (by decide),
      if_neg (by decide)]
  rw [focusKey, focusKey, focusPosition, focusPosition, htype, hposition]
  exact ⟨rfl, rfl⟩

/-- **GETTING**: the text is that of the old map with the keys of the
    wrapper. -/
theorem find_camera_fixup_getparams (settings key : String) :
    (unflatten (camera_fixup_getparams settings)).find key
      = getparamsValue (unflatten settings).find key := by
  have hclean : Clean (getparamsBase (unflatten settings)) :=
    clean_set (clean_remove (clean_remove (clean_unflatten settings) _) _) _ _
  have htext : camera_fixup_getparams settings
      = flatten (fixFocus (getparamsBase (unflatten settings))) := rfl
  obtain ⟨hkey, hposition⟩ := focus_getparamsBase (unflatten settings)
  rw [htext, unflatten_flatten (clean_fixFocus hclean), find_fixFocus, hkey,
    hposition, getparamsValue]
  by_cases hfocus : focusKey (unflatten settings).find = some key ∧
      Plain (focusPosition (unflatten settings).find)
  · obtain ⟨-, hlongshot, hlock, hmodes⟩ := focusKey_own hfocus.1
    rw [if_pos hfocus, if_neg (not_or.mpr ⟨hlongshot, hlock⟩), if_neg hmodes,
      if_pos hfocus]
  · rw [if_neg hfocus, find_getparamsBase]
    by_cases hmodes : key = KEY_SUPPORTED_SCENE_MODES
    · subst hmodes
      rw [if_pos rfl, if_neg (by decide), if_pos rfl]
    · by_cases hgone : key = KEY_QC_LONGSHOT_SUPPORTED ∨
          key = KEY_AUTO_WHITEBALANCE_LOCK_SUPPORTED
      · rw [if_neg hmodes, if_pos hgone]
        rcases hgone with rfl | rfl
        · rw [if_neg (by decide), if_pos rfl]
        · rw [if_pos rfl]
      · obtain ⟨hlongshot, hlock⟩ := not_or.mp hgone
        rw [if_neg hmodes, if_neg hlock, if_neg hlongshot, if_neg hgone,
          if_neg hmodes, if_neg hfocus]

/-- The text that `camera_fixup_setparams` returns. -/
theorem fixup_text {Params : Type} {cp : CameraParameters Params}
    {s s' : Camera} {id : Int} {settings : String} {memory : Bool} {q : Nat}
    (h : camera_fixup_setparams cp s id settings memory = some (some q, s')) :
    s'.heap.strings q = some (fixedParams cp settings) := by
  obtain ⟨params, -, -, -, hheap, -, -⟩ := fixup_spec h
  obtain ⟨-, hnew, -, -⟩ := strdup_spec hheap
  exact (hnew q rfl).2

/-- For a camera of the array, and with memory, it returns one. -/
theorem fixup_returns {Params : Type} (cp : CameraParameters Params)
    {s : Camera} {params : List (Option Nat)} {id : Int}
    (hparams : s.fixed_set_params = some params) (hid : 0 ≤ id)
    (hlt : id < params.length) (settings : String) :
    ∃ q s', camera_fixup_setparams cp s id settings true
      = some (some q, s') := by
  rw [camera_fixup_setparams, hparams]
  exact ⟨_, _, if_pos ⟨hid, hlt⟩⟩

/-- **THE FIX-UPS** change their own keys: the framework finds all others in
    the text as they were in the settings.  `camera_fixup_setparams` returns a
    text for every camera of the array if there is memory for it, and no other
    text where there is none. -/
theorem fixups_own_keys (settings : String) :
    (∀ (s : Camera) (params : List (Option Nat)) (id : Int),
      s.fixed_set_params = some params → 0 ≤ id → id < params.length →
        ∃ q s' text, camera_fixup_setparams shim s id settings true
            = some (some q, s') ∧
          s'.heap.strings q = some text ∧
          ∀ key, (unflatten text).find key
            = setparamsValue (unflatten settings).find key) ∧
      (∀ (s s' : Camera) (id : Int) (memory : Bool) (q : Nat),
        camera_fixup_setparams shim s id settings memory = some (some q, s') →
          ∃ text, s'.heap.strings q = some text ∧
            ∀ key, (unflatten text).find key
              = setparamsValue (unflatten settings).find key) ∧
      ∀ key, (unflatten (camera_fixup_getparams settings)).find key
        = getparamsValue (unflatten settings).find key := by
  refine ⟨?_, ?_, find_camera_fixup_getparams settings⟩
  · intro s params id hparams hid hlt
    obtain ⟨q, s', h⟩ := fixup_returns shim hparams hid hlt settings
    exact ⟨q, s', fixedParams shim settings, h, fixup_text h,
      find_fixedParams settings⟩
  · intro s s' id memory q h
    exact ⟨fixedParams shim settings, fixup_text h,
      find_fixedParams settings⟩

/-- A value with a `=`, a scene mode and a focus without a position. -/
def hdrSettings : String :=
  "a=b=c;hdr-need-1x=true;scene-mode=hdr;manual-focus-pos-type=2"

theorem fixups_own_keys_hdr :
    (∃ q s' text, camera_fixup_setparams shim
          { newCamera with fixed_set_params := some [none] } 0 hdrSettings true
          = some (some q, s') ∧
        s'.heap.strings q = some text ∧
        (unflatten text).find KEY_QC_HDR_NEED_1X = none ∧
        (unflatten text).find "a" = some "b=c") ∧
      (unflatten (camera_fixup_getparams hdrSettings)).find
        KEY_QC_FOCUS_POSITION_SCALE = some "0" := by
  obtain ⟨hset, -, hget⟩ := fixups_own_keys hdrSettings
  obtain ⟨q, s', text, hreturn, htext, hfind⟩ :=
    hset { newCamera with fixed_set_params := some [none] } [none] 0 rfl
      (by decide) (by decide)
  refine ⟨⟨q, s', text, hreturn, htext, ?_, ?_⟩, ?_⟩
  · rw [hfind]
    decide +kernel
  · rw [hfind]
    decide +kernel
  · rw [hget]
    decide +kernel

end QcomCameraParams
