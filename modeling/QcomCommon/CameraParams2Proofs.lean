import QcomCommon.CameraParamsProofs
import QcomCommon.KeyedListProofs

/-! # Parameters in the order they were set

    `CameraParameters2.cpp` of `libshims`: the parameters in a list instead of
    a map, so that it can be asked which of two was set later.

    As long as no text with a key twice is read, `get` and `compareSetOrder`
    answer as the history of the calls does (`params2_history`).  At any time
    the printed text is read back as the same list, in its order
    (`params2_roundTrip`), and the older class finds the same values in it
    (`params2_params`).  Behind a text with a key twice, a value that is set
    may not be the one that is got (`get_set_iff`). -/

namespace QcomCameraParams2

open QcomCameraParams (cutAt cutAt_eq_some cutAt_append cutAt_eq_none
  length_cutAt Plain CleanItem flattenItems cleanItem_ofList)
open QcomKeyedList

/-- What a method answers. -/
abbrev status_t := Int

/-- The answer where there is no such key. -/
def NAME_NOT_FOUND : status_t := -2

/-! ## The class -/

/-- `OrderedKeyedVector<String8, String8>`. -/
abbrev Items := List (String × String)

/-- `indexOfKey`; `none` is `NAME_NOT_FOUND`. -/
def indexOfKey (mMap : Items) (key : String) : Option Nat :=
  findIdx Prod.fst mMap key

/-- `removeItem`: the test for a missing key never holds, but `removeAt` does
    nothing at its index. -/
def removeItem (mMap : Items) (key : String) : Items :=
  match indexOfKey mMap key with
  | none => mMap
  | some vectorIdx => mMap.eraseIdx vectorIdx

/-- `replaceValueFor`: the pair goes to the end of the list. -/
def replaceValueFor (mMap : Items) (key value : String) : Items :=
  removeItem mMap key ++ [(key, value)]

/-- `CameraParameters2::flatten`. -/
def flatten (mMap : Items) : String := String.ofList (flattenItems mMap)

/-- The loop of `CameraParameters2::unflatten`. -/
def unflattenFrom (a : List Char) (mMap : Items) : Items :=
  match _hkey : cutAt '=' a with
  | none => mMap
  | some (k, a') =>
      match _hvalue : cutAt ';' a' with
      | none => mMap ++ [(String.ofList k, String.ofList a')]
      | some (v, a'') =>
          unflattenFrom a'' (mMap ++ [(String.ofList k, String.ofList v)])
termination_by a.length
decreasing_by exact (length_cutAt _hvalue).trans (length_cutAt _hkey)

/-- `CameraParameters2::unflatten`. -/
def unflatten (params : String) : Items := unflattenFrom params.toList []

/-- `CameraParameters2::set`. -/
def set (mMap : Items) (key value : String) : Items :=
  if ¬ Plain key then mMap
  else if ¬ Plain value then mMap
  else replaceValueFor mMap key value

/-- `CameraParameters2::get`; `none` is `NULL`. -/
def get (mMap : Items) (key : String) : Option String :=
  (indexOfKey mMap key).bind fun idx => (mMap[idx]?).map Prod.snd

/-- `CameraParameters2::compareSetOrder`. -/
def compareSetOrder (mMap : Items) (key1 key2 : String) :
    Except status_t Int :=
  match indexOfKey mMap key1, indexOfKey mMap key2 with
  | none, _ => .error NAME_NOT_FOUND
  | some _, none => .error NAME_NOT_FOUND
  | some index1, some index2 =>
      .ok (if index1 = index2 then 0 else if index1 < index2 then -1 else 1)

/-- `CameraParameters2::remove`. -/
def remove (mMap : Items) (key : String) : Items := removeItem mMap key

/-- A call that changes the parameters. -/
inductive Op where
  | set (key value : String)
  | remove (key : String)
  | unflatten (params : String)

/-- A call on the list. -/
def Op.apply (mMap : Items) : Op → Items
  | .set key value => QcomCameraParams2.set mMap key value
  | .remove key => QcomCameraParams2.remove mMap key
  | .unflatten params => QcomCameraParams2.unflatten params

/-- The parameters behind the calls, from `CameraParameters2()` on. -/
def run (ops : List Op) : Items := ops.foldl Op.apply []

/-! ## The history -/

/-- The number of values that were set, and for each key the last of them. -/
structure History where
  time : Nat
  last : String → Option (Nat × String)

namespace History

/-- The key has the value now. -/
def put (h : History) (key value : String) : History :=
  ⟨h.time + 1, Function.update h.last key (some (h.time, value))⟩

/-- What a call is for the history. -/
def note (h : History) : Op → History
  | .set key value => if Plain key ∧ Plain value then h.put key value else h
  | .remove key => { h with last := Function.update h.last key none }
  | .unflatten params =>
      (unflatten params).foldl (fun h e => h.put e.1 e.2)
        { h with last := fun _ => none }

/-- What was called, from the start on. -/
def of (ops : List Op) : History := ops.foldl note ⟨0, fun _ => none⟩

/-- The last value of a key. -/
def value (h : History) (key : String) : Option String :=
  (h.last key).map Prod.snd

/-- Which of two keys was set later. -/
def compare (h : History) (key1 key2 : String) : Except status_t Int :=
  match h.last key1, h.last key2 with
  | none, _ => .error NAME_NOT_FOUND
  | some _, none => .error NAME_NOT_FOUND
  | some (t₁, _), some (t₂, _) =>
      .ok (if t₁ = t₂ then 0 else if t₁ < t₂ then -1 else 1)

end History

/-! ## The list as a function -/

theorem removeItem_eq (mMap : Items) (key : String) :
    removeItem mMap key = erase Prod.fst mMap key := by
  rw [removeItem, erase, List.eraseP_eq_eraseIdx]
  rfl

theorem get_eq (mMap : Items) (key : String) :
    get mMap key = (find Prod.fst mMap key).map Prod.snd := by
  rw [← findIdx_eq, Option.map_bind]
  rfl

/-- A plain pair goes to the end, and the first one of its key goes. -/
theorem set_plain {key value : String} (hkey : Plain key)
    (hvalue : Plain value) (mMap : Items) :
    set mMap key value = erase Prod.fst mMap key ++ [(key, value)] := by
  rw [set, if_neg (not_not.mpr hkey), if_neg (not_not.mpr hvalue),
    replaceValueFor, removeItem_eq]

/-- The values of a key, in their order. -/
def values (mMap : Items) (key : String) : List String :=
  (mMap.filter fun e => e.1 = key).map Prod.snd

/-- The value that is got is the first one of the key. -/
theorem get_eq_head (mMap : Items) (key : String) :
    get mMap key = (values mMap key)[0]? := by
  rw [get_eq, values, find]
  induction mMap with
  | nil => rfl
  | cons e mMap ih =>
      by_cases he : e.1 = key
      · simp [he]
      · simpa [he] using ih

/-- A removal takes the first value of the key. -/
theorem values_erase (mMap : Items) (key : String) :
    values (erase Prod.fst mMap key) key = (values mMap key).tail := by
  induction mMap with
  | nil => rfl
  | cons e mMap ih =>
      rw [erase_cons]
      by_cases he : e.1 = key
      · simp [values, he]
      · rw [if_neg he]
        simpa [values, he] using ih

/-- **WHAT IS GOT BEHIND A SET** is what was set, exactly if the key had at
    most one value, or its second is that value. -/
theorem get_set_iff (mMap : Items) {key value : String} (hkey : Plain key)
    (hvalue : Plain value) :
    get (set mMap key value) key = some value
      ↔ ∀ v ∈ (values mMap key)[1]?, v = value := by
  have hvalues : values (set mMap key value) key
      = (values mMap key).tail ++ [value] := by
    rw [set_plain hkey hvalue, ← values_erase]
    simp [values]
  rw [get_eq_head, hvalues]
  cases hv : (values mMap key).tail with
  | nil =>
      have hnone : (values mMap key)[1]? = none := by
        rw [← List.getElem?_tail, hv]
        rfl
      simp [hnone]
  | cons v rest =>
      have hsome : (values mMap key)[1]? = some v := by
        rw [← List.getElem?_tail, hv]
        rfl
      simp [hsome]

/-- The second value of a key hides the one that is set. -/
theorem get_set_iff_twice :
    get (set [("a", "1"), ("a", "2")] "a" "3") "a" = some "3"
      ↔ ∀ v ∈ (values [("a", "1"), ("a", "2")] "a")[1]?, v = "3" :=
  get_set_iff [("a", "1"), ("a", "2")] (by decide) (by decide)

/-! ## The text -/

/-- Without a key the text ends. -/
theorem unflattenFrom_stop {a : List Char} (mMap : Items)
    (hkey : cutAt '=' a = none) : unflattenFrom a mMap = mMap := by
  rw [unflattenFrom]
  split
  · rfl
  · next h => cases hkey.symm.trans h

/-- A value without an end is the last one. -/
theorem unflattenFrom_last {a k a' : List Char} (mMap : Items)
    (hkey : cutAt '=' a = some (k, a')) (hvalue : cutAt ';' a' = none) :
    unflattenFrom a mMap
      = mMap ++ [(String.ofList k, String.ofList a')] := by
  rw [unflattenFrom]
  split
  · next h => cases hkey.symm.trans h
  · next h =>
      cases hkey.symm.trans h
      split
      · rfl
      · next h => cases hvalue.symm.trans h

/-- A pair is added, and the text goes on behind it. -/
theorem unflattenFrom_item {a k a' v a'' : List Char} (mMap : Items)
    (hkey : cutAt '=' a = some (k, a')) (hvalue : cutAt ';' a' = some (v, a'')) :
    unflattenFrom a mMap
      = unflattenFrom a'' (mMap ++ [(String.ofList k, String.ofList v)]) := by
  rw [unflattenFrom]
  split
  · next h => cases hkey.symm.trans h
  · next h =>
      cases hkey.symm.trans h
      split
      · next h => cases hvalue.symm.trans h
      · next h =>
          cases hvalue.symm.trans h
          rfl

/-- The items of the list are read as they were printed. -/
def Clean (mMap : Items) : Prop := ∀ e ∈ mMap, CleanItem e

/-- A clean pair keeps the list clean. -/
theorem clean_append {mMap : Items} (h : Clean mMap) {e : String × String}
    (he : CleanItem e) : Clean (mMap ++ [e]) := by
  intro e' he'
  rcases List.mem_append.mp he' with he' | he'
  · exact h e' he'
  · exact List.mem_singleton.mp he' ▸ he

/-- A text gives clean pairs. -/
theorem clean_unflattenFrom (a : List Char) {mMap : Items} (h : Clean mMap) :
    Clean (unflattenFrom a mMap) := by
  induction a, mMap using unflattenFrom.induct with
  | case1 a m hkey =>
      rw [unflattenFrom_stop m hkey]
      exact h
  | case2 a m k a' hkey hvalue =>
      rw [unflattenFrom_last m hkey hvalue]
      exact clean_append h (cleanItem_ofList (cutAt_eq_some hkey).2
        (cutAt_eq_none.mp hvalue))
  | case3 a m k a' hkey v a'' hvalue ih =>
      rw [unflattenFrom_item m hkey hvalue]
      exact ih (clean_append h (cleanItem_ofList (cutAt_eq_some hkey).2
        (cutAt_eq_some hvalue).2))

theorem clean_erase {mMap : Items} (h : Clean mMap) (key : String) :
    Clean (erase Prod.fst mMap key) := fun e he => h e (mem_erase he)

/-- Every call leaves a list that is read as it is printed. -/
theorem clean_apply {mMap : Items} (h : Clean mMap) (op : Op) :
    Clean (op.apply mMap) := by
  cases op with
  | set key value =>
      show Clean (set mMap key value)
      by_cases hkey : Plain key
      · by_cases hvalue : Plain value
        · rw [set_plain hkey hvalue]
          exact clean_append (clean_erase h key) ⟨hkey.1, hvalue.2⟩
        · rw [set, if_neg (not_not.mpr hkey), if_pos hvalue]
          exact h
      · rw [set, if_pos hkey]
        exact h
  | remove key =>
      show Clean (removeItem mMap key)
      rw [removeItem_eq]
      exact clean_erase h key
  | unflatten params =>
      exact clean_unflattenFrom params.toList fun _ he =>
        absurd he List.not_mem_nil

/-- Every list that calls lead to is clean. -/
theorem clean_run (ops : List Op) : Clean (run ops) := by
  suffices hfold : ∀ mMap, Clean mMap → Clean (ops.foldl Op.apply mMap) from
    hfold [] fun _ he => absurd he List.not_mem_nil
  induction ops with
  | nil => exact fun _ h => h
  | cons op ops ih => exact fun mMap h => ih _ (clean_apply h op)

/-- A clean list is read as it was written. -/
theorem unflattenFrom_flattenItems {l : Items} (h : Clean l) (mMap : Items) :
    unflattenFrom (flattenItems l) mMap = mMap ++ l := by
  induction l generalizing mMap with
  | nil =>
      rw [List.append_nil]
      exact unflattenFrom_stop mMap rfl
  | cons e l ih =>
      obtain ⟨hk, hv⟩ := h e List.mem_cons_self
      cases l with
      | nil =>
          rw [flattenItems, unflattenFrom_last mMap (cutAt_append hk _)
            (cutAt_eq_none.mpr hv), String.ofList_toList, String.ofList_toList]
      | cons e' l =>
          rw [flattenItems, unflattenFrom_item mMap (cutAt_append hk _)
            (cutAt_append hv _), String.ofList_toList, String.ofList_toList,
            ih fun e he => h e (List.mem_cons_of_mem _ he), List.append_assoc]
          rfl

/-- It is the same behind its text. -/
theorem unflatten_flatten {l : Items} (h : Clean l) :
    unflatten (flatten l) = l := by
  rw [unflatten, flatten, String.toList_ofList, unflattenFrom_flattenItems h,
    List.nil_append]

/-- **THE ROUND TRIP**: whatever was called, the printed text is read back as
    the same list, with the keys in their order, those twice included. -/
theorem params2_roundTrip (ops : List Op) :
    unflatten (flatten (run ops)) = run ops := unflatten_flatten (clean_run ops)

/-- The last value of a key is the first one from behind. -/
theorem values_reverse (mMap : Items) (key : String) :
    (mMap.reverse.find? (·.1 = key)).map Prod.snd
      = (values mMap key).getLast? := by
  rw [← List.head?_reverse, values, ← List.map_reverse, ← List.filter_reverse,
    List.head?_map, List.head?_filter]

/-- What the older class finds in the printed text. -/
theorem params_get {mMap : Items} (h : Clean mMap) (key : String) :
    QcomCameraParams.get (QcomCameraParams.unflatten (flatten mMap)) key
      = (values mMap key).getLast?.filter (· ≠ "") := by
  have hfind := QcomSortedMap.SortedMap.find_foldl_add Prod.fst Prod.snd mMap
    .empty key
  rw [values_reverse] at hfind
  rw [QcomCameraParams.unflatten, flatten, String.toList_ofList,
    QcomCameraParams.unflattenFrom_flattenItems h, QcomCameraParams.get, hfind]
  cases (values mMap key).getLast? with
  | none => rfl
  | some v =>
      by_cases hv : v = ""
      · simp [Option.filter, hv]
      · simp [Option.filter, hv]

/-- **THE OLDER CLASS** finds in the printed text the last value of a key, if
    it is not empty, where this one gets the first. -/
theorem params2_params (ops : List Op) (key : String) :
    QcomCameraParams.get (QcomCameraParams.unflatten (flatten (run ops))) key
        = (values (run ops) key).getLast?.filter (· ≠ "")
      ∧ get (run ops) key = (values (run ops) key).head? := by
  refine ⟨params_get (clean_run ops) key, ?_⟩
  rw [get_eq_head, List.head?_eq_getElem?]

/-! ## The list as the history says -/

/-- An item and when it was set. -/
abbrev Stamped := Nat × String × String

/-- The key of a pair with its time. -/
def stampedKey (e : Stamped) : String := e.2.1

/-- The items are the last values that were set, in the order they were. -/
def Agrees (mMap : Items) (h : History) : Prop :=
  ∃ l : List Stamped, l.map Prod.snd = mMap
    ∧ Distinct stampedKey l
    ∧ l.Pairwise (fun e e' => e.1 < e'.1)
    ∧ (∀ e ∈ l, e.1 < h.time)
    ∧ ∀ key, h.last key = (find stampedKey l key).map fun e => (e.1, e.2.2)

/-- A removal does not look at the times. -/
theorem erase_stamped (l : List Stamped) (key : String) :
    (erase stampedKey l key).map Prod.snd
      = erase Prod.fst (l.map Prod.snd) key := by
  rw [erase, erase, List.eraseP_map]
  rfl

/-- Neither does a search. -/
theorem find_stamped (l : List Stamped) (key : String) :
    find Prod.fst (l.map Prod.snd) key
      = (find stampedKey l key).map Prod.snd :=
  List.find?_map

theorem findIdx_stamped (l : List Stamped) (key : String) :
    findIdx Prod.fst (l.map Prod.snd) key = findIdx stampedKey l key :=
  List.findIdx?_map

theorem agrees_empty (time : Nat) : Agrees [] ⟨time, fun _ => none⟩ :=
  ⟨[], rfl, List.nodup_nil, .nil, fun _ he => absurd he List.not_mem_nil,
    fun _ => rfl⟩

variable {mMap : Items} {h : History}

/-- A value is set. -/
theorem agrees_put (ha : Agrees mMap h) (key value : String) :
    Agrees (erase Prod.fst mMap key ++ [(key, value)]) (h.put key value) := by
  obtain ⟨l, rfl, hdistinct, hsorted, htime, hlast⟩ := ha
  let e : Stamped := (h.time, key, value)
  refine ⟨erase stampedKey l key ++ [e], ?_, distinct_replace hdistinct e, ?_,
    ?_, fun k => ?_⟩
  · rw [List.map_append, erase_stamped]
    rfl
  · rw [List.pairwise_append]
    refine ⟨hsorted.sublist List.eraseP_sublist,
      List.pairwise_singleton _ _, fun e' he' e'' he'' => ?_⟩
    rw [List.mem_singleton.mp he'']
    exact htime e' (mem_erase he')
  · intro e' he'
    rcases List.mem_append.mp he' with he' | he'
    · exact Nat.lt_succ_of_lt (htime e' (mem_erase he'))
    · rw [List.mem_singleton.mp he']
      exact Nat.lt_succ_self _
  · have hfind := find_replace hdistinct e k
    rw [show stampedKey e = key from rfl] at hfind
    rw [hfind]
    show Function.update h.last key (some (h.time, value)) k = _
    by_cases hk : k = key
    · rw [hk, Function.update_self, if_pos rfl]
      rfl
    · rw [Function.update_of_ne hk, if_neg hk]
      exact hlast k

/-- A value is removed. -/
theorem agrees_remove (ha : Agrees mMap h) (key : String) :
    Agrees (erase Prod.fst mMap key)
      { h with last := Function.update h.last key none } := by
  obtain ⟨l, rfl, hdistinct, hsorted, htime, hlast⟩ := ha
  refine ⟨erase stampedKey l key, erase_stamped l key,
    distinct_erase hdistinct key, hsorted.sublist List.eraseP_sublist,
    fun e he => htime e (mem_erase he), fun k => ?_⟩
  rw [find_erase hdistinct]
  show Function.update h.last key none k = _
  by_cases hk : k = key
  · rw [hk, Function.update_self, if_pos rfl]
    rfl
  · rw [Function.update_of_ne hk, if_neg hk]
    exact hlast k

theorem erase_of_notMem {key : String} (hkey : key ∉ mMap.map Prod.fst) :
    erase Prod.fst mMap key = mMap :=
  List.eraseP_of_forall_not fun e he hk =>
    hkey (List.mem_map.mpr ⟨e, he, of_decide_eq_true hk⟩)

/-- Values with keys of their own are read. -/
theorem agrees_read (items : Items) {mMap : Items} {h : History}
    (ha : Agrees mMap h) (hdistinct : Distinct Prod.fst (mMap ++ items)) :
    Agrees (mMap ++ items) (items.foldl (fun h e => h.put e.1 e.2) h) := by
  induction items generalizing mMap h with
  | nil =>
      rw [List.append_nil]
      exact ha
  | cons e items ih =>
      have hnew : e.1 ∉ mMap.map Prod.fst := by
        rw [Distinct, List.map_append, List.nodup_append] at hdistinct
        exact fun he => hdistinct.2.2 e.1 he e.1 List.mem_cons_self rfl
      have hput := agrees_put ha e.1 e.2
      rw [erase_of_notMem hnew] at hput
      have hrest := ih hput
      simp only [List.append_assoc, List.singleton_append] at hrest
      exact hrest hdistinct

/-- No text that is read has a key twice. -/
def DistinctTexts (ops : List Op) : Prop :=
  ∀ params, .unflatten params ∈ ops → Distinct Prod.fst (unflatten params)

/-- Each call keeps the list and the history together. -/
theorem agrees_apply (ha : Agrees mMap h) (op : Op)
    (hdistinct : ∀ params, op = .unflatten params →
      Distinct Prod.fst (unflatten params)) :
    Agrees (op.apply mMap) (h.note op) := by
  cases op with
  | set key value =>
      show Agrees (set mMap key value)
        (if Plain key ∧ Plain value then h.put key value else h)
      by_cases hplain : Plain key ∧ Plain value
      · rw [if_pos hplain, set_plain hplain.1 hplain.2]
        exact agrees_put ha key value
      · have hsame : set mMap key value = mMap := by
          rw [set]
          by_cases hkey : Plain key
          · rw [if_neg (not_not.mpr hkey),
              if_pos fun hvalue => hplain ⟨hkey, hvalue⟩]
          · rw [if_pos hkey]
        rw [if_neg hplain, hsame]
        exact ha
  | remove key =>
      show Agrees (removeItem mMap key) _
      rw [removeItem_eq]
      exact agrees_remove ha key
  | unflatten params =>
      exact agrees_read (unflatten params) (agrees_empty h.time)
        (hdistinct params rfl)

/-- The list agrees with the history of its calls. -/
theorem agrees_run (ops : List Op) (hdistinct : DistinctTexts ops) :
    Agrees (run ops) (History.of ops) := by
  suffices hfold : ∀ mMap h, Agrees mMap h →
      Agrees (ops.foldl Op.apply mMap) (ops.foldl History.note h) from
    hfold [] _ (agrees_empty 0)
  induction ops with
  | nil => exact fun _ _ ha => ha
  | cons op ops ih =>
      intro mMap h ha
      refine ih (fun params hparams => hdistinct params
        (List.mem_cons_of_mem op hparams)) _ _ (agrees_apply ha op ?_)
      rintro params rfl
      exact hdistinct params List.mem_cons_self

/-- What is got is the last value. -/
theorem get_of_agrees (ha : Agrees mMap h) (key : String) :
    get mMap key = h.value key := by
  obtain ⟨l, rfl, _, _, _, hlast⟩ := ha
  rw [get_eq, find_stamped, History.value, hlast, Option.map_map,
    Option.map_map]
  rfl

/-- The places are in the order of the times. -/
theorem compareSetOrder_of_agrees (ha : Agrees mMap h) (key1 key2 : String) :
    compareSetOrder mMap key1 key2 = h.compare key1 key2 := by
  obtain ⟨l, rfl, hdistinct, hsorted, _, hlast⟩ := ha
  have hplace : ∀ k, findIdx stampedKey l k = none
      ↔ find stampedKey l k = none := by
    intro k
    rw [findIdx, List.findIdx?_eq_none_iff, find, List.find?_eq_none]
    simp only [Bool.not_eq_true]
  rw [compareSetOrder, indexOfKey, indexOfKey, findIdx_stamped,
    findIdx_stamped, History.compare, hlast, hlast]
  cases he₁ : find stampedKey l key1 with
  | none => rw [(hplace key1).mpr he₁]; rfl
  | some e₁ =>
      obtain ⟨i₁, hi₁⟩ := Option.ne_none_iff_exists'.mp
        fun hnone => Option.some_ne_none e₁
            (he₁.symm.trans ((hplace key1).mp hnone))
      cases he₂ : find stampedKey l key2 with
      | none => rw [hi₁, (hplace key2).mpr he₂]; rfl
      | some e₂ =>
          obtain ⟨i₂, hi₂⟩ := Option.ne_none_iff_exists'.mp
            fun hnone => Option.some_ne_none e₂
                (he₂.symm.trans ((hplace key2).mp hnone))
          have hlt := findIdx_lt_iff (r := fun e e' : Stamped => e.1 < e'.1)
            (fun _ _ h => Nat.lt_asymm h) (fun _ => Nat.lt_irrefl _) hsorted
            hi₁ hi₂ he₁ he₂
          have hgt := findIdx_lt_iff (r := fun e e' : Stamped => e.1 < e'.1)
            (fun _ _ h => Nat.lt_asymm h) (fun _ => Nat.lt_irrefl _) hsorted
            hi₂ hi₁ he₂ he₁
          have heq : i₁ = i₂ ↔ e₁.1 = e₂.1 := by omega
          rw [hi₁, hi₂]
          simp only [Option.map_some, hlt, heq]

/-- **THE HISTORY**: behind any calls, if no text that was read has a key
    twice, what is got is the last value that was set and not removed, and the
    order of two keys is that in which their last values were set. -/
theorem params2_history (ops : List Op) (hdistinct : DistinctTexts ops)
    (key key1 key2 : String) :
    get (run ops) key = (History.of ops).value key
      ∧ compareSetOrder (run ops) key1 key2
        = (History.of ops).compare key1 key2 := by
  have ha := agrees_run ops hdistinct
  exact ⟨get_of_agrees ha key, compareSetOrder_of_agrees ha key1 key2⟩

/-- Settings as an application makes them. -/
def someItems : Items :=
  [("fps", "30"), ("fps-range", "15,30"), ("size", "640x480")]

/-- Some calls, one of which removes a key. -/
def someOps : List Op :=
  [.unflatten (flatten someItems), .set "fps" "24", .set "size" "a=b",
    .remove "size", .set "flash" "on"]

theorem someOps_distinct : DistinctTexts someOps := by
  intro params hparams
  simp only [someOps, List.mem_cons, Op.unflatten.injEq, List.not_mem_nil,
    reduceCtorEq, or_false] at hparams
  have hclean : Clean someItems := by
    intro e he
    simp only [someItems, List.mem_cons, List.not_mem_nil, or_false] at he
    rcases he with rfl | rfl | rfl <;> exact ⟨by decide, by decide⟩
  rw [hparams, unflatten_flatten hclean]
  show (someItems.map Prod.fst).Nodup
  decide

theorem params2_history_someOps :
    get (run someOps) "fps" = (History.of someOps).value "fps"
      ∧ compareSetOrder (run someOps) "fps" "fps-range"
        = (History.of someOps).compare "fps" "fps-range" :=
  params2_history someOps someOps_distinct "fps" "fps" "fps-range"

end QcomCameraParams2
