import QcomCommon.BufferProofs
import QcomCommon.CStringProofs
import QcomCommon.WhileLoopProofs

/-! # Splitting a string within its buffer

    `loc_util_split_string` of `loc_misc_utils.cpp` ends each piece where its
    delimiter was and stores where the next one begins, until the string or
    the array of pointers ends.

    A string is one piece without the delimiter, or such a piece, the
    delimiter and a string (`split_induction`); along this the loop stores
    the pieces of the string split at the delimiter (`loop_split`,
    `split_spec`). -/

namespace QcomSplit

open QcomBuffer QcomCString QcomWhile

/-- The buffer, the array of pointers (positions in the buffer) and the
    variables of the function.  An `int` counts the places of a buffer in
    memory. -/
structure Split where
  raw_string : List UInt8
  split_strings_ptr : List (Option Nat)
  raw_string_index : Nat
  num_split_strings : Nat
  end_string : Bool

/-- A pass of the loop over the string. -/
def splitPass (raw_string_length max_num_substrings : Nat) (delimiter : UInt8)
    (s : Split) : Option (Pass Split) :=
  if s.raw_string_index < raw_string_length then
    (readAt s.raw_string s.raw_string_index).bind fun c =>
      let end_string := if c = 0 then true else s.end_string
      if c = delimiter ∨ end_string then
        (writeAt s.raw_string s.raw_string_index 0).bind fun raw_string =>
          let s :=
            { s with
              raw_string, end_string
              num_split_strings := s.num_split_strings + 1 }
          if s.raw_string_index + 1 < raw_string_length ∧
              s.num_split_strings < max_num_substrings then
            (writeAt s.split_strings_ptr s.num_split_strings
                (some (s.raw_string_index + 1))).map fun split_strings_ptr =>
              let s := { s with split_strings_ptr }
              if end_string then .leave s
              else .again { s with raw_string_index := s.raw_string_index + 1 }
          else some (.leave s)
      else if end_string then some (.leave { s with end_string })
      else
        some (.again
          { s with end_string, raw_string_index := s.raw_string_index + 1 })
  else some (.leave s)

/-- `loc_util_split_string`: what it returns and leaves of the buffer and of
    the array of pointers, `none` where it is given `NULL`. -/
def loc_util_split_string (raw_string : Option (List UInt8))
    (split_strings_ptr : Option (List (Option Nat))) (max_num_substrings : Nat)
    (delimiter : UInt8) :
    Option (Int × Option (List UInt8) × Option (List (Option Nat))) :=
  match raw_string, split_strings_ptr with
  | some raw_string, some split_strings_ptr =>
      let raw_string_length := (strOf raw_string).length + 1
      (writeAt split_strings_ptr 0 (some 0)).bind fun split_strings_ptr =>
        (loop (splitPass raw_string_length max_num_substrings delimiter)
          (raw_string_length + 1)
          ⟨raw_string, split_strings_ptr, 0, 0, false⟩).map fun s =>
            (s.num_split_strings, some s.raw_string, some s.split_strings_ptr)
  | raw_string, split_strings_ptr =>
      some (-1, raw_string, split_strings_ptr)

/-- **INDUCTION ON THE PIECES**. -/
theorem split_induction {α : Type} (d : α) {P : List α → Prop}
    (last : ∀ w, d ∉ w → P w)
    (piece : ∀ w u, d ∉ w → P u → P (w ++ d :: u)) (s : List α) : P s := by
  induction hn : s.length using Nat.strongRecOn generalizing s with
  | ind n ih =>
      by_cases hd : d ∈ s
      · obtain ⟨w, u, rfl, hw⟩ := List.eq_append_cons_of_mem hd
        refine piece w u hw (ih u.length ?_ u rfl)
        rw [← hn, List.length_append, List.length_cons]
        omega
      · exact last s hd

theorem length_splitOn (d : UInt8) (s : List UInt8) :
    (s.splitOn d).length = s.count d + 1 := by
  induction s using split_induction d with
  | last w hw =>
      rw [List.splitOn_eq_singleton hw, List.count_eq_zero_of_not_mem hw]
      rfl
  | piece w u hw ih =>
      rw [List.splitOn_append_cons_self_of_not_mem hw, List.length_cons, ih,
        List.count_append, List.count_eq_zero_of_not_mem hw,
        List.count_cons_self, Nat.zero_add]

section Passes

variable {L max n : Nat} {d : UInt8} {raw : List UInt8}
  {ptrs : List (Option Nat)}

/-- The loop passes over what is neither the delimiter nor the end. -/
theorem loop_skip (k : Nat) {i : Nat} (hL : i + k < L)
    (h : ∀ j, j < k → ∃ c, raw[i + j]? = some c ∧ c ≠ 0 ∧ c ≠ d) (fuel : Nat) :
    loop (splitPass L max d) (fuel + k) ⟨raw, ptrs, i, n, false⟩
      = loop (splitPass L max d) fuel ⟨raw, ptrs, i + k, n, false⟩ := by
  induction k generalizing i with
  | zero => rfl
  | succ k ih =>
      obtain ⟨c, hc, hne, hd⟩ := h 0 (Nat.succ_pos k)
      have hpass : splitPass L max d ⟨raw, ptrs, i, n, false⟩
          = some (.again ⟨raw, ptrs, i + 1, n, false⟩) := by
        rw [Nat.add_zero] at hc
        simp [splitPass, readAt_natCast, hc, hne, hd, show i < L by omega]
      rw [← Nat.add_assoc, loop_again hpass, ih (by omega) (fun j hj => ?_)]
      · rw [Nat.add_right_comm]
        rfl
      · rw [Nat.add_right_comm]
        exact h (j + 1) (Nat.succ_lt_succ hj)

variable {front rest : List UInt8}

/-- The end of the string ends the last piece. -/
theorem splitPass_end (hL : L = front.length + 1) :
    splitPass L max d ⟨front ++ 0 :: rest, ptrs, front.length, n, false⟩
      = some (.leave ⟨front ++ 0 :: rest, ptrs, front.length, n + 1, true⟩) := by
  simp [splitPass, readAt_append, writeAt_append, hL]

/-- A delimiter ends a piece, and the next one is stored. -/
theorem splitPass_stored (hd : d ≠ 0) (hL : front.length + 1 < L)
    (hmax : n + 1 < max) (hptrs : n + 1 < ptrs.length) :
    splitPass L max d ⟨front ++ d :: rest, ptrs, front.length, n, false⟩
      = some (.again ⟨front ++ 0 :: rest,
          ptrs.set (n + 1) (some (front.length + 1)), front.length + 1, n + 1,
          false⟩) := by
  have hstore := writeAt_of_eq (i := (n : Int) + 1) (k := n + 1) rfl hptrs
    (some (front.length + 1))
  simp [splitPass, readAt_append, writeAt_append, hL, hd, hmax, hstore,
    show front.length < L by omega]

/-- There is no room for a further piece. -/
theorem splitPass_full (hd : d ≠ 0) (hL : front.length + 1 < L)
    (hmax : ¬ n + 1 < max) :
    splitPass L max d ⟨front ++ d :: rest, ptrs, front.length, n, false⟩
      = some (.leave ⟨front ++ 0 :: rest, ptrs, front.length, n + 1, false⟩) := by
  simp [splitPass, readAt_append, writeAt_append, hd, hmax,
    show front.length < L by omega]

end Passes

/-! ## The whole string -/

/-- What the loop makes of the string `s` behind `front`, with `n` pieces
    ended before: it ends the pieces of `s` for which there is room, and
    stores where they begin. -/
structure Stored (d : UInt8) (max : Nat) (front s rest : List UInt8) (n : Nat)
    (ptrs : List (Option Nat)) (t : Split) : Prop where
  count : t.num_split_strings = n + min (s.count d + 1) (max - n)
  kept : front <+: t.raw_string
  behind : t.raw_string.drop (front.length + s.length) = 0 :: rest
  length : t.raw_string.length = front.length + s.length + (rest.length + 1)
  pieces : ∀ j, n + j < t.num_split_strings → ∃ p piece,
    t.split_strings_ptr[n + j]? = some (some p) ∧
      (s.splitOn d)[j]? = some piece ∧ Holds (t.raw_string.drop p) piece
  size : t.split_strings_ptr.length = ptrs.length
  others : ∀ k, k ≤ n ∨ t.num_split_strings ≤ k →
    t.split_strings_ptr[k]? = ptrs[k]?

section Run

variable {d : UInt8} {max n : Nat} {front rest w u : List UInt8}
  {ptrs : List (Option Nat)} {t : Split}

theorem holds_piece {raw : List UInt8} (hw : 0 ∉ w)
    (h : front ++ (w ++ [0]) <+: raw) : Holds (raw.drop front.length) w := by
  refine ⟨hw, ?_⟩
  obtain ⟨r, rfl⟩ := h
  rw [List.append_assoc, List.drop_left]
  exact List.prefix_append _ r

/-- One piece, the last one or the last for which there is room. -/
theorem stored_one {s x behind : List UInt8}
    (hcount : min (s.count d + 1) (max - n) = 1)
    (hpiece : (s.splitOn d)[0]? = some w) (hnul : 0 ∉ w)
    (hx : w ++ 0 :: behind = x ++ 0 :: rest) (hlen : x.length = s.length)
    (hptr : ptrs[n]? = some (some front.length)) (i : Nat) (e : Bool) :
    Stored d max front s rest n ptrs
      ⟨front ++ (w ++ 0 :: behind), ptrs, i, n + 1, e⟩ where
  count := by rw [hcount]
  kept := List.prefix_append _ _
  behind := by
    rw [hx, ← hlen, ← List.append_assoc, ← List.length_append, List.drop_left]
  length := by
    rw [hx, ← hlen, List.length_append, List.length_append, List.length_cons,
      Nat.add_assoc]
  pieces j hj := by
    obtain rfl : j = 0 := by
      have hj : n + j < n + 1 := hj
      omega
    refine ⟨front.length, w, hptr, hpiece, holds_piece hnul ⟨behind, ?_⟩⟩
    rw [List.append_assoc, List.append_assoc, List.singleton_append]
  size := rfl
  others k _ := rfl

/-- A piece and what is stored behind it. -/
theorem stored_piece (hw : d ∉ w) (hnul : 0 ∉ w) (hmax : n + 1 < max)
    (hptr : ptrs[n]? = some (some front.length)) (v : Option Nat)
    (h : Stored d max (front ++ (w ++ [0])) u rest (n + 1) (ptrs.set (n + 1) v) t) :
    Stored d max front (w ++ d :: u) rest n ptrs t where
  count := by
    rw [h.count, List.count_append, List.count_eq_zero_of_not_mem hw,
      List.count_cons_self]
    omega
  kept := (List.prefix_append front _).trans h.kept
  behind := by
    rw [← h.behind]
    congr 1
    simp only [List.length_append, List.length_cons, List.length_nil]
    omega
  length := by
    rw [h.length]
    simp only [List.length_append, List.length_cons, List.length_nil]
    omega
  pieces j hj := by
    rw [List.splitOn_append_cons_self_of_not_mem hw]
    cases j with
    | zero =>
        refine ⟨front.length, w, ?_, rfl, holds_piece hnul h.kept⟩
        rw [Nat.add_zero, h.others n (Or.inl (Nat.le_succ n)),
          List.getElem?_set_ne (Nat.succ_ne_self n), hptr]
    | succ j =>
        rw [← Nat.add_assoc, Nat.add_right_comm] at hj ⊢
        exact h.pieces j hj
  size := h.size.trans List.length_set
  others k hk := by
    have hcount := h.count
    rw [h.others k (by omega), List.getElem?_set_ne (by omega)]

end Run

/-- A piece has neither the delimiter nor the end. -/
theorem skips {d : UInt8} {front w behind : List UInt8} (hw : d ∉ w)
    (hnul : 0 ∉ w) {j : Nat} (hj : j < w.length) :
    ∃ c, (front ++ (w ++ behind))[front.length + j]? = some c ∧ c ≠ 0 ∧ c ≠ d := by
  obtain ⟨c, hc⟩ := exists_at hj
  have hmem := List.mem_of_getElem? hc
  refine ⟨c, ?_, fun h => hnul (h ▸ hmem), fun h => hw (h ▸ hmem)⟩
  rw [List.getElem?_append_right (Nat.le_add_right _ _), Nat.add_sub_cancel_left,
    List.getElem?_append_left hj, hc]

/-- The loop passes over a piece. -/
theorem loop_piece {d : UInt8} {w : List UInt8} (hw : d ∉ w) (hnul : 0 ∉ w)
    {L max n : Nat} {front : List UInt8} (hL : front.length + w.length < L)
    (behind : List UInt8) (ptrs : List (Option Nat)) (fuel : Nat) :
    loop (splitPass L max d) (fuel + w.length)
        ⟨front ++ (w ++ behind), ptrs, front.length, n, false⟩
      = loop (splitPass L max d) fuel
        ⟨(front ++ w) ++ behind, ptrs, (front ++ w).length, n, false⟩ := by
  rw [loop_skip w.length hL (fun j hj => skips hw hnul hj), List.length_append,
    List.append_assoc]

/-- **RUN**: the loop stores the pieces for which there is room. -/
theorem loop_split {d : UInt8} (hd : d ≠ 0) {max : Nat} (s : List UInt8) :
    ∀ (front rest : List UInt8) {n L fuel : Nat} {ptrs : List (Option Nat)},
      0 ∉ s → L = front.length + s.length + 1 → s.length < fuel → n < max →
      max ≤ ptrs.length → ptrs[n]? = some (some front.length) →
      ∃ t, loop (splitPass L max d) fuel
          ⟨front ++ (s ++ 0 :: rest), ptrs, front.length, n, false⟩ = some t ∧
        Stored d max front s rest n ptrs t := by
  induction s using split_induction d with
  | last w hw =>
      intro front rest n L fuel ptrs hnul hL hfuel hn hlen hptr
      obtain ⟨k, rfl⟩ : ∃ k, fuel = k + 1 + w.length :=
        ⟨fuel - w.length - 1, by omega⟩
      have hend : L = (front ++ w).length + 1 := by
        rw [hL, List.length_append]
      rw [loop_piece hw hnul (by omega), loop_leave (splitPass_end hend)]
      refine ⟨_, rfl, ?_⟩
      rw [List.append_assoc]
      refine stored_one ?_ ?_ hnul rfl rfl hptr _ _
      · rw [List.count_eq_zero_of_not_mem hw]
        omega
      · rw [List.splitOn_eq_singleton hw]
        rfl
  | piece w u hw ih =>
      intro front rest n L fuel ptrs hnul hL hfuel hn hlen hptr
      have hnulw : 0 ∉ w := fun h => hnul (List.mem_append_left _ h)
      have hnulu : 0 ∉ u := fun h =>
        hnul (List.mem_append_right _ (List.mem_cons_of_mem d h))
      rw [List.length_append, List.length_cons] at hL hfuel
      obtain ⟨k, rfl⟩ : ∃ k, fuel = k + 1 + w.length :=
        ⟨fuel - w.length - 1, by omega⟩
      rw [List.append_assoc w, List.cons_append,
        loop_piece hw hnulw (by omega)]
      have hL' : (front ++ w).length + 1 < L := by
        rw [List.length_append]
        omega
      by_cases hmax : n + 1 < max
      · have hlt : n + 1 < ptrs.length := by omega
        have hfront : (front ++ w) ++ [0] = front ++ (w ++ [0]) :=
          List.append_assoc _ _ _
        have hlen' : (front ++ (w ++ [0])).length = (front ++ w).length + 1 := by
          rw [← hfront, List.length_append]
          rfl
        have hnext : (front ++ w) ++ 0 :: (u ++ 0 :: rest)
            = (front ++ (w ++ [0])) ++ (u ++ 0 :: rest) := by simp
        rw [loop_again (splitPass_stored hd hL' hmax hlt), hnext, ← hlen']
        have hL'' : L = (front ++ (w ++ [0])).length + u.length + 1 := by
          rw [hlen', List.length_append, hL]
          omega
        have hk : u.length < k := by omega
        obtain ⟨t, hrun, ht⟩ := ih (front ++ (w ++ [0])) rest hnulu hL'' hk hmax
          (by rwa [List.length_set]) (List.getElem?_set_self hlt)
        exact ⟨t, hrun, stored_piece hw hnulw hmax hptr _ ht⟩
      · rw [loop_leave (splitPass_full hd hL' hmax)]
        refine ⟨_, rfl, ?_⟩
        rw [List.append_assoc]
        refine stored_one (x := w ++ 0 :: u) ?_ ?_ hnulw ?_ ?_ hptr _ _
        · omega
        · rw [List.splitOn_append_cons_self_of_not_mem hw]
          rfl
        · rw [List.append_assoc, List.cons_append]
        · rw [List.length_append, List.length_append, List.length_cons,
            List.length_cons]

/-- The string a stored pointer stands for. -/
def stringAt (buf : List UInt8) (p : Option Nat) : List UInt8 :=
  p.elim [] fun p => strOf (buf.drop p)

/-- What is returned and left of the string `s` in `buf` and of the array: the
    first `n` entries point to the first pieces, each with its end, the
    others are as they were, and so is the buffer from the string's end on. -/
structure Splits (buf s : List UInt8) (ptrs : List (Option Nat)) (max : Nat)
    (d : UInt8) (n : Nat) (buf' : List UInt8) (ptrs' : List (Option Nat)) :
    Prop where
  count : n = min (s.count d + 1) max
  pieces : ∀ j, j < n → ∃ p piece, ptrs'[j]? = some (some p) ∧
    (s.splitOn d)[j]? = some piece ∧ Holds (buf'.drop p) piece
  joined : s.count d + 1 ≤ max →
    [d].intercalate ((ptrs'.take n).map (stringAt buf')) = s
  others : ptrs'.length = ptrs.length ∧ ∀ k, n ≤ k → ptrs'[k]? = ptrs[k]?
  behind : buf'.length = buf.length ∧ buf'.drop s.length = buf.drop s.length

/-- The strings stored are the first pieces. -/
theorem map_stringAt {s buf' : List UInt8} {d : UInt8} {n : Nat}
    {ptrs' : List (Option Nat)}
    (h : ∀ j, j < n → ∃ p piece, ptrs'[j]? = some (some p) ∧
      (s.splitOn d)[j]? = some piece ∧ Holds (buf'.drop p) piece) :
    (ptrs'.take n).map (stringAt buf') = (s.splitOn d).take n := by
  refine List.ext_getElem? fun j => ?_
  rw [List.getElem?_map]
  by_cases hj : j < n
  · obtain ⟨p, piece, hp, hpiece, hheld⟩ := h j hj
    rw [List.getElem?_take_of_lt hj, List.getElem?_take_of_lt hj, hp, hpiece,
      Option.map_some, stringAt, Option.elim_some, hheld.strOf_eq]
  · rw [List.getElem?_take_eq_none (Nat.le_of_not_lt hj),
      List.getElem?_take_eq_none (Nat.le_of_not_lt hj), Option.map_none]

/-- **SPLITTING**: as many pieces as there are, or as there is room for, are
    ended and stored. -/
theorem split_spec {buf s : List UInt8} (hbuf : Holds buf s) {d : UInt8}
    (hd : d ≠ 0) {ptrs : List (Option Nat)} {max : Nat} (hmax : 1 ≤ max)
    (hptrs : max ≤ ptrs.length) :
    ∃ (n : Nat) (buf' : List UInt8) (ptrs' : List (Option Nat)),
      loc_util_split_string (some buf) (some ptrs) max d
        = some ((n : Int), some buf', some ptrs') ∧
      Splits buf s ptrs max d n buf' ptrs' := by
  have hstr := hbuf.strOf_eq
  obtain ⟨rest, rfl⟩ := hbuf.eq_append
  have hstart : writeAt ptrs 0 (some 0) = some (ptrs.set 0 (some 0)) :=
    writeAt_of_eq (k := 0) rfl (by omega) _
  have hlen : max ≤ (ptrs.set 0 (some 0)).length := by
    rwa [List.length_set]
  have hfirst : (ptrs.set 0 (some 0))[0]? = some (some 0) :=
    List.getElem?_set_self (by omega)
  have hL : s.length + 1 = ([] : List UInt8).length + s.length + 1 := by
    rw [List.length_nil, Nat.zero_add]
  have hfuel : s.length < s.length + 1 + 1 := by omega
  obtain ⟨t, hrun, ht⟩ := loop_split hd s [] rest hbuf.noNul hL hfuel hmax hlen
    hfirst
  have hcount : t.num_split_strings = min (s.count d + 1) max := by
    rw [ht.count, Nat.zero_add, Nat.sub_zero]
  have hpieces : ∀ j, j < t.num_split_strings → ∃ p piece,
      t.split_strings_ptr[j]? = some (some p) ∧
        (s.splitOn d)[j]? = some piece ∧ Holds (t.raw_string.drop p) piece := by
    intro j hj
    have hpiece := ht.pieces j (by rwa [Nat.zero_add])
    rwa [Nat.zero_add] at hpiece
  refine ⟨t.num_split_strings, t.raw_string, t.split_strings_ptr, ?_,
    hcount, hpieces, ?_, ⟨?_, ?_⟩, ?_, ?_⟩
  · rw [loc_util_split_string, hstr, hstart, Option.bind_some]
    rw [List.nil_append, List.length_nil] at hrun
    rw [hrun, Option.map_some]
  · intro hfits
    rw [map_stringAt hpieces, List.take_of_length_le, List.intercalate_splitOn]
    rw [length_splitOn, hcount]
    omega
  · exact ht.size.trans List.length_set
  · intro k hk
    rw [ht.others k (Or.inr hk), List.getElem?_set_ne (by omega)]
  · rw [ht.length, List.length_append, List.length_cons, List.length_nil]
    omega
  · have hbehind := ht.behind
    rw [List.length_nil, Nat.zero_add] at hbehind
    rw [hbehind, List.drop_left]

/-- `"a;;b"` with room for two pieces. -/
theorem split_spec_two :
    ∃ (n : Nat) (buf' : List UInt8) (ptrs' : List (Option Nat)),
      loc_util_split_string (some [97, 59, 59, 98, 0]) (some [none, none]) 2 59
        = some ((n : Int), some buf', some ptrs') ∧
      Splits [97, 59, 59, 98, 0] [97, 59, 59, 98] [none, none] 2 59 n buf'
        ptrs' := by
  have hbuf : Holds [97, 59, 59, 98, 0] [97, 59, 59, 98] :=
    ⟨by decide, ⟨[], rfl⟩⟩
  have hd : (59 : UInt8) ≠ 0 := by decide
  exact split_spec hbuf hd (Nat.le_succ 1) (Nat.le_refl 2)

/-- The delimiter at the end is followed by an empty piece. -/
example : loc_util_split_string (some [97, 59, 0]) (some [none, none, none]) 3 59
    = some (2, some [97, 0, 0], some [some 0, some 2, none]) := by decide

end QcomSplit
