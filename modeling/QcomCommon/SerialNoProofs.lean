import QcomCommon.BufferProofs
import QcomCommon.CStringProofs
import QcomCommon.LocCfgProofs
import QcomCommon.WhileLoopProofs
import Mathlib.Algebra.Group.Nat.Defs
import Mathlib.Data.List.Induction

/-! # The serial number in the user agent

    `getChipsetSerialNo` of `LocEngAdapter.cpp` reads the serial number of the
    chipset, or takes a default, and overwrites the white space at its end.
    The loop counts an unsigned `len` down and asks `--len >= 0`, which always
    holds: what stops it is a character that is no space.

    Where the first string read has one, the loop stays in the buffer and
    leaves the string without the white space at its end.  Where it has none,
    `len` wraps around and the loop reads behind the buffer
    (`getChipsetSerialNo_iff`). -/

namespace QcomSerialNo

open QcomBuffer QcomCString QcomWhile
open QcomLocCfg (isspace)

/-- `strlen`, which has no result where the buffer holds no string. -/
def strlen (buf : List UInt8) : Option Nat := buf.findIdx? (· == 0)

/-- `--len` of a `size_t` of `w` bits. -/
def decrement (w len : Nat) : Nat := (len + (2 ^ w - 1)) % 2 ^ w

/-- A pass of `while (--len >= 0 && isspace(buf[len]))`. -/
def trailingPass (w : Nat) (s : List UInt8 × Nat) :
    Option (Pass (List UInt8 × Nat)) :=
  let len := decrement w s.2
  if 0 ≤ len then
    (readAt s.1 len).bind fun c =>
      if isspace c then
        (writeAt s.1 len 0).map fun buf => .again (buf, len)
      else some (.leave (s.1, len))
  else some (.leave (s.1, len))

/-- The loop that removes trailing spaces.  The buffer bounds the passes. -/
def removeTrailing (w : Nat) (buf : List UInt8) : Option (List UInt8) :=
  (strlen buf).bind fun len =>
    (loop (trailingPass w) (buf.length + 1) (buf, len)).map Prod.fst

/-- `getChipsetSerialNo`, with what the file contains if it can be opened. -/
def getChipsetSerialNo (w : Nat) (file : Option (List UInt8)) (buf : List UInt8)
    (buflen : Nat) (deflt : List UInt8) : Option (List UInt8) :=
  match file with
  | none => some (strlcpy buf deflt buflen)
  | some contents =>
      let read := contents.take (buflen - 1)
      let size := read.length
      let buf := read ++ buf.drop size
      (if size = 0 then some (strlcpy buf deflt buflen)
        else writeAt buf size 0).bind (removeTrailing w)

/-- The default of the caller. -/
def defVal : List UInt8 := ascii "-"

/-- The buffer of the caller. -/
def CHIPSET_SERIAL_NUMBER_MAX_LEN : Nat := 16

theorem strlen_of_holds {buf s : List UInt8} (h : Holds buf s) :
    strlen buf = some s.length := by
  obtain ⟨rest, rfl⟩ := h.eq_append
  have hnone : s.findIdx? (· == 0) = none := by
    refine List.findIdx?_eq_none_iff.mpr fun c hc => beq_false_of_ne ?_
    intro h0
    exact h.noNul (h0 ▸ hc)
  rw [strlen, List.findIdx?_append, hnone, Option.none_or,
    List.findIdx?_cons]
  simp

section Loop

variable {w len : Nat} {buf s t : List UInt8}

theorem decrement_succ (h : len < 2 ^ w) : decrement w (len + 1) = len := by
  rw [decrement, show len + 1 + (2 ^ w - 1) = len + 2 ^ w by omega,
    Nat.add_mod_right, Nat.mod_eq_of_lt h]

/-- At the front `len` wraps around. -/
theorem decrement_zero (w : Nat) : decrement w 0 = 2 ^ w - 1 := by
  have hpos : 0 < 2 ^ w := Nat.two_pow_pos w
  rw [decrement, Nat.zero_add, Nat.mod_eq_of_lt (by omega)]

theorem readAt_last {c : UInt8} (h : Holds buf (s ++ [c])) :
    readAt buf s.length = some c := by
  obtain ⟨rest, rfl⟩ := h.eq_append
  rw [List.append_assoc]
  exact readAt_append s c _

/-- White space at the end is overwritten. -/
theorem trailingPass_space {c : UInt8} (hw : buf.length < 2 ^ w)
    (h : Holds buf (s ++ [c])) (hc : isspace c = true) :
    trailingPass w (buf, (s ++ [c]).length)
      = some (.again (buf.set s.length 0, s.length)) := by
  have hlt := h.length_lt
  rw [List.length_append, List.length_singleton] at hlt ⊢
  rw [trailingPass, decrement_succ (by omega), if_pos (Nat.zero_le _),
    readAt_last h, Option.bind_some, if_pos hc,
    writeAt_of_eq rfl (show s.length < buf.length by omega)]
  rfl

/-- Any other character ends the loop. -/
theorem trailingPass_leave {c : UInt8} (hw : buf.length < 2 ^ w)
    (h : Holds buf (s ++ [c])) (hc : ¬ isspace c = true) :
    trailingPass w (buf, (s ++ [c]).length)
      = some (.leave (buf, s.length)) := by
  have hlt := h.length_lt
  rw [List.length_append, List.length_singleton] at hlt ⊢
  rw [trailingPass, decrement_succ (by omega), if_pos (Nat.zero_le _),
    readAt_last h, Option.bind_some, if_neg hc]

/-- At the front the loop reads behind the buffer. -/
theorem trailingPass_front (hw : buf.length < 2 ^ w) :
    trailingPass w (buf, 0) = none := by
  rw [trailingPass, decrement_zero, if_pos (Nat.zero_le _), readAt_natCast,
    List.getElem?_eq_none (show buf.length ≤ 2 ^ w - 1 by omega),
    Option.bind_none]

theorem holds_init {c : UInt8} (h : Holds buf (s ++ [c])) :
    Holds (buf.set s.length 0) s := by
  have hlt := h.length_lt
  rw [List.length_append] at hlt
  refine holds_set (fun h0 => h.noNul (List.mem_append_left _ h0)) ?_ (by omega)
  exact ((List.prefix_append s [c]).trans (List.prefix_append _ [0])).trans h.ends

/-- **TRAILING SPACES** of a string with a character that is none. -/
theorem loop_trailing (hs : s.all isspace = false) (hw : buf.length < 2 ^ w)
    (h : Holds buf s) {n : Nat} (hn : s.length < n) :
    ∃ r, loop (trailingPass w) n (buf, s.length) = some r ∧
      Holds r.1 (s.rdropWhile isspace) ∧ r.1.length = buf.length := by
  induction s using List.reverseRecOn generalizing buf n with
  | nil => exact absurd hs Bool.noConfusion
  | append_singleton s c ih =>
      obtain ⟨n, rfl⟩ : ∃ k, n = k + 1 := ⟨n - 1, by omega⟩
      rw [List.rdropWhile_concat]
      by_cases hc : isspace c = true
      · have hs' : s.all isspace = false := by
          simpa [hc] using hs
        rw [loop_again (trailingPass_space hw h hc), if_pos hc]
        obtain ⟨r, hrun, hheld, hlen⟩ := ih hs' (by rwa [List.length_set])
          (holds_init h) (Nat.lt_of_succ_lt_succ (by simpa using hn))
        exact ⟨r, hrun, hheld, hlen.trans List.length_set⟩
      · rw [loop_leave (trailingPass_leave hw h hc), if_neg hc]
        exact ⟨_, rfl, h, rfl⟩

/-- A buffer with a string of white space alone, and its length. -/
def Blank (w : Nat) (s : List UInt8 × Nat) : Prop :=
  s.1.length < 2 ^ w ∧
    ∃ t, t.all isspace = true ∧ Holds s.1 t ∧ s.2 = t.length

/-- There the loop goes on, and at the front it leaves the buffer. -/
theorem trailingPass_blank {r : List UInt8 × Nat} (h : Blank w r) :
    trailingPass w r = none ∨
      ∃ r', trailingPass w r = some (.again r') ∧ Blank w r' := by
  obtain ⟨buf, len⟩ := r
  obtain ⟨hw, t, hall, hheld, hlen⟩ := h
  simp only at hw hheld hlen
  rcases List.eq_nil_or_concat' t with rfl | ⟨t, c, rfl⟩
  · left
    rw [hlen, List.length_nil, trailingPass_front hw]
  · have hspace : t.all isspace = true ∧ isspace c = true := by
      simpa using hall
    right
    refine ⟨(buf.set t.length 0, t.length), ?_, ?_, t, hspace.1,
      holds_init hheld, rfl⟩
    · rw [hlen, trailingPass_space hw hheld hspace.2]
    · rw [List.length_set]
      exact hw

theorem removeTrailing_spec (hs : s.all isspace = false)
    (hw : buf.length < 2 ^ w) (h : Holds buf s) :
    ∃ buf', removeTrailing w buf = some buf' ∧
      Holds buf' (s.rdropWhile isspace) ∧ buf'.length = buf.length := by
  have hlt := h.length_lt
  obtain ⟨r, hrun, hheld, hlen⟩ :=
    loop_trailing hs hw h (Nat.lt_succ_of_lt hlt)
  refine ⟨r.1, ?_, hheld, hlen⟩
  rw [removeTrailing, strlen_of_holds h, Option.bind_some, hrun, Option.map_some]

theorem removeTrailing_blank (hs : s.all isspace = true)
    (hw : buf.length < 2 ^ w) (h : Holds buf s) : removeTrailing w buf = none := by
  have hblank : Blank w (buf, s.length) := ⟨hw, s, hs, h, rfl⟩
  rw [removeTrailing, strlen_of_holds h, Option.bind_some,
    loop_eq_none (fun _ => trailingPass_blank) hblank, Option.map_none]

end Loop

/-- What the buffer is to hold: the first string of the file, without the
    white space at its end, or the default when nothing was read. -/
def serialNo (file : Option (List UInt8)) (buflen : Nat) : List UInt8 :=
  match file with
  | none => defVal
  | some contents =>
      if contents.take (buflen - 1) = [] then defVal
      else (strOf (contents.take (buflen - 1))).rdropWhile isspace

/-- `getChipsetSerialNo` stays in the buffer, returns, and leaves what the
    buffer is to hold. -/
def Bounded (w : Nat) (file : Option (List UInt8)) (buf : List UInt8) : Prop :=
  ∃ buf', getChipsetSerialNo w file buf buf.length defVal = some buf' ∧
    Holds buf' (serialNo file buf.length) ∧ buf'.length = buf.length

section Read

variable {w : Nat} {buf contents : List UInt8}

/-- An empty file leaves the default. -/
theorem bounded_empty (hbuf : 2 ≤ buf.length) (hw : buf.length < 2 ^ w) :
    Bounded w (some []) buf := by
  have hfits : defVal.length < buf.length := hbuf
  obtain ⟨hheld, hlen⟩ := strlcpy_holds (by decide) hfits
  obtain ⟨buf', hrun, hheld', hlen'⟩ :=
    removeTrailing_spec (by decide) (by rwa [hlen]) hheld
  refine ⟨buf', ?_, ?_, hlen'.trans hlen⟩
  · simp only [getChipsetSerialNo, List.take_nil, List.length_nil, if_pos,
      List.nil_append, List.drop_zero]
    exact hrun
  · rw [serialNo, List.take_nil, if_pos rfl]
    exact hheld'

/-- What is read of a file that is not empty. -/
theorem getChipsetSerialNo_read (hbuf : 2 ≤ buf.length) (hne : contents ≠ []) :
    ∃ b, getChipsetSerialNo w (some contents) buf buf.length defVal
        = removeTrailing w b ∧
      Holds b (strOf (contents.take (buf.length - 1))) ∧
      b.length = buf.length ∧ contents.take (buf.length - 1) ≠ [] := by
  have hread : contents.take (buf.length - 1) ≠ [] := by
    intro h
    rcases List.take_eq_nil_iff.mp h with h | h
    · omega
    · exact hne h
  generalize hr : contents.take (buf.length - 1) = read at hread
  have hlen : read.length < buf.length := by
    have := congrArg List.length hr
    rw [List.length_take] at this
    omega
  have hdrop := List.drop_eq_getElem_cons hlen
  have hwrite : writeAt (read ++ buf.drop read.length) read.length 0
      = some (read ++ 0 :: buf.drop (read.length + 1)) := by
    rw [hdrop, writeAt_append]
  refine ⟨read ++ 0 :: buf.drop (read.length + 1), ?_, holds_strOf _ _, ?_, hread⟩
  · have hsize : ¬ read.length = 0 := fun h =>
      hread (List.eq_nil_of_length_eq_zero h)
    rw [getChipsetSerialNo]
    simp only [hr, if_neg hsize, hwrite, Option.bind_some]
  · rw [List.length_append, List.length_cons, List.length_drop]
    omega

end Read

/-- **WHERE IT IS BOUNDED**: exactly if nothing is read or the first string
    that is read has a character that is no space. -/
theorem getChipsetSerialNo_iff {w : Nat} {file : Option (List UInt8)}
    {buf : List UInt8} (hbuf : 2 ≤ buf.length) (hw : buf.length < 2 ^ w) :
    Bounded w file buf ↔
      ∀ contents, file = some contents → contents = [] ∨
        ∃ c ∈ strOf (contents.take (buf.length - 1)), isspace c = false := by
  cases file with
  | none =>
      refine iff_of_true ?_ (fun _ h => absurd h (Option.some_ne_none _).symm)
      have hfits : defVal.length < buf.length := hbuf
      obtain ⟨hheld, hlen⟩ := strlcpy_holds (by decide) hfits
      exact ⟨_, rfl, hheld, hlen⟩
  | some contents =>
      by_cases hne : contents = []
      · subst hne
        refine iff_of_true (bounded_empty hbuf hw) (fun _ h => Or.inl ?_)
        exact (Option.some.inj h).symm
      obtain ⟨b, hrun, hheld, hlen, hread⟩ :=
        getChipsetSerialNo_read (w := w) hbuf hne
      have hserial : serialNo (some contents) buf.length
          = (strOf (contents.take (buf.length - 1))).rdropWhile isspace := by
        rw [serialNo, if_neg hread]
      rw [Bounded, hrun, hserial]
      cases hs : (strOf (contents.take (buf.length - 1))).all isspace with
      | true =>
          -- no character stops the loop
          rw [removeTrailing_blank hs (by rwa [hlen]) hheld]
          refine iff_of_false ?_ ?_
          · rintro ⟨buf', h, -⟩
            exact Option.some_ne_none _ h.symm
          · intro h
            rcases h contents rfl with h | ⟨c, hc, hspace⟩
            · exact hne h
            · rw [List.all_eq_true.mp hs c hc] at hspace
              exact Bool.noConfusion hspace
      | false =>
          obtain ⟨buf', hrun', hheld', hlen'⟩ :=
            removeTrailing_spec hs (by rwa [hlen]) hheld
          refine iff_of_true ⟨buf', hrun', hheld', hlen'.trans hlen⟩ ?_
          rintro _ ⟨rfl⟩
          right
          simpa using hs

/-- A serial number and a newline. -/
theorem getChipsetSerialNo_iff_number :
    Bounded 32 (some [49, 50, 10])
      (List.replicate CHIPSET_SERIAL_NUMBER_MAX_LEN 7) :=
  (getChipsetSerialNo_iff (by decide) (by decide)).mpr fun contents h =>
    Or.inr ⟨49, by rw [← Option.some.inj h]; decide, rfl⟩

/-- A file of a newline. -/
theorem not_bounded_newline :
    ¬ Bounded 64 (some [10]) (List.replicate CHIPSET_SERIAL_NUMBER_MAX_LEN 7) := by
  rintro ⟨buf', hrun, -⟩
  have hnone : getChipsetSerialNo 64 (some [10])
      (List.replicate CHIPSET_SERIAL_NUMBER_MAX_LEN 7)
      CHIPSET_SERIAL_NUMBER_MAX_LEN defVal = none := by decide
  exact Option.some_ne_none _ (hrun.symm.trans hnone)

end QcomSerialNo
