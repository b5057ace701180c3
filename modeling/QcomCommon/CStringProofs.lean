import Mathlib.Data.List.Basic

/-! # Strings in buffers

    A `char` buffer that holds a string, and the functions that write one:
    `snprintf` of a text that is formatted already, and `strlcpy`.  A text
    that does not fit is cut off, and the string ends within the buffer in
    any case (`snprintf_holds`). -/

namespace QcomCString

/-- The string of a literal. -/
def ascii (s : String) : List UInt8 := s.toList.map (fun c => .ofNat c.toNat)

/-- The buffer holds the string `s`. -/
structure Holds (buf s : List UInt8) : Prop where
  noNul : 0 ∉ s
  ends : s ++ [0] <+: buf

/-- The string a reader of the buffer finds. -/
def strOf (buf : List UInt8) : List UInt8 := buf.takeWhile (· != 0)

/-- The characters in front of the NUL. -/
theorem takeWhile_noNul {s : List UInt8} (hs : 0 ∉ s) (rest : List UInt8) :
    (s ++ 0 :: rest).takeWhile (· != 0) = s := by
  have hall : ∀ b ∈ s, (b != 0) = true :=
    fun b hb => bne_iff_ne.mpr (fun h => hs (h ▸ hb))
  rw [List.takeWhile_append_of_pos hall]
  exact List.append_nil s

namespace Holds

variable {buf s : List UInt8}

/-- The buffer is the string, its NUL and the rest. -/
theorem eq_append (h : Holds buf s) : ∃ rest, buf = s ++ 0 :: rest := by
  obtain ⟨rest, hrest⟩ := h.ends
  exact ⟨rest, by rw [← hrest, List.append_assoc]; rfl⟩

/-- The string of the buffer. -/
theorem strOf_eq (h : Holds buf s) : strOf buf = s := by
  obtain ⟨rest, rfl⟩ := h.eq_append
  exact takeWhile_noNul h.noNul rest

/-- It is shorter than the buffer. -/
theorem length_lt (h : Holds buf s) : s.length < buf.length := by
  obtain ⟨rest, rfl⟩ := h.eq_append
  rw [List.length_append, List.length_cons]
  omega

theorem take_length (h : Holds buf s) : buf.take s.length = s := by
  obtain ⟨rest, rfl⟩ := h.eq_append
  exact List.take_left

end Holds

/-- A buffer that ends in a NUL holds its first string. -/
theorem holds_strOf (read rest : List UInt8) :
    Holds (read ++ 0 :: rest) (strOf read) := by
  refine ⟨fun h => ?_, ?_⟩
  · exact absurd (List.all_eq_true.mp List.all_takeWhile 0 h) (by decide)
  · induction read with
    | nil => exact ⟨rest, rfl⟩
    | cons c read ih =>
        rw [strOf, List.takeWhile_cons]
        by_cases hc : c = 0
        · rw [hc, if_neg (by decide)]
          exact ⟨read ++ 0 :: rest, rfl⟩
        · rw [if_pos (bne_iff_ne.mpr hc), List.cons_append, List.cons_append]
          exact (List.prefix_cons_inj c).mpr ih

/-- A NUL behind the front of a buffer. -/
theorem holds_set {buf s : List UInt8} (hnul : 0 ∉ s) (h : s <+: buf)
    (hlt : s.length < buf.length) : Holds (buf.set s.length 0) s := by
  obtain ⟨rest, rfl⟩ := h
  cases rest with
  | nil =>
      rw [List.append_nil] at hlt
      exact absurd hlt (Nat.lt_irrefl _)
  | cons c rest =>
      refine ⟨hnul, rest, ?_⟩
      rw [List.set_append_right _ _ (Nat.le_refl _), Nat.sub_self,
        List.set_cons_zero, List.append_assoc, List.singleton_append]

/-! ## Writing -/

/-- `snprintf(buf + pos, size, …)` of a formatted text: the buffer, and the
    length of the text. -/
def snprintf (buf : List UInt8) (pos size : Nat) (text : List UInt8) :
    List UInt8 × Nat :=
  (if size = 0 then buf
    else
      let written := text.take (size - 1)
      buf.take pos ++ (written ++ 0 :: buf.drop (pos + written.length + 1)),
    text.length)

/-- `strlcpy(buf, src, size)`. -/
def strlcpy (buf src : List UInt8) (size : Nat) : List UInt8 :=
  (snprintf buf 0 size src).1

/-- **SNPRINTF** to the end of a buffer: as much of the text as fits follows
    what is before it. -/
theorem snprintf_holds {buf s text : List UInt8} {pos size : Nat}
    (hs : buf.take pos = s) (hnul : 0 ∉ s) (htext : 0 ∉ text)
    (hpos : pos < buf.length) (hsize : size = buf.length - pos) :
    Holds (snprintf buf pos size text).1 (s ++ text.take (size - 1)) ∧
      (snprintf buf pos size text).1.length = buf.length := by
  have hne : size ≠ 0 := by omega
  rw [snprintf, if_neg hne, hs]
  refine ⟨⟨?_, ?_⟩, ?_⟩
  · intro hmem
    rcases List.mem_append.mp hmem with hmem | hmem
    · exact hnul hmem
    · exact htext (List.mem_of_mem_take hmem)
  · rw [List.append_assoc]
    refine List.prefix_append_right_inj s |>.mpr ?_
    refine List.prefix_append_right_inj (text.take (size - 1)) |>.mpr ?_
    exact ⟨_, rfl⟩
  · have hlen := congrArg List.length hs
    rw [List.length_take] at hlen
    simp only [List.length_append, List.length_cons, List.length_take,
      List.length_drop]
    omega

/-- A text that fits. -/
theorem snprintf_fits {buf s text : List UInt8} {pos size : Nat}
    (hs : buf.take pos = s) (hnul : 0 ∉ s) (htext : 0 ∉ text)
    (hsize : size = buf.length - pos) (hfits : text.length < size) :
    Holds (snprintf buf pos size text).1 (s ++ text) := by
  have hspec := (snprintf_holds hs hnul htext (by omega) hsize).1
  rwa [List.take_of_length_le (by omega)] at hspec

/-- A copy that fits holds the string. -/
theorem strlcpy_holds {buf src : List UInt8} (hsrc : 0 ∉ src)
    (hfits : src.length < buf.length) :
    Holds (strlcpy buf src buf.length) src ∧
      (strlcpy buf src buf.length).length = buf.length := by
  have hspec := snprintf_holds (s := []) List.take_zero List.not_mem_nil hsrc
    (Nat.zero_lt_of_lt hfits) (Nat.sub_zero _).symm
  rwa [List.nil_append, List.take_of_length_le (by omega)] at hspec

end QcomCString
