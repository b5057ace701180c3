import QcomCommon.BufferProofs
import QcomCommon.CStringProofs
import QcomCommon.PercentProofs

/-! # Encoding the fields of the user agent

    `encodeInPlace` of `LocEngAdapter.cpp` replaces the separators of the user
    agent in a string by their codes, within the string's own buffer: the
    codes are put together in a second buffer of the same size and copied
    back.  Where a code has no room any more the string is cut off.

    What comes out is the percent-encoding of the longest prefix that has room
    with the final NUL (`encodeInPlace_spec`). -/

namespace QcomUserAgent

open QcomBuffer QcomCString QcomPercent

/-- An entry of `encodings`. -/
structure ENCODE where
  ch : UInt8
  code : List UInt8

/-- The separators `/`, `+`, `|` and `%` with `%2F`, `%2B`, `%7C` and `%25`. -/
def encodings : List ENCODE :=
  [⟨47, [37, 50, 70]⟩, ⟨43, [37, 50, 66]⟩, ⟨124, [37, 55, 67]⟩,
    ⟨37, [37, 50, 53]⟩]

/-- The length of a code. -/
def NUM_CHARS_IN_CODE : Nat := 3

/-- `while (outpos < size - 1 && codepos < NUM_CHARS_IN_CODE)`, with what is
    left of the code. -/
def codeLoop (size : Nat) :
    List UInt8 → List (Option UInt8) → Int → Option (List (Option UInt8) × Int)
  | [], buffer, outpos => some (buffer, outpos)
  | c :: code, buffer, outpos =>
      if outpos < (size : Int) - 1 then
        (writeAt buffer outpos (some c)).bind fun buffer =>
          codeLoop size code buffer (outpos + 1)
      else some (buffer, outpos)

/-- The loop over `value`: the buffer and `outpos` it ends with.  Each round
    but the last takes a character.  The second buffer lies on the stack, so
    that a position and its sum with the length of a code are far below the
    end of `int`. -/
def encodeLoop (value : List UInt8) (size : Nat) :
    Nat → List (Option UInt8) → Int → Int → Option (List (Option UInt8) × Int)
  | 0, _, _, _ => none
  | rounds + 1, buffer, inpos, outpos =>
      (readAt value inpos).bind fun c =>
        if c ≠ 0 ∧ outpos < (size : Int) - 1 then
          match encodings[encodings.findIdx (fun e => e.ch == c)]? with
          | none =>
              -- non escaped character
              (writeAt buffer outpos (some c)).bind fun buffer =>
                encodeLoop value size rounds buffer (inpos + 1) (outpos + 1)
          | some e =>
              -- cut off if there is insufficient space
              if outpos + NUM_CHARS_IN_CODE ≥ size then some (buffer, outpos)
              else
                (codeLoop size (e.code.take NUM_CHARS_IN_CODE) buffer
                    outpos).bind fun r =>
                  encodeLoop value size rounds r.1 (inpos + 1) r.2
        else some (buffer, outpos)

/-- `encodeInPlace` of a `value` in an array of `size` bytes. -/
def encodeInPlace (value : List UInt8) (size : Nat) : Option (List UInt8) :=
  (encodeLoop value size (value.length + 1) (uninit UInt8 size) 0 0).bind fun r =>
    (writeAt value r.2 0).bind fun value =>
      forDown (fun p value =>
        (readEntry r.1 p).bind fun c => writeAt value p c) r.2.toNat value

/-- The separators. -/
def separator (c : UInt8) : Bool := c == 47 || c == 43 || c == 124 || c == 37

theorem separator_iff {c : UInt8} :
    separator c = true ↔ c = 47 ∨ c = 43 ∨ c = 124 ∨ c = 37 := by
  simp [separator, or_assoc]

theorem decodable_separator : Decodable separator where
  percent := by decide
  digits := by decide

/-- The codes of the table are those of percent-encoding. -/
theorem encodings_eq (c : UInt8) :
    encodings[encodings.findIdx (fun e => e.ch == c)]?
      = if separator c then some ⟨c, escape c⟩ else none := by
  by_cases hc : separator c = true
  · rcases separator_iff.mp hc with rfl | rfl | rfl | rfl <;> rfl
  · have hnone : ∀ e ∈ encodings, (e.ch == c) = false := by
      intro e he
      refine beq_false_of_ne fun h => hc (separator_iff.mpr ?_)
      simp only [encodings, List.mem_cons, List.not_mem_nil, or_false] at he
      rcases he with rfl | rfl | rfl | rfl
      · exact Or.inl h.symm
      · exact Or.inr (Or.inl h.symm)
      · exact Or.inr (Or.inr (Or.inl h.symm))
      · exact Or.inr (Or.inr (Or.inr h.symm))
    rw [if_neg hc, List.findIdx_eq_length_of_false hnone]
    rfl

/-! ## The buffer -/

/-- The buffer with `done` at its front. -/
def filled (size : Nat) (done : List UInt8) : List (Option UInt8) :=
  done.map some ++ uninit UInt8 (size - done.length)

theorem getElem_filled {size : Nat} {done : List UInt8} {k : Nat}
    (hk : k < done.length) : (filled size done)[k]? = some done[k]? := by
  rw [filled, List.getElem?_append_left (by rwa [List.length_map]),
    List.getElem?_map, List.getElem?_eq_getElem hk]
  rfl

/-- Writing behind what is done. -/
theorem writeAt_filled {size : Nat} {done : List UInt8}
    (h : done.length < size) {outpos : Int} (hpos : outpos = done.length)
    (c : UInt8) :
    writeAt (filled size done) outpos (some c)
      = some (filled size (done ++ [c])) := by
  have hlen : done.length < (filled size done).length := by
    rw [filled, List.length_append, List.length_map, length_uninit]
    omega
  obtain ⟨n, hn⟩ : ∃ n, size - done.length = n + 1 :=
    ⟨size - done.length - 1, by omega⟩
  have hn' : size - (done ++ [c]).length = n := by
    rw [List.length_append, List.length_singleton]
    omega
  rw [writeAt_of_eq hpos hlen, filled, filled, hn, hn', uninit,
    List.replicate_succ, List.set_append_right _ _ (Nat.le_of_eq (List.length_map _)),
    List.length_map, Nat.sub_self, List.map_append, List.append_assoc]
  rfl

/-- A code that has room is written as a whole. -/
theorem codeLoop_filled {size : Nat} (code : List UInt8) {done : List UInt8}
    (h : done.length + code.length < size) {outpos : Int}
    (hpos : outpos = done.length) :
    codeLoop size code (filled size done) outpos
      = some (filled size (done ++ code), ((done ++ code).length : Int)) := by
  induction code generalizing done outpos with
  | nil => rw [codeLoop, List.append_nil, hpos]
  | cons c code ih =>
      rw [List.length_cons] at h
      have hroom : (done ++ [c]).length + code.length < size := by
        rw [List.length_append, List.length_singleton]
        omega
      have hnext : outpos + 1 = ((done ++ [c]).length : Int) := by
        rw [List.length_append, List.length_singleton]
        omega
      rw [codeLoop, if_pos (by omega), writeAt_filled (by omega) hpos,
        Option.bind_some, ih hroom hnext, List.append_assoc,
        List.singleton_append]

/-! ## The string encoded -/

/-- What is done in the end, if `todo` is still to do. -/
def encoded (size : Nat) (done todo : List UInt8) : List UInt8 :=
  done ++ encode separator (fit (code separator) (size - 1 - done.length) todo)

theorem encoded_nil (size : Nat) (done : List UInt8) :
    encoded size done [] = done := List.append_nil done

/-- A character whose code has room is done. -/
theorem encoded_cons {size : Nat} {done : List UInt8} {c : UInt8}
    (h : (code separator c).length ≤ size - 1 - done.length)
    (todo : List UInt8) :
    encoded size done (c :: todo)
      = encoded size (done ++ code separator c) todo := by
  rw [encoded, fit, if_pos h, encode_cons, encoded, List.length_append,
    Nat.sub_sub (size - 1), List.append_assoc]

/-- One whose code has none is the end. -/
theorem encoded_cons_full {size : Nat} {done : List UInt8} {c : UInt8}
    (h : ¬ (code separator c).length ≤ size - 1 - done.length)
    (todo : List UInt8) : encoded size done (c :: todo) = done := by
  rw [encoded, fit, if_neg h]
  exact List.append_nil done

theorem length_code (c : UInt8) :
    (code separator c).length = if separator c then 3 else 1 := by
  rw [code]
  cases separator c <;> rfl

/-- **ONE ROUND** takes the character if its code has room, and ends the loop
    if not. -/
theorem encodeLoop_round {value : List UInt8} {size rounds : Nat}
    {done : List UInt8} {c : UInt8} {inpos outpos : Int}
    (hread : readAt value inpos = some c) (hc : c ≠ 0)
    (hdone : done.length < size) (hout : outpos = done.length) :
    encodeLoop value size (rounds + 1) (filled size done) inpos outpos
      = if (code separator c).length ≤ size - 1 - done.length then
          encodeLoop value size rounds (filled size (done ++ code separator c))
            (inpos + 1) ((done ++ code separator c).length : Int)
        else some (filled size done, (done.length : Int)) := by
  have hlen := length_code c
  rw [encodeLoop, hread, Option.bind_some]
  by_cases hroom : outpos < (size : Int) - 1
  · rw [if_pos ⟨hc, hroom⟩, encodings_eq]
    by_cases hsep : separator c = true
    · have hcode : code separator c = escape c := if_pos hsep
      rw [if_pos hsep] at hlen ⊢
      dsimp only
      by_cases hfull : outpos + (NUM_CHARS_IN_CODE : Nat) ≥ size
      · have hfull' := hfull
        rw [NUM_CHARS_IN_CODE] at hfull'
        rw [if_pos hfull, if_neg (by omega), hout]
      · have hfits := hfull
        rw [NUM_CHARS_IN_CODE] at hfits
        have htake : (escape c).take NUM_CHARS_IN_CODE = escape c := rfl
        rw [if_neg hfull, if_pos (by omega), hcode, htake,
          codeLoop_filled _ (by rw [← hcode]; omega) hout, Option.bind_some]
    · have hcode : code separator c = [c] := if_neg hsep
      rw [if_neg hsep] at hlen ⊢
      dsimp only
      rw [writeAt_filled hdone hout, Option.bind_some, if_pos (by omega), hcode,
        List.length_append, List.length_singleton, hout]
      rfl
  · have hpos : 1 ≤ (code separator c).length := by
      rw [hlen]
      cases separator c <;> decide
    rw [if_neg fun h => hroom h.2, if_neg (by omega), hout]

/-- The loop ends at the NUL. -/
theorem encodeLoop_end {value : List UInt8} {size rounds : Nat}
    {done : List UInt8} {inpos outpos : Int}
    (hread : readAt value inpos = some 0) (hout : outpos = done.length) :
    encodeLoop value size (rounds + 1) (filled size done) inpos outpos
      = some (filled size done, (done.length : Int)) := by
  rw [encodeLoop, hread, Option.bind_some, if_neg fun h => h.1 rfl, hout]

/-- **THE LOOP** from any position: what is still to do is encoded as far as
    it has room. -/
theorem encodeLoop_filled {size : Nat} (todo : List UInt8) :
    ∀ {rounds : Nat} {before rest done : List UInt8} {inpos outpos : Int},
      0 ∉ todo → todo.length < rounds → done.length < size →
      inpos = before.length → outpos = done.length →
      encodeLoop (before ++ (todo ++ 0 :: rest)) size rounds (filled size done)
          inpos outpos
        = some (filled size (encoded size done todo),
          ((encoded size done todo).length : Int)) := by
  induction todo with
  | nil =>
      intro rounds before rest done inpos outpos hnul hrounds hdone hin hout
      obtain ⟨rounds, rfl⟩ : ∃ n, rounds = n + 1 :=
        ⟨rounds - 1, by rw [List.length_nil] at hrounds; omega⟩
      have hread : readAt (before ++ 0 :: rest) inpos = some 0 :=
        hin ▸ readAt_append before 0 rest
      rw [List.nil_append, encodeLoop_end hread hout, encoded_nil]
  | cons c todo ih =>
      intro rounds before rest done inpos outpos hnul hrounds hdone hin hout
      rw [List.length_cons] at hrounds
      rw [List.mem_cons, not_or] at hnul
      obtain ⟨rounds, rfl⟩ : ∃ n, rounds = n + 1 := ⟨rounds - 1, by omega⟩
      have hread : readAt (before ++ c :: (todo ++ 0 :: rest)) inpos = some c :=
        hin ▸ readAt_append before c _
      rw [List.cons_append, encodeLoop_round hread (Ne.symm hnul.1) hdone hout]
      by_cases hroom : (code separator c).length ≤ size - 1 - done.length
      · have hsplit : before ++ c :: (todo ++ 0 :: rest)
            = before ++ [c] ++ (todo ++ 0 :: rest) := by
          rw [List.append_assoc]
          rfl
        have hin' : inpos + 1 = ((before ++ [c]).length : Int) := by
          rw [List.length_append, List.length_singleton]
          omega
        have hdone' : (done ++ code separator c).length < size := by
          rw [List.length_append]
          omega
        rw [if_pos hroom, encoded_cons hroom, hsplit]
        exact ih hnul.2 (by omega) hdone' hin' rfl
      · rw [if_neg hroom, encoded_cons_full hroom]

/-! ## Copying back -/

/-- One byte of the copy, from the end. -/
theorem set_take_append {value : List UInt8} {p : Nat} (hp : p < value.length)
    (c : UInt8) (back : List UInt8) :
    (value.take (p + 1) ++ back).set p c = value.take p ++ c :: back := by
  have htake : (value.take p).length = p := List.length_take_of_le (Nat.le_of_lt hp)
  rw [List.take_succ_eq_append_getElem hp, List.append_assoc,
    List.set_append_right _ _ (Nat.le_of_eq htake), htake, Nat.sub_self]
  rfl

/-- What is done is copied to the front, before the NUL. -/
theorem copy_back {size : Nat} {value out : List UInt8}
    (hout : out.length < value.length) :
    forDown (fun p value =>
        (readEntry (filled size out) p).bind fun c => writeAt value p c)
      out.length (value.set out.length 0)
      = some (out ++ 0 :: value.drop (out.length + 1)) := by
  have hstart : value.set out.length 0 = value.take out.length
      ++ (out.drop out.length ++ 0 :: value.drop (out.length + 1)) := by
    rw [List.set_eq_take_append_cons_drop, if_pos hout, List.drop_length]
    rfl
  obtain ⟨v, hv, hend⟩ := forDown_rule (fun p value =>
      (readEntry (filled size out) p).bind fun c => writeAt value p c)
    (I := fun p v => v = value.take p
      ++ (out.drop p ++ 0 :: value.drop (out.length + 1)))
    hstart (by
      rintro p v hp rfl
      have hpv : p < value.length := Nat.lt_trans hp hout
      have hread : readEntry (filled size out) p = some out[p] := by
        refine readEntry_of_eq rfl ?_
        rw [getElem_filled hp, List.getElem?_eq_getElem hp]
      refine ⟨_, ?_, rfl⟩
      rw [hread, Option.bind_some, writeAt_of_eq rfl, set_take_append hpv,
        List.drop_eq_getElem_cons hp]
      · rfl
      · rw [List.length_append, List.length_take_of_le hpv]
        omega)
  rw [hv, hend, List.take_zero, List.drop_zero, List.nil_append]

/-- **IN PLACE** the string becomes what of it is encoded. -/
theorem encodeInPlace_eq {value s : List UInt8} (hs : Holds value s) :
    encodeInPlace value value.length
      = some (encoded value.length [] s
          ++ 0 :: value.drop ((encoded value.length [] s).length + 1)) := by
  obtain ⟨rest, hvalue⟩ := hs.eq_append
  have hlt := hs.length_lt
  have hlen : (encoded value.length [] s).length < value.length := by
    have hfit := length_flatMap_fit (code separator) (value.length - 1) s
    show (encode separator (fit (code separator) (value.length - 1 - 0) s)).length
      < value.length
    rw [Nat.sub_zero, encode]
    omega
  have hloop : encodeLoop value value.length (value.length + 1)
      (uninit UInt8 value.length) 0 0
        = some (filled value.length (encoded value.length [] s),
          ((encoded value.length [] s).length : Int)) := by
    have hspec : encodeLoop ([] ++ (s ++ 0 :: rest)) value.length
        (value.length + 1) (filled value.length []) 0 0 = _ :=
      encodeLoop_filled s hs.noNul (by omega) (Nat.zero_lt_of_lt hlt) rfl rfl
    rwa [List.nil_append, ← hvalue] at hspec
  rw [encodeInPlace, hloop, Option.bind_some, writeAt_of_eq rfl hlen,
    Option.bind_some, Int.toNat_natCast, copy_back hlen]

/-- For a string in an array of `size` bytes all accesses are within the two
    arrays of that size, and the string becomes the percent-encoding of the
    longest of its prefixes whose encoding has room with the NUL: no separator
    is left but `%`, none of its codes is cut, and decoding gives back the
    prefix, which is the whole string if that has room. -/
theorem encodeInPlace_spec (size : Nat) (value s : List UInt8)
    (hsize : value.length = size) (hs : Holds value s) :
    ∃ value' p, encodeInPlace value size = some value' ∧
      value'.length = size ∧ Holds value' (encode separator p) ∧
      p <+: s ∧ (encode separator p).length ≤ size - 1 ∧
      (∀ q, q <+: s → (encode separator q).length ≤ size - 1 → q <+: p) ∧
      decode (encode separator p) = p ∧
      ((encode separator s).length ≤ size - 1 → p = s) ∧
      (∀ b ∈ encode separator p, b ≠ 47 ∧ b ≠ 43 ∧ b ≠ 124) ∧
      ∀ u v, encode separator p = u ++ 37 :: v →
        ∃ c, separator c = true ∧ escape c <+: 37 :: v := by
  subst hsize
  have hpre := fit_initial (code separator) (value.length - 1) s
  have hfits := length_flatMap_fit (code separator) (value.length - 1) s
  have hpos := Nat.zero_lt_of_lt hs.length_lt
  have hnul : 0 ∉ fit (code separator) (value.length - 1) s :=
    fun h => hs.noNul (hpre.subset h)
  refine ⟨_, fit (code separator) (value.length - 1) s, encodeInPlace_eq hs,
    ?_, ?_, hpre, hfits, fun q hq hfit => ?_,
    decode_encode decodable_separator _, fit_eq_self (code separator),
    fun b hb => ?_, fun u v h => escape_whole decodable_separator h⟩
  · have hlt : (encoded value.length [] s).length < value.length :=
      Nat.lt_of_le_of_lt hfits (Nat.sub_lt hpos Nat.zero_lt_one)
    rw [List.length_append, List.length_cons, List.length_drop]
    omega
  · exact ⟨nul_notMem_encode hnul, ⟨_, List.append_assoc ..⟩⟩
  · exact List.prefix_of_prefix_length_le hq hpre
      (length_le_fit (code separator) hq hfit)
  · have hother := eq_percent_of_mem decodable_separator hb
    refine ⟨?_, ?_, ?_⟩ <;>
    · rintro rfl
      cases hother rfl

/-- `"a/b%"` in 8 bytes becomes `"a%2Fb"`: the code of `%` has no room. -/
theorem encodeInPlace_spec_cut :
    ∃ value' p, encodeInPlace [97, 47, 98, 37, 0, 0, 0, 0] 8 = some value' ∧
      Holds value' (encode separator p) ∧ p <+: [97, 47, 98, 37] ∧
      [97, 47, 98] <+: p ∧ (encode separator p).length ≤ 7 := by
  obtain ⟨value', p, hrun, -, hholds, hpre, hfits, hlongest, -⟩ :=
    encodeInPlace_spec 8 [97, 47, 98, 37, 0, 0, 0, 0] [97, 47, 98, 37] rfl
      ⟨by decide, by decide⟩
  exact ⟨value', p, hrun, hholds, hpre,
    hlongest [97, 47, 98] (by decide) (by decide), hfits⟩

example : encodeInPlace [97, 47, 98, 37, 0, 1, 1, 1] 8
    = some [97, 37, 50, 70, 98, 0, 1, 1] := by
  decide

end QcomUserAgent
