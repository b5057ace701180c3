import QcomCommon.BufferProofs
import QcomCommon.LocCfgProofs
import QcomCommon.WhileLoopProofs

/-! # Trimming a string within its buffer

    `loc_util_trim_space` of `loc_misc_utils.cpp` moves the string to the
    front from its first character that is no space on, and cuts it after the
    last such character.  It remembers that character only once it has met
    it: a string of white space alone is not cut.

    The string is what is left between the outer white space exactly when
    there is something between (`trim_iff`); in any case the pointers stay in
    the string, and the configuration reader sees its own
    `loc_util_trim_space` (`trim_spec`). -/

namespace QcomTrim

open QcomBuffer QcomCString QcomWhile
open QcomLocCfg (isspace)

/-- The pointers are positions in `org_string`; `none` is `NULL`. -/
structure Trim where
  org_string : List UInt8
  scan_ptr : Nat
  write_ptr : Nat
  first_nonspace : Option Nat
  last_nonspace : Option Nat

/-- A pass of `while (*scan_ptr)`. -/
def trimPass (s : Trim) : Option (Pass Trim) :=
  (readAt s.org_string s.scan_ptr).bind fun c =>
    if c = 0 then some (.leave s)
    else
      let first_nonspace :=
        if ¬ isspace c ∧ s.first_nonspace = none then some s.scan_ptr
        else s.first_nonspace
      if first_nonspace ≠ none then
        (writeAt s.org_string s.write_ptr c).bind fun org_string =>
          -- the write may be to the place that is scanned
          (readAt org_string s.scan_ptr).map fun c =>
            .again
              { org_string, first_nonspace
                scan_ptr := s.scan_ptr + 1
                write_ptr := s.write_ptr + 1
                last_nonspace :=
                  if ¬ isspace c then some (s.write_ptr + 1)
                  else s.last_nonspace }
      else some (.again { s with first_nonspace, scan_ptr := s.scan_ptr + 1 })

/-- The loop and the write behind it.  The buffer bounds the passes. -/
def trimString (org_string : List UInt8) : Option (List UInt8) :=
  (loop trimPass (org_string.length + 1) ⟨org_string, 0, 0, none, none⟩).bind
    fun s =>
      match s.last_nonspace with
      | none => some s.org_string
      | some last_nonspace => writeAt s.org_string last_nonspace 0

/-- `loc_util_trim_space`: what it leaves of the buffer, `none` where it is
    given `NULL`. -/
def loc_util_trim_space (org_string : Option (List UInt8)) :
    Option (Option (List UInt8)) :=
  match org_string with
  | none => some none
  | some org_string => (trimString org_string).map some

/-- A string without its leading and trailing white space. -/
def trimmed (s : List UInt8) : List UInt8 :=
  (s.dropWhile isspace).rdropWhile isspace

/-! ## What is written -/

/-- What of the string's front is written when it is scanned: all of it from
    the first character that is no space. -/
def moved (s : List UInt8) (i : Nat) : List UInt8 := (s.take i).dropWhile isspace

theorem length_moved_le (s : List UInt8) (i : Nat) : (moved s i).length ≤ i :=
  Nat.le_trans (List.dropWhile_suffix isspace).length_le (List.length_take_le i s)

theorem moved_succ {s : List UInt8} {i : Nat} {c : UInt8} (h : s[i]? = some c) :
    moved s (i + 1) = if moved s i = [] ∧ isspace c then [] else moved s i ++ [c] := by
  rw [moved, List.take_add_one, h, Option.toList_some, List.dropWhile_append,
    ← moved]
  cases hm : moved s i with
  | nil => cases hc : isspace c <;> simp [hc]
  | cons a t => rfl

/-- The loop at place `i` of the string `s`. -/
structure Scanned (buf s : List UInt8) (i : Nat) (t : Trim) : Prop where
  scan : t.scan_ptr = i
  write : t.write_ptr = (moved s i).length
  buffer : t.org_string = moved s i ++ buf.drop (moved s i).length
  first : t.first_nonspace = none ↔ moved s i = []
  last : t.last_nonspace
    = if moved s i = [] then none
      else some ((moved s i).rdropWhile isspace).length

section Pass

variable {buf s : List UInt8} {i : Nat} {c : UInt8} {t : Trim}

/-- Behind what is written the buffer is as it was. -/
theorem getElem_written {w : List UInt8} (h : w.length ≤ i) :
    (w ++ buf.drop w.length)[i]? = buf[i]? := by
  rw [List.getElem?_append_right h, List.getElem?_drop, Nat.add_sub_of_le h]

theorem getElem_concat (hc : buf[i]? = some c) {w : List UInt8}
    (h : w.length ≤ i) :
    ((w ++ [c]) ++ buf.drop (w ++ [c]).length)[i]? = some c := by
  have hlen : (w ++ [c]).length = w.length + 1 := List.length_append
  rcases Nat.lt_or_eq_of_le h with hlt | heq
  · rw [getElem_written (by omega), hc]
  · rw [List.getElem?_append_left (by omega), ← heq, List.getElem?_concat_length]

/-- A write behind what is written. -/
theorem writeAt_written {w : List UInt8} (h : w.length < buf.length)
    (c : UInt8) :
    writeAt (w ++ buf.drop w.length) w.length c
      = some ((w ++ [c]) ++ buf.drop (w ++ [c]).length) := by
  have hlen : (w ++ [c]).length = w.length + 1 := List.length_append
  rw [List.drop_eq_getElem_cons h, writeAt_append, hlen, List.append_assoc,
    List.singleton_append]

theorem getElem_holds (h : Holds buf s) (hc : s[i]? = some c) :
    buf[i]? = some c := by
  obtain ⟨rest, rfl⟩ := h.eq_append
  rw [List.getElem?_append_left (List.getElem?_eq_some_iff.mp hc).1, hc]

/-- **PASS**: the next character is scanned; it is written if it is no space
    or one was met before. -/
theorem trimPass_scanned (hbuf : Holds buf s) (hc : s[i]? = some c)
    (h : Scanned buf s i t) :
    ∃ t', trimPass t = some (.again t') ∧ Scanned buf s (i + 1) t' := by
  have hi : i < s.length := (List.getElem?_eq_some_iff.mp hc).1
  have hmoved := length_moved_le s i
  have hlt : (moved s i).length < buf.length := by
    have := hbuf.length_lt
    omega
  have hne : c ≠ 0 := fun h0 =>
    hbuf.noNul (h0 ▸ List.mem_of_getElem? hc)
  have hread : readAt t.org_string t.scan_ptr = some c := by
    rw [readAt_natCast, h.scan, h.buffer, getElem_written hmoved,
      getElem_holds hbuf hc]
  have hstep := moved_succ hc
  rw [trimPass, hread, Option.bind_some, if_neg hne]
  by_cases hblank : moved s i = [] ∧ isspace c
  · -- white space in front is passed over
    rw [if_pos hblank] at hstep
    have hfirst : t.first_nonspace = none := h.first.mpr hblank.1
    have hlast : t.last_nonspace = none := by
      rw [h.last, if_pos hblank.1]
    refine ⟨{ t with scan_ptr := t.scan_ptr + 1 }, ?_, ?_⟩
    · simp [hblank.2, hfirst]
    · refine ⟨by rw [h.scan], ?_, ?_, ?_, ?_⟩
      · rw [hstep, h.write, hblank.1]
      · rw [hstep, h.buffer, hblank.1]
      · simp [hstep, hfirst]
      · rw [hstep, if_pos rfl, hlast]
  · rw [if_neg hblank] at hstep
    have hwrite : writeAt t.org_string t.write_ptr c
        = some ((moved s i ++ [c]) ++ buf.drop (moved s i ++ [c]).length) := by
      rw [h.buffer, h.write, writeAt_written hlt]
    have hreread := getElem_concat (getElem_holds hbuf hc) hmoved
    have hfirst : (if ¬ isspace c ∧ t.first_nonspace = none then some t.scan_ptr
        else t.first_nonspace) ≠ none := by
      by_cases hm : moved s i = []
      · have hc' : ¬ isspace c := fun hc' => hblank ⟨hm, hc'⟩
        rw [if_pos ⟨hc', h.first.mpr hm⟩]
        exact Option.some_ne_none _
      · have hne : t.first_nonspace ≠ none := fun hn => hm (h.first.mp hn)
        rw [if_neg (fun hn => hne hn.2)]
        exact hne
    have hconcat : moved s i ++ [c] ≠ [] := List.append_ne_nil_of_right_ne_nil _
      (List.cons_ne_nil c [])
    simp only [if_pos hfirst]
    rw [hwrite, Option.bind_some, h.scan, readAt_natCast, hreread,
      Option.map_some]
    refine ⟨_, rfl, rfl, ?_, ?_, ?_, ?_⟩
    · rw [hstep, h.write, List.length_append, List.length_singleton]
    · rw [hstep]
    · rw [hstep]
      exact iff_of_false (by rwa [h.scan] at hfirst) hconcat
    · rw [hstep, if_neg hconcat, List.rdropWhile_concat, h.last, h.write]
      cases hc' : isspace c with
      | false => simp
      | true =>
          have hm : moved s i ≠ [] := fun hm => hblank ⟨hm, hc'⟩
          simp [hm]

end Pass

/-! ## The whole string -/

/-- What is left is the front of what was moved. -/
theorem holds_cut {buf s m : List UInt8} (hnul : 0 ∉ m)
    (hlen : m.length ≤ s.length) (hbuf : s.length < buf.length) :
    ∃ buf',
      writeAt (m ++ buf.drop m.length) (m.rdropWhile isspace).length 0
        = some buf' ∧
      Holds buf' (m.rdropWhile isspace) ∧ buf'.length = buf.length ∧
      buf'.drop (s.length + 1) = buf.drop (s.length + 1) := by
  have hfront := List.rdropWhile_prefix isspace m
  have hle := hfront.length_le
  have horg : (m ++ buf.drop m.length).length = buf.length := by
    rw [List.length_append, List.length_drop]
    omega
  have hcut := hfront.trans (List.prefix_append m (buf.drop m.length))
  refine ⟨_, writeAt_of_eq rfl (by omega) 0, holds_set ?_ hcut (by omega), ?_, ?_⟩
  · intro h
    exact hnul (hfront.subset h)
  · rw [List.length_set, horg]
  · rw [List.drop_set_of_lt (by omega), List.drop_append,
      List.drop_eq_nil_of_le (by omega), List.nil_append, List.drop_drop,
      Nat.add_sub_of_le (by omega)]

/-- The loop ends with the pointers in the string. -/
theorem trimString_spec {buf s : List UInt8} (hbuf : Holds buf s) :
    ∃ buf', trimString buf = some buf' ∧
      Holds buf' (QcomLocCfg.loc_util_trim_space s) ∧
      buf'.length = buf.length ∧
      buf'.drop (s.length + 1) = buf.drop (s.length + 1) := by
  have hlt := hbuf.length_lt
  have hstart : Scanned buf s 0 ⟨buf, 0, 0, none, none⟩ :=
    ⟨rfl, rfl, rfl, iff_of_true rfl rfl, rfl⟩
  obtain ⟨t, hloop, ht⟩ : ∃ t,
      loop trimPass (buf.length + 1) ⟨buf, 0, 0, none, none⟩ = some t ∧
        Scanned buf s s.length t := by
    refine loop_rule (I := fun k t => ∃ i, i + k = s.length ∧ Scanned buf s i t)
      ?_ ?_ ⟨0, Nat.zero_add _, hstart⟩ (by omega)
    · rintro t ⟨i, hi, ht⟩
      obtain rfl : i = s.length := by omega
      refine ⟨t, ?_, ht⟩
      have hend : buf[s.length]? = some 0 := by
        obtain ⟨rest, rfl⟩ := hbuf.eq_append
        rw [← readAt_natCast, readAt_append]
      rw [trimPass, readAt_natCast, ht.scan, ht.buffer,
        getElem_written (length_moved_le s _), hend]
      rfl
    · rintro k t ⟨i, hi, ht⟩
      obtain ⟨c, hc⟩ := exists_at (s := s) (k := i) (by omega)
      obtain ⟨t', hpass, ht'⟩ := trimPass_scanned hbuf hc ht
      exact Or.inr ⟨t', hpass, i + 1, by omega, ht'⟩
  have hmoved : moved s s.length = s.dropWhile isspace := by
    rw [moved, List.take_length]
  obtain ⟨-, -, horg, -, hlast⟩ := ht
  rw [hmoved] at horg hlast
  rw [trimString, hloop, Option.bind_some, hlast, horg,
    QcomLocCfg.loc_util_trim_space]
  by_cases hblank : s.dropWhile isspace = []
  · -- nothing was moved
    have hall : s.all isspace = true :=
      List.all_eq_true.mpr (List.dropWhile_eq_nil_iff.mp hblank)
    rw [if_pos hblank, if_pos hall, hblank]
    exact ⟨buf, rfl, hbuf, rfl, rfl⟩
  · have hall : ¬ s.all isspace = true := fun hall =>
      hblank (List.dropWhile_eq_nil_iff.mpr (List.all_eq_true.mp hall))
    rw [if_neg hblank, if_neg hall]
    have hsuffix := List.dropWhile_suffix isspace (l := s)
    exact holds_cut (fun h => hbuf.noNul (hsuffix.subset h)) hsuffix.length_le
      hlt

/-- **TRIMMING**: the function returns with the pointers in the string, which
    is trimmed if there is something between the outer white space. -/
theorem trim_spec {buf s : List UInt8} (hbuf : Holds buf s) :
    ∃ buf', loc_util_trim_space (some buf) = some (some buf') ∧
      Holds buf' (QcomLocCfg.loc_util_trim_space s) ∧
      buf'.length = buf.length ∧
      buf'.drop (s.length + 1) = buf.drop (s.length + 1) := by
  obtain ⟨buf', hrun, hspec⟩ := trimString_spec hbuf
  refine ⟨buf', ?_, hspec⟩
  rw [loc_util_trim_space, hrun, Option.map_some]

theorem trimmed_blank {s : List UInt8} (h : s.all isspace = true) :
    trimmed s = [] := by
  have hnil : s.dropWhile isspace = [] :=
    List.dropWhile_eq_nil_iff.mpr (List.all_eq_true.mp h)
  rw [trimmed, hnil]
  rfl

/-- Nothing is left to trim between the outer white space. -/
theorem trimmed_trimmed (s : List UInt8) : trimmed (trimmed s) = trimmed s := by
  by_cases hnil : s.dropWhile isspace = []
  · rw [trimmed, trimmed, hnil]
    rfl
  · have hhead : isspace ((s.dropWhile isspace).head hnil) = false :=
      List.head_dropWhile_not isspace hnil
    have hne : trimmed s ≠ [] := by
      intro h
      have hblank := List.rdropWhile_eq_nil_iff.mp h _ (List.head_mem hnil)
      exact Bool.false_ne_true (hhead.symm.trans hblank)
    have hsame : (trimmed s).head hne = (s.dropWhile isspace).head hnil :=
      List.IsPrefix.head (List.rdropWhile_prefix isspace _) hne
    have hfront : (trimmed s).dropWhile isspace = trimmed s := by
      refine List.dropWhile_eq_self_iff.mpr fun hpos => ?_
      rw [← List.head_eq_getElem hne, hsame, hhead]
      exact Bool.false_ne_true
    rw [trimmed, hfront]
    exact List.rdropWhile_idempotent _ _

theorem trim_blank {s : List UInt8} (h : s.all isspace = true) :
    QcomLocCfg.loc_util_trim_space s = s := if_pos h

theorem trim_not_blank {s : List UInt8} (h : ¬ s.all isspace = true) :
    QcomLocCfg.loc_util_trim_space s = trimmed s := if_neg h

/-- The reader's `loc_util_trim_space` does nothing the second time. -/
theorem trim_trim (s : List UInt8) :
    QcomLocCfg.loc_util_trim_space (QcomLocCfg.loc_util_trim_space s)
      = QcomLocCfg.loc_util_trim_space s := by
  by_cases h : s.all isspace = true
  · rw [trim_blank h, trim_blank h]
  · rw [trim_not_blank h]
    by_cases h' : (trimmed s).all isspace = true
    · exact trim_blank h'
    · rw [trim_not_blank h', trimmed_trimmed]

/-- After the function the buffer holds the string without its outer white
    space, a second time changes nothing, and no place behind the string's
    end is written. -/
def Trims (buf s : List UInt8) : Prop :=
  ∃ buf', loc_util_trim_space (some buf) = some (some buf') ∧
    Holds buf' (trimmed s) ∧
    (∃ buf'', loc_util_trim_space (some buf') = some (some buf'') ∧
      strOf buf'' = strOf buf') ∧
    buf'.length = buf.length ∧
    buf'.drop (s.length + 1) = buf.drop (s.length + 1)

/-- **WHERE IT TRIMS**: a string is trimmed exactly if it is empty or has a
    character that is no space. -/
theorem trim_iff {buf s : List UInt8} (hbuf : Holds buf s) :
    Trims buf s ↔ s = [] ∨ ∃ c ∈ s, isspace c = false := by
  obtain ⟨buf', hrun, hheld, hlen, hrest⟩ := trim_spec hbuf
  constructor
  · rintro ⟨b, hb, hheldb, -⟩
    obtain rfl := Option.some.inj (Option.some.inj (hrun.symm.trans hb))
    by_cases hall : s.all isspace = true
    · left
      have hsame := hheld.strOf_eq.symm.trans hheldb.strOf_eq
      rwa [trimmed_blank hall, trim_blank hall] at hsame
    · right
      simpa using hall
  · intro h
    have htrimmed : QcomLocCfg.loc_util_trim_space s = trimmed s := by
      rcases h with rfl | ⟨c, hc, hspace⟩
      · rfl
      · refine trim_not_blank fun hall => ?_
        rw [List.all_eq_true.mp hall c hc] at hspace
        exact absurd hspace Bool.noConfusion
    obtain ⟨buf'', hrun', hheld', -⟩ := trim_spec hheld
    refine ⟨buf', hrun, htrimmed ▸ hheld, ⟨buf'', hrun', ?_⟩, hlen, hrest⟩
    rw [hheld'.strOf_eq, hheld.strOf_eq, trim_trim]

/-- `" a b "`. -/
theorem trim_iff_words :
    Holds [32, 97, 32, 98, 32, 0] [32, 97, 32, 98, 32] ∧
      Trims [32, 97, 32, 98, 32, 0] [32, 97, 32, 98, 32] := by
  have h : Holds [32, 97, 32, 98, 32, 0] [32, 97, 32, 98, 32] :=
    ⟨by decide, ⟨[], rfl⟩⟩
  exact ⟨h, (trim_iff h).mpr (Or.inr ⟨97, by decide, rfl⟩)⟩

/-- One space stays. -/
theorem not_trims_space : Holds [32, 0] [32] ∧ ¬ Trims [32, 0] [32] := by
  refine ⟨⟨by decide, ⟨[], rfl⟩⟩, ?_⟩
  rintro ⟨buf', hrun, hheld, -⟩
  obtain rfl : [32, 0] = buf' := Option.some.inj (Option.some.inj hrun)
  exact absurd hheld.strOf_eq (by decide)

end QcomTrim
