import QcomCommon.LocCfgPathsProofs
import Mathlib.Data.List.Nodup

/-! # The last value of every key

    `loc_read_conf_r` stops when as many lines have set an entry as the table
    has entries.  A key that comes twice uses up the count of another one,
    whose line is then not read any more; and a line `KEY=` without a value
    counts and sets its entry as well, since its newline passes for the value.

    `Says` is what a line `NAME = VALUE` is, in terms of its characters;
    `LastValues` is what reading should leave.  It does where every parameter's
    lines are read and the last to set its place is one of them (`AllHeeded`),
    and elsewhere only where lines say the same by chance
    (`last_values_heeded`).  The files with no more lines that name a
    parameter than there are parameters are heeded (`allHeeded_of_few`). -/

namespace QcomLocCfg

open QcomAssign
open QcomCString (strOf)

variable {Place Double : Type}

/-! ## Lines with a name and a value -/

/-- The line has a name and a value: two runs of characters other than `=`,
    with `=` between them, of which the second is not blank.  What follows a
    further `=` does not count. -/
def Says (line name value : List UInt8) : Prop :=
  ∃ lead n eqs v tail, line = lead ++ (n ++ (eqs ++ (v ++ tail))) ∧
    (∀ c ∈ lead, c = EQ) ∧ n ≠ [] ∧ EQ ∉ n ∧
    eqs ≠ [] ∧ (∀ c ∈ eqs, c = EQ) ∧ v.all isspace = false ∧ EQ ∉ v ∧
    (tail = [] ∨ tail.head? = some EQ) ∧
    name = loc_util_trim_space n ∧ value = loc_util_trim_space v

/-- What is not blank stays in a string that is trimmed. -/
theorem all_isspace_trim (s : List UInt8) :
    (loc_util_trim_space s).all isspace = s.all isspace := by
  rw [loc_util_trim_space]
  cases hs : s.all isspace with
  | true => exact hs
  | false =>
      obtain ⟨c, hc, hno⟩ := List.all_eq_false.mp hs
      refine List.all_eq_false.mpr ⟨c, ?_, hno⟩
      have hkeep : ∀ l : List UInt8, c ∈ l → c ∈ l.dropWhile isspace := by
        intro l hl
        rw [← List.takeWhile_append_dropWhile (p := isspace) (l := l)] at hl
        rcases List.mem_append.mp hl with h | h
        · exact absurd (List.mem_takeWhile_imp h) hno
        · exact h
      rw [if_neg Bool.false_ne_true, List.rdropWhile, List.mem_reverse]
      exact hkeep _ (List.mem_reverse.mpr (hkeep s hc))

/-- The two operands of a line are its name and its value, unless the value is
    blank. -/
theorem says_iff {line name value : List UInt8} :
    Says line name value ↔
      operands line = some (name, value) ∧ value.all isspace = false := by
  constructor
  · rintro ⟨lead, n, eqs, v, tail, rfl, hlead, hn, hneq, heqs, heqs', hv, hveq,
      htail, rfl, rfl⟩
    obtain ⟨c, eqs, rfl⟩ := List.exists_cons_of_ne_nil heqs
    obtain rfl := heqs' c List.mem_cons_self
    have hname : strtok_r EQ (lead ++ (n ++ (EQ :: eqs ++ (v ++ tail))))
        = some (n, eqs ++ (v ++ tail)) :=
      strtok_of_pieces hlead hn hneq (Or.inr rfl)
    have hvne : v ≠ [] := by
      rintro rfl
      cases hv
    have hrest : ∃ rest, (tail = [] ∧ rest = []) ∨ tail = EQ :: rest := by
      rcases htail with rfl | htail
      · exact ⟨[], Or.inl ⟨rfl, rfl⟩⟩
      · cases tail with
        | nil => cases htail
        | cons b rest =>
            obtain rfl := Option.some.inj htail
            exact ⟨rest, Or.inr rfl⟩
    obtain ⟨rest, hrest⟩ := hrest
    have hvalue : strtok_r EQ (eqs ++ (v ++ tail)) = some (v, rest) :=
      strtok_of_pieces (fun c hc => heqs' c (List.mem_cons_of_mem _ hc)) hvne
        hveq hrest
    rw [operands, hname, Option.bind_some, hvalue, all_isspace_trim]
    exact ⟨rfl, hv⟩
  · rintro ⟨h, hblank⟩
    obtain ⟨⟨n, r⟩, hname, h⟩ := Option.bind_eq_some_iff.mp h
    obtain ⟨⟨v, r'⟩, hvalue, h⟩ := Option.map_eq_some_iff.mp h
    obtain ⟨rfl, rfl⟩ := Prod.mk.injEq .. ▸ h
    rw [all_isspace_trim] at hblank
    obtain ⟨lead, tail, rfl, hlead, hn, hneq, htail⟩ := strtok_pieces hname
    obtain ⟨eqs, tail', rfl, heqs, -, hveq, htail'⟩ := strtok_pieces hvalue
    rcases htail with ⟨-, hnil⟩ | rfl
    · cases eqs with
      | nil =>
          cases v with
          | nil => cases hblank
          | cons c v => cases hnil
      | cons c eqs => cases hnil
    · refine ⟨lead, n, EQ :: eqs, v, tail', rfl, hlead, hn, hneq,
        List.cons_ne_nil _ _, ?_, hblank, hveq, ?_, rfl, rfl⟩
      · intro c hc
        rcases List.mem_cons.mp hc with rfl | hc
        · rfl
        · exact heqs c hc
      · rcases htail' with ⟨rfl, -⟩ | rfl
        · exact Or.inl rfl
        · exact Or.inr rfl

/-! ## What reading should leave -/

/-- What an entry holds by a value. -/
def holds (lc : Strto Double) (e : loc_param_s_type Place)
    (value : List UInt8) : Option (Value Double) :=
  valueOf e.param_type (configValue lc (e.param_name, value))

/-- The parameter is named on a line with a value. -/
def Named (e : loc_param_s_type Place) (lines : List (List UInt8)) : Prop :=
  ∃ l ∈ lines, ∃ value, Says (strOf l) e.param_name value

/-- Every parameter named holds the value of the last line that names it,
    every other one keeps its value, and the flags tell which were named. -/
structure LastValues (lc : Strto Double)
    (table : List (loc_param_s_type Place)) (lines : List (List UInt8))
    (mem after : Memory Place Double) : Prop where
  named : ∀ e ∈ table, ∀ p, e.param_ptr = some p →
    ∀ front l back value, lines = front ++ l :: back →
      Says (strOf l) e.param_name value → ¬ Named e back →
      some (after.value p) = holds lc e value
  unnamed : ∀ e ∈ table, ∀ p, e.param_ptr = some p → ¬ Named e lines →
    after.value p = mem.value p
  flags : ∀ e ∈ table, ∀ q, e.param_set = some q →
    (after.set q = 1 ↔ Named e lines)

/-- The types that a table knows. -/
def ValidType (param_type : Char) : Prop :=
  param_type = 's' ∨ param_type = 'n' ∨ param_type = 'f'

instance (param_type : Char) : Decidable (ValidType param_type) :=
  inferInstanceAs (Decidable (_ ∨ _ ∨ _))

/-- What a line says of the parameter. -/
def said (lc : Strto Double) (e : loc_param_s_type Place) (l : List UInt8) :
    Option (Value Double) :=
  (operands (strOf l)).bind (fun r =>
    if r.1 = e.param_name ∧ r.2.all isspace = false then holds lc e r.2
    else none)

theorem said_eq_some_iff {lc : Strto Double} {e : loc_param_s_type Place}
    {l : List UInt8} {w : Value Double} :
    said lc e l = some w ↔
      ∃ value, Says (strOf l) e.param_name value ∧
        holds lc e value = some w := by
  rw [said, Option.bind_eq_some_iff]
  constructor
  · rintro ⟨⟨name, value⟩, hop, h⟩
    by_cases hc : name = e.param_name ∧ value.all isspace = false
    · rw [if_pos hc] at h
      exact ⟨value, says_iff.mpr ⟨hc.1 ▸ hop, hc.2⟩, h⟩
    · rw [if_neg hc] at h
      cases h
  · rintro ⟨value, hline, h⟩
    obtain ⟨hop, hblank⟩ := says_iff.mp hline
    exact ⟨_, hop, by rw [if_pos ⟨rfl, hblank⟩]; exact h⟩

theorem holds_isSome (lc : Strto Double) {e : loc_param_s_type Place}
    (htype : ValidType e.param_type) (value : List UInt8) :
    (holds lc e value).isSome = true :=
  (valueOf_isSome e.param_type _).mpr htype

theorem said_eq_none_iff {lc : Strto Double} {e : loc_param_s_type Place}
    (htype : ValidType e.param_type) {l : List UInt8} :
    said lc e l = none ↔ ∀ value, ¬ Says (strOf l) e.param_name value := by
  constructor
  · intro h value hline
    obtain ⟨w, hw⟩ := Option.isSome_iff_exists.mp (holds_isSome lc htype value)
    rw [said_eq_some_iff.mpr ⟨value, hline, hw⟩] at h
    cases h
  · intro h
    cases hs : said lc e l with
    | none => rfl
    | some w =>
        obtain ⟨value, hline, -⟩ := said_eq_some_iff.mp hs
        exact absurd hline (h value)

theorem not_named_iff (lc : Strto Double) {e : loc_param_s_type Place}
    (htype : ValidType e.param_type) {lines : List (List UInt8)} :
    ¬ Named e lines ↔ ∀ l ∈ lines, said lc e l = none := by
  simp only [said_eq_none_iff htype, Named, not_exists, not_and]

/-- What reading should leave, in terms of the last line that says something
    of the parameter. -/
theorem lastValues_iff_lastSome {lc : Strto Double}
    {table : List (loc_param_s_type Place)}
    (htypes : ∀ e ∈ table, ValidType e.param_type)
    {lines : List (List UInt8)} {mem after : Memory Place Double} :
    LastValues lc table lines mem after ↔
      ∀ e ∈ table,
        (∀ p, e.param_ptr = some p →
          after.value p = (lastSome (said lc e) lines).getD (mem.value p)) ∧
        ∀ q, e.param_set = some q →
          (after.set q = 1 ↔ ∃ l ∈ lines, (said lc e l).isSome = true) := by
  have hnamed : ∀ e ∈ table,
      (Named e lines ↔ ∃ l ∈ lines, (said lc e l).isSome = true) := by
    intro e he
    rw [← not_iff_not, not_named_iff lc (htypes e he)]
    simp only [not_exists, not_and, Bool.not_eq_true, Option.isSome_eq_false_iff,
      Option.isNone_iff_eq_none]
  constructor
  · intro h e he
    refine ⟨fun p hp => ?_, fun q hq => ?_⟩
    · cases hlast : lastSome (said lc e) lines with
      | none =>
          refine h.unnamed e he p hp ((not_named_iff lc (htypes e he)).mpr ?_)
          exact lastSome_eq_none_iff.mp hlast
      | some w =>
          obtain ⟨front, l, back, hl, hw, hback⟩ := lastSome_eq_some_iff.mp hlast
          obtain ⟨value, hline, hholds⟩ := said_eq_some_iff.mp hw
          have hv := h.named e he p hp front l back value hl hline
            ((not_named_iff lc (htypes e he)).mpr hback)
          exact Option.some.inj (hv.trans hholds)
    · rw [h.flags e he q hq, hnamed e he]
  · intro h
    refine ⟨?_, fun e he p hp hno => ?_, fun e he q hq => ?_⟩
    · intro e he p hp front l back value hl hline hno
      obtain ⟨w, hw⟩ := Option.isSome_iff_exists.mp
        (holds_isSome lc (htypes e he) value)
      have hlast : lastSome (said lc e) lines = some w :=
        lastSome_eq_some_iff.mpr ⟨front, l, back, hl,
          said_eq_some_iff.mpr ⟨value, hline, hw⟩,
          (not_named_iff lc (htypes e he)).mp hno⟩
      rw [(h e he).1 p hp, hlast, hw]
      rfl
    · rw [(h e he).1 p hp,
        lastSome_eq_none_iff.mpr ((not_named_iff lc (htypes e he)).mp hno)]
      rfl
    · rw [(h e he).2 q hq, hnamed e he]

/-! ## What is read -/

section Reading

variable [DecidableEq Place]

/-- The place that a line sets. -/
def placeSet (table : List (loc_param_s_type Place)) (l : List UInt8) :
    Option Place :=
  (operands (strOf l)).bind (fun r => placeOf table r.1)

/-- The lines up to the one with which as many have set a place as the table
    has entries. -/
def linesUsed (table : List (loc_param_s_type Place))
    (lines : List (List UInt8)) : List (List UInt8) :=
  linesRead (fun l => (placeSet table l).isSome) table.length lines

/-- What a line stores at the place. -/
def stores (lc : Strto Double) (table : List (loc_param_s_type Place))
    (p : Place) (l : List UInt8) : Option (Value Double) :=
  (assign lc table (strOf l)).bind (fun w => if w.1 = p then some w.2 else none)

/-- The flag that a line sets. -/
def flagSet (lc : Strto Double) (table : List (loc_param_s_type Place))
    (l : List UInt8) : Option Place :=
  (setBy lc table (strOf l)).bind (fun w => w.1.param_set)

/-- The lines behind these. -/
def linesLeft (table : List (loc_param_s_type Place))
    (lines : List (List UInt8)) : List (List UInt8) :=
  lines.drop (linesUsed table lines).length

/-- The last line read that sets the place, if there is one, names the
    parameter and has a value. -/
def OwnLast (table : List (loc_param_s_type Place)) (lines : List (List UInt8))
    (e : loc_param_s_type Place) (p : Place) : Prop :=
  ∀ front l back, linesUsed table lines = front ++ l :: back →
    placeSet table l = some p → (∀ l' ∈ back, placeSet table l' ≠ some p) →
    ∃ value, Says (strOf l) e.param_name value

/-- What a file has to be like: no line that is left names a parameter with a
    value; the last line read that sets a parameter's place is one of its own,
    with a value; where a line read sets a parameter's flag, one of its own
    does; and a parameter with a flag but no place is not named. -/
structure AllHeeded (lc : Strto Double) (table : List (loc_param_s_type Place))
    (lines : List (List UInt8)) : Prop where
  read : ∀ e ∈ table, e.param_ptr.isSome = true →
    ¬ Named e (linesLeft table lines)
  own : ∀ e ∈ table, ∀ p, e.param_ptr = some p → OwnLast table lines e p
  flag : ∀ e ∈ table, ∀ q, e.param_set = some q →
    (∃ l ∈ linesUsed table lines, flagSet lc table l = some q) →
    Named e (linesUsed table lines)
  place : ∀ e ∈ table, e.param_set.isSome = true → Named e lines →
    e.param_ptr.isSome = true

/-- No two lines store the same at a place, none stores what it holds already,
    and no two parameters share a flag. -/
structure Apart (lc : Strto Double) (table : List (loc_param_s_type Place))
    (lines : List (List UInt8)) (mem : Memory Place Double) : Prop where
  values : ∀ p, (lines.filterMap (stores lc table p)).Nodup
  old : ∀ p, mem.value p ∉ lines.filterMap (stores lc table p)
  flags : ∀ e ∈ table, ∀ e' ∈ table, ∀ q, e.param_set = some q →
    e'.param_set = some q → e = e'

omit [DecidableEq Place] in
theorem lineSets_eq (lc : Strto Double)
    (table : List (loc_param_s_type Place)) :
    lineSets lc table = fun l => (placeSet table l).isSome := by
  funext l
  rw [lineSets, ← Option.isSome_map (f := Prod.snd), setBy_map_snd,
    ← Option.isSome_map (f := Prod.fst), assign_place, placeSet]

theorem enter_set (mem : Memory Place Double)
    (w : Option (loc_param_s_type Place × Place × Value Double)) (q : Place) :
    (mem.enter w).set q = 1 ↔
      w.bind (fun w => w.1.param_set) = some q ∨ mem.set q = 1 := by
  cases w with
  | none => simp [Memory.enter]
  | some w =>
      show ((mem.store w.2.1 w.2.2).mark w.1.param_set 1).set q = 1 ↔
        w.1.param_set = some q ∨ mem.set q = 1
      cases w.1.param_set with
      | none => simp [Memory.mark, Memory.store]
      | some q' =>
          by_cases hq : q = q'
          · simp [Memory.mark, put, hq]
          · simp [Memory.mark, put, hq, Ne.symm hq, Memory.store]

theorem foldl_enter_set (lc : Strto Double)
    (table : List (loc_param_s_type Place)) (ls : List (List UInt8))
    (mem : Memory Place Double) (q : Place) :
    (ls.foldl (fun mem l => mem.enter (setBy lc table (strOf l))) mem).set q
        = 1 ↔
      (∃ l ∈ ls, flagSet lc table l = some q) ∨ mem.set q = 1 := by
  induction ls generalizing mem with
  | nil => simp
  | cons l ls ih =>
      rw [List.foldl_cons, ih, enter_set, ← or_assoc, List.exists_mem_cons_iff,
        or_comm (a := flagSet lc table l = some q)]
      exact Iff.rfl

/-- The flags of the table are cleared first. -/
theorem clear_set (table : List (loc_param_s_type Place))
    (mem : Memory Place Double) {q : Place}
    (hq : (∃ e ∈ table, e.param_set = some q) ∨ mem.set q = 0) :
    (table.foldl (fun mem e => mem.mark e.param_set 0) mem).set q = 0 := by
  induction table generalizing mem with
  | nil =>
      rcases hq with ⟨e, he, -⟩ | hq
      · cases he
      · exact hq
  | cons e table ih =>
      rw [List.foldl_cons]
      refine ih _ ?_
      rcases hq with ⟨e', he', hq⟩ | hq
      · rcases List.mem_cons.mp he' with rfl | he'
        · refine Or.inr ?_
          rw [hq]
          exact if_pos rfl
        · exact Or.inl ⟨e', he', hq⟩
      · refine Or.inr ?_
        cases e.param_set with
        | none => exact hq
        | some q' =>
            show put mem.set (q', 0) q = 0
            rw [put]
            by_cases hqq : q = q'
            · rw [if_pos hqq]
            · rw [if_neg hqq, hq]

/-- **WHAT IS READ**: a place holds what the last line that was read and sets
    it stores, and a flag is set if such a line was read. -/
theorem read_eq (lc : Strto Double) {table : List (loc_param_s_type Place)}
    (hnames : (table.map loc_param_s_type.param_name).Nodup)
    (hlength : table.length < 2 ^ 32) {file : List UInt8}
    (hshort : ∀ l ∈ rawLines file,
      (chomp l).length < LOC_MAX_PARAM_LINE - 1) (mem : Memory Place Double) :
    (∀ p, (loc_read_conf_r lc table file mem).value p
      = (lastSome (stores lc table p) (linesUsed table (rawLines file))).getD
        (mem.value p)) ∧
    ∀ e ∈ table, ∀ q, e.param_set = some q →
      ((loc_read_conf_r lc table file mem).set q = 1 ↔
        ∃ l ∈ linesUsed table (rawLines file), flagSet lc table l = some q) := by
  have hread : loc_read_conf_r lc table file mem
      = (linesUsed table (rawLines file)).foldl
        (fun mem l => mem.enter (setBy lc table (strOf l)))
        (table.foldl (fun mem e => mem.mark e.param_set 0) mem) := by
    rw [loc_read_conf_r, readLoop_eq lc hnames _ _ _ _ (Nat.lt_succ_self _)
      (fun l hl => length_line_le hl (hshort l hl)),
      UInt32.toNat_ofNat_of_lt' hlength, lineSets_eq, linesUsed]
  rw [hread]
  refine ⟨fun p => ?_, fun e he q hq => ?_⟩
  · rw [value_foldl_enter, clear_value, putAll_eq_lastSome, lastSome_filterMap]
    rfl
  · rw [foldl_enter_set, clear_set table mem (Or.inl ⟨e, he, hq⟩)]
    simp

/-! ## Lines that are heeded -/

omit [DecidableEq Place] in
/-- A line that names the parameter sets its entry. -/
theorem setBy_of_line (lc : Strto Double)
    {table : List (loc_param_s_type Place)}
    (hnames : (table.map loc_param_s_type.param_name).Nodup)
    {e : loc_param_s_type Place} (he : e ∈ table) {p : Place}
    (hp : e.param_ptr = some p) {line value : List UInt8} {v : Value Double}
    (hline : Says line e.param_name value) (hv : holds lc e value = some v) :
    setBy lc table line = some (e, p, v) := by
  have hmine : (entryAssign lc (e.param_name, value) e).map (Prod.mk e)
      = some (e, p, v) := by
    have hv' : valueOf e.param_type (configValue lc (e.param_name, value))
        = some v := hv
    rw [entryAssign, if_pos rfl, hp, hv']
    rfl
  rw [setBy, (says_iff.mp hline).1, Option.bind_some]
  cases hfind : table.findSome?
      (fun e' => (entryAssign lc (e.param_name, value) e').map (Prod.mk e'))
      with
  | none =>
      rw [List.findSome?_eq_none_iff.mp hfind e he] at hmine
      cases hmine
  | some w =>
      obtain ⟨e', he', hw⟩ := List.exists_of_findSome?_eq_some hfind
      obtain ⟨w', hassign, -⟩ := Option.map_eq_some_iff.mp hw
      have hsame : e' = e :=
        List.inj_on_of_nodup_map hnames he' he (entryAssign_name hassign)
      rw [← hw, hsame, hmine]

omit [DecidableEq Place] in
theorem said_setBy {lc : Strto Double}
    {table : List (loc_param_s_type Place)}
    (hnames : (table.map loc_param_s_type.param_name).Nodup)
    {e : loc_param_s_type Place} (he : e ∈ table) {p : Place}
    (hp : e.param_ptr = some p) {l : List UInt8} {v : Value Double}
    (h : said lc e l = some v) : setBy lc table (strOf l) = some (e, p, v) := by
  obtain ⟨value, hline, hv⟩ := said_eq_some_iff.mp h
  exact setBy_of_line lc hnames he hp hline hv

theorem stores_eq (lc : Strto Double) (table : List (loc_param_s_type Place))
    (p : Place) (l : List UInt8) :
    stores lc table p l = (setBy lc table (strOf l)).bind
      (fun w => if w.2.1 = p then some w.2.2 else none) := by
  rw [stores, ← setBy_map_snd]
  cases setBy lc table (strOf l) <;> rfl

/-- What a line says of a parameter it stores at its place. -/
theorem stores_of_said {lc : Strto Double}
    {table : List (loc_param_s_type Place)}
    (hnames : (table.map loc_param_s_type.param_name).Nodup)
    {e : loc_param_s_type Place} (he : e ∈ table) {p : Place}
    (hp : e.param_ptr = some p) {l : List UInt8} {v : Value Double}
    (h : said lc e l = some v) : stores lc table p l = some v := by
  rw [stores_eq, said_setBy hnames he hp h]
  exact if_pos rfl

/-- Only the lines that set the place store there. -/
theorem stores_isSome (lc : Strto Double)
    (table : List (loc_param_s_type Place)) (p : Place) (l : List UInt8) :
    (stores lc table p l).isSome = true ↔ placeSet table l = some p := by
  rw [placeSet, ← assign_place lc, stores]
  cases assign lc table (strOf l) with
  | none => simp
  | some w => by_cases hw : w.1 = p <;> simp [hw]

theorem stores_eq_none {lc : Strto Double}
    {table : List (loc_param_s_type Place)} {p : Place} {l : List UInt8} :
    stores lc table p l = none ↔ placeSet table l ≠ some p := by
  rw [Ne, ← stores_isSome lc table p l, Option.isSome_iff_ne_none, Ne, not_not]

/-- Reading stops, but leaves nothing out before. -/
theorem linesRead_initial (sets : List UInt8 → Bool) (n : Nat)
    (ls : List (List UInt8)) : linesRead sets n ls <+: ls := by
  induction ls generalizing n with
  | nil => cases n <;> exact List.prefix_rfl
  | cons l ls ih =>
      cases n with
      | zero => exact List.nil_prefix
      | succ n =>
          rw [linesRead, List.prefix_cons_inj]
          exact ih _

omit [DecidableEq Place] in
/-- The lines read and those left are the file. -/
theorem used_append_left (table : List (loc_param_s_type Place))
    (lines : List (List UInt8)) :
    linesUsed table lines ++ linesLeft table lines = lines := by
  obtain ⟨rest, hrest⟩ := linesRead_initial
    (fun l => (placeSet table l).isSome) table.length lines
  have hleft : linesLeft table lines = rest := by
    rw [linesLeft, linesUsed]
    exact congrArg (List.drop _) hrest.symm |>.trans List.drop_left
  rw [hleft]
  exact hrest

/-- Where a parameter's lines are heeded, the last of them that says something
    is the last to store at its place. -/
theorem lastSome_of_heeded {lc : Strto Double}
    {table : List (loc_param_s_type Place)}
    (hnames : (table.map loc_param_s_type.param_name).Nodup)
    {e : loc_param_s_type Place} (he : e ∈ table)
    (htype : ValidType e.param_type) {p : Place} (hp : e.param_ptr = some p)
    {lines : List (List UInt8)} (hread : ¬ Named e (linesLeft table lines))
    (hown : OwnLast table lines e p) :
    lastSome (stores lc table p) (linesUsed table lines)
      = lastSome (said lc e) lines := by
  have hleft : lastSome (said lc e) (linesLeft table lines) = none :=
    lastSome_eq_none_iff.mpr ((not_named_iff lc htype).mp hread)
  have hlines : lastSome (said lc e) lines
      = lastSome (said lc e) (linesUsed table lines) := by
    conv_lhs => rw [← used_append_left table lines, lastSome_append, hleft]
    rfl
  -- a line that stores nothing there says nothing of the parameter
  have hnone : ∀ l, stores lc table p l = none → said lc e l = none := by
    intro l hl
    cases hs : said lc e l with
    | none => rfl
    | some v =>
        rw [stores_of_said hnames he hp hs] at hl
        cases hl
  rw [hlines]
  cases hlast : lastSome (stores lc table p) (linesUsed table lines) with
  | none =>
      refine (lastSome_eq_none_iff.mpr fun l hl => ?_).symm
      exact hnone l (lastSome_eq_none_iff.mp hlast l hl)
  | some v =>
      obtain ⟨front, l, back, hused, hv, hback⟩ := lastSome_eq_some_iff.mp hlast
      obtain ⟨value, hline⟩ := hown front l back hused
        ((stores_isSome lc table p l).mp (Option.isSome_of_eq_some hv))
        (fun l' hl' => stores_eq_none.mp (hback l' hl'))
      obtain ⟨w, hw⟩ := Option.isSome_iff_exists.mp
        (holds_isSome lc htype value)
      have hsaid := said_eq_some_iff.mpr ⟨value, hline, hw⟩
      obtain rfl : v = w := by
        rw [stores_of_said hnames he hp hsaid] at hv
        exact (Option.some.inj hv).symm
      exact (lastSome_eq_some_iff.mpr ⟨front, l, back, hused, hsaid,
        fun l' hl' => hnone l' (hback l' hl')⟩).symm

/-- **ENOUGH**: where the lines are heeded, reading leaves the last values. -/
theorem lastValues_of_heeded {lc : Strto Double}
    {table : List (loc_param_s_type Place)}
    (hnames : (table.map loc_param_s_type.param_name).Nodup)
    (htypes : ∀ e ∈ table, ValidType e.param_type)
    (hlength : table.length < 2 ^ 32) {file : List UInt8}
    (hshort : ∀ l ∈ rawLines file,
      (chomp l).length < LOC_MAX_PARAM_LINE - 1) (mem : Memory Place Double)
    (h : AllHeeded lc table (rawLines file)) :
    LastValues lc table (rawLines file) mem
      (loc_read_conf_r lc table file mem) := by
  obtain ⟨hvalue, hset⟩ := read_eq lc hnames hlength hshort mem
  refine (lastValues_iff_lastSome htypes).mpr fun e he =>
    ⟨fun p hp => ?_, fun q hq => ?_⟩
  · rw [hvalue, lastSome_of_heeded hnames he (htypes e he) hp
      (h.read e he (Option.isSome_of_eq_some hp)) (h.own e he p hp)]
  · rw [hset e he q hq]
    constructor
    · intro hflag
      obtain ⟨l, hl, value, hline⟩ := h.flag e he q hq hflag
      obtain ⟨w, hw⟩ := Option.isSome_iff_exists.mp
        (holds_isSome lc (htypes e he) value)
      refine ⟨l, (linesRead_initial _ _ _).subset hl, ?_⟩
      rw [said_eq_some_iff.mpr ⟨value, hline, hw⟩]
      rfl
    · rintro ⟨l, hl, hsaid⟩
      obtain ⟨v, hv⟩ := Option.isSome_iff_exists.mp hsaid
      obtain ⟨value, hline, -⟩ := said_eq_some_iff.mp hv
      have hplace := h.place e he (Option.isSome_of_eq_some hq)
        ⟨l, hl, value, hline⟩
      obtain ⟨p, hp⟩ := Option.isSome_iff_exists.mp hplace
      refine ⟨l, ?_, ?_⟩
      · rw [← used_append_left table (rawLines file)] at hl
        refine (List.mem_append.mp hl).resolve_right fun hleft => ?_
        exact h.read e he hplace ⟨l, hleft, value, hline⟩
      · rw [flagSet, said_setBy hnames he hp hv]
        exact hq

omit [DecidableEq Place] in
/-- The entry that a line sets is one of the table, and has a place. -/
theorem setBy_entry {lc : Strto Double}
    {table : List (loc_param_s_type Place)} {line : List UInt8}
    {w : loc_param_s_type Place × Place × Value Double}
    (h : setBy lc table line = some w) :
    w.1 ∈ table ∧ w.1.param_ptr = some w.2.1 := by
  obtain ⟨r, -, h⟩ := Option.bind_eq_some_iff.mp h
  obtain ⟨e, he, h⟩ := List.exists_of_findSome?_eq_some h
  obtain ⟨u, hassign, rfl⟩ := Option.map_eq_some_iff.mp h
  refine ⟨he, ?_⟩
  have hplace := congrArg (Option.map Prod.fst) hassign
  rw [entryAssign_place] at hplace
  by_cases hc : e.param_name = r.1 ∧
      (e.param_type = 's' ∨ e.param_type = 'n' ∨ e.param_type = 'f')
  · rw [if_pos hc] at hplace
    exact hplace
  · rw [if_neg hc] at hplace
    cases hplace

/-- Two lines that store the same at a place are the same line. -/
theorem Apart.line_unique {lc : Strto Double}
    {table : List (loc_param_s_type Place)} {lines : List (List UInt8)}
    {mem : Memory Place Double} (h : Apart lc table lines mem) {p : Place}
    {l l' : List UInt8} {v : Value Double} (hl : l ∈ lines) (hl' : l' ∈ lines)
    (hv : stores lc table p l = some v) (hv' : stores lc table p l' = some v) :
    l = l' := by
  obtain ⟨front, back, rfl⟩ := List.append_of_mem hl
  obtain ⟨-, hback, hfront⟩ := List.pairwise_append.mp
    (List.pairwise_filterMap.mp (h.values p))
  rcases List.mem_append.mp hl' with hl' | hl'
  · exact absurd rfl (hfront l' hl' l List.mem_cons_self v hv' v hv)
  · rcases List.mem_cons.mp hl' with rfl | hl'
    · rfl
    · exact absurd rfl ((List.pairwise_cons.mp hback).1 l' hl' v hv v hv')

/-- And stand at the same place in the file. -/
theorem Apart.not_left {lc : Strto Double}
    {table : List (loc_param_s_type Place)} {lines : List (List UInt8)}
    {mem : Memory Place Double} (h : Apart lc table lines mem) {p : Place}
    {l l' : List UInt8} {v : Value Double} (hl : l ∈ linesUsed table lines)
    (hl' : l' ∈ linesLeft table lines) (hv : stores lc table p l = some v)
    (hv' : stores lc table p l' = some v) : False := by
  have hpair := h.values p
  rw [← used_append_left table lines] at hpair
  exact (List.pairwise_append.mp (List.pairwise_filterMap.mp hpair)).2.2
    l hl l' hl' v hv v hv' rfl

/-- What the lines read store at the place of an entry is what the file says
    of it last. -/
def ReadSays (lc : Strto Double) (table : List (loc_param_s_type Place))
    (lines : List (List UInt8)) : Prop :=
  ∀ e ∈ table, ∀ p, e.param_ptr = some p →
    lastSome (stores lc table p) (linesUsed table lines)
      = lastSome (said lc e) lines

/-- If the last values are left, the lines read store them: no other line
    stores what was there before. -/
theorem readSays_of_lastValues {lc : Strto Double}
    {table : List (loc_param_s_type Place)}
    (hnames : (table.map loc_param_s_type.param_name).Nodup)
    (htypes : ∀ e ∈ table, ValidType e.param_type)
    {lines : List (List UInt8)} {mem after : Memory Place Double}
    (hapart : Apart lc table lines mem)
    (hvalue : ∀ p, after.value p
      = (lastSome (stores lc table p) (linesUsed table lines)).getD
          (mem.value p))
    (h : LastValues lc table lines mem after) : ReadSays lc table lines := by
  have hlast := (lastValues_iff_lastSome htypes).mp h
  have hsub : linesUsed table lines ⊆ lines :=
    (linesRead_initial _ _ _).subset
  intro e he p hp
  have hval := (hlast e he).1 p hp
  rw [hvalue] at hval
  cases hs : lastSome (stores lc table p) (linesUsed table lines) with
  | none =>
      cases hm : lastSome (said lc e) lines with
      | none => rfl
      | some w =>
          rw [hs, hm] at hval
          obtain ⟨front, l, back, hl, hw, -⟩ := lastSome_eq_some_iff.mp hm
          refine absurd (List.mem_filterMap.mpr ⟨l, ?_, ?_⟩) (hapart.old p)
          · rw [hl]
            exact List.mem_append_right _ List.mem_cons_self
          · rw [stores_of_said hnames he hp hw]
            exact congrArg some hval.symm
  | some v =>
      cases hm : lastSome (said lc e) lines with
      | none =>
          rw [hs, hm] at hval
          obtain ⟨front, l, back, hl, hv, -⟩ := lastSome_eq_some_iff.mp hs
          refine absurd (List.mem_filterMap.mpr ⟨l, hsub ?_, ?_⟩)
            (hapart.old p)
          · rw [hl]
            exact List.mem_append_right _ List.mem_cons_self
          · rw [hv]
            exact congrArg some hval
      | some w =>
          rw [hs, hm] at hval
          exact congrArg some hval

/-- Then no line that is left names an entry: it would say what the last line
    read stores. -/
theorem ReadSays.not_left {lc : Strto Double}
    {table : List (loc_param_s_type Place)}
    (hnames : (table.map loc_param_s_type.param_name).Nodup)
    (htypes : ∀ e ∈ table, ValidType e.param_type)
    {lines : List (List UInt8)} {mem : Memory Place Double}
    (hapart : Apart lc table lines mem) (h : ReadSays lc table lines)
    {e : loc_param_s_type Place} (he : e ∈ table)
    (hptr : e.param_ptr.isSome = true) : ¬ Named e (linesLeft table lines) := by
  obtain ⟨p, hp⟩ := Option.isSome_iff_exists.mp hptr
  refine (not_named_iff lc (htypes e he)).mpr
    (lastSome_eq_none_iff.mp (Option.eq_none_iff_forall_ne_some.mpr
      fun w hw => ?_))
  obtain ⟨front', l', back', hl', hw', -⟩ := lastSome_eq_some_iff.mp hw
  have hall : lastSome (said lc e) lines = some w := by
    rw [← used_append_left table lines, lastSome_append, hw]
    rfl
  obtain ⟨front, l, back, hl, hv, -⟩ := lastSome_eq_some_iff.mp
    ((h e he p hp).trans hall)
  have hmem : l ∈ linesUsed table lines := by
    rw [hl]
    exact List.mem_append_right _ List.mem_cons_self
  have hmem' : l' ∈ linesLeft table lines := by
    rw [hl']
    exact List.mem_append_right _ List.mem_cons_self
  exact hapart.not_left hmem hmem' hv (stores_of_said hnames he hp hw')

/-- And the last line read that sets a place has the name of its entry. -/
theorem ReadSays.own {lc : Strto Double}
    {table : List (loc_param_s_type Place)}
    (hnames : (table.map loc_param_s_type.param_name).Nodup)
    {lines : List (List UInt8)} {mem : Memory Place Double}
    (hapart : Apart lc table lines mem) (h : ReadSays lc table lines)
    {e : loc_param_s_type Place} (he : e ∈ table) {p : Place}
    (hp : e.param_ptr = some p) : OwnLast table lines e p := by
  intro front l back hused hplace hback
  have hsub : linesUsed table lines ⊆ lines :=
    (linesRead_initial _ _ _).subset
  obtain ⟨v, hv⟩ := Option.isSome_iff_exists.mp
    ((stores_isSome lc table p l).mpr hplace)
  have hstored := lastSome_eq_some_iff.mpr ⟨front, l, back, hused, hv,
    fun l' hl' => stores_eq_none.mpr (hback l' hl')⟩
  obtain ⟨front', l', back', hl', hw', -⟩ := lastSome_eq_some_iff.mp
    ((h e he p hp).symm.trans hstored)
  obtain ⟨value, hline, -⟩ := said_eq_some_iff.mp hw'
  have hsame : l = l' := by
    refine hapart.line_unique (hsub ?_) ?_ hv
      (stores_of_said hnames he hp hw')
    · rw [hused]
      exact List.mem_append_right _ List.mem_cons_self
    · rw [hl']
      exact List.mem_append_right _ List.mem_cons_self
  exact ⟨value, hsame ▸ hline⟩

/-- An entry whose flag a line read sets has a place. -/
theorem Apart.isSome_of_flag {lc : Strto Double}
    {table : List (loc_param_s_type Place)} {lines : List (List UInt8)}
    {mem : Memory Place Double} (hapart : Apart lc table lines mem)
    {e : loc_param_s_type Place} (he : e ∈ table) {q : Place}
    (hq : e.param_set = some q)
    (hset : ∃ l ∈ linesUsed table lines, flagSet lc table l = some q) :
    e.param_ptr.isSome = true := by
  obtain ⟨l, -, hl⟩ := hset
  obtain ⟨w, hw, hwq⟩ := Option.bind_eq_some_iff.mp hl
  obtain ⟨hmem, hptr⟩ := setBy_entry hw
  obtain rfl := hapart.flags _ hmem _ he q hwq hq
  exact Option.isSome_of_eq_some hptr

/-- **EXACT**: where no two lines say the same, reading leaves the last values
    only if they are heeded. -/
theorem heeded_of_lastValues {lc : Strto Double}
    {table : List (loc_param_s_type Place)}
    (hnames : (table.map loc_param_s_type.param_name).Nodup)
    (htypes : ∀ e ∈ table, ValidType e.param_type)
    (hlength : table.length < 2 ^ 32) {file : List UInt8}
    (hshort : ∀ l ∈ rawLines file,
      (chomp l).length < LOC_MAX_PARAM_LINE - 1) {mem : Memory Place Double}
    (hapart : Apart lc table (rawLines file) mem)
    (h : LastValues lc table (rawLines file) mem
      (loc_read_conf_r lc table file mem)) :
    AllHeeded lc table (rawLines file) := by
  obtain ⟨hvalue, hset⟩ := read_eq lc hnames hlength hshort mem
  have hsays := readSays_of_lastValues hnames htypes hapart hvalue h
  refine ⟨fun e he => hsays.not_left hnames htypes hapart he,
    fun e he p hp => hsays.own hnames hapart he hp, ?_, ?_⟩
  · intro e he q hq hflag
    have hptr := hapart.isSome_of_flag he hq hflag
    obtain ⟨l, hl, value, hline⟩ :=
      (h.flags e he q hq).mp ((hset e he q hq).mpr hflag)
    rw [← used_append_left table (rawLines file)] at hl
    exact ⟨l, (List.mem_append.mp hl).resolve_right fun hleft =>
      hsays.not_left hnames htypes hapart he hptr ⟨l, hleft, value, hline⟩,
      value, hline⟩
  · intro e he hq hnamed
    obtain ⟨q, hq⟩ := Option.isSome_iff_exists.mp hq
    exact hapart.isSome_of_flag he hq
      ((hset e he q hq).mp ((h.flags e he q hq).mpr hnamed))

/-- **THE LAST VALUES** are what reading leaves where the lines are heeded, and
    nowhere else but where lines say the same. -/
theorem last_values_heeded (lc : Strto Double)
    (table : List (loc_param_s_type Place))
    (hnames : (table.map loc_param_s_type.param_name).Nodup)
    (htypes : ∀ e ∈ table, ValidType e.param_type)
    (hlength : table.length < 2 ^ 32) (file : List UInt8)
    (hshort : ∀ l ∈ rawLines file,
      (chomp l).length < LOC_MAX_PARAM_LINE - 1) (mem : Memory Place Double) :
    (AllHeeded lc table (rawLines file) →
      LastValues lc table (rawLines file) mem
        (loc_read_conf_r lc table file mem)) ∧
    (Apart lc table (rawLines file) mem →
      LastValues lc table (rawLines file) mem
        (loc_read_conf_r lc table file mem) →
      AllHeeded lc table (rawLines file)) :=
  ⟨lastValues_of_heeded hnames htypes hlength hshort mem,
    heeded_of_lastValues hnames htypes hlength hshort⟩

/-! ## Files of few lines -/

/-- Every parameter has a place, and shares neither that nor its flag. -/
structure OwnPlaces (table : List (loc_param_s_type Place)) : Prop where
  ptr_isSome : ∀ e ∈ table, e.param_ptr.isSome = true
  ptr_inj : ∀ e ∈ table, ∀ e' ∈ table, e.param_ptr = e'.param_ptr → e = e'
  set_inj : ∀ e ∈ table, ∀ e' ∈ table, ∀ q, e.param_set = some q →
    e'.param_set = some q → e = e'

/-- **FEW LINES**: where every line that names a parameter has a value, and no
    more do than the table has entries, all are heeded. -/
theorem allHeeded_of_few (lc : Strto Double)
    {table : List (loc_param_s_type Place)} (hown : OwnPlaces table)
    {lines : List (List UInt8)}
    (hnames : (table.map loc_param_s_type.param_name).Nodup)
    (htypes : ∀ e ∈ table, ValidType e.param_type)
    (hvalues : ∀ l ∈ lines, ∀ r ∈ operands (strOf l),
      r.2.all isspace = false)
    (hfew : (lines.filterMap (placeSet table)).length ≤ table.length) :
    AllHeeded lc table lines := by
  have hsub : linesUsed table lines ⊆ lines :=
    (linesRead_initial _ _ _).subset
  -- as many lines set a place among those read as in the file
  have hleft : (linesLeft table lines).filterMap (placeSet table) = [] := by
    have hused : (linesUsed table lines).filterMap (placeSet table)
        = lines.filterMap (placeSet table) := by
      rw [linesUsed, filterMap_linesRead, List.take_of_length_le hfew]
    have hall := congrArg (List.filterMap (placeSet table))
      (used_append_left table lines)
    rw [List.filterMap_append, hused] at hall
    exact List.append_right_eq_self.mp hall
  refine ⟨?_, ?_, ?_, fun e he _ _ => hown.ptr_isSome e he⟩
  · rintro e he hptr ⟨l, hl, value, hline⟩
    obtain ⟨p, hp⟩ := Option.isSome_iff_exists.mp hptr
    obtain ⟨v, hv⟩ := Option.isSome_iff_exists.mp
      (holds_isSome lc (htypes e he) value)
    have hstores := stores_of_said hnames he hp
      (said_eq_some_iff.mpr ⟨value, hline, hv⟩)
    have hset := (stores_isSome lc table p l).mp
      (Option.isSome_of_eq_some hstores)
    rw [List.filterMap_eq_nil_iff.mp hleft l hl] at hset
    cases hset
  · intro e he p hp front l back hused hplace _
    have hl : l ∈ lines := by
      refine hsub ?_
      rw [hused]
      exact List.mem_append_right _ List.mem_cons_self
    obtain ⟨r, hop, hr⟩ := Option.bind_eq_some_iff.mp hplace
    obtain ⟨e', he', hname, hptr⟩ := placeOf_entry hr
    obtain rfl := hown.ptr_inj e' he' e he (hptr.trans hp.symm)
    exact ⟨r.2, says_iff.mpr ⟨hname ▸ hop, hvalues l hl r hop⟩⟩
  · rintro e he q hq ⟨l, hl, hflag⟩
    obtain ⟨w, hw, hwq⟩ := Option.bind_eq_some_iff.mp hflag
    obtain ⟨r, hop, hfind⟩ := Option.bind_eq_some_iff.mp hw
    obtain ⟨hmem, -⟩ := setBy_entry hw
    obtain rfl := hown.set_inj _ hmem _ he q hwq hq
    obtain ⟨e', -, he'⟩ := List.exists_of_findSome?_eq_some hfind
    obtain ⟨u, hassign, rfl⟩ := Option.map_eq_some_iff.mp he'
    refine ⟨l, hl, r.2, says_iff.mpr ⟨?_, hvalues l (hsub hl) r hop⟩⟩
    rw [entryAssign_name hassign]
    exact hop

end Reading

/-! ## A key that comes twice -/

/-- The numbers `A`, which has a flag, and `B`. -/
def tableOfTwo : List (loc_param_s_type Bool) :=
  [⟨[65], some false, some false, 'n'⟩, ⟨[66], some true, none, 'n'⟩]

/-- Both are 0. -/
def zeros : Memory Bool UInt32 := ⟨fun _ => .n 0, fun _ => 0⟩

/-- From `"A=1\nA=2\nB=3\n"` the number `B` is not read. -/
theorem second_key_unread :
    ¬ LastValues decimal tableOfTwo
      (rawLines [65, 61, 49, 10, 65, 61, 50, 10, 66, 61, 51, 10]) zeros
      (loc_read_conf_r decimal tableOfTwo
        [65, 61, 49, 10, 65, 61, 50, 10, 66, 61, 51, 10] zeros) := by
  intro h
  have hline : Says (strOf [66, 61, 51, 10]) [66] [51] :=
    says_iff.mpr (by decide)
  have hnone : ¬ Named (⟨[66], some true, none, 'n'⟩ :
      loc_param_s_type Bool) [] := by
    rintro ⟨l, hl, -⟩
    cases hl
  have hB := h.named ⟨[66], some true, none, 'n'⟩ (by decide) true rfl
    [[65, 61, 49, 10], [65, 61, 50, 10]] [66, 61, 51, 10] [] [51] rfl hline hnone
  revert hB
  decide +kernel

/-- From `"A=1\n#A=5\nB = 3"` both are read, and no two lines say the same. -/
theorem last_values_two :
    Apart decimal tableOfTwo
      (rawLines [65, 61, 49, 10, 35, 65, 61, 53, 10, 66, 32, 61, 32, 51])
      zeros ∧
    LastValues decimal tableOfTwo
      (rawLines [65, 61, 49, 10, 35, 65, 61, 53, 10, 66, 32, 61, 32, 51])
      zeros
      (loc_read_conf_r decimal tableOfTwo
        [65, 61, 49, 10, 35, 65, 61, 53, 10, 66, 32, 61, 32, 51] zeros) := by
  have hown : OwnPlaces tableOfTwo := ⟨by decide, by decide, by decide⟩
  refine ⟨⟨by decide +kernel, by decide +kernel, by decide⟩, ?_⟩
  refine (last_values_heeded decimal tableOfTwo (by decide) (by decide)
    (by decide) [65, 61, 49, 10, 35, 65, 61, 53, 10, 66, 32, 61, 32, 51]
    (by decide) zeros).1 ?_
  exact allHeeded_of_few decimal hown (by decide) (by decide) (by decide)
    (by decide)

end QcomLocCfg
