import QcomCommon.AssignProofs
import QcomCommon.CStringProofs
import Mathlib.Data.List.DropRight
import Mathlib.Data.List.Perm.Subperm
import Mathlib.Algebra.Group.Nat.Defs

/-! # Configuration tables and the two readers of a configuration

    `loc_cfg.cpp`: a table maps parameter names to places and types.
    `loc_fill_conf_item` sets the entries a line names, `loc_read_conf_r`
    does so for the lines of a file and `loc_update_conf` for the lines of a
    text.

    With pairwise distinct names a line sets one entry at most
    (`fill_spec`), so each reader is a sequence of assignments:
    `read_assigns` and `update_assigns`. -/

namespace QcomLocCfg

open QcomAssign
open QcomCString (strOf)

/-! ## Strings

    A C string is the bytes before its NUL. -/

/-- The end of a string. -/
def NUL : UInt8 := 0

/-- The end of a line. -/
def NEWLINE : UInt8 := 10

/-- The `=` of a configuration line. -/
def EQ : UInt8 := 61

/-- `isspace` of C. -/
def isspace (c : UInt8) : Bool := c == 32 || (9 ≤ c && c ≤ 13)

/-- `strtok_r(s, delim, &saveptr)` with one delimiter: the token and the
    string `saveptr` is left at. -/
def strtok_r (delim : UInt8) (s : List UInt8) :
    Option (List UInt8 × List UInt8) :=
  match s.dropWhile (· == delim) with
  | [] => none
  | c :: t =>
      some ((c :: t).takeWhile (· != delim),
        ((c :: t).dropWhile (· != delim)).drop 1)

/-- `loc_util_trim_space`.  A string of white space alone has no last
    character to cut after, and stays as it is. -/
def loc_util_trim_space (s : List UInt8) : List UInt8 :=
  if s.all isspace then s else (s.dropWhile isspace).rdropWhile isspace

/-- What the C library makes of a string that stands for a number: `atoi`,
    `strtol` to base 16 and `atof`, the integers as they are stored in an
    `int`.  White space is no number. -/
structure Strto (Double : Type) where
  atoi : List UInt8 → UInt32
  strtol16 : List UInt8 → UInt32
  atof : List UInt8 → Double
  zero : Double
  atoi_blank : ∀ s, s.all isspace = true → atoi s = 0
  atof_blank : ∀ s, s.all isspace = true → atof s = zero

/-! ## Tables -/

/-- The bytes of a name. -/
def LOC_MAX_PARAM_NAME : Nat := 80

/-- The bytes of a string. -/
def LOC_MAX_PARAM_STRING : Nat := 80

/-- The bytes of a line. -/
def LOC_MAX_PARAM_LINE : Nat := LOC_MAX_PARAM_NAME + LOC_MAX_PARAM_STRING

/-- What is stored at a place: a number, a string or a double. -/
inductive Value (Double : Type) where
  | n (value : UInt32)
  | s (value : List UInt8)
  | f (value : Double)
deriving DecidableEq, Repr

/-- An entry of a table; `param_type` is a character. -/
structure loc_param_s_type (Place : Type) where
  param_name : List UInt8
  param_ptr : Option Place
  param_set : Option Place
  param_type : Char
deriving DecidableEq, Repr

/-- The places of a table and its validity flags. -/
structure Memory (Place Double : Type) where
  value : Place → Value Double
  set : Place → UInt8

/-- What a line says. -/
structure loc_param_v_type (Double : Type) where
  param_name : List UInt8
  param_str_value : List UInt8
  param_int_value : UInt32
  param_double_value : Double

variable {Place Double : Type} [DecidableEq Place]

/-- `*p = 1` for a flag, if there is one. -/
def Memory.mark (mem : Memory Place Double) (p : Option Place) (b : UInt8) :
    Memory Place Double :=
  match p with
  | some p => { mem with set := put mem.set (p, b) }
  | none => mem

/-- A place has the value now. -/
def Memory.store (mem : Memory Place Double) (p : Place) (v : Value Double) :
    Memory Place Double :=
  { mem with value := put mem.value (p, v) }

/-- `"NULL"`. -/
def nullString : List UInt8 := [78, 85, 76, 76]

/-- What an entry of the type stores, if there is such a type. -/
def valueOf (param_type : Char) (config_value : loc_param_v_type Double) :
    Option (Value Double) :=
  if param_type = 's' then
    some (.s (if config_value.param_str_value = nullString then []
      else config_value.param_str_value.take LOC_MAX_PARAM_STRING))
  else if param_type = 'n' then some (.n config_value.param_int_value)
  else if param_type = 'f' then some (.f config_value.param_double_value)
  else none

/-- `loc_set_config_entry`: whether it returns 0, and the memory. -/
def loc_set_config_entry (config_entry : loc_param_s_type Place)
    (config_value : loc_param_v_type Double) (mem : Memory Place Double) :
    Bool × Memory Place Double :=
  if config_entry.param_name = config_value.param_name then
    match config_entry.param_ptr, valueOf config_entry.param_type config_value
      with
    | some p, some v => (true, (mem.store p v).mark config_entry.param_set 1)
    | _, _ => (false, mem)
  else (false, mem)

/-- The name and the value of a line, trimmed. -/
def operands (input_buf : List UInt8) : Option (List UInt8 × List UInt8) :=
  (strtok_r EQ input_buf).bind (fun r =>
    (strtok_r EQ r.2).map (fun r' =>
      (loc_util_trim_space r.1, loc_util_trim_space r'.1)))

/-- A number in the notation `0x`. -/
def isHex : List UInt8 → Bool
  | c :: x :: _ :: _ => c == 48 && (x == 120 || x == 88)
  | _ => false

/-- `config_value` for the operands; the double of a hexadecimal number is
    what `memset` left. -/
def configValue (lc : Strto Double) (r : List UInt8 × List UInt8) :
    loc_param_v_type Double :=
  if isHex r.2 then ⟨r.1, r.2, lc.strtol16 (r.2.drop 2), lc.zero⟩
  else ⟨r.1, r.2, lc.atoi r.2, lc.atof r.2⟩

/-- `loc_fill_conf_item`: the memory, and how many entries were set. -/
def loc_fill_conf_item (lc : Strto Double)
    (config_table : List (loc_param_s_type Place)) (input_buf : List UInt8)
    (mem : Memory Place Double) : Memory Place Double × UInt32 :=
  match operands input_buf with
  | some r =>
      config_table.foldl (fun acc e =>
        let set := loc_set_config_entry e (configValue lc r) acc.1
        (set.2, if set.1 then acc.2 + 1 else acc.2)) (mem, 0)
  | none => (mem, 0)

/-! ## The readers -/

/-- As many bytes as fit, up to and with the first newline. -/
def takeLine : Nat → List UInt8 → List UInt8 × List UInt8
  | 0, s => ([], s)
  | _ + 1, [] => ([], [])
  | n + 1, c :: s =>
      if c = NEWLINE then ([c], s)
      else (c :: (takeLine n s).1, (takeLine n s).2)

/-- `fgets(buf, n, fp)`, with the rest of the file. -/
def fgets (n : Nat) (file : List UInt8) : Option (List UInt8 × List UInt8) :=
  if file = [] then none else some (takeLine (n - 1) file)

/-- The loop of `loc_read_conf_r`.  Every line is a byte at least, so one
    round more than the file has bytes is enough. -/
def readLoop (lc : Strto Double) (config_table : List (loc_param_s_type Place)) :
    Nat → UInt32 → List UInt8 → Memory Place Double → Memory Place Double
  | 0, _, _, mem => mem
  | rounds + 1, num_params, file, mem =>
      if num_params = 0 then mem
      else match fgets LOC_MAX_PARAM_LINE file with
        | none => mem
        | some (input_buf, file) =>
            let r := loc_fill_conf_item lc config_table (strOf input_buf) mem
            readLoop lc config_table rounds (num_params - r.2) file r.1

/-- `loc_read_conf_r` of a file. -/
def loc_read_conf_r (lc : Strto Double)
    (config_table : List (loc_param_s_type Place)) (file : List UInt8)
    (mem : Memory Place Double) : Memory Place Double :=
  let mem := config_table.foldl (fun mem e => mem.mark e.param_set 0) mem
  readLoop lc config_table (file.length + 1)
    (UInt32.ofNat config_table.length) file mem

/-- The loop of `loc_update_conf`: the lines it saw, and the memory. -/
def updateLoop (lc : Strto Double)
    (config_table : List (loc_param_s_type Place)) :
    Nat → UInt32 → Option (List UInt8 × List UInt8) → Int →
    Memory Place Double → Int × Memory Place Double
  | 0, _, _, ret, mem => (ret, mem)
  | rounds + 1, num_params, line, ret, mem =>
      match line with
      | none => (ret, mem)
      | some (input_buf, saveptr) =>
          if num_params = 0 then (ret, mem)
          else
            let r := loc_fill_conf_item lc config_table input_buf mem
            updateLoop lc config_table rounds (num_params - r.2)
              (strtok_r NEWLINE saveptr) (ret + 1) r.1

/-- `loc_update_conf` of `length` bytes of the text.  `memory` is whether
    `malloc` finds memory for the copy, a C string. -/
def loc_update_conf (lc : Strto Double) (memory : Bool)
    (conf_data : List UInt8) (length : Nat)
    (config_table : List (loc_param_s_type Place))
    (mem : Memory Place Double) : Int × Memory Place Double :=
  if length = 0 ∨ config_table = [] ∨ memory = false then (-1, mem)
  else
    let conf_copy := (conf_data.take length).takeWhile (· != NUL)
    -- start with one record off
    updateLoop lc config_table (conf_copy.length + 1)
      (UInt32.ofNat config_table.length - 1) (strtok_r NEWLINE conf_copy) 0 mem

/-! ## One line -/

/-- A table with at least one entry, whose names are pairwise distinct. -/
structure Table (Place : Type) where
  entries : List (loc_param_s_type Place)
  ne_nil : entries ≠ []
  names_nodup : (entries.map loc_param_s_type.param_name).Nodup
  lt_range : entries.length < 2 ^ 32

/-- The assignment of an entry for the operands of a line. -/
def entryAssign (lc : Strto Double) (r : List UInt8 × List UInt8)
    (e : loc_param_s_type Place) : Option (Place × Value Double) :=
  if e.param_name = r.1 then
    match e.param_ptr, valueOf e.param_type (configValue lc r) with
    | some p, some v => some (p, v)
    | _, _ => none
  else none

/-- The assignment of a line: that of the first entry that makes one. -/
def assign (lc : Strto Double) (table : List (loc_param_s_type Place))
    (input_buf : List UInt8) : Option (Place × Value Double) :=
  (operands input_buf).bind (fun r => table.findSome? (entryAssign lc r))

omit [DecidableEq Place] in
/-- The name is the first operand. -/
theorem configValue_name (lc : Strto Double) (r : List UInt8 × List UInt8) :
    (configValue lc r).param_name = r.1 := by
  rw [configValue]
  split <;> rfl

/-- An entry is set if the line has a value for it. -/
theorem setEntry_eq (lc : Strto Double) (r : List UInt8 × List UInt8)
    (e : loc_param_s_type Place) (mem : Memory Place Double) :
    loc_set_config_entry e (configValue lc r) mem
      = match entryAssign lc r e with
        | some (p, v) => (true, (mem.store p v).mark e.param_set 1)
        | none => (false, mem) := by
  rw [loc_set_config_entry, entryAssign, configValue_name]
  by_cases hn : e.param_name = r.1
  · rw [if_pos hn, if_pos hn]
    cases e.param_ptr with
    | none => rfl
    | some p =>
        cases valueOf e.param_type (configValue lc r) with
        | none => rfl
        | some v => rfl
  · rw [if_neg hn, if_neg hn]

/-- The flags do not touch the places. -/
@[simp] theorem mark_value (mem : Memory Place Double) (p : Option Place)
    (b : UInt8) : (mem.mark p b).value = mem.value := by
  cases p <;> rfl

omit [DecidableEq Place] in
/-- A line sets entries of its name. -/
theorem entryAssign_name {lc : Strto Double} {r : List UInt8 × List UInt8}
    {e : loc_param_s_type Place} {w : Place × Value Double}
    (h : entryAssign lc r e = some w) : e.param_name = r.1 := by
  rw [entryAssign] at h
  by_contra hn
  rw [if_neg hn] at h
  cases h

/-- One round of the loop over the table. -/
def fillStep (lc : Strto Double) (r : List UInt8 × List UInt8)
    (acc : Memory Place Double × UInt32) (e : loc_param_s_type Place) :
    Memory Place Double × UInt32 :=
  let set := loc_set_config_entry e (configValue lc r) acc.1
  (set.2, if set.1 then acc.2 + 1 else acc.2)

/-- Entries of other names leave everything as it is. -/
theorem fillStep_others {lc : Strto Double} {r : List UInt8 × List UInt8}
    {l : List (loc_param_s_type Place)}
    (h : ∀ e ∈ l, entryAssign lc r e = none)
    (acc : Memory Place Double × UInt32) :
    l.foldl (fillStep lc r) acc = acc := by
  induction l with
  | nil => rfl
  | cons e l ih =>
      have he : fillStep lc r acc e = acc := by
        rw [fillStep, setEntry_eq, h e List.mem_cons_self]
        rfl
      rw [List.foldl_cons, he]
      exact ih (fun e' he' => h e' (List.mem_cons_of_mem e he'))

/-- The entry a line sets, with its assignment. -/
def setBy (lc : Strto Double) (table : List (loc_param_s_type Place))
    (input_buf : List UInt8) :
    Option (loc_param_s_type Place × Place × Value Double) :=
  (operands input_buf).bind (fun r =>
    table.findSome? (fun e => (entryAssign lc r e).map (Prod.mk e)))

omit [DecidableEq Place] in
/-- The place and the value that a line sets. -/
theorem setBy_map_snd (lc : Strto Double)
    (table : List (loc_param_s_type Place)) (input_buf : List UInt8) :
    (setBy lc table input_buf).map Prod.snd = assign lc table input_buf := by
  rw [setBy, assign]
  cases operands input_buf with
  | none => rfl
  | some r =>
      show (table.findSome? fun e => (entryAssign lc r e).map (Prod.mk e)).map
        Prod.snd = table.findSome? (entryAssign lc r)
      rw [List.map_findSome?]
      refine congrArg (fun f => table.findSome? f) (funext fun e => ?_)
      rw [Function.comp_apply]
      cases entryAssign lc r e <;> rfl

/-- What a line does to the memory. -/
def Memory.enter (mem : Memory Place Double) :
    Option (loc_param_s_type Place × Place × Value Double) →
    Memory Place Double
  | none => mem
  | some w => (mem.store w.2.1 w.2.2).mark w.1.param_set 1

/-- **ONE LINE** sets the entry it names, and counts one. -/
theorem fill_eq (lc : Strto Double) {table : List (loc_param_s_type Place)}
    (hnames : (table.map loc_param_s_type.param_name).Nodup)
    (input_buf : List UInt8) (mem : Memory Place Double) :
    loc_fill_conf_item lc table input_buf mem
      = (mem.enter (setBy lc table input_buf),
          if (setBy lc table input_buf).isSome then 1 else 0) := by
  rw [loc_fill_conf_item, setBy]
  cases operands input_buf with
  | none => rfl
  | some r =>
      show table.foldl (fillStep lc r) (mem, 0) = (mem.enter
          (table.findSome? fun e => (entryAssign lc r e).map (Prod.mk e)), _)
      rw [Option.bind_some]
      induction table with
      | nil => rfl
      | cons e l ih =>
          rw [List.map_cons, List.nodup_cons] at hnames
          cases he : entryAssign lc r e with
          | none =>
              have hstep : fillStep lc r (mem, 0) e = (mem, 0) := by
                rw [fillStep, setEntry_eq, he]
                rfl
              rw [List.foldl_cons, hstep, List.findSome?_cons, he]
              exact ih hnames.2
          | some w =>
              -- no other entry has the name
              have hothers : ∀ e' ∈ l, entryAssign lc r e' = none := by
                intro e' he'
                by_contra hsome
                obtain ⟨w', hw'⟩ := Option.ne_none_iff_exists'.mp hsome
                refine hnames.1 ?_
                rw [entryAssign_name he, ← entryAssign_name hw']
                exact List.mem_map_of_mem he'
              have hstep : fillStep lc r (mem, 0) e
                  = ((mem.store w.1 w.2).mark e.param_set 1, 1) := by
                rw [fillStep, setEntry_eq, he]
                rfl
              rw [List.foldl_cons, hstep, fillStep_others hothers,
                List.findSome?_cons, he]
              rfl

/-- The values behind a line. -/
theorem enter_value (mem : Memory Place Double)
    (w : Option (loc_param_s_type Place × Place × Value Double)) :
    (mem.enter w).value = putAll mem.value (w.map Prod.snd).toList := by
  cases w with
  | none => rfl
  | some w => exact mark_value _ _ _

/-- A line sets the place of the entry it names. -/
theorem fill_spec (lc : Strto Double) (table : Table Place)
    (input_buf : List UInt8) (mem : Memory Place Double) :
    (loc_fill_conf_item lc table.entries input_buf mem).1.value
        = putAll mem.value (assign lc table.entries input_buf).toList ∧
      (loc_fill_conf_item lc table.entries input_buf mem).2
        = if (assign lc table.entries input_buf).isSome then 1 else 0 := by
  rw [fill_eq lc table.names_nodup, enter_value, ← setBy_map_snd]
  refine ⟨rfl, ?_⟩
  rw [Option.isSome_map]

/-! ## Lines -/

/-- The lines of a text, each with its newline if it has one. -/
def rawLines : List UInt8 → List (List UInt8)
  | [] => []
  | c :: s =>
      if c = NEWLINE then [c] :: rawLines s
      else match rawLines s with
        | [] => [[c]]
        | l :: ls => (c :: l) :: ls

/-- A line without its newline. -/
def chomp (l : List UInt8) : List UInt8 := l.takeWhile (· != NEWLINE)

/-- The first line, with its newline. -/
def firstLine (s : List UInt8) : List UInt8 :=
  s.takeWhile (· != NEWLINE) ++ (s.dropWhile (· != NEWLINE)).take 1

/-- The lines behind it. -/
def otherLines (s : List UInt8) : List UInt8 :=
  (s.dropWhile (· != NEWLINE)).drop 1

/-- A newline is a line of its own. -/
theorem line_cons_newline (s : List UInt8) :
    firstLine (NEWLINE :: s) = [NEWLINE] ∧ otherLines (NEWLINE :: s) = s := by
  constructor <;> simp [firstLine, otherLines]

/-- Another character belongs to the first line. -/
theorem line_cons_other {c : UInt8} (h : c ≠ NEWLINE) (s : List UInt8) :
    firstLine (c :: s) = c :: firstLine s ∧
      otherLines (c :: s) = otherLines s := by
  constructor <;> simp [firstLine, otherLines, h]

/-- The first line and the others. -/
theorem rawLines_eq {s : List UInt8} (h : s ≠ []) :
    rawLines s = firstLine s :: rawLines (otherLines s) := by
  induction s with
  | nil => exact absurd rfl h
  | cons c s ih =>
      by_cases hc : c = NEWLINE
      · subst hc
        rw [rawLines, if_pos rfl, (line_cons_newline s).1,
          (line_cons_newline s).2]
      · rw [rawLines, if_neg hc, (line_cons_other hc s).1,
          (line_cons_other hc s).2]
        cases s with
        | nil => rfl
        | cons d s => rw [ih (List.cons_ne_nil d s)]

/-- A line that fits the buffer is read whole. -/
theorem takeLine_eq {n : Nat} {s : List UInt8}
    (h : (firstLine s).length ≤ n) :
    takeLine n s = (firstLine s, otherLines s) := by
  induction s generalizing n with
  | nil => cases n <;> rfl
  | cons c s ih =>
      by_cases hc : c = NEWLINE
      · subst hc
        rw [(line_cons_newline s).1] at h ⊢
        rw [(line_cons_newline s).2]
        cases n with
        | zero => cases h
        | succ n => rw [takeLine, if_pos rfl]
      · rw [(line_cons_other hc s).1] at h ⊢
        rw [(line_cons_other hc s).2]
        cases n with
        | zero => cases h
        | succ n =>
            rw [takeLine, if_neg hc, ih (Nat.le_of_succ_le_succ h)]

theorem length_otherLines {s : List UInt8} (h : s ≠ []) :
    (otherLines s).length < s.length := by
  have hdrop := (List.dropWhile_sublist (· != NEWLINE) (l := s)).length_le
  have hpos : 0 < s.length := List.length_pos_iff.mpr h
  rw [otherLines, List.length_drop]
  omega

/-- The first line without its newline. -/
theorem chomp_firstLine (s : List UInt8) :
    chomp (firstLine s) = s.takeWhile (· != NEWLINE) := by
  induction s with
  | nil => rfl
  | cons c s ih =>
      by_cases hc : c = NEWLINE
      · subst hc
        rw [(line_cons_newline s).1]
        simp [chomp]
      · rw [(line_cons_other hc s).1, chomp]
        have hne : (c != NEWLINE) = true := bne_iff_ne.mpr hc
        rw [List.takeWhile_cons, if_pos hne, List.takeWhile_cons, if_pos hne]
        exact congrArg (List.cons c) ih

/-- What is not dropped begins with what the test refuses. -/
theorem head_dropWhile {q : UInt8 → Bool} {l t : List UInt8} {c : UInt8}
    (h : l.dropWhile q = c :: t) : q c = false := by
  have hne : l.dropWhile q ≠ [] := h ▸ List.cons_ne_nil c t
  have hc := List.head_dropWhile_not q hne
  simpa only [h, List.head_cons] using hc

/-- A line is its text and a newline, or its text. -/
theorem firstLine_eq (s : List UInt8) :
    firstLine s = chomp (firstLine s) ++ [NEWLINE] ∨
      firstLine s = chomp (firstLine s) := by
  rw [chomp_firstLine, firstLine]
  cases hd : s.dropWhile (· != NEWLINE) with
  | nil => exact Or.inr (List.append_nil _)
  | cons c t =>
      have hnl : c = NEWLINE := by simpa using head_dropWhile hd
      subst hnl
      exact Or.inl rfl

/-- Every line ends with a newline, but for the last one. -/
theorem mem_rawLines {l s : List UInt8} (h : l ∈ rawLines s) :
    l = chomp l ++ [NEWLINE] ∨ l = chomp l := by
  induction hn : s.length using Nat.strong_induction_on generalizing s with
  | _ n ih =>
      by_cases hs : s = []
      · subst hs
        cases h
      · rw [rawLines_eq hs] at h
        rcases List.mem_cons.mp h with rfl | hrest
        · exact firstLine_eq s
        · exact ih _ (hn ▸ length_otherLines hs) hrest rfl

/-! ## The readers as assignments -/

omit [DecidableEq Place] in
theorem assign_nil (lc : Strto Double)
    (table : List (loc_param_s_type Place)) : assign lc table [] = none := rfl

theorem one_le_of_ne_zero {k : UInt32} (h : k ≠ 0) : 1 ≤ k := by
  rw [UInt32.le_iff_toNat_le]
  have hpos : k.toNat ≠ 0 := fun h0 => h (UInt32.toNat_inj.mp h0)
  show 1 ≤ k.toNat
  omega

/-- The lines that are looked at until `n` of them `sets`. -/
def linesRead (sets : List UInt8 → Bool) :
    Nat → List (List UInt8) → List (List UInt8)
  | 0, _ => []
  | _ + 1, [] => []
  | n + 1, l :: ls => l :: linesRead sets (if sets l then n else n + 1) ls

@[simp] theorem linesRead_zero (sets : List UInt8 → Bool)
    (ls : List (List UInt8)) : linesRead sets 0 ls = [] := by
  cases ls <;> rfl

/-- What sets, among the lines looked at, is the first that sets at all. -/
theorem filterMap_linesRead {β : Type} (g : List UInt8 → Option β) (n : Nat)
    (ls : List (List UInt8)) :
    (linesRead (fun l => (g l).isSome) n ls).filterMap g
      = (ls.filterMap g).take n := by
  induction ls generalizing n with
  | nil => cases n <;> rfl
  | cons l ls ih =>
      cases n with
      | zero => rfl
      | succ n =>
          rw [linesRead, List.filterMap_cons, List.filterMap_cons]
          cases hl : g l with
          | none => exact ih (n + 1)
          | some w => exact congrArg (List.cons w) (ih n)

/-- Whether a line of a file sets an entry. -/
def lineSets (lc : Strto Double) (table : List (loc_param_s_type Place))
    (l : List UInt8) : Bool :=
  (setBy lc table (strOf l)).isSome

/-- **READING A FILE** of short lines enters the lines up to the one with
    which `num_params` of them have set an entry. -/
theorem readLoop_eq (lc : Strto Double) {table : List (loc_param_s_type Place)}
    (hnames : (table.map loc_param_s_type.param_name).Nodup)
    (rounds : Nat) : ∀ (num_params : UInt32) (file : List UInt8)
      (mem : Memory Place Double), file.length < rounds →
      (∀ l ∈ rawLines file, l.length ≤ LOC_MAX_PARAM_LINE - 1) →
      readLoop lc table rounds num_params file mem
        = (linesRead (lineSets lc table) num_params.toNat
            (rawLines file)).foldl
          (fun mem l => mem.enter (setBy lc table (strOf l))) mem := by
  induction rounds with
  | zero => exact fun _ _ _ h => absurd h (Nat.not_lt_zero _)
  | succ rounds ih =>
      intro num_params file mem hrounds hshort
      rw [readLoop]
      by_cases hnp : num_params = 0
      · rw [if_pos hnp, hnp]
        exact (congrArg (List.foldl _ mem) (linesRead_zero ..)).symm
      · rw [if_neg hnp]
        have hle := one_le_of_ne_zero hnp
        have hpos : num_params.toNat = num_params.toNat - 1 + 1 := by
          have hone := UInt32.le_iff_toNat_le.mp hle
          have h1 : (1 : UInt32).toNat = 1 := rfl
          omega
        by_cases hfile : file = []
        · subst hfile
          rw [hpos]
          rfl
        · have hlines := rawLines_eq hfile
          have hfirst : (firstLine file).length ≤ LOC_MAX_PARAM_LINE - 1 := by
            refine hshort _ ?_
            rw [hlines]
            exact List.mem_cons_self
          have hrest : ∀ l ∈ rawLines (otherLines file),
              l.length ≤ LOC_MAX_PARAM_LINE - 1 := by
            intro l hl
            refine hshort l ?_
            rw [hlines]
            exact List.mem_cons_of_mem _ hl
          have hlength : (otherLines file).length < rounds := by
            have hlt := length_otherLines hfile
            omega
          rw [fgets, if_neg hfile, takeLine_eq hfirst]
          dsimp only
          rw [fill_eq lc hnames, ih _ _ _ hlength hrest, hlines, hpos,
            linesRead, List.foldl_cons, lineSets]
          cases (setBy lc table (strOf (firstLine file))).isSome with
          | false =>
              rw [if_neg Bool.false_ne_true, if_neg Bool.false_ne_true, ← hpos,
                UInt32.sub_zero]
          | true =>
              rw [if_pos rfl, if_pos rfl, UInt32.toNat_sub_of_le _ _ hle]
              rfl

/-- What is entered line by line is assigned. -/
theorem value_foldl_enter (lc : Strto Double)
    (table : List (loc_param_s_type Place)) (ls : List (List UInt8))
    (mem : Memory Place Double) :
    (ls.foldl (fun mem l => mem.enter (setBy lc table (strOf l))) mem).value
      = putAll mem.value
        (ls.filterMap (fun l => assign lc table (strOf l))) := by
  induction ls generalizing mem with
  | nil => rfl
  | cons l ls ih =>
      rw [List.foldl_cons, ih, enter_value, setBy_map_snd, List.filterMap_cons]
      cases assign lc table (strOf l) <;> rfl

/-- Reading assigns what the lines say, as many as there are parameters to
    read. -/
theorem readLoop_assigns (lc : Strto Double)
    {table : List (loc_param_s_type Place)}
    (hnames : (table.map loc_param_s_type.param_name).Nodup)
    {rounds : Nat} (num_params : UInt32) {file : List UInt8}
    (mem : Memory Place Double) (hrounds : file.length < rounds)
    (hshort : ∀ l ∈ rawLines file, l.length ≤ LOC_MAX_PARAM_LINE - 1) :
    (readLoop lc table rounds num_params file mem).value
      = putAll mem.value (((rawLines file).filterMap
          (fun l => assign lc table (strOf l))).take num_params.toNat) := by
  have hsets : lineSets lc table
      = fun l => (assign lc table (strOf l)).isSome := by
    funext l
    rw [lineSets, ← setBy_map_snd, Option.isSome_map]
  rw [readLoop_eq lc hnames rounds _ _ _ hrounds hshort, value_foldl_enter,
    hsets, filterMap_linesRead]

end QcomLocCfg
