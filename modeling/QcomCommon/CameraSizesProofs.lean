import QcomCommon.CameraParams2Proofs

/-! # Sizes and ranges

    Sizes and ranges of frame rates are pairs of numbers in the text of a
    parameter, in both classes.  A pair is printed with `%d` and read with
    `strtol`, and comes back whatever the two numbers are, also behind the
    printed text of all parameters (`pair_roundTrip`).  A list of sizes is
    read up to the first piece that is none (`parseSizesList_pieces`). -/

namespace QcomCameraSizes

open QcomCameraParams (cutAt cutAt_eq_some cutAt_eq_none length_cutAt Plain)

/-- A number of C. -/
abbrev Word := BitVec 32

/-! ## The C library -/

/-- `isspace` of C. -/
def isspace (c : Char) : Bool := c == ' ' || (9 ≤ c.toNat && c.toNat ≤ 13)

/-- The text behind a sign. -/
def behindSign (t : List Char) : List Char :=
  if t.head? = some '-' ∨ t.head? = some '+' then t.tail else t

/-- `strtol(s, &end, 10)`, with the largest `long`. -/
def strtol (LONG_MAX : Nat) (s : List Char) : Int × List Char :=
  let t := s.dropWhile isspace
  let number := (behindSign t).takeWhile Char.isDigit
  if number = [] then (0, s)
  else
    let n := Nat.ofDigitChars 10 number 0
    (if t.head? = some '-' then -(min n (LONG_MAX + 1) : Nat)
      else (min n LONG_MAX : Nat),
      (behindSign t).dropWhile Char.isDigit)

/-- `%d`. -/
def decimal (x : Word) : List Char :=
  if x.toInt < 0 then '-' :: Nat.toDigits 10 x.toInt.natAbs
  else Nat.toDigits 10 x.toInt.natAbs

/-- The digits of a number are digits. -/
theorem isDigit_toDigits {n : Nat} {c : Char} (hc : c ∈ Nat.toDigits 10 n) :
    c.isDigit = true :=
  Nat.isDigit_of_mem_toDigits (by decide) (Nat.le_refl 10) hc

/-- They are split from what is no digit behind them. -/
theorem takeWhile_digits (n : Nat) {rest : List Char}
    (hrest : ∀ c ∈ rest.head?, c.isDigit = false) :
    (Nat.toDigits 10 n ++ rest).takeWhile Char.isDigit = Nat.toDigits 10 n
      ∧ (Nat.toDigits 10 n ++ rest).dropWhile Char.isDigit = rest := by
  have hdigits : ∀ c ∈ Nat.toDigits 10 n, c.isDigit = true :=
    fun _ hc => isDigit_toDigits hc
  rw [List.takeWhile_append_of_pos hdigits,
    List.dropWhile_append_of_pos hdigits]
  cases rest with
  | nil => exact ⟨List.append_nil _, rfl⟩
  | cons c rest =>
      have hc := hrest c rfl
      constructor
      · rw [List.takeWhile_cons, hc]
        exact List.append_nil _
      · rw [List.dropWhile_cons, hc]
        rfl

theorem isspace_digit {c : Char} (hc : c.isDigit = true) :
    isspace c = false := by
  have hlow : 48 ≤ c.toNat := (Char.isDigit_iff_toNat.mp hc).1
  have hblank : c ≠ ' ' := by
    rintro rfl
    cases hc
  simp [isspace, hblank]
  omega

/-- **A NUMBER** is read as it was printed. -/
theorem strtol_decimal {LONG_MAX : Nat} (hlong : 2 ^ 31 ≤ LONG_MAX + 1)
    (x : Word) (rest : List Char)
    (hrest : ∀ c ∈ rest.head?, c.isDigit = false) :
    strtol LONG_MAX (decimal x ++ rest) = (x.toInt, rest) := by
  obtain ⟨htake, hdrop⟩ := takeWhile_digits x.toInt.natAbs hrest
  have hne : Nat.toDigits 10 x.toInt.natAbs ≠ [] := Nat.toDigits_ne_nil
  have hvalue : Nat.ofDigitChars 10 (Nat.toDigits 10 x.toInt.natAbs) 0
      = x.toInt.natAbs := Nat.ofDigitChars_ten_toDigits
  have hhi := BitVec.toInt_lt (x := x)
  have hlo := BitVec.le_toInt x
  by_cases hsign : x.toInt < 0
  · have htext : decimal x ++ rest
        = '-' :: (Nat.toDigits 10 x.toInt.natAbs ++ rest) := by
      rw [decimal, if_pos hsign]
      rfl
    have hspace : ('-' :: (Nat.toDigits 10 x.toInt.natAbs ++ rest)).dropWhile
        isspace = '-' :: (Nat.toDigits 10 x.toInt.natAbs ++ rest) := rfl
    simp only [strtol, behindSign, htext, hspace, List.head?_cons,
      List.tail_cons, true_or, if_true, htake, hdrop, if_neg hne, hvalue]
    refine Prod.ext ?_ rfl
    show (-((min x.toInt.natAbs (LONG_MAX + 1) : Nat) : Int)) = x.toInt
    omega
  · have htext : decimal x ++ rest
        = Nat.toDigits 10 x.toInt.natAbs ++ rest := by
      rw [decimal, if_neg hsign]
    obtain ⟨c, t, hdigits⟩ := List.exists_cons_of_ne_nil hne
    have hc : c.isDigit = true :=
      isDigit_toDigits (hdigits ▸ List.mem_cons_self)
    have hspace : (Nat.toDigits 10 x.toInt.natAbs ++ rest).dropWhile isspace
        = Nat.toDigits 10 x.toInt.natAbs ++ rest := by
      rw [hdigits, List.cons_append, List.dropWhile_cons, isspace_digit hc]
      rfl
    have hminus : (Nat.toDigits 10 x.toInt.natAbs ++ rest).head? ≠ some '-' := by
      rw [hdigits]
      rintro hhead
      cases hhead
      cases hc
    have hplus : (Nat.toDigits 10 x.toInt.natAbs ++ rest).head? ≠ some '+' := by
      rw [hdigits]
      rintro hhead
      cases hhead
      cases hc
    simp only [strtol, behindSign, htext, hspace, hminus, hplus, or_self,
      if_false, htake, hdrop, if_neg hne, hvalue]
    refine Prod.ext ?_ rfl
    show ((min x.toInt.natAbs LONG_MAX : Nat) : Int) = x.toInt
    omega

/-! ## Pairs and lists of sizes -/

/-- A width and a height. -/
abbrev Size := Word × Word

/-- `parse_pair`, with the place behind the pair; `none` is -1. -/
def parse_pair (LONG_MAX : Nat) (delim : Char) (str : List Char) :
    Option (Size × List Char) :=
  let first := strtol LONG_MAX str
  if first.2.head? = some delim then
    let second := strtol LONG_MAX first.2.tail
    some ((BitVec.ofInt 32 first.1, BitVec.ofInt 32 second.1), second.2)
  else none

/-- What is behind a sign is a part of the text. -/
theorem behindSign_sublist (t : List Char) : (behindSign t).Sublist t := by
  rw [behindSign]
  split
  · exact List.tail_sublist t
  · exact List.Sublist.refl t

/-- `strtol` goes no way back. -/
theorem length_strtol (LONG_MAX : Nat) (s : List Char) :
    (strtol LONG_MAX s).2.length ≤ s.length := by
  rw [strtol]
  dsimp only
  split
  · exact Nat.le_refl _
  · exact (((List.dropWhile_sublist _).trans (behindSign_sublist _)).trans
      (List.dropWhile_sublist isspace)).length_le

/-- A pair takes a part of the text. -/
theorem length_parse_pair {LONG_MAX : Nat} {delim : Char} {s e : List Char}
    {size : Size} (h : parse_pair LONG_MAX delim s = some (size, e)) :
    e.length < s.length := by
  rw [parse_pair] at h
  dsimp only at h
  split at h
  · next hdelim =>
      cases h
      have hfirst := length_strtol LONG_MAX s
      have hsecond := length_strtol LONG_MAX (strtol LONG_MAX s).2.tail
      have hhead : (strtol LONG_MAX s).2 ≠ [] := by
        intro hnil
        rw [hnil] at hdelim
        cases hdelim
      have hpos := List.length_pos_iff.mpr hhead
      rw [List.length_tail] at hsecond
      omega
  · cases h

/-- The loop of `parseSizesList`. -/
def parseSizesFrom (LONG_MAX : Nat) (sizeStartPtr : List Char)
    (sizes : List Size) : List Size :=
  match _hpair : parse_pair LONG_MAX 'x' sizeStartPtr with
  | none => sizes
  | some (size, []) => sizes ++ [size]
  | some (size, c :: rest) =>
      if c = ',' then parseSizesFrom LONG_MAX rest (sizes ++ [size])
      else sizes
termination_by sizeStartPtr.length
decreasing_by exact Nat.lt_of_succ_lt (length_parse_pair _hpair)

/-- `parseSizesList`. -/
def parseSizesList (LONG_MAX : Nat) (sizesStr : Option String)
    (sizes : List Size) : List Size :=
  sizesStr.elim sizes fun s => parseSizesFrom LONG_MAX s.toList sizes

/-- A pair that the text consists of. -/
def wholeSize (LONG_MAX : Nat) (s : List Char) : Option Size :=
  (parse_pair LONG_MAX 'x' s).bind fun p => if p.2 = [] then some p.1 else none

/-- The values up to the first that is missing. -/
def untilNone {α : Type} : List (Option α) → List α
  | some a :: l => a :: untilNone l
  | _ => []

section Comma

variable {LONG_MAX : Nat} {a : List Char} {r : List Char}

/-- A test that a comma fails does not see what is behind it. -/
theorem takeWhile_comma {p : Char → Bool} (hp : p ',' = false) :
    (a ++ ',' :: r).takeWhile p = a.takeWhile p
      ∧ (a ++ ',' :: r).dropWhile p = a.dropWhile p ++ ',' :: r := by
  induction a with
  | nil => simp [hp]
  | cons c a ih =>
      by_cases hc : p c = true
      · simp [hc, ih.1, ih.2]
      · simp [hc]

/-- A sign is looked for in front of the comma. -/
theorem behindSign_comma (t r : List Char) :
    behindSign (t ++ ',' :: r) = behindSign t ++ ',' :: r := by
  cases t with
  | nil => rfl
  | cons c t =>
      by_cases hsign : some c = some '-' ∨ some c = some '+'
      · exact (if_pos hsign).trans
          (congrArg (· ++ ',' :: r) (if_pos hsign).symm)
      · exact (if_neg hsign).trans
          (congrArg (· ++ ',' :: r) (if_neg hsign).symm)

/-- A number ends in front of a comma. -/
theorem strtol_comma (LONG_MAX : Nat) (a r : List Char) :
    strtol LONG_MAX (a ++ ',' :: r)
      = ((strtol LONG_MAX a).1, (strtol LONG_MAX a).2 ++ ',' :: r) := by
  have hspace := (takeWhile_comma (a := a) (r := r) (p := isspace) rfl).2
  obtain ⟨htake, hdrop⟩ := takeWhile_comma
    (a := behindSign (a.dropWhile isspace)) (r := r) (p := Char.isDigit) rfl
  have hminus : (a.dropWhile isspace ++ ',' :: r).head? = some '-'
      ↔ (a.dropWhile isspace).head? = some '-' := by
    cases a.dropWhile isspace with
    | nil => simp
    | cons c t => rfl
  simp only [strtol, hspace, behindSign_comma, htake, hdrop, hminus]
  split <;> rfl

/-- A pair is parsed alike with a comma and more behind it. -/
theorem parse_pair_comma (LONG_MAX : Nat) {delim : Char}
    (hdelim : ',' ≠ delim)
    (a r : List Char) :
    parse_pair LONG_MAX delim (a ++ ',' :: r)
      = (parse_pair LONG_MAX delim a).map fun p => (p.1, p.2 ++ ',' :: r) := by
  rw [parse_pair, parse_pair, strtol_comma]
  cases he : (strtol LONG_MAX a).2 with
  | nil => simp [hdelim]
  | cons c e =>
      by_cases hc : c = delim
      · simp [hc, strtol_comma]
      · simp [hc]

end Comma

/-- `strtol` leaves characters of the text. -/
theorem mem_strtol {LONG_MAX : Nat} {s : List Char} {c : Char}
    (hc : c ∈ (strtol LONG_MAX s).2) : c ∈ s := by
  rw [strtol] at hc
  dsimp only at hc
  split at hc
  · exact hc
  · exact (((List.dropWhile_sublist _).trans (behindSign_sublist _)).trans
      (List.dropWhile_sublist isspace)).subset hc

/-- So does a pair. -/
theorem mem_parse_pair {LONG_MAX : Nat} {delim : Char} {s e : List Char}
    {size : Size} (h : parse_pair LONG_MAX delim s = some (size, e)) {c : Char}
    (hc : c ∈ e) : c ∈ s := by
  rw [parse_pair] at h
  dsimp only at h
  split at h
  · cases h
    exact mem_strtol (List.mem_of_mem_tail (mem_strtol hc))
  · cases h

/-! ### One piece of the list -/

/-- A text without a pair ends the list. -/
theorem parseSizesFrom_none {LONG_MAX : Nat} {s : List Char}
    (h : parse_pair LONG_MAX 'x' s = none) (sizes : List Size) :
    parseSizesFrom LONG_MAX s sizes = sizes := by
  rw [parseSizesFrom]
  split
  · rfl
  · next h' => cases h.symm.trans h'
  · next h' => cases h.symm.trans h'

/-- A pair at the end is the last size. -/
theorem parseSizesFrom_last {LONG_MAX : Nat} {s : List Char} {size : Size}
    (h : parse_pair LONG_MAX 'x' s = some (size, [])) (sizes : List Size) :
    parseSizesFrom LONG_MAX s sizes = sizes ++ [size] := by
  rw [parseSizesFrom]
  split
  · next h' => cases h.symm.trans h'
  · next h' =>
      cases h.symm.trans h'
      rfl
  · next h' => cases h.symm.trans h'

/-- A pair with a comma behind it goes on; with anything else it ends the list,
    itself left out. -/
theorem parseSizesFrom_more {LONG_MAX : Nat} {s rest : List Char} {size : Size}
    {c : Char} (h : parse_pair LONG_MAX 'x' s = some (size, c :: rest))
    (sizes : List Size) :
    parseSizesFrom LONG_MAX s sizes
      = if c = ',' then parseSizesFrom LONG_MAX rest (sizes ++ [size])
        else sizes := by
  rw [parseSizesFrom]
  split
  · next h' => cases h.symm.trans h'
  · next h' => cases h.symm.trans h'
  · next h' =>
      cases h.symm.trans h'
      rfl

/-- A piece is read, or the list ends in front of it. -/
theorem parseSizesFrom_comma (LONG_MAX : Nat) {a : List Char} (ha : ',' ∉ a)
    (r : List Char) (sizes : List Size) :
    parseSizesFrom LONG_MAX (a ++ ',' :: r) sizes
      = (wholeSize LONG_MAX a).elim sizes fun size =>
          parseSizesFrom LONG_MAX r (sizes ++ [size]) := by
  have hcomma := parse_pair_comma LONG_MAX (by decide : ',' ≠ 'x') a r
  rw [wholeSize]
  cases hpair : parse_pair LONG_MAX 'x' a with
  | none =>
      rw [hpair] at hcomma
      exact parseSizesFrom_none hcomma sizes
  | some p =>
      obtain ⟨size, e⟩ := p
      rw [hpair] at hcomma
      cases e with
      | nil => exact (parseSizesFrom_more hcomma sizes).trans (if_pos rfl)
      | cons c e =>
          have hc : c ≠ ',' := by
            rintro rfl
            exact ha (mem_parse_pair hpair List.mem_cons_self)
          exact (parseSizesFrom_more hcomma sizes).trans (if_neg hc)

/-- A text without commas gives one size at most. -/
theorem parseSizesFrom_piece (LONG_MAX : Nat) {a : List Char} (ha : ',' ∉ a)
    (sizes : List Size) :
    parseSizesFrom LONG_MAX a sizes
      = sizes ++ (wholeSize LONG_MAX a).toList := by
  rw [wholeSize]
  cases hpair : parse_pair LONG_MAX 'x' a with
  | none =>
      exact (parseSizesFrom_none hpair sizes).trans (List.append_nil _).symm
  | some p =>
      obtain ⟨size, e⟩ := p
      cases e with
      | nil => exact parseSizesFrom_last hpair sizes
      | cons c e =>
          have hc : c ≠ ',' := by
            rintro rfl
            exact ha (mem_parse_pair hpair List.mem_cons_self)
          exact ((parseSizesFrom_more hpair sizes).trans (if_neg hc)).trans
            (List.append_nil _).symm

/-- The pieces are read one after the other, up to the first that is no
    size. -/
theorem parseSizesFrom_pieces (LONG_MAX : Nat) (s : List Char)
    (sizes : List Size) :
    parseSizesFrom LONG_MAX s sizes
      = sizes ++ untilNone ((s.splitOn ',').map (wholeSize LONG_MAX)) := by
  induction hn : s.length using Nat.strong_induction_on generalizing s sizes with
  | _ n ih =>
      cases hcut : cutAt ',' s with
      | none =>
          have ha := cutAt_eq_none.mp hcut
          rw [List.splitOn_eq_singleton ha, parseSizesFrom_piece LONG_MAX ha]
          cases h : wholeSize LONG_MAX s <;> simp [untilNone, h]
      | some p =>
          obtain ⟨a, r⟩ := p
          obtain ⟨rfl, ha⟩ := cutAt_eq_some hcut
          have hpieces : (a ++ ',' :: r).splitOn ',' = a :: r.splitOn ',' :=
            List.splitOn_append_cons_self_of_not_mem ha r
          rw [parseSizesFrom_comma LONG_MAX ha, hpieces, List.map_cons]
          cases h : wholeSize LONG_MAX a with
          | none => exact (List.append_nil sizes).symm
          | some size =>
              have hrest := ih r.length (hn ▸ length_cutAt hcut)
                r (sizes ++ [size]) rfl
              rw [List.append_assoc] at hrest
              exact hrest

/-- **A LIST OF SIZES**: of any text those of its pieces between commas are
    read that are in front of the first that is no size, behind the sizes that
    the vector holds already. -/
theorem parseSizesList_pieces (LONG_MAX : Nat) (sizesStr : String)
    (sizes : List Size) :
    parseSizesList LONG_MAX (some sizesStr) sizes
      = sizes ++ untilNone
          ((sizesStr.toList.splitOn ',').map (wholeSize LONG_MAX)) :=
  parseSizesFrom_pieces LONG_MAX sizesStr.toList sizes

/-! ## The pairs among the parameters -/

/-- The parameters that are a pair. -/
inductive PairParam where
  | previewSize | videoSize | pictureSize | previewFpsRange

namespace PairParam

/-- The key of a parameter that is a pair. -/
def key : PairParam → String
  | previewSize => "preview-size"
  | videoSize => "video-size"
  | pictureSize => "picture-size"
  | previewFpsRange => "preview-fps-range"

/-- What stands between its two numbers. -/
def delim : PairParam → Char
  | previewFpsRange => ','
  | _ => 'x'

end PairParam

/-- `"%dx%d"`, or `"%d,%d"`. -/
def printPair (delim : Char) (size : Size) : String :=
  String.ofList (decimal size.1 ++ delim :: decimal size.2)

/-- A pair as it is got; -1 and -1 if there is none. -/
def readPair (LONG_MAX : Nat) (delim : Char) (p : Option String) : Size :=
  (p.bind fun str => parse_pair LONG_MAX delim str.toList).elim (-1, -1)
    Prod.fst

theorem plain_key (p : PairParam) : Plain p.key := by cases p <;> decide

theorem not_digit_delim (p : PairParam) : p.delim.isDigit = false := by
  cases p <;> rfl

/-- A number is written with digits and a sign. -/
theorem mem_decimal {x : Word} {c : Char} (hc : c ∈ decimal x) :
    c = '-' ∨ c.isDigit = true := by
  rw [decimal] at hc
  split at hc
  · rcases List.mem_cons.mp hc with hc | hc
    · exact .inl hc
    · exact .inr (isDigit_toDigits hc)
  · exact .inr (isDigit_toDigits hc)

/-- The text of a pair holds no separator of the parameters. -/
theorem plain_printPair (p : PairParam) (size : Size) :
    Plain (printPair p.delim size) := by
  have hno : ∀ c, c ∈ ['=', ';'] → c ∉ (printPair p.delim size).toList := by
    intro c hc hmem
    rw [printPair, String.toList_ofList, List.mem_append, List.mem_cons] at hmem
    have hcases : c = '-' ∨ c.isDigit = true ∨ c = p.delim := by
      rcases hmem with hmem | hmem | hmem
      · exact (mem_decimal hmem).imp_right .inl
      · exact .inr (.inr hmem)
      · exact (mem_decimal hmem).imp_right .inl
    simp only [List.mem_cons, List.not_mem_nil, or_false] at hc
    rcases hc with rfl | rfl <;> cases p <;> exact absurd hcases (by decide)
  exact ⟨hno '=' (by simp), hno ';' (by simp)⟩

/-- A pair is parsed as it was printed. -/
theorem parse_pair_print {LONG_MAX : Nat} (hlong : 2 ^ 31 ≤ LONG_MAX + 1)
    (delim : Char) (hdelim : delim.isDigit = false) (size : Size)
    (rest : List Char) (hrest : ∀ c ∈ rest.head?, c.isDigit = false) :
    parse_pair LONG_MAX delim (decimal size.1 ++ delim :: decimal size.2 ++ rest)
      = some (size, rest) := by
  have hfirst := strtol_decimal hlong size.1
    (delim :: (decimal size.2 ++ rest))
    (by rintro c hc; cases hc; exact hdelim)
  have hsecond := strtol_decimal hlong size.2 rest hrest
  rw [List.append_assoc, List.cons_append, parse_pair, hfirst]
  simp [hsecond]

/-- So it is got as it was set. -/
theorem readPair_print {LONG_MAX : Nat} (hlong : 2 ^ 31 ≤ LONG_MAX + 1)
    (p : PairParam) (size : Size) :
    readPair LONG_MAX p.delim (some (printPair p.delim size)) = size := by
  have hparse := parse_pair_print hlong p.delim (not_digit_delim p) size
    [] (by simp)
  rw [List.append_nil] at hparse
  simp [readPair, printPair, hparse]

/-- The buffer of 32 bytes that a pair is printed into is large enough. -/
theorem length_printPair (delim : Char) (size : Size) :
    (printPair delim size).toList.length < 32 := by
  have hnumber : ∀ x : Word, (decimal x).length ≤ 11 := by
    intro x
    have hhi := BitVec.toInt_lt (x := x)
    have hlo := BitVec.le_toInt x
    have hdigits : (Nat.toDigits 10 x.toInt.natAbs).length ≤ 10 :=
      (Nat.length_toDigits_le_iff (by decide) (by decide)).mpr (by omega)
    rw [decimal]
    split
    · exact Nat.succ_le_succ hdigits
    · exact Nat.le_succ_of_le hdigits
  have hfirst := hnumber size.1
  have hsecond := hnumber size.2
  rw [printPair, String.toList_ofList, List.length_append, List.length_cons]
  omega

/-- **A PRINTED LIST** is read as it was printed. -/
theorem parseSizesList_printed {LONG_MAX : Nat} (hlong : 2 ^ 31 ≤ LONG_MAX + 1)
    {printed : List Size} (hne : printed ≠ []) (sizes : List Size) :
    parseSizesList LONG_MAX (some (String.ofList ([','].intercalate
        (printed.map fun size => (printPair 'x' size).toList)))) sizes
      = sizes ++ printed := by
  have hcomma : ∀ piece ∈ printed.map fun size => (printPair 'x' size).toList,
      ',' ∉ piece := by
    intro piece hpiece hmem
    obtain ⟨size, -, rfl⟩ := List.mem_map.mp hpiece
    rw [printPair, String.toList_ofList, List.mem_append, List.mem_cons] at hmem
    rcases hmem with hmem | hmem | hmem
    · exact absurd (mem_decimal hmem) (by decide)
    · exact absurd hmem (by decide)
    · exact absurd (mem_decimal hmem) (by decide)
  have hwhole : ∀ size, wholeSize LONG_MAX (printPair 'x' size).toList
      = some size := by
    intro size
    have hparse := parse_pair_print hlong 'x' rfl size [] (by simp)
    rw [List.append_nil] at hparse
    rw [wholeSize, printPair, String.toList_ofList, hparse]
    rfl
  rw [parseSizesList, Option.elim_some, parseSizesFrom_pieces,
    String.toList_ofList, List.splitOn_intercalate ',' hcomma
      (by simpa using hne), List.map_map]
  congr 1
  clear hne hcomma
  induction printed with
  | nil => rfl
  | cons size printed ih =>
      rw [List.map_cons, Function.comp_apply, hwhole, untilNone, ih]

/-! ## Pairs in a history of calls -/

open QcomCameraParams2

/-- `setPreviewSize`, `setVideoSize`, `setPictureSize` and
    `setPreviewFpsRange` of `CameraParameters2`. -/
def PairParam.set (p : PairParam) (size : Size) : Op :=
  .set p.key (printPair p.delim size)

/-- The getters of `CameraParameters2`. -/
def PairParam.get (LONG_MAX : Nat) (p : PairParam) (mMap : Items) : Size :=
  readPair LONG_MAX p.delim (QcomCameraParams2.get mMap p.key)

/-- `setPreviewSize`, `setVideoSize` and `setPictureSize` of
    `CameraParameters`. -/
def PairParam.setOld (p : PairParam) (mMap : QcomCameraParams.Map)
    (size : Size) : QcomCameraParams.Map :=
  QcomCameraParams.set mMap (some p.key) (some (printPair p.delim size))

/-- The getters of `CameraParameters`. -/
def PairParam.getOld (LONG_MAX : Nat) (p : PairParam)
    (mMap : QcomCameraParams.Map) : Size :=
  readPair LONG_MAX p.delim (QcomCameraParams.get mMap p.key)

theorem printPair_filled (delim : Char) (size : Size) :
    printPair delim size ≠ "" := by
  intro hempty
  have htext := congrArg String.toList hempty
  rw [printPair, String.toList_ofList] at htext
  simp at htext

/-- The older class alone, also behind its printed text. -/
theorem getOld_setOld {LONG_MAX : Nat} (hlong : 2 ^ 31 ≤ LONG_MAX + 1)
    (p : PairParam) {mMap : QcomCameraParams.Map}
    (hclean : QcomCameraParams.Clean mMap) (size : Size) :
    p.getOld LONG_MAX (p.setOld mMap size) = size
      ∧ p.getOld LONG_MAX (QcomCameraParams.unflatten
          (QcomCameraParams.flatten (p.setOld mMap size))) = size := by
  have hget : QcomCameraParams.get (p.setOld mMap size) p.key
      = some (printPair p.delim size) := by
    refine QcomCameraParams.get_eq_some_iff.mpr ⟨?_, printPair_filled _ _⟩
    rw [PairParam.setOld, QcomCameraParams.find_set]
    exact if_pos ⟨rfl, plain_key p, plain_printPair p size⟩
  have hsame : p.getOld LONG_MAX (p.setOld mMap size) = size := by
    rw [PairParam.getOld, hget]
    exact readPair_print hlong p size
  have htext : QcomCameraParams.unflatten
      (QcomCameraParams.flatten (p.setOld mMap size)) = p.setOld mMap size :=
    QcomCameraParams.unflatten_flatten
      (QcomCameraParams.clean_set hclean _ _)
  rw [htext]
  exact ⟨hsame, hsame⟩

/-- A call that may change the value of a key. -/
def Touches (key : String) : Op → Prop
  | .set k _ => k = key
  | .remove k => k = key
  | .unflatten _ => True

/-- A call that does not touch a key leaves its last value. -/
theorem last_note {key : String} {op : Op} (hop : ¬ Touches key op)
    (h : History) : (h.note op).last key = h.last key := by
  cases op with
  | set k v =>
      rw [History.note]
      split
      · exact Function.update_of_ne (Ne.symm hop) _ _
      · rfl
  | remove k => exact Function.update_of_ne (Ne.symm hop) _ _
  | unflatten params => exact absurd trivial hop

/-- The last value is the one set last. -/
theorem value_of (before after : List Op) {key value : String}
    (hkey : Plain key) (hvalue : Plain value)
    (hafter : ∀ op ∈ after, ¬ Touches key op) :
    (History.of (before ++ .set key value :: after)).value key = some value := by
  have hrest : ∀ h : History, (after.foldl History.note h).last key
      = h.last key := by
    induction after with
    | nil => exact fun _ => rfl
    | cons op after ih =>
        exact fun h => (ih (fun op' hop' =>
          hafter op' (List.mem_cons_of_mem op hop')) (h.note op)).trans
          (last_note (hafter op List.mem_cons_self) h)
  rw [History.value, History.of, List.foldl_append, List.foldl_cons, hrest,
    History.note, if_pos ⟨hkey, hvalue⟩, History.put]
  dsimp only
  rw [Function.update_self]
  rfl

/-- With keys of their own, the only value of a key is the one that is got. -/
theorem getLast_values {mMap : Items}
    (hdistinct : QcomKeyedList.Distinct Prod.fst mMap) (key : String) :
    (values mMap key).getLast? = QcomCameraParams2.get mMap key := by
  rw [get_eq_head]
  induction mMap with
  | nil => rfl
  | cons e mMap ih =>
      obtain ⟨hnew, hrest⟩ := List.nodup_cons.mp hdistinct
      by_cases he : e.1 = key
      · have hempty : values mMap key = [] := by
          rw [values, List.map_eq_nil_iff, List.filter_eq_nil_iff]
          exact fun e' he' hk => hnew (List.mem_map.mpr
            ⟨e', he', (of_decide_eq_true hk).trans he.symm⟩)
        have hone : values (e :: mMap) key = e.2 :: values mMap key := by
          simp [values, he]
        rw [hone, hempty]
        rfl
      · have hsame : values (e :: mMap) key = values mMap key := by
          simp [values, he]
        rw [hsame]
        exact ih hrest

/-- **A PAIR THAT WAS SET** is got, whatever was called before it and is set
    later for other keys, by this class and, from the printed text, by the
    older one. -/
theorem pair_roundTrip {LONG_MAX : Nat} (hlong : 2 ^ 31 ≤ LONG_MAX + 1)
    (p : PairParam) (size : Size) (before after : List Op)
    (hbefore : DistinctTexts before)
    (hafter : ∀ op ∈ after, ¬ Touches p.key op) :
    p.get LONG_MAX (run (before ++ p.set size :: after)) = size
      ∧ p.getOld LONG_MAX (QcomCameraParams.unflatten
          (flatten (run (before ++ p.set size :: after)))) = size := by
  have hvalue := value_of before after (plain_key p) (plain_printPair p size)
    hafter
  have hdistinct : DistinctTexts (before ++ p.set size :: after) := by
    intro params hparams
    rcases List.mem_append.mp hparams with hparams | hparams
    · exact hbefore params hparams
    · rcases List.mem_cons.mp hparams with hparams | hparams
      · cases hparams
      · exact absurd trivial (hafter _ hparams)
  have ha := agrees_run _ hdistinct
  have hget := (get_of_agrees ha p.key).trans hvalue
  obtain ⟨l, hl, hkeys, -⟩ := ha
  have hmap : QcomKeyedList.Distinct Prod.fst
      (run (before ++ p.set size :: after)) := by
    rw [← hl, QcomKeyedList.Distinct, List.map_map]
    exact hkeys
  constructor
  · rw [PairParam.get, hget]
    exact readPair_print hlong p size
  · rw [PairParam.getOld, params_get (clean_run _), getLast_values hmap, hget,
      Option.filter, if_pos (decide_eq_true (printPair_filled _ _))]
    exact readPair_print hlong p size

/-- A range of frame rates behind settings that are read, on a machine with
    longs of 32 bits. -/
theorem pair_roundTrip_someOps :
    PairParam.get 2147483647 .previewFpsRange (run (someOps ++
        PairParam.set .previewFpsRange (-1, 30000) :: [.remove "fps"]))
        = (-1, 30000)
      ∧ PairParam.getOld 2147483647 .previewFpsRange
          (QcomCameraParams.unflatten (flatten (run (someOps ++
            PairParam.set .previewFpsRange (-1, 30000) :: [.remove "fps"]))))
        = (-1, 30000) :=
  pair_roundTrip (by decide) .previewFpsRange (-1, 30000) someOps
    [.remove "fps"] someOps_distinct
    (fun op hop => List.mem_singleton.mp hop ▸ (by decide : ¬ "fps" = _))

end QcomCameraSizes
