import QcomCommon.EarlyReturnProofs
import QcomCommon.LocEngMachineProofs
import QcomCommon.NmeaSentenceProofs
import QcomCommon.PrintfProofs

/-! # Writing a sentence

    The functions of `loc_eng_nmea.cpp` write each piece of a sentence with
    `snprintf` behind the one before, and return early where a piece does not
    fit; the last piece of some sentences is not checked.

    A sentence that is sent begins with its pieces (`sentence_meets`), and
    one whose pieces leave room for the checksum is sent with it
    (`sentence_fits`). -/

namespace QcomNmea

open QcomCString QcomReturn QcomPrintf

/-- The bytes of a sentence, with its NUL. -/
def NMEA_SENTENCE_MAX_LENGTH : Nat := 200

/-- The members of `loc_eng_data_s_type` that the sentences are made from;
    `Double` are the values of a `double`, those of a `float` among them. -/
structure NmeaData (Double : Type) where
  adapter : QcomEng.LocEngAdapter
  nmea_cb : Bool
  gps_used_mask : BitVec 32
  glo_used_mask : BitVec 32
  pdop : Double
  hdop : Double
  vdop : Double

/-- The state of a function: the engine's data, the locals, and the calls
    made. -/
structure NmeaRun (Double : Type) where
  loc_eng_data : NmeaData Double
  sentence : List UInt8
  pMarker : Nat
  lengthRemaining : Nat
  calls : List NmeaCall

/-- The state at the entry of a function. -/
def NmeaRun.entry {Double : Type} (loc_eng_data : NmeaData Double) :
    NmeaRun Double :=
  { loc_eng_data := loc_eng_data
    sentence := List.replicate NMEA_SENTENCE_MAX_LENGTH 0
    pMarker := 0
    lengthRemaining := NMEA_SENTENCE_MAX_LENGTH
    calls := [] }

section Statements

variable {Double : Type}

/-- An assignment to the engine's data. -/
def setData (f : NmeaData Double → NmeaData Double) : Stmt (NmeaRun Double) :=
  assign (fun st => { st with loc_eng_data := f st.loc_eng_data })

/-- `pMarker = sentence; lengthRemaining = sizeof(sentence)`. -/
def restart : Stmt (NmeaRun Double) :=
  assign (fun st =>
    { st with pMarker := 0, lengthRemaining := st.sentence.length })

/-- `snprintf` of a piece, with the check behind it. -/
def put (text : List UInt8) : Stmt (NmeaRun Double) := fun st =>
  let written := snprintf st.sentence st.pMarker st.lengthRemaining text
  if st.lengthRemaining ≤ written.2 then
    some (.returned { st with sentence := written.1 })
  else some (.next { st with
    sentence := written.1
    pMarker := st.pMarker + written.2
    lengthRemaining := st.lengthRemaining - written.2 })

/-- `snprintf` of the last piece, without a check. -/
def putLast (text : List UInt8) : Stmt (NmeaRun Double) :=
  assign (fun st => { st with
    sentence := (snprintf st.sentence st.pMarker st.lengthRemaining text).1 })

/-- `strlcpy` of a whole sentence. -/
def copy (text : List UInt8) : Stmt (NmeaRun Double) :=
  assign (fun st =>
    { st with sentence := strlcpy st.sentence text st.sentence.length })

/-- The checksum, and the callback. -/
def send : Stmt (NmeaRun Double) := fun st =>
  (loc_eng_nmea_put_checksum st.sentence st.sentence.length).map (fun r =>
    .next { st with
      sentence := r.1
      calls := st.calls
        ++ loc_eng_nmea_send st.loc_eng_data.nmea_cb r.1 r.2 })

/-- A sentence of pieces that are checked. -/
def checkedSentence (pieces : List (List UInt8)) :
    List (Stmt (NmeaRun Double)) :=
  restart :: (pieces.map put ++ [send])

/-- A sentence with a last piece that is not. -/
def openSentence (pieces : List (List UInt8)) (last : List UInt8) :
    List (Stmt (NmeaRun Double)) :=
  restart :: (pieces.map put ++ [putLast last, send])

/-- A sentence that is copied. -/
def blankSentence (text : String) : List (Stmt (NmeaRun Double)) :=
  [copy (ascii text), send]

end Statements

/-! ## What a sentence is -/

section Spec

variable {Double : Type} {data : NmeaData Double} {calls : List NmeaCall}

/-- Between two sentences. -/
structure At (data : NmeaData Double) (calls : List NmeaCall)
    (st : NmeaRun Double) : Prop where
  data : st.loc_eng_data = data
  calls : st.calls = calls
  length : st.sentence.length = NMEA_SENTENCE_MAX_LENGTH

/-- The text written so far. -/
structure Writing (data : NmeaData Double) (calls : List NmeaCall)
    (s : List UInt8) (st : NmeaRun Double) : Prop extends At data calls st where
  noNul : 0 ∉ s
  marker : st.sentence.take st.pMarker = s
  inside : st.pMarker < st.sentence.length
  remaining : st.lengthRemaining = st.sentence.length - st.pMarker

/-- A string in the buffer. -/
structure Written (data : NmeaData Double) (calls : List NmeaCall)
    (s : List UInt8) (st : NmeaRun Double) : Prop extends At data calls st where
  holds : Holds st.sentence s

/-- A sentence was sent with a string in its buffer. -/
def Sent (data : NmeaData Double) (calls : List NmeaCall)
    (text : List UInt8 → Prop) (st : NmeaRun Double) : Prop :=
  ∃ buf length, (∃ s, Holds buf s ∧ text s) ∧
    At data (calls ++ loc_eng_nmea_send data.nmea_cb buf length) st

/-- A return where pieces do not fit. -/
def Overran (data : NmeaData Double) (calls : List NmeaCall)
    (s : List UInt8) (st : NmeaRun Double) : Prop :=
  At data calls st ∧ NMEA_SENTENCE_MAX_LENGTH ≤ s.length

theorem At.entry (data : NmeaData Double) : At data [] (NmeaRun.entry data) :=
  ⟨rfl, rfl, List.length_replicate⟩

/-- The marker stands behind what was written. -/
theorem Writing.pMarker_eq {s : List UInt8} {st : NmeaRun Double}
    (h : Writing data calls s st) : st.pMarker = s.length := by
  have hlen := congrArg List.length h.marker
  rw [List.length_take] at hlen
  have := h.inside
  omega

/-- A sentence is begun. -/
theorem restart_meets (R : NmeaRun Double → Prop) :
    Meets (At data calls) restart (Writing data calls []) R := by
  refine Meets.assign (fun st hst => ?_)
  refine ⟨⟨hst.data, hst.calls, hst.length⟩, List.not_mem_nil, List.take_zero,
    ?_, rfl⟩
  show 0 < st.sentence.length
  rw [hst.length]
  decide

/-- **ONE PIECE**. -/
theorem put_meets {s text : List UInt8} (htext : 0 ∉ text) :
    Meets (Writing data calls s) (put text)
      (fun st => Writing data calls (s ++ text) st ∧
        Written data calls (s ++ text) st)
      (Overran data calls (s ++ text)) := by
  intro st hst
  have hmarker := hst.pMarker_eq
  have hrem := hst.remaining
  have hinside := hst.inside
  have hlen := (snprintf_holds hst.marker hst.noNul htext hst.inside
    hst.remaining).2
  by_cases hfits : text.length < st.lengthRemaining
  · have hholds := snprintf_fits hst.marker hst.noNul htext hst.remaining hfits
    refine ⟨_, if_neg (Nat.not_le.mpr hfits), ?_⟩
    have hat : At data calls { st with
        sentence := (snprintf st.sentence st.pMarker st.lengthRemaining
          text).1
        pMarker := st.pMarker + text.length
        lengthRemaining := st.lengthRemaining - text.length } :=
      ⟨hst.data, hst.calls, hlen.trans hst.length⟩
    refine ⟨⟨hat, hholds.noNul, ?_, ?_, ?_⟩, hat, hholds⟩
    · show (snprintf st.sentence st.pMarker st.lengthRemaining text).1.take
        (st.pMarker + text.length) = s ++ text
      rw [hmarker, ← List.length_append, ← hmarker]
      exact hholds.take_length
    · show st.pMarker + text.length
        < (snprintf st.sentence st.pMarker st.lengthRemaining text).1.length
      omega
    · show st.lengthRemaining - text.length
        = (snprintf st.sentence st.pMarker st.lengthRemaining text).1.length
          - (st.pMarker + text.length)
      omega
  · refine ⟨_, if_pos (Nat.le_of_not_lt hfits), ?_⟩
    refine ⟨⟨hst.data, hst.calls, hlen.trans hst.length⟩, ?_⟩
    have htotal := hst.length
    rw [List.length_append]
    omega

/-- **THE PIECES** follow one another. -/
theorem puts_meets {s : List UInt8} (pieces : List (List UInt8))
    (hpieces : ∀ text ∈ pieces, 0 ∉ text) :
    Meets (fun st => Writing data calls s st ∧
        (pieces = [] → Written data calls s st))
      (block (pieces.map put))
      (fun st => Writing data calls (s ++ pieces.flatten) st ∧
        Written data calls (s ++ pieces.flatten) st)
      (Overran data calls (s ++ pieces.flatten)) := by
  induction pieces generalizing s with
  | nil =>
      refine Meets.nil (fun st hst => ?_)
      rw [List.flatten_nil, List.append_nil]
      exact ⟨hst.1, hst.2 rfl⟩
  | cons text pieces ih =>
      rw [List.flatten_cons, ← List.append_assoc]
      refine Meets.cons ?_
        (ih (fun t ht => hpieces t (List.mem_cons_of_mem text ht)))
      refine (put_meets (hpieces text List.mem_cons_self)).weaken
        (fun st hst => hst.1) (fun st hst => ⟨hst.1, fun _ => hst.2⟩) ?_
      rintro st ⟨hat, hlen⟩
      refine ⟨hat, ?_⟩
      rw [List.length_append]
      omega

/-- The last piece is written, cut where there is no place for it. -/
theorem putLast_meets {s last : List UInt8} (hlast : 0 ∉ last)
    (R : NmeaRun Double → Prop) :
    Meets (Writing data calls s) (putLast last)
      (fun st => ∃ rest, Written data calls (s ++ rest) st) R := by
  refine Meets.assign (fun st hst => ?_)
  obtain ⟨hholds, hlen⟩ := snprintf_holds hst.marker hst.noNul hlast hst.inside
    hst.remaining
  exact ⟨_, ⟨hst.data, hst.calls, hlen.trans hst.length⟩, hholds⟩

/-- A text that fits is copied. -/
theorem copy_meets {text : List UInt8} (htext : 0 ∉ text)
    (hfits : text.length < NMEA_SENTENCE_MAX_LENGTH)
    (R : NmeaRun Double → Prop) :
    Meets (At data calls) (copy text) (Written data calls text) R := by
  refine Meets.assign (fun st hst => ?_)
  rw [← hst.length] at hfits
  obtain ⟨hholds, hlen⟩ := strlcpy_holds htext hfits
  exact ⟨⟨hst.data, hst.calls, hlen.trans hst.length⟩, hholds⟩

/-- A sentence is sent with its checksum, if that fits. -/
theorem send_meets {s : List UInt8} (hs : s ≠ [])
    (R : NmeaRun Double → Prop) :
    Meets (Written data calls s) send
      (Sent data calls (fun text => s <+: text ∧
        (s.length + 6 ≤ NMEA_SENTENCE_MAX_LENGTH → text = sealed s))) R := by
  intro st hst
  obtain ⟨buf', hrun, hlen, hholds⟩ := put_checksum_holds hst.holds hs
  refine ⟨.next { st with
    sentence := buf'
    calls := st.calls ++ loc_eng_nmea_send st.loc_eng_data.nmea_cb buf'
      (s.length + 5) }, ?_, buf', s.length + 5, ⟨_, hholds,
      List.prefix_append s _, ?_⟩, ?_⟩
  · rw [send, hrun]
    rfl
  · intro hroom
    have hfive : (checksumText (xorOf s)).length
        ≤ st.sentence.length - s.length - 1 := by
      show 5 ≤ _
      rw [hst.length]
      omega
    rw [List.take_of_length_le hfive]
    rfl
  · refine ⟨hst.data, ?_, hlen.trans hst.length⟩
    show st.calls ++ _ = calls ++ _
    rw [hst.calls, hst.data]

/-- The pieces are written one behind the other, or overrun the sentence. -/
theorem pieces_meets {pieces : List (List UInt8)} (hne : pieces ≠ [])
    (hpieces : ∀ text ∈ pieces, 0 ∉ text) :
    Meets (At data calls) (block (restart :: pieces.map put))
      (fun st => Writing data calls pieces.flatten st ∧
        Written data calls pieces.flatten st)
      (Overran data calls pieces.flatten) := by
  refine Meets.cons (restart_meets _) ?_
  refine (puts_meets (s := []) pieces hpieces).weaken
    (fun st hst => ⟨hst, fun h => absurd h hne⟩) (fun _ h => h) (fun _ h => h)

/-- **A SENTENCE** begins with its pieces, whatever its last one is. -/
theorem sentence_meets {pieces : List (List UInt8)} {last : List UInt8}
    (hne : pieces.flatten ≠ []) (hpieces : ∀ text ∈ pieces, 0 ∉ text)
    (hlast : 0 ∉ last) :
    Meets (At data calls) (block (openSentence pieces last))
      (Sent data calls (fun text => pieces.flatten <+: text))
      (Overran data calls pieces.flatten) := by
  have hnil : pieces ≠ [] := fun h => hne (by rw [h, List.flatten_nil])
  show Meets _ (block ((restart :: pieces.map put) ++ [putLast last, send])) _ _
  refine Meets.append (pieces_meets hnil hpieces) ?_
  refine Meets.cons (M := fun st => ∃ rest,
      Written data calls (pieces.flatten ++ rest) st)
    ((putLast_meets hlast _).weaken (fun _ h => h.1) (fun _ h => h)
      (fun _ h => h)) ?_
  refine Meets.cons ?_ (Meets.nil (fun _ h => h))
  rintro st ⟨rest, hwritten⟩
  have hrest : pieces.flatten ++ rest ≠ [] :=
    fun h => hne (List.append_eq_nil_iff.mp h).1
  refine (send_meets hrest _).weaken (fun _ h => h) ?_ (fun _ h => h) st
    hwritten
  rintro st ⟨buf, length, ⟨s, hs, hpre, -⟩, hat⟩
  exact ⟨buf, length, ⟨s, hs, (List.prefix_append _ rest).trans hpre⟩, hat⟩

/-- **A SENTENCE THAT FITS** is sent with its checksum. -/
theorem sentence_fits {pieces : List (List UInt8)}
    (hne : pieces.flatten ≠ []) (hpieces : ∀ text ∈ pieces, 0 ∉ text)
    (hfits : pieces.flatten.length + 6 ≤ NMEA_SENTENCE_MAX_LENGTH)
    (R : NmeaRun Double → Prop) :
    Meets (At data calls) (block (checkedSentence pieces))
      (Sent data calls (fun text => text = sealed pieces.flatten)) R := by
  have hnil : pieces ≠ [] := fun h => hne (by rw [h, List.flatten_nil])
  show Meets _ (block ((restart :: pieces.map put) ++ [send])) _ _
  refine Meets.append ((pieces_meets hnil hpieces).weaken (fun _ h => h)
    (fun _ h => h.2) ?_) ?_
  · rintro st ⟨-, hlen⟩
    omega
  · refine Meets.cons ((send_meets hne _).weaken (fun _ h => h) ?_
      (fun _ h => h)) (Meets.nil (fun _ h => h))
    rintro st ⟨buf, length, ⟨s, hs, -, hseal⟩, hat⟩
    exact ⟨buf, length, ⟨s, hs, hseal hfits⟩, hat⟩

/-- A blank sentence is sent as it is. -/
theorem blank_meets {text : String} (hne : ascii text ≠ [])
    (htext : 0 ∉ ascii text)
    (hfits : (ascii text).length + 6 ≤ NMEA_SENTENCE_MAX_LENGTH)
    (R : NmeaRun Double → Prop) :
    Meets (At data calls) (block (blankSentence text))
      (Sent data calls (fun s => s = sealed (ascii text))) R := by
  refine Meets.cons (copy_meets htext (by omega) _) ?_
  refine Meets.cons ((send_meets hne _).weaken (fun _ h => h) ?_
    (fun _ h => h)) (Meets.nil (fun _ h => h))
  rintro st ⟨buf, length, ⟨s, hs, -, hseal⟩, hat⟩
  exact ⟨buf, length, ⟨s, hs, hseal hfits⟩, hat⟩

end Spec

/-! ## Texts and fields -/

/-- The texts of the calls made so far. -/
def Shows {Double : Type} (data : NmeaData Double)
    (texts : List (List UInt8)) (st : NmeaRun Double) : Prop :=
  ∃ calls, At data calls st ∧ calls.map NmeaCall.text = texts

/-- The texts a call with a string makes. -/
def sendText {Double : Type} (data : NmeaData Double) (s : List UInt8) :
    List (List UInt8) :=
  if data.nmea_cb then [s] else []

/-- What is sent is the text that the buffer holds. -/
theorem send_text {Double : Type} {data : NmeaData Double}
    {buf s : List UInt8} (hs : Holds buf s) (length : Nat) :
    (loc_eng_nmea_send data.nmea_cb buf length).map NmeaCall.text
      = sendText data s := by
  rw [sendText]
  cases data.nmea_cb with
  | true => exact congrArg (fun text => [text]) hs.strOf_eq
  | false => rfl

/-- A sentence that is known adds its text. -/
theorem shows_sent {Double : Type} {data : NmeaData Double}
    {f : Stmt (NmeaRun Double)} {s : List UInt8} {R : NmeaRun Double → Prop}
    (h : ∀ calls, Meets (At data calls) f
      (Sent data calls (fun text => text = s)) R)
    (texts : List (List UInt8)) :
    Meets (Shows data texts) f (Shows data (texts ++ sendText data s)) R := by
  rintro st ⟨calls, hat, rfl⟩
  refine (h calls).weaken (fun _ h => h) ?_ (fun _ h => h) st hat
  rintro st' ⟨buf, length, ⟨_, hs, rfl⟩, hat'⟩
  refine ⟨_, hat', ?_⟩
  rw [List.map_append, send_text hs]

/-- The texts are sent if there is a callback. -/
theorem flatMap_sendText {Double : Type} (data : NmeaData Double)
    (texts : List (List UInt8)) :
    texts.flatMap (sendText data) = if data.nmea_cb then texts else [] := by
  induction texts with
  | nil => split <;> rfl
  | cons s texts ih =>
      rw [List.flatMap_cons, ih, sendText]
      split <;> rfl

/-- The data of the engine may change between the sentences. -/
theorem setData_shows {Double : Type} {data : NmeaData Double}
    {f : NmeaData Double → NmeaData Double} {R : NmeaRun Double → Prop}
    (texts : List (List UInt8)) :
    Meets (Shows data texts) (setData f) (Shows (f data) texts) R := by
  refine Meets.assign ?_
  rintro st ⟨calls, hat, htexts⟩
  exact ⟨calls, ⟨congrArg f hat.data, hat.calls, hat.length⟩, htexts⟩

/-- A field of a sentence, by its number. -/
def fieldAt : Nat → List UInt8 → List UInt8
  | 0, s => s.takeWhile (· != 44)
  | k + 1, s => fieldAt k ((s.dropWhile (· != 44)).drop 1)

/-- Fields, with a comma behind each. -/
def line (fields : List (List UInt8)) : List UInt8 :=
  (fields.map (· ++ [44])).flatten

theorem line_cons (f : List UInt8) (fields : List (List UInt8)) :
    line (f :: fields) = f ++ 44 :: line fields := by
  rw [line, List.map_cons, List.flatten_cons, List.append_assoc]
  rfl

theorem line_append (fs gs : List (List UInt8)) :
    line (fs ++ gs) = line fs ++ line gs := by
  rw [line, List.map_append, List.flatten_append, line, line]

/-- **THE FIELDS** of a sentence are those that were written. -/
theorem fieldAt_line {fields : List (List UInt8)}
    (h : ∀ f ∈ fields, 44 ∉ f) (rest : List UInt8) {k : Nat}
    (hk : k < fields.length) :
    fieldAt k (line fields ++ rest) = fields[k] := by
  induction fields generalizing k with
  | nil => exact absurd hk (Nat.not_lt_zero k)
  | cons f fields ih =>
      have hall : ∀ b ∈ f, (b != 44) = true := fun b hb =>
        bne_iff_ne.mpr (fun heq => h f List.mem_cons_self (heq ▸ hb))
      rw [line_cons, List.append_assoc, List.cons_append]
      cases k with
      | zero =>
          rw [fieldAt, List.takeWhile_append_of_pos hall]
          exact List.append_nil f
      | succ k =>
          rw [fieldAt, List.dropWhile_append_of_pos hall]
          exact ih (fun g hg => h g (List.mem_cons_of_mem f hg))
            (Nat.lt_of_succ_lt_succ hk)

/-- A text that begins with the line has its fields. -/
theorem fieldAt_prefix {fields : List (List UInt8)} {text : List UInt8}
    (hpre : line fields <+: text) (h : ∀ f ∈ fields, 44 ∉ f) {k : Nat}
    (hk : k < fields.length) : fieldAt k text = fields[k] := by
  obtain ⟨rest, rfl⟩ := hpre
  exact fieldAt_line h rest hk

/-- A line of fields without NUL has none. -/
theorem noNul_line {fields : List (List UInt8)} (h : ∀ f ∈ fields, 0 ∉ f) :
    0 ∉ line fields := by
  intro hmem
  obtain ⟨s, hs, hzero⟩ := List.mem_flatten.mp hmem
  obtain ⟨f, hf, rfl⟩ := List.mem_map.mp hs
  rcases List.mem_append.mp hzero with hzero | hzero
  · exact h f hf hzero
  · exact absurd (List.mem_singleton.mp hzero) (by decide)

/-! ## What holds of every call -/

/-- Every call is as it should be, and where there is a callback a sentence
    was sent for each of these beginnings. -/
def Sends {Double : Type} (data : NmeaData Double) (P : NmeaCall → Prop)
    (begun : List (List UInt8)) (st : NmeaRun Double) : Prop :=
  ∃ calls, At data calls st ∧ (∀ c ∈ calls, P c) ∧
    (data.nmea_cb = true → ∀ s ∈ begun, ∃ c ∈ calls, s <+: c.text)

theorem Sends.entry {Double : Type} (data : NmeaData Double)
    (P : NmeaCall → Prop) : Sends data P [] (NmeaRun.entry data) :=
  ⟨[], At.entry data, fun _ h => absurd h List.not_mem_nil,
    fun _ _ h => absurd h List.not_mem_nil⟩

/-- More sentences may have begun. -/
theorem Sends.mono {Double : Type} {data : NmeaData Double}
    {P : NmeaCall → Prop} {begun begun' : List (List UInt8)}
    {st : NmeaRun Double} (h : Sends data P begun st) (hsub : begun' ⊆ begun) :
    Sends data P begun' st := by
  obtain ⟨calls, hat, hcalls, hbegun⟩ := h
  exact ⟨calls, hat, hcalls, fun hcb s hs => hbegun hcb s (hsub hs)⟩

/-- A sentence whose calls are as they should be is one of them. -/
theorem Sends.of_sent {Double : Type} {data : NmeaData Double}
    {P : NmeaCall → Prop} {begun : List (List UInt8)} {s : List UInt8}
    (hP : ∀ c : NmeaCall, s <+: c.text → P c) {calls : List NmeaCall}
    (hcalls : ∀ c ∈ calls, P c)
    (hbegun : data.nmea_cb = true → ∀ s ∈ begun, ∃ c ∈ calls, s <+: c.text)
    {st : NmeaRun Double} (h : Sent data calls (fun text => s <+: text) st) :
    Sends data P (s :: begun) st := by
  obtain ⟨buf, length, ⟨text, htext, hpre⟩, hat⟩ := h
  rw [← htext.strOf_eq] at hpre
  refine ⟨_, hat, ?_, ?_⟩
  · intro c hc
    rcases List.mem_append.mp hc with hc | hc
    · exact hcalls c hc
    · rw [loc_eng_nmea_send] at hc
      split at hc
      · rw [List.mem_singleton.mp hc]
        exact hP _ hpre
      · exact absurd hc List.not_mem_nil
  · intro hcb t ht
    rcases List.mem_cons.mp ht with rfl | ht
    · refine ⟨⟨buf, length⟩, List.mem_append_right _ ?_, hpre⟩
      rw [loc_eng_nmea_send, if_pos hcb]
      exact List.mem_cons_self
    · obtain ⟨c, hc, hcpre⟩ := hbegun hcb t ht
      exact ⟨c, List.mem_append_left _ hc, hcpre⟩

/-- **ONE SENTENCE** among the calls. -/
theorem sentence_sends {Double : Type} {data : NmeaData Double}
    {P : NmeaCall → Prop} {begun : List (List UInt8)}
    {pieces : List (List UInt8)} {last : List UInt8}
    (hne : pieces.flatten ≠ []) (hpieces : ∀ text ∈ pieces, 0 ∉ text)
    (hlast : 0 ∉ last)
    (hP : ∀ c : NmeaCall, pieces.flatten <+: c.text → P c) :
    Meets (Sends data P begun) (block (openSentence pieces last))
      (Sends data P (pieces.flatten :: begun))
      (fun st => Sends data P begun st ∧
        NMEA_SENTENCE_MAX_LENGTH ≤ pieces.flatten.length) := by
  rintro st ⟨calls, hat, hcalls, hbegun⟩
  refine (sentence_meets hne hpieces hlast).weaken (fun _ h => h)
    (fun _ h => Sends.of_sent hP hcalls hbegun h) ?_ st hat
  rintro st' ⟨hat', hlen⟩
  exact ⟨⟨calls, hat', hcalls, hbegun⟩, hlen⟩

/-- A change of the data sends nothing. -/
theorem setData_sends {Double : Type} {data : NmeaData Double}
    {P : NmeaCall → Prop} {begun : List (List UInt8)}
    {f : NmeaData Double → NmeaData Double}
    (hcb : (f data).nmea_cb = data.nmea_cb) (R : NmeaRun Double → Prop) :
    Meets (Sends data P begun) (setData f) (Sends (f data) P begun) R := by
  refine Meets.assign ?_
  rintro st ⟨calls, hat, hcalls, hbegun⟩
  exact ⟨calls, ⟨congrArg f hat.data, hat.calls, hat.length⟩, hcalls,
    fun h => hbegun (hcb ▸ h)⟩

end QcomNmea
