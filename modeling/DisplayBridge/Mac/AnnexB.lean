import DisplayBridge.Lib.AnnexB
import DisplayBridge.Lib.Swift

/-!
# Parsing a frame into NAL units

`parseAnnexB` of `HEVCDecoder.swift`: one loop over the bytes of a frame that notes
where the start codes are, and one over the start codes that cuts the bytes between
them. Both go by index, and every subscript, range and sum in them can trap.

None does, and what the parser returns are the chunks of the byte stream that are
not empty (`DisplayBridge.parseAnnexB_eq`). The one thing this needs is that the
buffer is shorter than the largest `Int`, by a wide margin.

The loop over the bytes is given as many turns as there are bytes. To run out of
them would be a trap here, so the theorem says that it does not.

This holds of every frame, also of one that is no stream, and so does that the parser
loses nothing: start codes and pieces make up the frame
(`DisplayBridge.parseAnnexB_tiles`).
-/

namespace DisplayBridge

open Swift AnnexB

/-- `NALU`. -/
structure NALU where
  type : UInt8
  data : List UInt8
deriving DecidableEq, Repr

/-! ### The two loops -/

/-- The comparison `bytes[i + k] == b`. -/
def peek (bytes : List UInt8) (i k : ℕ) (b : UInt8) : Traps Bool := do
  let j ← addIndex i k
  let x ← subscript bytes j
  return x == b

/-- The tests in the first loop of `parseAnnexB`: the length of the start code at a
place. -/
def startCodeAt (bytes : List UInt8) (i : ℕ) : Traps (Option ℕ) := do
  if ← and (peek bytes i 0 0) (peek bytes i 1 0) then
    -- the longer start code is tried first: behind its first byte it is the shorter one
    let inside : Traps Bool := do return decide ((← addIndex i 3) < bytes.length)
    if ← and inside (and (peek bytes i 2 0) (peek bytes i 3 1)) then return some 4
    else if ← peek bytes i 2 1 then return some 3
    else return none
  else return none

/-- The first loop of `parseAnnexB`. -/
def scanLoop (bytes : List UInt8) : ℕ → ℕ → List Mark → Traps (List Mark)
  -- out of turns
  | 0, _, _ => none
  | turns + 1, i, startPositions => do
    let last ← subInt bytes.length 2
    if (i : ℤ) < last then
      match ← startCodeAt bytes i with
      | some n =>
        let naluStart ← addIndex i n
        scanLoop bytes turns naluStart (startPositions ++ [⟨i, naluStart⟩])
      | none =>
        let i ← addIndex i 1
        scanLoop bytes turns i startPositions
    else return startPositions

/-- `naluEnd` in the second loop of `parseAnnexB`. -/
def naluEnd (bytes : List UInt8) (startPositions : List Mark) (j : ℕ) : Traps ℕ := do
  let next ← addIndex j 1
  if next < startPositions.length then
    let mark ← subscript startPositions next
    return mark.offset
  else return bytes.length

/-- The second loop of `parseAnnexB`, with the number of turns it still makes. -/
def extractLoop (bytes : List UInt8) (startPositions : List Mark) :
    ℕ → ℕ → List NALU → Traps (List NALU)
  | 0, _, nalus => some nalus
  | turns + 1, j, nalus => do
    let mark ← subscript startPositions j
    let stop ← naluEnd bytes startPositions j
    if mark.start < stop then
      let naluData ← slice bytes mark.start stop
      -- HEVC NALU type: (first_byte >> 1) & 0x3F
      let first ← subscript naluData 0
      extractLoop bytes startPositions turns (j + 1)
        (nalus ++ [⟨(first >>> 1) &&& 0x3F, naluData⟩])
    else extractLoop bytes startPositions turns (j + 1) nalus

/-- `parseAnnexB`. -/
def parseAnnexB (data : Data) : Traps (List NALU) := do
  let bytes := data.bytes
  if 4 < bytes.length then
    let startPositions ← scanLoop bytes bytes.length 0 []
    extractLoop bytes startPositions startPositions.length 0 []
  else return []

/-! ### What is parsed -/

/-- The NAL unit some bytes are. -/
def NALU.ofBytes (bs : List UInt8) : NALU := ⟨(bs.getD 0 0 >>> 1) &&& 0x3F, bs⟩

/-- The NAL units of a frame: its chunks that are not empty. -/
def nalusOf (bytes : List UInt8) : List NALU :=
  if 4 < bytes.length then ((chunks bytes).2.filter (· ≠ [])).map NALU.ofBytes else []

variable {bytes bs : List UInt8} {i : ℕ}

/-- A comparison looks at the stream from the place on. -/
theorem peek_eq (h : bytes.drop i = bs) {k : ℕ} (hk : i + k < 2 ^ 63) (b : UInt8) :
    peek bytes i k b = bs[k]?.map (· == b) := by
  have hget : bytes[i + k]? = bs[k]? := by rw [← h, List.getElem?_drop]
  rw [peek, addIndex_of_lt hk]
  change (bytes[i + k]?.bind fun x => some (x == b)) = _
  rw [hget]
  exact Option.map_eq_bind.symm

/-- **The tests find the start code** of the stream from the place on. -/
theorem startCodeAt_eq (h : bytes.drop i = bs) (hbs : 3 ≤ bs.length)
    (hlen : bytes.length < 2 ^ 63) : startCodeAt bytes i = some (startCode bs) := by
  have hi : bs.length = bytes.length - i := by rw [← h, List.length_drop]
  obtain ⟨b₀, b₁, b₂, r, rfl⟩ : ∃ b₀ b₁ b₂ r, bs = b₀ :: b₁ :: b₂ :: r := by
    match bs, hbs with
    | b₀ :: b₁ :: b₂ :: r, _ => exact ⟨b₀, b₁, b₂, r, rfl⟩
  have hinside : i + 3 < bytes.length ↔ r ≠ [] := by
    rw [← List.length_pos_iff]
    simp only [List.length_cons] at hi
    omega
  have h₀ : peek bytes i 0 0 = some (b₀ == 0) := peek_eq h (by omega) 0
  have h₁ : peek bytes i 1 0 = some (b₁ == 0) := peek_eq h (by omega) 0
  have h₂ : peek bytes i 2 0 = some (b₂ == 0) := peek_eq h (by omega) 0
  have h₂' : peek bytes i 2 1 = some (b₂ == 1) := peek_eq h (by omega) 1
  have h₃ : peek bytes i 3 1 = r.head?.map (· == 1) := by
    rw [peek_eq h (by omega) 1]
    cases r <;> rfl
  -- what is left are the tests on the bytes, in their order
  rw [startCodeAt, h₀, h₁, h₂, h₂', h₃, addIndex_of_lt (by omega)]
  by_cases hb₀ : b₀ = 0
  · by_cases hb₁ : b₁ = 0
    · subst hb₀ hb₁
      cases r with
      | nil =>
        -- three bytes are left: only the shorter start code fits
        by_cases hb₂ : b₂ = 1
        · simp [Swift.and, startCode, hinside, hb₂]
        · simp [Swift.and, startCode, hinside, hb₂]
      | cons b₃ r =>
        by_cases hb₂ : b₂ = 0
        · by_cases hb₃ : b₃ = 1
          · simp [Swift.and, startCode, hinside, hb₂, hb₃]
          · simp [Swift.and, startCode, hinside, hb₂, hb₃]
        · by_cases hb₂' : b₂ = 1
          · simp [Swift.and, startCode, hinside, hb₂']
          · simp [Swift.and, startCode, hinside, hb₂, hb₂']
    · simp [Swift.and, startCode, hb₀, hb₁]
  · simp [Swift.and, startCode, hb₀]

/-- **The first loop finds the start codes**, in no more turns than there are
bytes. -/
theorem scanLoop_eq (hlen : bytes.length < 2 ^ 63) (h : bytes.drop i = bs) (hi : i ≤ bytes.length)
    {turns : ℕ} (hturns : bytes.length - i ≤ turns + 1) (startPositions : List Mark) :
    scanLoop bytes (turns + 1) i startPositions = some (startPositions ++ marks i bs) := by
  have hlast : subInt bytes.length 2 = some ((bytes.length : ℤ) - 2) :=
    subInt_of_mem (by omega) (by omega)
  induction turns generalizing i bs startPositions with
  | zero =>
    have hbs : bs.length = bytes.length - i := by rw [← h, List.length_drop]
    have hno : ¬ (i : ℤ) < (bytes.length : ℤ) - 2 := by omega
    rw [marks_of_short i (by omega), List.append_nil, scanLoop, hlast]
    exact if_neg hno
  | succ turns ih =>
    have hbs : bs.length = bytes.length - i := by rw [← h, List.length_drop]
    rw [scanLoop, hlast]
    rcases Nat.lt_or_ge bs.length 3 with hshort | hlong
    · have hno : ¬ (i : ℤ) < (bytes.length : ℤ) - 2 := by omega
      rw [marks_of_short i hshort, List.append_nil]
      exact if_neg hno
    · have hyes : (i : ℤ) < (bytes.length : ℤ) - 2 := by omega
      refine (if_pos hyes).trans ?_
      rw [startCodeAt_eq h hlong hlen]
      cases hn : startCode bs with
      | some n =>
        have hn' := startCode_eq_some hn
        -- a start code has at least one byte, so the turns that are left suffice
        have hdrop : bytes.drop (i + n) = bs.drop n := by rw [← h, List.drop_drop]
        have hnext : addIndex i n = some (i + n) := addIndex_of_lt (by omega)
        have hrest := ih hdrop (by omega) (by omega) (startPositions ++ [⟨i, i + n⟩])
        simp only [Option.bind_eq_bind, Option.bind_some, hnext, hrest]
        rw [marks_of_startCode i hn, List.append_assoc, List.singleton_append]
      | none =>
        obtain ⟨b, l, rfl⟩ := List.exists_cons_of_length_pos (by omega : 0 < bs.length)
        have hdrop : bytes.drop (i + 1) = l := by
          rw [← List.drop_drop, h, List.drop_one, List.tail_cons]
        have hnext : addIndex i 1 = some (i + 1) := addIndex_of_lt (by omega)
        have hrest := ih hdrop (by omega) (by omega) startPositions
        simp only [Option.bind_eq_bind, Option.bind_some, hnext, hrest]
        rw [marks_cons i hn]

/-- What ends a piece is found. -/
theorem naluEnd_eq {startPositions ms : List Mark} {m : Mark} {j : ℕ}
    (h : startPositions.drop j = m :: ms) (hlen : startPositions.length < 2 ^ 63) :
    naluEnd bytes startPositions j = some (stop bytes.length ms) := by
  have hdrop : startPositions.drop (j + 1) = ms := by
    rw [← List.drop_drop, h, List.drop_one, List.tail_cons]
  have hj : ms.length = startPositions.length - (j + 1) := by rw [← hdrop, List.length_drop]
  rw [naluEnd, addIndex_of_lt (by
    have := congrArg List.length h
    rw [List.length_drop, List.length_cons] at this
    omega)]
  cases ms with
  | nil =>
    rw [List.length_nil] at hj
    exact if_neg (by omega)
  | cons m' ms =>
    rw [List.length_cons] at hj
    have hget : startPositions[j + 1]? = some m' := by
      rw [← List.head?_drop, hdrop, List.head?_cons]
    refine (if_pos (by omega : j + 1 < startPositions.length)).trans ?_
    change (startPositions[j + 1]?.bind fun mark => some mark.offset) = _
    rw [hget]
    rfl

/-- **The second loop cuts the buffer**, and keeps the pieces that are not empty. -/
theorem extractLoop_eq {startPositions ms : List Mark}
    (hlen : startPositions.length < 2 ^ 63) {j : ℕ} (h : startPositions.drop j = ms)
    (hms : ∀ m ∈ ms, m.offset ≤ bytes.length) (nalus : List NALU) :
    extractLoop bytes startPositions ms.length j nalus =
      some (nalus ++ ((cuts bytes ms).filter (· ≠ [])).map NALU.ofBytes) := by
  induction ms generalizing j nalus with
  | nil =>
    rw [cuts, List.filter_nil, List.map_nil, List.append_nil]
    rfl
  | cons m ms ih =>
    have hdrop : startPositions.drop (j + 1) = ms := by
      rw [← List.drop_drop, h, List.drop_one, List.tail_cons]
    have hget : subscript startPositions j = some m := by
      rw [subscript, ← List.head?_drop, h, List.head?_cons]
    have hrest := ih hdrop fun m' hm' => hms m' (List.mem_cons_of_mem _ hm')
    have hstop : stop bytes.length ms ≤ bytes.length := by
      cases ms with
      | nil => exact le_rfl
      | cons m' ms => exact hms m' (List.mem_cons_of_mem _ List.mem_cons_self)
    rw [List.length_cons, extractLoop, hget, naluEnd_eq h hlen, cuts]
    simp only [Option.bind_eq_bind, Option.bind_some]
    by_cases hempty : m.start < stop bytes.length ms
    · obtain ⟨b, l, hpiece⟩ : ∃ b l,
          (bytes.drop m.start).take (stop bytes.length ms - m.start) = b :: l := by
        refine List.exists_cons_of_length_pos ?_
        rw [List.length_take, List.length_drop]
        omega
      have hslice : slice bytes m.start (stop bytes.length ms) = some (b :: l) := by
        rw [slice, if_pos ⟨hempty.le, hstop⟩, hpiece]
      have hsub : subscript (b :: l) 0 = some b := rfl
      rw [if_pos hempty, hslice]
      simp only [Option.bind_some, hsub, hrest]
      rw [hpiece, List.filter_cons_of_pos (by simp), List.map_cons,
        List.append_assoc, List.singleton_append]
      rfl
    -- the loop goes on behind an empty piece, and the filter drops it
    · have hnil : (bytes.drop m.start).take (stop bytes.length ms - m.start) = [] := by
        rw [Nat.sub_eq_zero_of_le (not_lt.1 hempty), List.take_zero]
      rw [if_neg hempty, hrest, hnil, List.filter_cons_of_neg (by simp)]

/-- **The first loop run on a frame** finds all its start codes. -/
theorem scanLoop_zero_eq (hlen : bytes.length < 2 ^ 63) (hne : 0 < bytes.length) :
    scanLoop bytes bytes.length 0 [] = some (marks 0 bytes) := by
  obtain ⟨turns, hturns⟩ := Nat.exists_eq_add_one.2 hne
  have hscan := scanLoop_eq hlen List.drop_zero (Nat.zero_le _)
    (by omega : bytes.length - 0 ≤ turns + 1) []
  rwa [← hturns] at hscan

/-- **Parsing does not trap**, and gives the chunks that are not empty. -/
theorem parseAnnexB_eq {data : Data} (hlen : data.count < 2 ^ 63) :
    parseAnnexB data = some (nalusOf data.bytes) := by
  have hlen' : data.bytes.length < 2 ^ 63 := hlen
  rw [parseAnnexB, nalusOf]
  by_cases hshort : 4 < data.bytes.length
  · have hscan := scanLoop_zero_eq hlen' (by omega : 0 < data.bytes.length)
    have hmarks : ∀ m ∈ marks 0 data.bytes, m.offset ≤ data.bytes.length := by
      intro m hm
      have := marks_le 0 data.bytes m hm
      omega
    have hcount : (marks 0 data.bytes).length < 2 ^ 63 :=
      (length_marks_le 0 data.bytes).trans_lt hlen'
    have hcuts := (cuts_marks (List.drop_zero (l := data.bytes)) (Nat.zero_le _)).2
    have hextract := extractLoop_eq hcount List.drop_zero hmarks []
    rw [if_pos hshort, if_pos hshort, hscan, hcuts]
    exact hextract
  · rw [if_neg hshort, if_neg hshort]
    rfl

/-- A NAL unit has bytes, and no more than the frame. -/
theorem mem_nalusOf {nalu : NALU} (h : nalu ∈ nalusOf bytes) :
    nalu.data ≠ [] ∧ nalu.data.length ≤ bytes.length := by
  rw [nalusOf] at h
  split at h
  · obtain ⟨c, hc, rfl⟩ := List.mem_map.1 h
    obtain ⟨hmem, hne⟩ := List.mem_filter.1 hc
    exact ⟨of_decide_eq_true hne, (length_chunks_le bytes).2 c hmem⟩
  · cases h

/-! ### Nothing is lost -/

/-- **The start codes and the pieces tile every frame.** Whatever the bytes are, the
parser finds start codes that are in order and apart, and these, the bytes before them
and the pieces between them put together are the frame. What it returns are the pieces
that are not empty, in their order, and there is no start code left in them. -/
theorem parseAnnexB_tiles {data : Data} (hlong : 4 < data.count) (hcount : data.count < 2 ^ 63) :
    ∃ startPositions nalus, scanLoop data.bytes data.count 0 [] = some startPositions ∧
      parseAnnexB data = some nalus ∧
      startPositions.Pairwise (fun m m' => m.start ≤ m'.offset) ∧
      (∀ m ∈ startPositions, m.offset < m.start ∧ m.start ≤ data.count ∧
        (m.bytes data.bytes = [0, 0, 1] ∨ m.bytes data.bytes = [0, 0, 0, 1])) ∧
      data.bytes.take (stop data.count startPositions) ++ glue data.bytes startPositions =
        data.bytes ∧
      nalus = ((cuts data.bytes startPositions).filter (· ≠ [])).map NALU.ofBytes ∧
      ∀ nalu ∈ nalus, ¬ [0, 0, 1] <:+: nalu.data := by
  have hbytes := bytes_of_mem_marks (List.drop_zero (l := data.bytes))
  have hglue := take_stop_append_glue (List.drop_zero (l := data.bytes)) (Nat.zero_le _)
  have hcuts := (cuts_marks (List.drop_zero (l := data.bytes)) (Nat.zero_le _)).2
  have hnalus : nalusOf data.bytes =
      ((cuts data.bytes (marks 0 data.bytes)).filter (· ≠ [])).map NALU.ofBytes := by
    rw [← hcuts]
    exact if_pos hlong
  have hscan := scanLoop_zero_eq hcount (Nat.zero_lt_of_lt hlong)
  refine ⟨marks 0 data.bytes, nalusOf data.bytes, hscan, parseAnnexB_eq hcount,
    pairwise_marks 0 data.bytes, fun m hm => ⟨?_, ?_, hbytes m hm⟩, hglue, hnalus, ?_⟩
  · have hmark := hbytes m hm
    by_contra hle
    rw [Mark.bytes, Nat.sub_eq_zero_of_le (not_lt.1 hle), List.take_zero] at hmark
    rcases hmark with hmark | hmark <;> cases hmark
  · have hle := marks_le 0 data.bytes m hm
    rw [Data.count]
    omega
  · intro nalu hnalu
    rw [hnalus, ← hcuts] at hnalu
    obtain ⟨c, hc, rfl⟩ := List.mem_map.1 hnalu
    exact (not_infix_chunks data.bytes).2 c (List.mem_of_mem_filter hc)

/-- A frame that is no stream: bytes before the first start code, an empty piece between
two, and one that ends like a start code. -/
theorem parseAnnexB_tiles_malformed :
    ∃ startPositions nalus,
      scanLoop [7, 0, 0, 1, 0, 0, 0, 1, 0x40, 0, 0] 11 0 [] = some startPositions ∧
      startPositions = [⟨1, 4⟩, ⟨4, 8⟩] ∧
      parseAnnexB ⟨0, [7, 0, 0, 1, 0, 0, 0, 1, 0x40, 0, 0]⟩ = some nalus ∧
      nalus = [⟨32, [0x40, 0, 0]⟩] ∧ ∀ nalu ∈ nalus, ¬ [0, 0, 1] <:+: nalu.data := by
  obtain ⟨startPositions, nalus, hscan, hparse, -, -, -, -, hcode⟩ :=
    @parseAnnexB_tiles ⟨0, [7, 0, 0, 1, 0, 0, 0, 1, 0x40, 0, 0]⟩ (by decide) (by decide)
  refine ⟨startPositions, nalus, hscan, ?_, hparse, ?_, hcode⟩
  · exact Option.some.inj (hscan.symm.trans (by decide))
  · exact Option.some.inj (hparse.symm.trans (by decide))

end DisplayBridge
