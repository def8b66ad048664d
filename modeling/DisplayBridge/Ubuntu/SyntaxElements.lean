import DisplayBridge.Ubuntu.Bitstream

/-!
# Whatever is written can be read

The header functions of `encoder.c` write fixed lists of syntax elements. Nothing of
that matters to the bit writer: every list of elements, closed with the trailing bits, can be
read back by a reader that knows their kinds (`DisplayBridge.bitWriter_decodable`). The
reader finds the values, then the stop bit and the zeros behind it, and stands at the
byte the writer has counted to.

This is the induction behind it (`DisplayBridge.run_readElements`): each code is read
to its end whatever follows it, so the codes of a list are read one after the other.
-/

namespace DisplayBridge

open Bits
open Bitstream (ofBits)

/-! ### Elements -/

/-- A syntax element with its value, as it is handed to the writer. -/
inductive SyntaxElement
  | u (n : ℕ) (value : UInt32)
  | ue (value : UInt32)
  | se (value : ℤ)
deriving DecidableEq

/-- What a reader has to know of an element. -/
inductive ElementKind
  | u (n : ℕ)
  | ue
  | se
deriving DecidableEq

namespace SyntaxElement

/-- The kind of an element. -/
def kind : SyntaxElement → ElementKind
  | .u n _ => .u n
  | .ue _ => .ue
  | .se _ => .se

/-- The value of an element. -/
def value : SyntaxElement → ℤ
  | .u _ value => value.toNat
  | .ue value => value.toNat
  | .se value => value

/-- The values the writer is made for. -/
def Writable : SyntaxElement → Prop
  | .u n value => 1 ≤ n ∧ n ≤ 32 ∧ value.toNat < 2 ^ n
  | .ue value => value.toNat ≤ 2 ^ 32 - 2
  | .se value => value.natAbs < 2 ^ 30

instance (e : SyntaxElement) : Decidable e.Writable := by
  cases e <;> unfold Writable <;> infer_instance

/-- The element is written. -/
def write (bs : Bitstream) : SyntaxElement → Bitstream
  | .u n value => bsWrite bs value n
  | .ue value => bsWriteUe bs value
  | .se value => bsWriteSe bs value

/-- Its code. -/
def code : SyntaxElement → List Bool
  | .u n value => bitsOf n value.toNat
  | .ue value => ueBits value.toNat
  | .se value => seBits value

end SyntaxElement

/-- The elements are written, one after the other. -/
def writeElements (bs : Bitstream) (es : List SyntaxElement) : Bitstream :=
  es.foldl SyntaxElement.write bs

/-- An element of the kind is read. -/
def ElementKind.read : ElementKind → Reader ℤ
  | .u n => do
    let v ← Bits.u n
    return v
  | .ue => do
    let v ← Bits.ue
    return v
  | .se => Bits.se

/-- The elements of the kinds are read, one after the other. -/
def readElements : List ElementKind → Reader (List ℤ)
  | [] => pure []
  | k :: ks => do
    let v ← k.read
    let vs ← readElements ks
    return v :: vs

/-! ### Writing and reading one element, and many -/

theorem write_ofBits (capacity : ℕ) (l : List Bool) {e : SyntaxElement} (h : e.Writable) :
    e.write (ofBits capacity l) = ofBits capacity (l ++ e.code) := by
  cases e with
  | u n value => exact bsWrite_ofBits capacity l value n
  | ue value =>
    have hvalue : value.toNat ≤ 2 ^ 32 - 2 := h
    exact bsWriteUe_ofBits capacity l (by omega)
  | se value => exact bsWriteSe_ofBits capacity l h

theorem run_read {e : SyntaxElement} (h : e.Writable) (rest : List Bool) :
    e.kind.read.run (e.code ++ rest) = some (e.value, rest) := by
  cases e with
  | u n value =>
    obtain ⟨-, -, hvalue⟩ := h
    have hread := run_u_bind rest n value.toNat fun v => (pure (v : ℤ) : Reader ℤ)
    rw [Nat.mod_eq_of_lt hvalue] at hread
    exact hread
  | ue value => exact run_ue_bind rest value.toNat fun v => (pure (v : ℤ) : Reader ℤ)
  | se value => exact run_se rest value

theorem writeElements_ofBits (capacity : ℕ) (l : List Bool) {es : List SyntaxElement}
    (h : ∀ e ∈ es, e.Writable) :
    writeElements (ofBits capacity l) es =
      ofBits capacity (l ++ es.flatMap SyntaxElement.code) := by
  induction es generalizing l with
  | nil => rw [List.flatMap_nil, List.append_nil, writeElements, List.foldl_nil]
  | cons e es ih =>
    obtain ⟨he, hes⟩ := List.forall_mem_cons.1 h
    rw [writeElements, List.foldl_cons, write_ofBits capacity l he, List.flatMap_cons,
      ← List.append_assoc]
    exact ih (l ++ e.code) hes

/-- **The elements are read back**, whatever follows them. -/
theorem run_readElements {es : List SyntaxElement} (h : ∀ e ∈ es, e.Writable)
    (rest : List Bool) :
    (readElements (es.map SyntaxElement.kind)).run (es.flatMap SyntaxElement.code ++ rest) =
      some (es.map SyntaxElement.value, rest) := by
  induction es with
  | nil => rfl
  | cons e es ih =>
    obtain ⟨he, hes⟩ := List.forall_mem_cons.1 h
    rw [List.map_cons, readElements, List.flatMap_cons, List.append_assoc,
      run_bind_some (run_read he _), run_bind_some (ih hes)]
    rfl

/-! ### The whole buffer -/

/-- A reader of the elements and of the trailing bits. -/
def readClosed (ks : List ElementKind) : Reader (List ℤ) := do
  let vs ← readElements ks
  stop
  return vs

/-- **The bit writer is uniquely decodable.** Of whatever elements were written, and closed
with the trailing bits, into a buffer that is large enough, a reader of their kinds finds
all values and the end, and has then read the bytes written and no more. -/
theorem bitWriter_decodable {es : List SyntaxElement} (h : ∀ e ∈ es, e.Writable)
    {capacity : ℕ} {bs : Bitstream}
    (hbs : bs = bsTrailingBits (writeElements (bsInit capacity) es))
    (hcapacity : bsBytesWritten bs ≤ capacity) :
    (readClosed (es.map SyntaxElement.kind)).run (toBits bs.buf) =
      some (es.map SyntaxElement.value, toBits (bs.buf.drop (bsBytesWritten bs))) := by
  set l := es.flatMap SyntaxElement.code with hl
  have hbits : bs = ofBits capacity (l ++ stopBits l.length) := by
    rw [hbs, bsInit_eq, writeElements_ofBits capacity [] h, List.nil_append,
      bsTrailingBits_ofBits]
  have hwritten : bsBytesWritten bs = l.length / 8 + 1 := by
    rw [hbits, bsBytesWritten_ofBits]
  -- the buffer is the bits written and whatever stands behind them
  have hbuf : toBits bs.buf = l ++ (stopBits l.length ++
      toBits (bs.buf.drop (bsBytesWritten bs))) := by
    have htake : toBits (bs.buf.take (bsBytesWritten bs)) = l ++ stopBits l.length := by
      rw [hwritten, hbits, take_ofBits (length_append_stopBits l) (hwritten ▸ hcapacity)]
      exact toBits_rbsp l
    rw [← List.append_assoc, ← htake, ← toBits_append, List.take_append_drop]
  have hrest : (toBits (bs.buf.drop (bsBytesWritten bs))).length % 8 = 0 := by
    rw [length_toBits, Nat.mul_mod_right]
  rw [hbuf, readClosed, hl, run_bind_some (run_readElements h _),
    run_bind_some (run_stop_append _ _ hrest)]
  rfl

/-- One element of each kind, in a buffer of eight bytes. -/
theorem bitWriter_decodable_three :
    (readClosed [.u 3, .ue, .se]).run
        (toBits (bsTrailingBits (writeElements (bsInit 8) [.u 3 5, .ue 300, .se (-7)])).buf) =
      some ([5, 300, -7], toBits [0, 0, 0, 0]) := by
  have h : ∀ e ∈ [SyntaxElement.u 3 5, .ue 300, .se (-7)], e.Writable := by decide
  have hread := bitWriter_decodable h rfl (by decide +kernel : _ ≤ 8)
  exact hread.trans (by decide +kernel)

end DisplayBridge
