import CoinTransfer.Bech32.Symbol

/-!
# CoinTransfer.Bech32.Checksum

The checksum of a Bech32 text.  A register of thirty bits takes in symbols one by
one: it moves up by five bits, the new symbol fills the low ones, and the bits
that left at the top choose which of five constants are mixed in.  Six symbols
bring the register to the value one, and they are the checksum.  Each step is
linear over exclusive or, which is what makes the six symbols unique.
-/

namespace CoinTransfer.Bech32

/-- The register of the checksum. -/
abbrev Register := BitVec 30

/-- The constants mixed in for the five bits that leave the register, from the
lowest bit up. -/
def generators : List Register := [0x3b6a57b2, 0x26508e6d, 0x1ea119fa, 0x3d4233dd, 0x2a1462b3]

/-- What the bits that left the register mix in. -/
def feedback (top : Symbol) : Register :=
  (generators.zipIdx).foldl (fun r g => if top.getLsbD g.2 then r ^^^ g.1 else r) 0

/-- The register after one more symbol. -/
def step (r : Register) (s : Symbol) : Register :=
  (r <<< 5) ^^^ s.setWidth 30 ^^^ feedback ((r >>> 25).setWidth 5)

/-- The register after a list of symbols, from a given value on. -/
def absorb (r : Register) (symbols : List Symbol) : Register := symbols.foldl step r

@[simp] theorem absorb_nil (r : Register) : absorb r [] = r := rfl

@[simp] theorem absorb_cons (r : Register) (s : Symbol) (symbols : List Symbol) :
    absorb r (s :: symbols) = absorb (step r s) symbols := rfl

@[simp] theorem absorb_append (r : Register) (front back : List Symbol) :
    absorb r (front ++ back) = absorb (absorb r front) back := by
  simp [absorb]

/-- The symbols that stand for a prefix: the high bits of its characters, a zero,
and their low bits. -/
def expand (lowerChars : List Char) : List Symbol :=
  lowerChars.map (fun c => BitVec.ofNat 5 (c.toNat / 32)) ++ [0] ++
    lowerChars.map (fun c => BitVec.ofNat 5 (c.toNat % 32))

/-- The register after a prefix and the symbols that follow it. -/
def residue (lowerChars : List Char) (symbols : List Symbol) : Register :=
  absorb 1 (expand lowerChars ++ symbols)

/-- The six symbols of a register, most significant first. -/
def symbolsOfRegister (r : Register) : List Symbol :=
  [25, 20, 15, 10, 5, 0].map fun i => (r >>> i).setWidth 5

def checksumLength : Nat := 6

/-- The checksum of a prefix and its data: what brings the register to one. -/
def checksum (lowerChars : List Char) (data : List Symbol) : List Symbol :=
  symbolsOfRegister (residue lowerChars (data ++ List.replicate checksumLength 0) ^^^ 1)

@[simp] theorem length_checksum (lowerChars : List Char) (data : List Symbol) :
    (checksum lowerChars data).length = checksumLength := rfl

/-! ## Linearity -/

/-- What leaves the register is mixed in bit by bit. -/
theorem feedback_xor : ∀ s t : Symbol, feedback (s ^^^ t) = feedback s ^^^ feedback t := by
  decide +kernel

/-- A step of a sum is the sum of the steps. -/
theorem step_xor (r q : Register) (s t : Symbol) :
    step (r ^^^ q) (s ^^^ t) = step r s ^^^ step q t := by
  simp only [step, BitVec.shiftLeft_xor_distrib, BitVec.ushiftRight_xor_distrib,
    BitVec.setWidth_xor, feedback_xor]
  ac_rfl

/-- The register after a symbolwise sum is the sum of the registers. -/
theorem absorb_zipWith_xor {ss ts : List Symbol} (h : ss.length = ts.length) (r q : Register) :
    absorb (r ^^^ q) (List.zipWith (· ^^^ ·) ss ts) = absorb r ss ^^^ absorb q ts := by
  induction ss generalizing ts r q with
  | nil =>
    obtain rfl := List.length_eq_zero_iff.1 h.symm
    rfl
  | cons s ss ih =>
    cases ts with
    | nil => simp at h
    | cons t ts => simp [step_xor, ih (by simpa using h)]

/-- What symbols do to a register is the same whatever it held before. -/
theorem absorb_eq_xor (r : Register) (symbols : List Symbol) :
    absorb r symbols = absorb r (List.replicate symbols.length 0) ^^^ absorb 0 symbols := by
  rw [← absorb_zipWith_xor (by simp)]
  congr 1
  · simp
  · induction symbols with
    | nil => rfl
    | cons s symbols ih => simpa [List.replicate_succ] using ih

/-! ## Six symbols fill the register -/

/-- The bits from a place on are those from five places further on with the five in
between. -/
theorem step_ushiftRight (x : Register) (i : Nat) :
    step (x >>> (i + 5)) ((x >>> i).setWidth 5) = x >>> i := by
  have hz : ((x >>> (i + 5)) >>> 25).setWidth 5 = (0 : Symbol) := by
    ext j hj
    simp
    exact BitVec.getLsbD_of_ge _ _ (by omega)
  have hf : feedback 0 = 0 := by decide
  rw [step, hz, hf]
  ext j hj
  by_cases h5 : j < 5
  · simp [h5]
  · have : i + 5 + (j - 5) = i + j := by omega
    simp [h5, this]

/-- Six symbols fill the register. -/
theorem absorb_symbolsOfRegister (x : Register) : absorb 0 (symbolsOfRegister x) = x := by
  have h : (0 : Register) = x >>> 30 := by
    ext j hj
    simp
  simp only [symbolsOfRegister, List.map_cons, List.map_nil, absorb_cons, absorb_nil]
  rw [h, step_ushiftRight x 25, step_ushiftRight x 20, step_ushiftRight x 15,
    step_ushiftRight x 10, step_ushiftRight x 5, step_ushiftRight x 0]
  rfl

/-- While nothing leaves the register, a symbol only moves it up. -/
theorem ushiftRight_step {q : Register} (h : q >>> 25 = 0) (s : Symbol) (i : Nat) :
    step q s >>> (i + 5) = q >>> i := by
  have hf : feedback 0 = 0 := by decide
  have hz : ((q >>> 25).setWidth 5 : Symbol) = 0 := by rw [h]; rfl
  have hq : ∀ n, 25 ≤ n → q.getLsbD n = false := fun n hn => by
    have := congrArg (BitVec.getLsbD · (n - 25)) h
    simpa [Nat.add_sub_cancel' hn] using this
  rw [step, hz, hf]
  ext j hj
  simp
  by_cases h30 : i + 5 + j < 30
  · have h1 : i + 5 + j - 5 = i + j := by omega
    have h2 : ¬ i + 5 + j < 5 := by omega
    simp [h30, h1, h2, BitVec.getLsbD_of_ge s (i + 5 + j) (by omega)]
  · simp [h30, hq (i + j) (by omega)]

/-- The symbol that came last fills the low bits. -/
theorem setWidth_step {q : Register} (h : q >>> 25 = 0) (s : Symbol) :
    (step q s).setWidth 5 = s := by
  have hf : feedback 0 = 0 := by decide
  have hz : ((q >>> 25).setWidth 5 : Symbol) = 0 := by rw [h]; rfl
  rw [step, hz, hf]
  ext j hj
  simp

/-- Six symbols can be told from the register that they alone bring about. -/
theorem symbolsOfRegister_absorb {symbols : List Symbol} (h : symbols.length = checksumLength) :
    symbolsOfRegister (absorb 0 symbols) = symbols := by
  match symbols, h with
  | [a, b, c, d, e, f], _ =>
    have clear {q : Register} (n : Nat) (hn : n ≤ 25) (h : q >>> n = 0) : q >>> 25 = 0 := by
      rw [← Nat.add_sub_cancel' hn, BitVec.shiftRight_add, h]
      simp
    have h0 : (0 : Register) >>> 0 = 0 := rfl
    have h1 := (ushiftRight_step (clear 0 (by decide) h0) a 0).trans h0
    have h2 := (ushiftRight_step (clear 5 (by decide) h1) b 5).trans h1
    have h3 := (ushiftRight_step (clear 10 (by decide) h2) c 10).trans h2
    have h4 := (ushiftRight_step (clear 15 (by decide) h3) d 15).trans h3
    have h5 := (ushiftRight_step (clear 20 (by decide) h4) e 20).trans h4
    replace h1 := clear 5 (by decide) h1
    replace h2 := clear 10 (by decide) h2
    replace h3 := clear 15 (by decide) h3
    replace h4 := clear 20 (by decide) h4
    simp only [symbolsOfRegister, List.map_cons, List.map_nil, absorb_cons, absorb_nil]
    rw [ushiftRight_step h5 f 20, ushiftRight_step h5 f 15, ushiftRight_step h5 f 10,
      ushiftRight_step h5 f 5, ushiftRight_step h5 f 0, ushiftRight_step h4 e 15,
      ushiftRight_step h4 e 10, ushiftRight_step h4 e 5, ushiftRight_step h4 e 0,
      ushiftRight_step h3 d 10, ushiftRight_step h3 d 5, ushiftRight_step h3 d 0,
      ushiftRight_step h2 c 5, ushiftRight_step h2 c 0, ushiftRight_step h1 b 0]
    simp only [BitVec.ushiftRight_zero]
    rw [setWidth_step h5, setWidth_step h4, setWidth_step h3, setWidth_step h2, setWidth_step h1,
      setWidth_step (clear 0 (by decide) h0)]

/-- Six symbols after some data bring the register to one exactly if they are the
checksum of the data. -/
theorem residue_append_eq_one_iff {lowerChars : List Char} {data six : List Symbol}
    (h : six.length = checksumLength) :
    residue lowerChars (data ++ six) = 1 ↔ six = checksum lowerChars data := by
  have hr : residue lowerChars (data ++ six) =
      residue lowerChars (data ++ List.replicate checksumLength 0) ^^^ absorb 0 six := by
    simp only [residue, ← List.append_assoc, absorb_append]
    rw [absorb_eq_xor, h]
  rw [hr, checksum]
  constructor
  · intro hx
    rw [← hx, ← BitVec.xor_assoc, BitVec.xor_self, BitVec.zero_xor, symbolsOfRegister_absorb h]
  · rintro rfl
    rw [absorb_symbolsOfRegister, ← BitVec.xor_assoc, BitVec.xor_self, BitVec.zero_xor]

/-- Data and its checksum bring the register to one. -/
theorem residue_append_checksum (lowerChars : List Char) (data : List Symbol) :
    residue lowerChars (data ++ checksum lowerChars data) = 1 :=
  (residue_append_eq_one_iff (length_checksum ..)).2 rfl

end CoinTransfer.Bech32
