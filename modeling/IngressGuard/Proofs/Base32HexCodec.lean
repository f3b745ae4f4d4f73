import Mathlib.Tactic.Ring
import Mathlib.Data.List.Forall2
import IngressGuard.Text.Base32Hex
import IngressGuard.Proofs.AsciiText

/-!
# Base32hex written and read back

Bits of numbers and pieces of lists first: a number's bits read back as the number below the
field's width, bits read as a number are written back as those bits, and pieces of a fixed size
flatten back to the list they were cut from.

Then the codec. Reading the text written for bytes gives back the bytes, and reading is
canonical: bytes that a text reads as are written as that text in lowercase. So the lowercase
form of a text that is read is a written text, and two texts read as the same bytes differ only
in case.
-/

namespace IngressGuard.Bytes

@[simp] theorem length_bitsOf (w n : Nat) : (bitsOf w n).length = w := by
  induction w with
  | zero => rfl
  | succ w ih => simp [bitsOf, ih]

theorem foldl_ofBits (a : Nat) (bs : List Bool) :
    bs.foldl (fun acc b => 2 * acc + b.toNat) a = a * 2 ^ bs.length + ofBits bs := by
  induction bs generalizing a with
  | nil => simp [ofBits]
  | cons b bs ih =>
    simp only [List.foldl_cons, ofBits, Nat.mul_zero, Nat.zero_add, List.length_cons] at ih ⊢
    rw [ih, ih b.toNat, Nat.pow_succ]
    ring

theorem ofBits_append (xs ys : List Bool) :
    ofBits (xs ++ ys) = ofBits xs * 2 ^ ys.length + ofBits ys := by
  rw [ofBits, List.foldl_append, foldl_ofBits]
  rfl

theorem ofBits_cons (b : Bool) (bs : List Bool) :
    ofBits (b :: bs) = b.toNat * 2 ^ bs.length + ofBits bs := by
  rw [← List.singleton_append, ofBits_append]
  simp [ofBits]

theorem ofBits_lt (bs : List Bool) : ofBits bs < 2 ^ bs.length := by
  induction bs with
  | nil => simp [ofBits]
  | cons b bs ih =>
    rw [ofBits_cons, List.length_cons, Nat.pow_succ]
    cases b <;> simp <;> omega

theorem ofBits_bitsOf (w n : Nat) : ofBits (bitsOf w n) = n % 2 ^ w := by
  induction w with
  | zero => simp [bitsOf, ofBits, Nat.mod_one]
  | succ w ih =>
    rw [bitsOf, ofBits_cons, length_bitsOf, ih, Nat.mod_pow_succ, Nat.toNat_testBit]
    ring

theorem bitsOf_congr {w m n : Nat} (h : ∀ i < w, m.testBit i = n.testBit i) :
    bitsOf w m = bitsOf w n := by
  induction w with
  | zero => rfl
  | succ w ih =>
    rw [bitsOf, bitsOf, h w (by omega), ih fun i hi => h i (by omega)]

theorem bitsOf_ofBits (bs : List Bool) : bitsOf bs.length (ofBits bs) = bs := by
  induction bs with
  | nil => rfl
  | cons b bs ih =>
    have hlt := ofBits_lt bs
    -- below the top bit the number is `ofBits bs`
    have hlow : bitsOf bs.length (2 ^ bs.length * b.toNat + ofBits bs) =
        bitsOf bs.length (ofBits bs) :=
      bitsOf_congr fun i hi => by rw [Nat.testBit_two_pow_mul_add _ hlt, if_pos hi]
    rw [List.length_cons, bitsOf, ofBits_cons, Nat.mul_comm, hlow, ih,
      Nat.testBit_two_pow_mul_add _ hlt, if_neg (Nat.lt_irrefl _), Nat.sub_self]
    cases b <;> rfl

@[simp] theorem chunks_nil {α : Type} (k : Nat) : chunks k ([] : List α) = [] := by
  rw [chunks, if_pos (Or.inr rfl)]

theorem chunks_of_length {α : Type} {k : Nat} {xs ys : List α} (hk : 0 < k) (h : xs.length = k) :
    chunks k (xs ++ ys) = xs :: chunks k ys := by
  rw [chunks, if_neg]
  · simp [← h]
  · simp only [not_or, List.append_eq_nil_iff]
    refine ⟨by omega, fun hx => ?_⟩
    simp [hx.1] at h
    omega

theorem chunks_flatMap {α β : Type} {k : Nat} (hk : 0 < k) (f : α → List β)
    (hf : ∀ a, (f a).length = k) (xs : List α) : chunks k (xs.flatMap f) = xs.map f := by
  induction xs with
  | nil => simp
  | cons a xs ih => rw [List.flatMap_cons, chunks_of_length hk (hf a), ih, List.map_cons]

theorem flatten_chunks {α : Type} {k : Nat} (hk : 0 < k) (xs : List α) :
    (chunks k xs).flatten = xs := by
  fun_induction chunks k xs with
  | case1 xs h =>
    rcases h with h | rfl
    · omega
    · rfl
  | case2 xs h ih => rw [List.flatten_cons, ih, List.take_append_drop]

/-- Filling the last piece up with `false` is filling the whole list up to a multiple of `k`. -/
theorem map_fill_chunks {k : Nat} (hk : 0 < k) (xs : List Bool) :
    (chunks k xs).map (fun g => g ++ List.replicate (k - g.length) false) =
      chunks k (xs ++ List.replicate ((k - xs.length % k) % k) false) := by
  fun_induction chunks k xs with
  | case1 xs h =>
    rcases h with h | rfl
    · omega
    · simp
  | case2 xs h ih =>
    simp only [not_or] at h
    have hpos := List.length_pos_iff.2 h.2
    rw [List.map_cons, ih]
    rcases Nat.lt_or_ge xs.length k with hlt | hge
    · -- the last piece: filled up to `k` and nothing follows
      have hfill : (k - xs.length % k) % k = k - xs.length := by
        rw [Nat.mod_eq_of_lt hlt, Nat.mod_eq_of_lt (by omega)]
      have hlen : (xs ++ List.replicate (k - xs.length) false).length = k := by
        rw [List.length_append, List.length_replicate]
        omega
      rw [List.take_of_length_le (by omega), List.drop_eq_nil_of_le (by omega), hfill,
        ← List.append_nil (xs ++ _), chunks_of_length hk hlen]
      simp
    · have hmod : (xs.length - k) % k = xs.length % k := (Nat.mod_eq_sub_mod hge).symm
      rw [List.length_take, Nat.min_eq_left hge, Nat.sub_self, List.replicate_zero, List.append_nil,
        List.length_drop, hmod, ← chunks_of_length hk (List.length_take_of_le hge),
        ← List.append_assoc, List.take_append_drop]


/-- A non-empty list whose length is a multiple of `k` has at least `k` elements. -/
theorem le_length_of_mod_eq_zero {α : Type} {k : Nat} {xs : List α} (hne : xs ≠ [])
    (h : xs.length % k = 0) : k ≤ xs.length := by
  rcases Nat.lt_or_ge xs.length k with hlt | hge
  · rw [Nat.mod_eq_of_lt hlt] at h
    exact absurd (List.length_eq_zero_iff.1 h) hne
  · exact hge

/-- Cut at a multiple of its length, a list falls into pieces of exactly `k` elements. -/
theorem length_of_mem_chunks {α : Type} {k : Nat} {xs g : List α}
    (hlen : xs.length % k = 0) (hg : g ∈ chunks k xs) : g.length = k := by
  fun_induction chunks k xs with
  | case1 xs h => simp at hg
  | case2 xs h ih =>
    simp only [not_or] at h
    have hle := le_length_of_mod_eq_zero h.2 hlen
    rcases List.mem_cons.1 hg with rfl | hg
    · simp [hle]
    · exact ih (by rw [List.length_drop, ← Nat.mod_eq_sub_mod hle, hlen]) hg

theorem length_chunks {α : Type} {k : Nat} (hk : 0 < k) {xs : List α}
    (hlen : xs.length % k = 0) : k * (chunks k xs).length = xs.length := by
  fun_induction chunks k xs with
  | case1 xs h =>
    rcases h with h | rfl
    · omega
    · simp
  | case2 xs h ih =>
    simp only [not_or] at h
    have hle := le_length_of_mod_eq_zero h.2 hlen
    rw [List.length_cons, Nat.mul_succ,
      ih (by rw [List.length_drop, ← Nat.mod_eq_sub_mod hle, hlen]), List.length_drop]
    omega

end IngressGuard.Bytes

namespace IngressGuard.Base32Hex

open IngressGuard.Bytes

theorem toNat_symbol {v : Nat} (hv : v < 32) :
    (symbol v).toNat = if v < 10 then 48 + v else 87 + v := by
  unfold symbol
  split <;> rw [toNat_ofNat_of_lt (by omega)]

theorem symbol_ascii {v : Nat} (hv : v < 32) : (symbol v).toNat < 128 := by
  rw [toNat_symbol hv]
  split <;> omega

/-- Each symbol is read back as its value. -/
theorem value?_symbol {v : Nat} (hv : v < 32) : value? (symbol v).toNat.toUInt8 = some v := by
  have hb : (symbol v).toNat.toUInt8.toNat = if v < 10 then 48 + v else 87 + v := by
    simp only [Nat.toUInt8_eq, UInt8.toNat_ofNat', Nat.reducePow]
    rw [Nat.mod_eq_of_lt (by have := symbol_ascii hv; omega), toNat_symbol hv]
  unfold value?
  simp only [hb]
  by_cases h : v < 10
  · rw [if_pos h, if_pos (by omega), Nat.add_sub_cancel_left]
  · rw [if_neg h, if_neg (by omega), if_neg (by omega), if_pos (by omega), Nat.add_sub_cancel_left]

/-- A byte read as a symbol is ASCII, and its value is written as the byte's character in
lowercase. -/
theorem value?_eq_some {b : UInt8} {v : Nat} (h : value? b = some v) :
    v < 32 ∧ b.toNat < 128 ∧ symbol v = (Char.ofNat b.toNat).toLower := by
  unfold value? at h
  simp only at h
  have hlower : ∀ {n : Nat}, n < 128 →
      (Char.ofNat n).toLower.toNat = if 65 ≤ n ∧ n ≤ 90 then n + 32 else n := fun hn => by
    rw [toNat_toLower, toNat_ofNat_of_lt hn]
  split_ifs at h with h₁ h₂ h₃
  all_goals cases h
  · refine ⟨by omega, by omega, Char.toNat_inj.1 ?_⟩
    rw [toNat_symbol (by omega), if_pos (by omega), hlower (by omega), if_neg (by omega)]
    omega
  · refine ⟨by omega, by omega, Char.toNat_inj.1 ?_⟩
    rw [toNat_symbol (by omega), if_neg (by omega), hlower (by omega), if_pos (by omega)]
    omega
  · refine ⟨by omega, by omega, Char.toNat_inj.1 ?_⟩
    rw [toNat_symbol (by omega), if_neg (by omega), hlower (by omega), if_neg (by omega)]
    omega

theorem values_go_eq_ok {pos : Nat} {input : List UInt8} {vs : List Nat}
    (h : values.go pos input = .ok vs) :
    List.Forall₂ (fun b v => value? b = some v) input vs := by
  induction input generalizing pos vs with
  | nil =>
    cases h
    exact .nil
  | cons b rest ih =>
    unfold values.go at h
    split at h
    · cases h
    · rename_i v hv
      cases hgo : values.go (pos + 1) rest with
      | error e => rw [hgo] at h; cases h
      | ok vs' =>
        rw [hgo] at h
        cases h
        exact .cons hv (ih hgo)

theorem values_go_symbols (pos : Nat) {vs : List Nat} (hvs : ∀ v ∈ vs, v < 32) :
    values.go pos (vs.map fun v => (symbol v).toNat.toUInt8) = .ok vs := by
  induction vs generalizing pos with
  | nil => rfl
  | cons v vs ih =>
    rw [List.map_cons, values.go, value?_symbol (hvs v (by simp)),
      ih (pos + 1) fun w hw => hvs w (by simp [hw])]
    rfl

/-- What a successful reading checked: a length writing can produce, a symbol at every position,
and no set bit past the last whole byte; the bytes are the whole bytes of the symbols' bits. -/
theorem decode_eq_ok {input : List UInt8} {bytes : List UInt8} (h : decode input = .ok bytes) :
    lengthOk input.length = true ∧
      ∃ vs, List.Forall₂ (fun b v => value? b = some v) input vs ∧
      ((vs.flatMap (bitsOf 5)).drop (8 * (5 * input.length / 8))).any id = false ∧
      bytes = (chunks 8 ((vs.flatMap (bitsOf 5)).take (8 * (5 * input.length / 8)))).map
        fun byte => (ofBits byte).toUInt8 := by
  unfold decode at h
  simp only at h
  split at h
  · cases h
  · rename_i hlen
    refine ⟨by simpa using hlen, ?_⟩
    split at h
    · cases h
    · rename_i vs hvs
      split at h
      · cases h
      · rename_i htrail
        cases h
        exact ⟨vs, values_go_eq_ok hvs, by simpa using htrail, rfl⟩

theorem length_bitsOfBytes (bytes : List UInt8) :
    (bitsOfBytes bytes).length = 8 * bytes.length := by
  induction bytes with
  | nil => rfl
  | cons b bytes ih =>
    rw [bitsOfBytes, List.flatMap_cons, List.length_append, length_bitsOf, ← bitsOfBytes, ih,
      List.length_cons]
    omega

theorem chunks_bitsOfBytes (bytes : List UInt8) :
    chunks 8 (bitsOfBytes bytes) = bytes.map fun b => bitsOf 8 b.toNat :=
  chunks_flatMap (by decide) _ (fun _ => length_bitsOf _ _) bytes

/-- Writing fills the bits up to a multiple of five with zero bits and writes each group of five
as its symbol. -/
theorem encode_eq (bytes : List UInt8) :
    encode bytes = String.ofList ((chunks 5 (bitsOfBytes bytes ++
      List.replicate ((5 - 8 * bytes.length % 5) % 5) false)).map fun g => symbol (ofBits g)) := by
  rw [encode, ← length_bitsOfBytes, ← map_fill_chunks (by decide), List.map_map]
  rfl

/-- Groups of five bits read as symbol values and written back as bits give the groups again. -/
theorem flatMap_bitsOf_ofBits {groups : List (List Bool)} (h : ∀ g ∈ groups, g.length = 5) :
    (groups.map ofBits).flatMap (bitsOf 5) = groups.flatten := by
  have hgroups : groups.map (fun g => bitsOf 5 (ofBits g)) = groups.map id :=
    List.map_congr_left fun g hg => by rw [← h g hg, bitsOf_ofBits, id]
  rw [List.flatMap_map, List.flatMap_def, hgroups, List.map_id]

/-- Groups of five bits read as values: each below 32, five bits each, and written back as bits
they give the groups again. -/
theorem ofBits_chunks_five {bits : List Bool} (hmod : bits.length % 5 = 0) :
    (∀ v ∈ (chunks 5 bits).map ofBits, v < 32) ∧
      5 * ((chunks 5 bits).map ofBits).length = bits.length ∧
      ((chunks 5 bits).map ofBits).flatMap (bitsOf 5) = bits := by
  have hgroup : ∀ g ∈ chunks 5 bits, g.length = 5 := fun g hg => length_of_mem_chunks hmod hg
  refine ⟨fun v hv => ?_, ?_, ?_⟩
  · obtain ⟨g, hg, rfl⟩ := List.mem_map.1 hv
    have := ofBits_lt g
    rwa [hgroup g hg] at this
  · rw [List.length_map, length_chunks (by decide) hmod]
  · rw [flatMap_bitsOf_ofBits hgroup, flatten_chunks (by decide)]

/-- Each byte's eight bits read back as the byte. -/
theorem bytes_of_bitsOfBytes (bytes : List UInt8) :
    (chunks 8 (bitsOfBytes bytes)).map (fun byte => (ofBits byte).toUInt8) = bytes := by
  have hbyte : bytes.map ((fun byte => (ofBits byte).toUInt8) ∘ fun b => bitsOf 8 b.toNat) =
      bytes.map id :=
    List.map_congr_left fun b _ => by
      simp only [Function.comp_apply, ofBits_bitsOf, id]
      exact UInt8.toNat_inj.1 (by simp [Nat.mod_eq_of_lt b.toNat_lt])
  rw [chunks_bitsOfBytes, List.map_map, hbyte, List.map_id]

/-- Symbols of values are read as the values' bits, cut into whole bytes, when their count is one
that writing produces and the bits past the last whole byte are zero. -/
theorem decode_symbols {vs : List Nat} (hsmall : ∀ v ∈ vs, v < 32)
    (hok : lengthOk vs.length = true)
    (hzero : ((vs.flatMap (bitsOf 5)).drop (8 * (5 * vs.length / 8))).any id = false) :
    decode (vs.map fun v => (symbol v).toNat.toUInt8) =
      .ok ((chunks 8 ((vs.flatMap (bitsOf 5)).take (8 * (5 * vs.length / 8)))).map
        fun byte => (ofBits byte).toUInt8) := by
  unfold decode
  simp only [List.length_map]
  rw [if_neg (by simp [hok]), values, values_go_symbols 0 hsmall]
  simp only
  rw [if_neg (by simp [hzero])]

/-- Reading what was written gives back the bytes. -/
theorem decode_utf8_encode (bytes : List UInt8) :
    decode (Bytes.utf8 (encode bytes)) = .ok bytes := by
  -- the bits written: the bytes' bits filled up with `p` zero bits to a multiple of five
  obtain ⟨p, hp⟩ : ∃ p, p = (5 - 8 * bytes.length % 5) % 5 := ⟨_, rfl⟩
  obtain ⟨bits, hbits⟩ : ∃ bits, bits = bitsOfBytes bytes ++ List.replicate p false :=
    ⟨_, rfl⟩
  have hlen : bits.length = 8 * bytes.length + p := by
    simp [hbits, length_bitsOfBytes]
  obtain ⟨vs, hvs⟩ : ∃ vs, vs = (chunks 5 bits).map ofBits := ⟨_, rfl⟩
  obtain ⟨hsmall, hcount, hback⟩ := ofBits_chunks_five (show bits.length % 5 = 0 by omega)
  rw [← hvs] at hsmall hcount hback
  -- the text written is the symbols of `vs`, so its bytes are their ASCII codes
  have htext : Bytes.utf8 (encode bytes) = vs.map fun v => (symbol v).toNat.toUInt8 := by
    have hsym : encode bytes = String.ofList (vs.map symbol) := by
      rw [encode_eq, hvs, List.map_map, ← hp, ← hbits]
      rfl
    rw [hsym, utf8_ofList_of_ascii, List.map_map]
    · rfl
    · intro c hc
      obtain ⟨v, hv, rfl⟩ := List.mem_map.1 hc
      exact symbol_ascii (hsmall v hv)
  -- the symbol count carries `p < 5` bits past the last whole byte
  have hp5 : p < 5 := by omega
  clear hp
  have hwhole : 8 * (5 * vs.length / 8) = (bitsOfBytes bytes).length := by
    rw [length_bitsOfBytes, hcount, hlen, Nat.mul_add_div (by decide), Nat.div_eq_of_lt (by omega),
      Nat.add_zero]
  have hok : lengthOk vs.length = true := by
    rw [lengthOk, hcount, hlen, Nat.mul_add_mod, Nat.mod_eq_of_lt (by omega), decide_eq_true_eq]
    exact hp5
  have hzero : ((vs.flatMap (bitsOf 5)).drop (8 * (5 * vs.length / 8))).any id = false := by
    rw [hback, hwhole, hbits, List.drop_left]
    simp
  rw [htext, decode_symbols hsmall hok hzero, hback, hwhole, hbits, List.take_left,
    bytes_of_bitsOfBytes]

theorem length_flatMap_bitsOf (w : Nat) (vs : List Nat) :
    (vs.flatMap (bitsOf w)).length = w * vs.length := by
  induction vs with
  | nil => rfl
  | cons v vs ih =>
    rw [List.flatMap_cons, List.length_append, length_bitsOf, ih, List.length_cons, Nat.mul_succ]
    omega

/-- Whole groups of eight bits read as bytes and written back as bits give the groups again. -/
theorem bitsOfBytes_ofBits {bits : List Bool} (h : bits.length % 8 = 0) :
    bitsOfBytes ((chunks 8 bits).map fun g => (ofBits g).toUInt8) = bits := by
  have hgroups : (chunks 8 bits).map (fun g => bitsOf 8 (ofBits g).toUInt8.toNat) =
      (chunks 8 bits).map id :=
    List.map_congr_left fun g hg => by
      have hg8 := length_of_mem_chunks h hg
      have hlt : ofBits g < 256 := by
        have := ofBits_lt g
        rwa [hg8] at this
      simp only [UInt8.toNat_ofNat', Nat.toUInt8_eq, Nat.reducePow, id]
      rw [Nat.mod_eq_of_lt hlt, ← hg8, bitsOf_ofBits]
  rw [bitsOfBytes, List.flatMap_map, List.flatMap_def, hgroups, List.map_id,
    flatten_chunks (by decide)]

/-- Bytes read as symbols are ASCII, and their values are below 32. -/
theorem forall₂_value?_bounds {input : List UInt8} {vs : List Nat}
    (h : List.Forall₂ (fun b v => value? b = some v) input vs) :
    (∀ b ∈ input, b.toNat < 128) ∧ ∀ v ∈ vs, v < 32 := by
  induction h with
  | nil => simp
  | cons hbv _ ih =>
    obtain ⟨hv, hb, -⟩ := value?_eq_some hbv
    simp only [List.mem_cons, forall_eq_or_imp]
    exact ⟨⟨hb, ih.1⟩, ⟨hv, ih.2⟩⟩

/-- Symbols read from bytes, lowercased: the symbol of each value read is its byte's character
in lowercase. -/
theorem map_symbol_of_forall₂ {input : List UInt8} {vs : List Nat}
    (h : List.Forall₂ (fun b v => value? b = some v) input vs) :
    vs.map symbol = input.map fun b => (Char.ofNat b.toNat).toLower := by
  induction h with
  | nil => rfl
  | cons hbv _ ih => rw [List.map_cons, List.map_cons, ih, (value?_eq_some hbv).2.2]

/-- Whole bytes read from symbol values are written as those symbols again, when the bits past
the last whole byte are zero. -/
theorem encode_whole_bytes {vs : List Nat} (hsmall : ∀ v ∈ vs, v < 32)
    (hok : lengthOk vs.length = true)
    (hzero : ((vs.flatMap (bitsOf 5)).drop (8 * (5 * vs.length / 8))).any id = false) :
    encode ((chunks 8 ((vs.flatMap (bitsOf 5)).take (8 * (5 * vs.length / 8)))).map
      fun byte => (ofBits byte).toUInt8) = String.ofList (vs.map symbol) := by
  -- the symbols carry `5 * n` bits, of which the first `whole` make up the bytes
  obtain ⟨whole, hwhole⟩ : ∃ w, w = 8 * (5 * vs.length / 8) := ⟨_, rfl⟩
  rw [← hwhole] at hzero ⊢
  have hfill : (5 - whole % 5) % 5 = 5 * vs.length - whole := by
    simp only [lengthOk, decide_eq_true_eq] at hok
    omega
  obtain ⟨bits, hbits⟩ : ∃ bits, bits = vs.flatMap (bitsOf 5) := ⟨_, rfl⟩
  rw [← hbits] at hzero ⊢
  have hblen : bits.length = 5 * vs.length := by rw [hbits, length_flatMap_bitsOf]
  have hwlen : whole ≤ bits.length := by omega
  -- the bytes are the whole groups of eight bits, so their bits are the first `whole` bits
  have htake : (bits.take whole).length % 8 = 0 := by
    rw [List.length_take, Nat.min_eq_left hwlen, hwhole, Nat.mul_mod_right]
  have hbytes := bitsOfBytes_ofBits htake
  have hcount : 8 * ((chunks 8 (bits.take whole)).map fun byte => (ofBits byte).toUInt8).length =
      whole := by
    rw [← length_bitsOfBytes, hbytes, List.length_take, Nat.min_eq_left hwlen]
  -- the bits past them are zero, and as many as writing fills in
  have hdrop : bits.drop whole = List.replicate (5 * vs.length - whole) false := by
    rw [List.eq_replicate_iff, List.length_drop, hblen]
    refine ⟨rfl, fun b hb => ?_⟩
    have := List.any_eq_false.1 hzero b hb
    simpa using this
  rw [encode_eq, hbytes, hcount, hfill, ← hdrop, List.take_append_drop, hbits,
    chunks_flatMap (by decide) _ (fun _ => length_bitsOf _ _), List.map_map]
  have hsymbols : vs.map (fun v => symbol (ofBits (bitsOf 5 v))) = vs.map symbol :=
    List.map_congr_left fun v hv => by
      rw [ofBits_bitsOf, Nat.mod_eq_of_lt (by simpa using hsmall v hv)]
  rw [Function.comp_def, hsymbols]

/-- Reading is canonical: bytes that a text reads as are written as that text in lowercase. -/
theorem encode_eq_toLower {text : String} {bytes : List UInt8}
    (h : decode (Bytes.utf8 text) = .ok bytes) : encode bytes = text.toLower := by
  obtain ⟨hok, vs, hvs, hzero, rfl⟩ := decode_eq_ok h
  obtain ⟨hascii, hsmall⟩ := forall₂_value?_bounds hvs
  rw [hvs.length_eq] at hok hzero ⊢
  rw [encode_whole_bytes hsmall hok hzero, map_symbol_of_forall₂ hvs]
  -- the text is ASCII, so lowercasing it lowercases the characters of its bytes
  conv_rhs => rw [eq_ofList_of_utf8_ascii hascii]
  rw [← String.toList_inj, toList_toLower, String.toList_ofList, String.toList_ofList,
    List.map_map]
  rfl

end IngressGuard.Base32Hex
