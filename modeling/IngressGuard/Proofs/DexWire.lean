import Mathlib
import IngressGuard.Dex.Wire
import IngressGuard.Proofs.AsciiText

/-!
# Dex messages read back from the wire

Every Dex message is decoded back from its encoding: strings of any length and content, repeated
fields with empty elements, booleans, and a nested client that is absent, present with all its
defaults, or present with data. The only bound is the one a message in memory meets anyway: a
length is written as a varint of at most ten bytes, so the encoding must be shorter than `2^64`
bytes.

The proof reads the encoding as a parser would. `Wire.Reads x a e` says that `x` reads the bytes
`e` as `a` whatever follows them; reads compose along `>>=`. `Wire.FieldsRead merge e msg msg'`
says that the fields written as `e` take `msg` to `msg'` one after another, and the field loop
then reads exactly them. A message is read field by field from its default, each written field
filling in its own part and each left-out field already holding its default.
-/

namespace IngressGuard.Dex

/-! ### Writing -/

theorem encodeVarint_of_lt {n : Nat} (h : n < 128) : encodeVarint n = [n.toUInt8] := by
  rw [encodeVarint, if_pos h]

theorem encodeVarint_of_ge {n : Nat} (h : 128 ≤ n) :
    encodeVarint n = (n % 128 + 128).toUInt8 :: encodeVarint (n / 128) := by
  rw [encodeVarint, if_neg (by omega)]

theorem encodeVarint_ne_nil (n : Nat) : encodeVarint n ≠ [] := by
  rw [encodeVarint]
  split <;> simp

theorem toNat_toUInt8_of_lt {n : Nat} (h : n < 256) : n.toUInt8.toNat = n := by
  simp only [Nat.toUInt8_eq, UInt8.toNat_ofNat', Nat.reducePow]
  exact Nat.mod_eq_of_lt h

theorem WireType.ofCode?_code (wt : WireType) : WireType.ofCode? wt.code = some wt := by
  cases wt <;> rfl

theorem WireType.code_lt (wt : WireType) : wt.code < 8 := by
  cases wt <;> decide

theorem ok_bind_eq {ε α β : Type} (a : α) (f : α → Except ε β) :
    (Except.ok a >>= f) = f a := rfl

namespace Wire

/-- Reading the varint bytes of `n` from the `i`-th byte on adds `n`'s bits at that place. -/
theorem varint_go_encodeVarint (n : Nat) : ∀ (i acc : Nat) (rest : List UInt8), i ≤ 9 →
    n < 2 ^ (64 - 7 * i) →
    varint.go i (encodeVarint n ++ rest) acc = some (acc + n * 2 ^ (7 * i), rest) := by
  induction n using Nat.strongRecOn with
  | ind n ih =>
  intro i acc rest hi hn
  by_cases hlt : n < 128
  · -- the last byte: below 128, and at the tenth place below 2
    have hb : n.toUInt8.toNat = n := toNat_toUInt8_of_lt (by omega)
    have hlast : ¬ (i = 9 ∧ 2 ≤ n) := by
      rintro ⟨rfl, h2⟩
      simp at hn
      omega
    rw [encodeVarint_of_lt hlt, List.singleton_append, varint.go]
    simp only [hb, Nat.mod_eq_of_lt hlt, Nat.pow_eq]
    rw [if_pos (by rw [UInt8.lt_iff_toNat_lt, hb]; exact hlt), if_neg hlast]
  · have hge : 128 ≤ n := by omega
    have hb : (n % 128 + 128).toUInt8.toNat = n % 128 + 128 := toNat_toUInt8_of_lt (by omega)
    -- a tenth byte would carry a value of at least 2
    have hi9 : i ≠ 9 := by
      rintro rfl
      simp at hn
      omega
    have hpow : 2 ^ (64 - 7 * i) = 2 ^ (64 - 7 * (i + 1)) * 128 := by
      have he : 64 - 7 * i = (64 - 7 * (i + 1)) + 7 := by omega
      rw [he, Nat.pow_add]
    have hq : n / 128 < 2 ^ (64 - 7 * (i + 1)) := by
      rw [Nat.div_lt_iff_lt_mul (by decide), ← hpow]
      exact hn
    rw [encodeVarint_of_ge hge, List.cons_append, varint.go]
    simp only [hb, Nat.pow_eq]
    rw [if_neg (by rw [UInt8.lt_iff_toNat_lt, hb]; simp), if_neg hi9,
      ih (n / 128) (by omega) (i + 1) _ rest (by omega) hq]
    -- the low seven bits at this place and the rest one place up make up `n`
    have hp : 2 ^ (7 * (i + 1)) = 2 ^ (7 * i) * 128 := by rw [Nat.mul_succ, Nat.pow_add]
    have hsplit := Nat.mod_add_div n 128
    rw [hp, Nat.add_mod_right, Nat.mod_mod, Option.some.injEq, Prod.mk.injEq]
    refine ⟨?_, rfl⟩
    conv_rhs => rw [← hsplit]
    ring

/-! ### Reading what was written -/

/-- `x` reads the bytes `e` as `a`: run on `e` and whatever follows, it returns `a` and leaves
what follows. -/
def Reads {α : Type} (x : Wire α) (a : α) (e : List UInt8) : Prop :=
  ∀ rest, x.run (e ++ rest) = .ok (a, rest)

namespace Reads

variable {α β : Type} {x : Wire α} {a : α} {e e₁ e₂ : List UInt8}

protected theorem pure (a : α) : Reads (pure a : Wire α) a [] := fun _ => rfl

protected theorem bind {f : α → Wire β} {b : β} (hx : Reads x a e₁)
    (hf : Reads (f a) b e₂) :
    Reads (x >>= f) b (e₁ ++ e₂) := by
  intro rest
  rw [List.append_assoc, StateT.run_bind, hx]
  exact hf rest

theorem bind_pure {f : α → β} (hx : Reads x a e) :
    Reads (x >>= fun a => pure (f a)) (f a) e := by
  rw [← List.append_nil e]
  exact hx.bind (Reads.pure _)

protected theorem map (f : α → β) (hx : Reads x a e) : Reads (f <$> x) (f a) e := by
  intro rest
  rw [StateT.run_map, hx]
  rfl

protected theorem within {M F : String} (hx : Reads x a e) : Reads (within M F x) a e := by
  intro rest
  show tryCatch (x.run (e ++ rest)) _ = _
  rw [hx]
  rfl

end Reads

theorem varint_reads {n : Nat} (h : n < 2 ^ 64) : Reads varint n (encodeVarint n) := by
  intro rest
  have hgo := varint_go_encodeVarint n 0 0 rest (by omega) (by simpa using h)
  simp only [Nat.zero_add, Nat.mul_zero, Nat.pow_zero, Nat.mul_one] at hgo
  unfold varint
  simp only [StateT.run_bind, StateT.run_get, pure_bind, hgo]
  rfl

/-- A key is read back as its field number and wire type. -/
theorem key_reads {f : Nat} (wt : WireType) (hf : 0 < f) (hf' : f < 2 ^ 29) :
    Reads key (f, wt) (encodeKey f wt) := by
  have hc := WireType.code_lt wt
  have hmod : (8 * f + wt.code) % 8 = wt.code := by omega
  have hdiv : (8 * f + wt.code) / 8 = f := by omega
  intro rest
  unfold key
  rw [StateT.run_bind, encodeKey, varint_reads (by omega) rest, ok_bind_eq]
  simp only
  rw [if_neg (by omega), hmod, WireType.ofCode?_code]
  simp only
  rw [hdiv, if_neg (by omega)]
  rfl

theorem expect_reads (wt : WireType) : Reads (expect wt wt) () [] := by
  rw [expect, if_pos rfl]
  exact Reads.pure ()

theorem take_reads (bytes : List UInt8) : Reads (take bytes.length) bytes bytes := by
  intro rest
  unfold take
  simp only [StateT.run_bind, StateT.run_get, pure_bind]
  rw [if_neg (by simp)]
  simp only [StateT.run_bind, StateT.run_set, pure_bind, StateT.run_pure, List.drop_left,
    List.take_left]
  rfl

theorem delimited_reads {bytes : List UInt8} (h : bytes.length < 2 ^ 64) :
    Reads (delimited .lengthDelimited) bytes (encodeVarint bytes.length ++ bytes) := by
  rw [← List.nil_append (encodeVarint _ ++ _)]
  exact (expect_reads _).bind ((varint_reads h).bind (take_reads bytes))

/-- A string is read back from its length and UTF-8 bytes. -/
theorem string_reads {s : String} (h : (Bytes.utf8 s).length < 2 ^ 64) :
    Reads (string .lengthDelimited) s (encodeVarint (Bytes.utf8 s).length ++ Bytes.utf8 s) := by
  intro rest
  unfold string
  rw [StateT.run_bind, delimited_reads h rest, ok_bind_eq]
  simp only [fromUTF8?_utf8]
  rfl

theorem bool_reads : Reads (bool .varint) true [1] := by
  have hone : Reads varint 1 [1] := by
    have h := varint_reads (show 1 < 2 ^ 64 by decide)
    rwa [encodeVarint_of_lt (by decide)] at h
  rw [← List.nil_append [1], ← List.append_nil [1]]
  exact (expect_reads _).bind (hone.bind (Reads.pure _))

/-- `merge` reads the fields written as `e`, one after another, taking `msg` to `msg'`. -/
inductive FieldsRead {α : Type} (merge : α → Nat → WireType → Wire α) :
    List UInt8 → α → α → Prop
  | nil (msg : α) : FieldsRead merge [] msg msg
  | field {field : Nat} {wt : WireType} {k e es : List UInt8} {msg msg₁ msg₂ : α} :
      Reads key (field, wt) k → k ≠ [] → Reads (merge msg field wt) msg₁ e →
      FieldsRead merge es msg₁ msg₂ → FieldsRead merge (k ++ e ++ es) msg msg₂

namespace FieldsRead

variable {α : Type} {merge : α → Nat → WireType → Wire α}

theorem append {e₁ e₂ : List UInt8} {m m₁ m₂ : α} (h₁ : FieldsRead merge e₁ m m₁)
    (h₂ : FieldsRead merge e₂ m₁ m₂) : FieldsRead merge (e₁ ++ e₂) m m₂ := by
  induction h₁ with
  | nil => simpa using h₂
  | field hk hne he _ ih =>
    rw [List.append_assoc]
    exact .field hk hne he (ih h₂)

end FieldsRead

/-- The field loop reads written fields up to the bytes that follow them, given a step for each
of their bytes. -/
theorem fields_of_fieldsRead {α : Type} {merge : α → Nat → WireType → Wire α}
    {body : List UInt8} {msg msg' : α} (h : FieldsRead merge body msg msg') :
    ∀ (rest : List UInt8) (fuel : Nat), body.length ≤ fuel →
      (fields merge rest.length fuel msg).run (body ++ rest) = .ok (msg', rest) := by
  induction h with
  | nil msg =>
    intro rest fuel _
    cases fuel with
    | zero => rfl
    | succ fuel =>
      unfold fields
      simp only [List.nil_append, StateT.run_bind, StateT.run_get, pure_bind]
      rw [if_pos (Nat.le_refl _)]
      rfl
  | @field field wt k e es msg msg₁ msg₂ hk hne he _ ih =>
    intro rest fuel hfuel
    have hk0 := List.length_pos_iff.2 hne
    simp only [List.length_append] at hfuel
    obtain ⟨fuel, rfl⟩ : ∃ n, fuel = n + 1 := ⟨fuel - 1, by omega⟩
    unfold fields
    simp only [StateT.run_bind, StateT.run_get, pure_bind]
    rw [if_neg (by simp; omega), StateT.run_bind, List.append_assoc, List.append_assoc,
      hk (e ++ (es ++ rest)), ok_bind_eq]
    simp only
    rw [StateT.run_bind, he (es ++ rest), ok_bind_eq]
    exact ih rest fuel (by omega)

/-- A nested message is read back from its length and its fields. -/
theorem nested_reads {α : Type} {merge : α → Nat → WireType → Wire α} {body : List UInt8}
    {msg msg' : α} (h : FieldsRead merge body msg msg') (hlen : body.length < 2 ^ 64) :
    Reads (nested merge .lengthDelimited msg) msg' (encodeVarint body.length ++ body) := by
  intro rest
  have hstop : (body ++ rest).length - body.length = rest.length := by simp
  unfold nested
  rw [expect, if_pos rfl]
  simp only [pure_bind]
  rw [StateT.run_bind, List.append_assoc, varint_reads hlen, ok_bind_eq]
  simp only [StateT.run_bind, StateT.run_get, pure_bind]
  rw [if_neg (by simp), hstop, StateT.run_bind, fields_of_fieldsRead h rest _ (by simp), ok_bind_eq]
  simp only [StateT.run_bind, StateT.run_get, pure_bind, if_true]
  rfl

/-! ### One field after another -/

section Kinds

variable {α : Type} {merge : α → Nat → WireType → Wire α} {f : Nat}

/-- One field, its key followed by the bytes its merge reads. -/
theorem FieldsRead.single {wt : WireType} {e : List UInt8} {m m' : α} (hf : 0 < f)
    (hf' : f < 2 ^ 29) (h : Reads (merge m f wt) m' e) :
    FieldsRead merge (encodeKey f wt ++ e) m m' := by
  rw [← List.append_nil (encodeKey f wt ++ e)]
  exact .field (key_reads wt hf hf') (encodeVarint_ne_nil _) h (.nil m')

theorem FieldsRead.bytesField {bytes : List UInt8} {m m' : α} (hf : 0 < f) (hf' : f < 2 ^ 29)
    (h : Reads (merge m f .lengthDelimited) m' (encodeVarint bytes.length ++ bytes)) :
    FieldsRead merge (encodeBytesField f bytes) m m' := by
  rw [encodeBytesField, List.append_assoc]
  exact .single hf hf' h

/-- A string field, written unless empty, is read into the message it was written from. -/
theorem FieldsRead.string (hf : 0 < f) (hf' : f < 2 ^ 29) (mk : String → α)
    (hmerge : ∀ s, (Bytes.utf8 s).length < 2 ^ 64 →
      Reads (merge (mk "") f .lengthDelimited) (mk s) (encodeVarint (Bytes.utf8 s).length ++
        Bytes.utf8 s))
    {s : String} (hs : (encodeString f s).length < 2 ^ 64) :
    FieldsRead merge (encodeString f s) (mk "") (mk s) := by
  unfold encodeString at hs ⊢
  split
  · rename_i hempty
    rw [String.isEmpty_iff.1 hempty]
    exact .nil _
  · rename_i hempty
    rw [if_neg hempty, encodeBytesField, List.length_append] at hs
    exact .bytesField hf hf' (hmerge s (by omega))

/-- A repeated string field is read element by element, each appended to those before. -/
theorem FieldsRead.strings (hf : 0 < f) (hf' : f < 2 ^ 29) (mk : List String → α)
    (hmerge : ∀ pre s, (Bytes.utf8 s).length < 2 ^ 64 →
      Reads (merge (mk pre) f .lengthDelimited) (mk (pre ++ [s])) (encodeVarint
        (Bytes.utf8 s).length ++ Bytes.utf8 s)) :
    ∀ (pre items : List String), (encodeStrings f items).length < 2 ^ 64 →
      FieldsRead merge (encodeStrings f items) (mk pre) (mk (pre ++ items))
  | pre, [], _ => by
    rw [List.append_nil]
    exact .nil _
  | pre, s :: items, hs => by
    rw [encodeStrings, List.flatMap_cons, ← encodeStrings] at hs ⊢
    have hhead : (encodeBytesField f (Bytes.utf8 s)).length < 2 ^ 64 := by
      rw [List.length_append] at hs
      omega
    rw [encodeBytesField, List.length_append] at hhead
    have hrest := FieldsRead.strings hf hf' mk hmerge (pre ++ [s]) items (by
      rw [List.length_append] at hs
      omega)
    rw [List.append_assoc, List.singleton_append] at hrest
    exact (FieldsRead.bytesField hf hf' (hmerge pre s (by omega))).append hrest

/-- A boolean field, written when true, is read into the message it was written from. -/
theorem FieldsRead.bool (hf : 0 < f) (hf' : f < 2 ^ 29) (mk : Bool → α)
    (hmerge : Reads (merge (mk false) f .varint) (mk true) [1]) (b : Bool) :
    FieldsRead merge (encodeBool f b) (mk false) (mk b) := by
  cases b with
  | false => exact .nil _
  | true => exact .single hf hf' hmerge

/-- A nested client, written when present, is read into the message it was written from. -/
theorem FieldsRead.client (hf : 0 < f) (hf' : f < 2 ^ 29) (mk : Option Client → α)
    (hmerge : ∀ c : Client, c.encode.length < 2 ^ 64 →
      Reads (merge (mk none) f .lengthDelimited) (mk (some c)) (encodeVarint c.encode.length ++
        c.encode))
    {oc : Option Client} (hoc : (encodeClient f oc).length < 2 ^ 64) :
    FieldsRead merge (encodeClient f oc) (mk none) (mk oc) := by
  cases oc with
  | none => exact .nil _
  | some c =>
    rw [encodeClient, encodeBytesField, List.length_append] at hoc
    exact .bytesField hf hf' (hmerge c (by omega))

end Kinds

end Wire

/-! ### Whole messages -/

section Messages

open Wire

/-- A message is decoded as what its fields are read into: the field loop runs to the end of the
bytes. -/
theorem decodeWith_of_fieldsRead {α : Type} {merge : α → Nat → WireType → Wire α}
    {bytes : List UInt8} {init msg : α} (h : Wire.FieldsRead merge bytes init msg) :
    decodeWith merge init bytes = .ok msg := by
  have hrun := Wire.fields_of_fieldsRead h [] (bytes.length + 1) (by omega)
  rw [List.append_nil, List.length_nil] at hrun
  unfold decodeWith
  rw [StateT.run'_eq, hrun]
  rfl

/-- A client's fields are read back, from the default client, as the client. -/
theorem Client.fieldsRead_encode (depth : Nat) (c : Client) (h : c.encode.length < 2 ^ 64) :
    FieldsRead (Client.mergeField depth) c.encode {} c := by
  simp only [Client.encode, List.length_append] at h
  -- the client grows by one field at a time, in the order they are written
  have hid : FieldsRead (Client.mergeField depth) (encodeString 1 c.id) {} { id := c.id } :=
    .string (by decide) (by decide) (fun s => ({ id := s } : Client))
      (fun _ hs => (string_reads hs).bind_pure.within) (by omega)
  have hsecret : FieldsRead (Client.mergeField depth) (encodeString 2 c.secret) { id := c.id }
      { id := c.id, secret := c.secret } :=
    .string (by decide) (by decide) (fun s => ({ id := c.id, secret := s } : Client))
      (fun _ hs => (string_reads hs).bind_pure.within) (by omega)
  have huris : FieldsRead (Client.mergeField depth) (encodeStrings 3 c.redirectUris)
      { id := c.id, secret := c.secret }
      { id := c.id, secret := c.secret, redirectUris := c.redirectUris } :=
    .strings (by decide) (by decide)
      (fun l => ({ id := c.id, secret := c.secret, redirectUris := l } : Client))
      (fun _ _ hs => (string_reads hs).bind_pure.within) [] _ (by omega)
  have hpeers : FieldsRead (Client.mergeField depth) (encodeStrings 4 c.trustedPeers)
      { id := c.id, secret := c.secret, redirectUris := c.redirectUris }
      { id := c.id, secret := c.secret, redirectUris := c.redirectUris,
        trustedPeers := c.trustedPeers } :=
    .strings (by decide) (by decide)
      (fun l =>
        ({ id := c.id, secret := c.secret, redirectUris := c.redirectUris,
           trustedPeers := l } : Client))
      (fun _ _ hs => (string_reads hs).bind_pure.within) [] _ (by omega)
  have hpublic : FieldsRead (Client.mergeField depth) (encodeBool 5 c.isPublic)
      { id := c.id, secret := c.secret, redirectUris := c.redirectUris,
        trustedPeers := c.trustedPeers }
      { id := c.id, secret := c.secret, redirectUris := c.redirectUris,
        trustedPeers := c.trustedPeers, isPublic := c.isPublic } :=
    .bool (by decide) (by decide)
      (fun b =>
        ({ id := c.id, secret := c.secret, redirectUris := c.redirectUris,
           trustedPeers := c.trustedPeers, isPublic := b } : Client))
      bool_reads.bind_pure.within c.isPublic
  have hname : FieldsRead (Client.mergeField depth) (encodeString 6 c.name)
      { id := c.id, secret := c.secret, redirectUris := c.redirectUris,
        trustedPeers := c.trustedPeers, isPublic := c.isPublic }
      { id := c.id, secret := c.secret, redirectUris := c.redirectUris,
        trustedPeers := c.trustedPeers, isPublic := c.isPublic, name := c.name } :=
    .string (by decide) (by decide)
      (fun s =>
        ({ id := c.id, secret := c.secret, redirectUris := c.redirectUris,
           trustedPeers := c.trustedPeers, isPublic := c.isPublic, name := s } : Client))
      (fun _ hs => (string_reads hs).bind_pure.within) (by omega)
  have hlogo : FieldsRead (Client.mergeField depth) (encodeString 7 c.logoUrl)
      { id := c.id, secret := c.secret, redirectUris := c.redirectUris,
        trustedPeers := c.trustedPeers, isPublic := c.isPublic, name := c.name } c :=
    .string (by decide) (by decide)
      (fun s =>
        ({ id := c.id, secret := c.secret, redirectUris := c.redirectUris,
           trustedPeers := c.trustedPeers, isPublic := c.isPublic, name := c.name,
           logoUrl := s } : Client))
      (fun _ hs => (string_reads hs).bind_pure.within) (by omega)
  rw [Client.encode]
  simp only [List.append_assoc]
  exact hid.append (hsecret.append (huris.append (hpeers.append (hpublic.append
    (hname.append hlogo)))))

/-- A present client is read back from its length and fields while nesting is still allowed. -/
theorem mergeClient_reads (depth : Nat) (c : Client) (h : c.encode.length < 2 ^ 64) :
    Reads (mergeClient (depth + 1) .lengthDelimited none) (some c)
      (encodeVarint c.encode.length ++ c.encode) := by
  rw [← List.nil_append (encodeVarint _ ++ _)]
  exact (expect_reads _).bind ((nested_reads (Client.fieldsRead_encode depth c h) h).map some)

theorem Client.decode_encode (c : Client) (h : c.encode.length < 2 ^ 64) :
    Client.decode c.encode = .ok c :=
  decodeWith_of_fieldsRead (Client.fieldsRead_encode _ c h)

theorem CreateClientReq.decode_encode (m : CreateClientReq) (h : m.encode.length < 2 ^ 64) :
    CreateClientReq.decode m.encode = .ok m := by
  unfold CreateClientReq.decode
  apply decodeWith_of_fieldsRead
  exact .client (by decide) (by decide) (fun oc => ({ client := oc } : CreateClientReq))
    (fun c hc => (mergeClient_reads _ c hc).bind_pure.within) h

theorem CreateClientResp.decode_encode (m : CreateClientResp) (h : m.encode.length < 2 ^ 64) :
    CreateClientResp.decode m.encode = .ok m := by
  rw [CreateClientResp.encode, List.length_append] at h
  unfold CreateClientResp.decode
  apply decodeWith_of_fieldsRead
  rw [CreateClientResp.encode]
  refine .append (.bool (by decide) (by decide)
    (fun b => ({ alreadyExists := b } : CreateClientResp)) bool_reads.bind_pure.within _) ?_
  exact .client (by decide) (by decide)
    (fun oc => ({ alreadyExists := m.alreadyExists, client := oc } : CreateClientResp))
    (fun c hc => (mergeClient_reads _ c hc).bind_pure.within) (by omega)

theorem DeleteClientReq.decode_encode (m : DeleteClientReq) (h : m.encode.length < 2 ^ 64) :
    DeleteClientReq.decode m.encode = .ok m := by
  unfold DeleteClientReq.decode
  apply decodeWith_of_fieldsRead
  exact .string (by decide) (by decide) (fun s => ({ id := s } : DeleteClientReq))
    (fun _ hs => (string_reads hs).bind_pure.within) h

theorem DeleteClientResp.decode_encode (m : DeleteClientResp) :
    DeleteClientResp.decode m.encode = .ok m := by
  unfold DeleteClientResp.decode
  apply decodeWith_of_fieldsRead
  exact .bool (by decide) (by decide) (fun b => ({ notFound := b } : DeleteClientResp))
    bool_reads.bind_pure.within _

theorem dex_messages_round_trip :
    (∀ c : Client, c.encode.length < 2 ^ 64 → Client.decode c.encode = .ok c) ∧
    (∀ m : CreateClientReq, m.encode.length < 2 ^ 64 →
      CreateClientReq.decode m.encode = .ok m) ∧
    (∀ m : CreateClientResp, m.encode.length < 2 ^ 64 →
      CreateClientResp.decode m.encode = .ok m) ∧
    (∀ m : DeleteClientReq, m.encode.length < 2 ^ 64 →
      DeleteClientReq.decode m.encode = .ok m) ∧
    ∀ m : DeleteClientResp, DeleteClientResp.decode m.encode = .ok m :=
  ⟨Client.decode_encode, CreateClientReq.decode_encode, CreateClientResp.decode_encode,
    DeleteClientReq.decode_encode, DeleteClientResp.decode_encode⟩

example : CreateClientReq.encode { client := some { id := "a", redirectUris := ["b"] } } =
    [0x0a, 0x06, 0x0a, 0x01, 97, 0x1a, 0x01, 98] := by
  cbv

/-- A client with an empty redirect URI, the creation request of the wire-format test, an
answer with a present but empty client, and a deletion request. -/
theorem sample_messages_read_back :
    ((Client.encode { id := "a", redirectUris := ["b", ""], isPublic := true }).length < 2 ^ 64 ∧
      Client.decode (Client.encode { id := "a", redirectUris := ["b", ""], isPublic := true }) =
        .ok { id := "a", redirectUris := ["b", ""], isPublic := true }) ∧
    ((CreateClientReq.encode { client := some { id := "a", redirectUris := ["b"] } }).length <
        2 ^ 64 ∧
      CreateClientReq.decode
          (CreateClientReq.encode { client := some { id := "a", redirectUris := ["b"] } }) =
        .ok { client := some { id := "a", redirectUris := ["b"] } }) ∧
    ((CreateClientResp.encode { alreadyExists := true, client := some {} }).length < 2 ^ 64 ∧
      CreateClientResp.decode
          (CreateClientResp.encode { alreadyExists := true, client := some {} }) =
        .ok { alreadyExists := true, client := some {} }) ∧
    ((DeleteClientReq.encode { id := "a" }).length < 2 ^ 64 ∧
      DeleteClientReq.decode (DeleteClientReq.encode { id := "a" }) = .ok { id := "a" }) :=
  have hclient :
      (Client.encode { id := "a", redirectUris := ["b", ""], isPublic := true }).length <
        2 ^ 64 := by
    cbv
  have hcreate :
      (CreateClientReq.encode { client := some { id := "a", redirectUris := ["b"] } }).length <
        2 ^ 64 := by
    cbv
  have hcreated :
      (CreateClientResp.encode { alreadyExists := true, client := some {} }).length < 2 ^ 64 := by
    cbv
  have hdelete : (DeleteClientReq.encode { id := "a" }).length < 2 ^ 64 := by cbv
  ⟨⟨hclient, dex_messages_round_trip.1 _ hclient⟩,
    ⟨hcreate, dex_messages_round_trip.2.1 _ hcreate⟩,
    ⟨hcreated, dex_messages_round_trip.2.2.1 _ hcreated⟩,
    ⟨hdelete, dex_messages_round_trip.2.2.2.1 _ hdelete⟩⟩

end Messages

end IngressGuard.Dex
