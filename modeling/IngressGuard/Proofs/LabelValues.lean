import Mathlib
import IngressGuard.Proxy
import IngressGuard.Proofs.SourceLabel
import IngressGuard.Proofs.Objects

/-!
# Label values of proxy objects

Kubernetes accepts as a label value at most 63 characters, each an ASCII letter or digit, `-`, `_`
or `.`. The proxy objects of an ingress carry five label values: `bilrost`, `oauth2-proxy`,
`proxy`, the instance (the proxy name, the ingress name followed by `-bilrost-proxy`) and the
source label (unpadded base32hex of `namespace/name`).

For a namespace that is a DNS label and an ingress name that is a DNS subdomain, every character
of these values is allowed, but their lengths grow with the names: the instance is the name and 14
characters more, and the source label has one symbol for every five bits of `namespace/name`, so
`⌈8 · (|namespace| + 1 + |name|) / 5⌉` symbols. All five fit exactly when the namespace and the
name have 38 characters or fewer together; an ingress name of 39 characters in the namespace
`test-ns` already gives a source label of 76.
-/

namespace IngressGuard.Kube

/-- A lowercase ASCII letter or a digit. -/
def LowerAlnum (c : Char) : Prop :=
  c.isLower = true ∨ c.isDigit = true

instance : DecidablePred LowerAlnum := fun c =>
  inferInstanceAs (Decidable (c.isLower = true ∨ c.isDigit = true))

/-- A DNS label (RFC 1123), the form of a namespace: at most 63 lowercase ASCII letters, digits
and `-`, beginning and ending with a letter or digit. -/
structure DnsLabel (s : String) : Prop where
  length_le : s.length ≤ 63
  chars : ∀ c ∈ s.toList, LowerAlnum c ∨ c = '-'
  first : ∃ c, s.toList.head? = some c ∧ LowerAlnum c
  last : ∃ c, s.toList.getLast? = some c ∧ LowerAlnum c

/-- A DNS subdomain (RFC 1123), the form of an ingress name: at most 253 lowercase ASCII letters,
digits, `-` and `.`, beginning and ending with a letter or digit, with a letter or digit on both
sides of every `.`. -/
structure DnsSubdomain (s : String) : Prop where
  length_le : s.length ≤ 253
  chars : ∀ c ∈ s.toList, LowerAlnum c ∨ c = '-' ∨ c = '.'
  first : ∃ c, s.toList.head? = some c ∧ LowerAlnum c
  last : ∃ c, s.toList.getLast? = some c ∧ LowerAlnum c
  dots : ∀ p ∈ s.toList.zip s.toList.tail, (p.1 = '.' → LowerAlnum p.2) ∧ (p.2 = '.' → LowerAlnum p.1)

/-- A character a label value may hold: an ASCII letter or digit, `-`, `_` or `.`. -/
def LabelChar (c : Char) : Prop :=
  c.isAlphanum = true ∨ c = '-' ∨ c = '_' ∨ c = '.'

instance : DecidablePred LabelChar := fun c =>
  inferInstanceAs (Decidable (c.isAlphanum = true ∨ c = '-' ∨ c = '_' ∨ c = '.'))

/-! ## Characters -/

theorem toNat_lt_of_lowerAlnum {c : Char} (h : LowerAlnum c) : c.toNat < 128 := by
  rcases h with h | h
  · have := (show c.isLower ↔ 97 ≤ c.toNat ∧ c.toNat ≤ 122 by
      simp [Char.isLower, UInt32.le_iff_toNat_le, ← Char.toNat_val]).1 h
    omega
  · have := Char.isDigit_iff_toNat.1 h
    have h9 : ('9' : Char).toNat = 57 := rfl
    omega

theorem labelChar_of_lowerAlnum {c : Char} (h : LowerAlnum c) : LabelChar c := by
  left
  rcases h with h | h <;> simp [Char.isAlphanum, Char.isAlpha, h]

/-- The characters of an ingress name are ASCII and allowed in a label value. -/
theorem DnsSubdomain.ascii {s : String} (h : DnsSubdomain s) : ∀ c ∈ s.toList, c.toNat < 128 := by
  intro c hc
  rcases h.chars c hc with h | rfl | rfl
  · exact toNat_lt_of_lowerAlnum h
  · decide
  · decide

theorem DnsSubdomain.labelChars {s : String} (h : DnsSubdomain s) : ∀ c ∈ s.toList, LabelChar c := by
  intro c hc
  rcases h.chars c hc with h | rfl | rfl
  · exact labelChar_of_lowerAlnum h
  · exact .inr (.inl rfl)
  · exact .inr (.inr (.inr rfl))

theorem DnsLabel.ascii {s : String} (h : DnsLabel s) : ∀ c ∈ s.toList, c.toNat < 128 := by
  intro c hc
  rcases h.chars c hc with h | rfl
  · exact toNat_lt_of_lowerAlnum h
  · decide

theorem DnsLabel.ne_empty {s : String} (h : DnsLabel s) : s ≠ "" := by
  rintro rfl
  obtain ⟨c, hc, -⟩ := h.first
  cases hc

/-- An ASCII text has one UTF-8 byte per character. -/
theorem length_utf8_of_ascii {s : String} (h : ∀ c ∈ s.toList, c.toNat < 128) :
    (Bytes.utf8 s).length = s.length := by
  have hbytes := utf8_ofList_of_ascii h
  rw [String.ofList_toList] at hbytes
  rw [hbytes, List.length_map, String.length_toList]

/-! ## Base32hex text -/

namespace Base32Hex

open IngressGuard.Base32Hex IngressGuard.Bytes

theorem symbol_isAlphanum : ∀ v, v < 32 → (symbol v).isAlphanum = true := by decide

/-- Base32hex text has one symbol for every five bits, the last one filled up. -/
theorem length_encode (bytes : List UInt8) :
    (encode bytes).length = (8 * bytes.length + 4) / 5 := by
  have hlen : (bitsOfBytes bytes ++ List.replicate ((5 - 8 * bytes.length % 5) % 5) false).length =
      8 * bytes.length + (5 - 8 * bytes.length % 5) % 5 := by
    rw [List.length_append, length_bitsOfBytes, List.length_replicate]
  have hchunks : 5 * (chunks 5 (bitsOfBytes bytes ++
      List.replicate ((5 - 8 * bytes.length % 5) % 5) false)).length =
      (bitsOfBytes bytes ++ List.replicate ((5 - 8 * bytes.length % 5) % 5) false).length :=
    length_chunks (by decide) (by rw [hlen]; omega)
  rw [encode_eq, String.length_ofList, List.length_map]
  omega

/-- Every symbol of base32hex text is a letter or a digit. -/
theorem isAlphanum_of_mem_encode {bytes : List UInt8} {c : Char}
    (hc : c ∈ (encode bytes).toList) : c.isAlphanum = true := by
  rw [encode_eq, String.toList_ofList] at hc
  obtain ⟨g, hg, rfl⟩ := List.mem_map.1 hc
  have hmod : (bitsOfBytes bytes ++
      List.replicate ((5 - 8 * bytes.length % 5) % 5) false).length % 5 = 0 := by
    rw [List.length_append, length_bitsOfBytes, List.length_replicate]
    omega
  have hg5 := length_of_mem_chunks hmod hg
  exact symbol_isAlphanum _ (by simpa [hg5] using ofBits_lt g)

end Base32Hex

/-! ## The proxy labels -/

namespace StringMap

variable (m : StringMap) (key value : String)

/-- Setting a key adds its pair and makes up no other. -/
theorem mem_insert {p : String × String} (h : p ∈ StringMap.insert m key value) :
    p = (key, value) ∨ p ∈ m := by
  induction m with
  | nil => exact .inl (List.mem_singleton.1 h)
  | cons q m ih =>
    obtain ⟨k, v⟩ := q
    rw [insert_cons] at h
    split at h
    · simpa using h
    · split at h
      · rcases List.mem_cons.1 h with h | h
        · exact .inl h
        · exact .inr (List.mem_cons_of_mem _ h)
      · rcases List.mem_cons.1 h with h | h
        · exact .inr (h ▸ List.mem_cons_self)
        · rcases ih h with h | h
          · exact .inl h
          · exact .inr (List.mem_cons_of_mem _ h)

theorem mem_foldl_insert {p : String × String} (pairs : List (String × String)) (m : StringMap)
    (h : p ∈ pairs.foldl (fun m q => StringMap.insert m q.1 q.2) m) : p ∈ m ∨ p ∈ pairs := by
  induction pairs generalizing m with
  | nil => exact .inl h
  | cons q pairs ih =>
    rcases ih _ h with h | h
    · rcases mem_insert _ _ _ h with rfl | h
      · exact .inr List.mem_cons_self
      · exact .inl h
    · exact .inr (List.mem_cons_of_mem _ h)

/-- The pairs of a map built from a list come from the list. -/
theorem mem_ofList {p : String × String} {pairs : List (String × String)}
    (h : p ∈ StringMap.ofList pairs) : p ∈ pairs :=
  (mem_foldl_insert pairs [] h).resolve_left List.not_mem_nil

theorem mem_of_get? {m : StringMap} {key value : String} (h : m.get? key = some value) :
    (key, value) ∈ m := by
  unfold get? at h
  obtain ⟨q, hq, rfl⟩ := Option.map_eq_some_iff.1 h
  have hkey : q.1 = key := by simpa using List.find?_some hq
  rw [← hkey]
  exact List.mem_of_find?_eq_some hq

end StringMap

/-- The values of the proxy labels: the three fixed ones, the instance and the source label. -/
theorem value_mem_proxyLabels {instanceName ns ingress : String} {p : String × String}
    (h : p ∈ proxyLabels instanceName ns ingress) :
    p.2 = "bilrost" ∨ p.2 = "oauth2-proxy" ∨ p.2 = "proxy" ∨ p.2 = instanceName ∨
      p.2 = encodeSource ns ingress := by
  rcases StringMap.mem_insert _ _ _ h with rfl | h
  · simp
  · have h := StringMap.mem_ofList h
    simp only [List.mem_cons, List.not_mem_nil, or_false] at h
    rcases h with rfl | rfl | rfl | rfl <;> simp

theorem source_mem_proxyLabels (instanceName ns ingress : String) :
    (sourceLabel, encodeSource ns ingress) ∈ proxyLabels instanceName ns ingress :=
  StringMap.mem_of_get? (by simp [proxyLabels])

/-! ## Lengths -/

theorem length_proxyName (name : String) : (proxyName name).length = name.length + 14 := by
  rw [proxyName, String.length_append]
  rfl

/-- The source label of a namespace and a name, both ASCII: one symbol for every five bits of
`namespace/name`. -/
theorem length_encodeSource {ns name : String} (hns : DnsLabel ns) (hname : DnsSubdomain name) :
    (encodeSource ns name).length = (8 * (ns.length + 1 + name.length) + 4) / 5 := by
  have hascii : ∀ c ∈ (ns ++ "/" ++ name).toList, c.toNat < 128 := by
    intro c hc
    simp only [String.toList_append, List.mem_append] at hc
    rcases hc with (hc | hc) | hc
    · exact hns.ascii c hc
    · simp only [List.mem_singleton.1 (by simpa using hc)]
      decide
    · exact hname.ascii c hc
  rw [encodeSource, defaultNamespace_of_ne hns.ne_empty, Base32Hex.length_encode,
    length_utf8_of_ascii hascii]
  simp only [String.length_append]
  rfl

/-! ## What fits in a label value -/

/-- A text whose characters pass a check written out as a Boolean test. -/
theorem labelChars_of_all {s : String}
    (h : s.toList.all (fun c => decide (LabelChar c)) = true) : ∀ c ∈ s.toList, LabelChar c :=
  fun c hc => of_decide_eq_true (List.all_eq_true.1 h c hc)

/-- Every label value of a proxy is made of characters a label value allows. -/
theorem labelChars_proxyLabels {ns name : String} (hname : DnsSubdomain name) :
    ∀ p ∈ proxyLabels (proxyName name) ns name, ∀ c ∈ p.2.toList, LabelChar c := by
  intro p hp
  rcases value_mem_proxyLabels hp with h | h | h | h | h <;> rw [h]
  · exact labelChars_of_all (by decide)
  · exact labelChars_of_all (by decide)
  · exact labelChars_of_all (by decide)
  · intro c hc
    rw [proxyName, String.toList_append, List.mem_append] at hc
    rcases hc with hc | hc
    · exact hname.labelChars c hc
    · exact labelChars_of_all (by decide) c hc
  · exact fun c hc => .inl (Base32Hex.isAlphanum_of_mem_encode hc)

/-- The label values of a proxy all fit in 63 characters exactly when the namespace and the name
have 38 characters or fewer together. -/
theorem proxyLabels_fit_iff {ns name : String} (hns : DnsLabel ns) (hname : DnsSubdomain name) :
    (∀ p ∈ proxyLabels (proxyName name) ns name, p.2.length ≤ 63) ↔
      ns.length + name.length ≤ 38 := by
  have hsrc := length_encodeSource hns hname
  have hinst := length_proxyName name
  have hpos : 0 < ns.length := by
    have := hns.ne_empty
    rw [ne_eq, ← String.length_eq_zero_iff] at this
    omega
  constructor
  · intro h
    have hfit := h _ (source_mem_proxyLabels _ ns name)
    dsimp only at hfit
    rw [hsrc] at hfit
    omega
  · intro h p hp
    rcases value_mem_proxyLabels hp with h' | h' | h' | h' | h' <;> rw [h']
    · decide
    · decide
    · decide
    · omega
    · rw [hsrc]
      omega

/-- The label values of a proxy, for a namespace that is a DNS label and an ingress name that is a
DNS subdomain: each character is one a label value allows; the instance has the name's length and
14 more; the source label has one symbol for every five bits of `namespace/name`; and so all of
them fit in the 63 characters of a label value exactly when the namespace and the name have 38
characters or fewer together. -/
theorem proxy_label_values_fit_iff {ns name : String} (hns : DnsLabel ns)
    (hname : DnsSubdomain name) :
    (∀ p ∈ proxyLabels (proxyName name) ns name, ∀ c ∈ p.2.toList, LabelChar c) ∧
    (proxyName name).length = name.length + 14 ∧
    (encodeSource ns name).length = (8 * (ns.length + 1 + name.length) + 4) / 5 ∧
    ((∀ p ∈ proxyLabels (proxyName name) ns name, p.2.length ≤ 63) ↔
      ns.length + name.length ≤ 38) :=
  ⟨labelChars_proxyLabels hname, length_proxyName name, length_encodeSource hns hname,
    proxyLabels_fit_iff hns hname⟩

/-- An ingress named `payments-api-gateway-internal-dashboard` (39 characters) in the namespace
`test-ns`, both valid names, gets a source label of 76 characters, too long for a label value. -/
theorem long_ingress_name_source_label_too_long :
    DnsLabel "test-ns" ∧ DnsSubdomain "payments-api-gateway-internal-dashboard" ∧
    (encodeSource "test-ns" "payments-api-gateway-internal-dashboard").length = 76 ∧
    ¬ ∀ p ∈ proxyLabels (proxyName "payments-api-gateway-internal-dashboard") "test-ns"
      "payments-api-gateway-internal-dashboard", p.2.length ≤ 63 := by
  have hnsChars : "test-ns".toList.all (fun c => decide (LowerAlnum c ∨ c = '-')) = true := by
    decide
  have hnameChars : "payments-api-gateway-internal-dashboard".toList.all
      (fun c => decide (LowerAlnum c ∨ c = '-' ∨ c = '.')) = true := by
    decide
  have hnameDots : ("payments-api-gateway-internal-dashboard".toList.zip
      "payments-api-gateway-internal-dashboard".toList.tail).all
      (fun p => decide ((p.1 = '.' → LowerAlnum p.2) ∧ (p.2 = '.' → LowerAlnum p.1))) = true := by
    decide
  have hns : DnsLabel "test-ns" :=
    ⟨by decide, fun c hc => of_decide_eq_true (List.all_eq_true.1 hnsChars c hc),
      ⟨'t', rfl, by decide⟩, ⟨'s', rfl, by decide⟩⟩
  have hname : DnsSubdomain "payments-api-gateway-internal-dashboard" :=
    ⟨by decide, fun c hc => of_decide_eq_true (List.all_eq_true.1 hnameChars c hc),
      ⟨'p', rfl, by decide⟩, ⟨'d', rfl, by decide⟩,
      fun p hp => of_decide_eq_true (List.all_eq_true.1 hnameDots p hp)⟩
  obtain ⟨-, -, hlen, hfit⟩ := proxy_label_values_fit_iff hns hname
  have hns7 : "test-ns".length = 7 := by decide
  have hname39 : "payments-api-gateway-internal-dashboard".length = 39 := by decide
  refine ⟨hns, hname, by rw [hlen, hns7, hname39], fun h => ?_⟩
  have := hfit.1 h
  omega

end IngressGuard.Kube
