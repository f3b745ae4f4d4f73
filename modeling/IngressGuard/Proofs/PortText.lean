import Mathlib.Data.List.Induction
import IngressGuard.Kube.Ingress

/-!
# Port texts and service ports

A backend port is written as text and read back: `servicePort` reads a text as a number when it
is an optional sign and decimal digits within the signed 32-bit range, and as a name otherwise;
`portText` writes a port as its name, or as its number when it has no name.

A number reads the same from many texts (`+80`, `080` and `80`; `-0` and `0`) but is written in
one, its canonical text: digits with no leading zero, and a minus sign only before a number that
is not zero. The main statements:

* `portText_servicePort_eq_iff_canonical`: a text comes back from its port exactly when it does
  not read as a number or is canonical, which is to say (`portText_servicePort_eq_iff`) exactly
  when it is the text of the number it reads as;
* `servicePort_portText`: a port with exactly one field set, a number of the signed 32-bit range
  or a name that is not empty and does not read as a number, comes back from its text.

Both rest on two facts about decimal digits: the digits of a number are canonical, and canonical
digits are the digits of their value (`toDigits_ofDigitChars`).
-/

namespace IngressGuard.Kube

/-! ## Decimal digits -/

/-- A non-empty run of decimal digits. -/
def IsDigits (ds : List Char) : Prop :=
  ds ≠ [] ∧ ∀ c ∈ ds, c.isDigit

/-- Digits written canonically: no leading zero unless the number is zero. -/
def CanonicalDigits (ds : List Char) : Prop :=
  IsDigits ds ∧ (ds.head? = some '0' → ds = ['0'])

/-- A text writing an integer canonically: canonical digits, with a minus sign before them when
the number is below zero. -/
def CanonicalNumeral (text : String) : Prop :=
  CanonicalDigits text.toList ∨ ∃ ds, text.toList = '-' :: ds ∧ CanonicalDigits ds ∧ ds ≠ ['0']

theorem eq_digitChar_of_isDigit {c : Char} (h : c.isDigit) : ∃ d < 10, c = Nat.digitChar d := by
  have hc := Char.isDigit_iff_toNat.1 h
  simp only [Char.reduceToNat] at hc
  refine ⟨c.toNat - 48, by omega, ?_⟩
  rw [← Char.toNat_inj, Nat.toNat_digitChar_of_lt_ten (by omega)]
  omega

theorem isDigits_toDigits (n : Nat) : IsDigits (Nat.toDigits 10 n) :=
  ⟨Nat.toDigits_ne_nil, fun _ hc => Nat.isDigit_of_mem_toDigits (by decide) (by decide) hc⟩

/-- The digits of a number start with zero only when the number is zero. -/
theorem eq_zero_of_head?_toDigits {n : Nat} (h : (Nat.toDigits 10 n).head? = some '0') : n = 0 := by
  induction n using Nat.strongRecOn with
  | ind n ih =>
    rw [Nat.toDigits_eq_if (by decide)] at h
    split at h
    · simpa using h
    · rename_i hn
      -- the leading digit of `n` is the leading digit of `n / 10`
      have h' : (Nat.toDigits 10 (n / 10)).head? = some '0' := by
        rw [List.head?_append] at h
        cases hd : (Nat.toDigits 10 (n / 10)).head? with
        | none => simp [Nat.toDigits_ne_nil] at hd
        | some c => simpa [hd] using h
      have := ih (n / 10) (by omega) h'
      omega

theorem canonicalDigits_toDigits (n : Nat) : CanonicalDigits (Nat.toDigits 10 n) :=
  ⟨isDigits_toDigits n, fun h => by rw [eq_zero_of_head?_toDigits h, Nat.toDigits_zero]⟩

/-- The digits of a positive number are never the single zero. -/
theorem toDigits_ne_zero {n : Nat} (h : 0 < n) : Nat.toDigits 10 n ≠ ['0'] := by
  intro h0
  have := congrArg (Nat.ofDigitChars 10 · 0) h0
  simp only [Nat.ofDigitChars_ten_toDigits] at this
  simp [Nat.ofDigitChars] at this
  omega

/-- Canonical digits are the digits of their value. -/
theorem toDigits_ofDigitChars {ds : List Char} (h : CanonicalDigits ds) :
    Nat.toDigits 10 (Nat.ofDigitChars 10 ds 0) = ds := by
  -- induction from the last digit, which `Nat.toDigits` writes last
  induction ds using List.reverseRecOn with
  | nil => exact absurd rfl h.1.1
  | append_singleton ds d ih =>
    obtain ⟨k, hk, rfl⟩ := eq_digitChar_of_isDigit (h.1.2 d (by simp))
    rw [Nat.ofDigitChars_append, Nat.ofDigitChars_cons_digitChar_of_lt_ten hk,
      Nat.ofDigitChars_nil]
    cases ds with
    | nil => simp [Nat.toDigits_of_lt_base hk]
    | cons c cs =>
      have hlead : c ≠ '0' := by
        intro hc
        have := h.2 (by simp [hc])
        simp at this
      have hcan : CanonicalDigits (c :: cs) :=
        ⟨⟨List.cons_ne_nil _ _, fun x hx => h.1.2 x (by simp at hx ⊢; tauto)⟩,
          fun h0 => by simp_all⟩
      have hpos : 0 < Nat.ofDigitChars 10 (c :: cs) 0 := by
        refine Nat.pos_of_ne_zero fun h0 => hlead ?_
        have := ih hcan
        rw [h0, Nat.toDigits_zero] at this
        simp only [List.cons.injEq] at this
        exact this.1.symm
      rw [← Nat.toDigits_append_toDigits (by decide) hpos hk, ih hcan, Nat.toDigits_of_lt_base hk]

/-! ## Reading a port text as a number -/

/-- The fold the reader uses, with the code of `0` written as `48`, is `Nat.ofDigitChars`. -/
theorem foldl_digits_eq (ds : List Char) :
    ds.foldl (fun acc d => 10 * acc + (d.toNat - 48)) 0 = Nat.ofDigitChars 10 ds 0 :=
  Nat.ofDigitChars_eq_foldl.symm

/-- The digits of a port text read as a natural number when they are a non-empty run of digits. -/
theorem digits_eq_some {cs : List Char} {n : Nat}
    (h : (if cs.isEmpty || !cs.all Char.isDigit then none
      else some (cs.foldl (fun acc d => 10 * acc + (d.toNat - 48)) 0)) = some n) :
    IsDigits cs ∧ n = Nat.ofDigitChars 10 cs 0 := by
  split at h
  · cases h
  · rename_i hd
    simp only [Bool.or_eq_true, List.isEmpty_iff, Bool.not_eq_true', not_or, Bool.not_eq_false,
      List.all_eq_true] at hd
    exact ⟨hd, by rw [← foldl_digits_eq]; exact (Option.some.inj h).symm⟩

/-- What a port text reads as a number: an optional sign and digits, whose value, signed, lies in
the signed 32-bit range. -/
theorem parseInt32?_eq_some {text : String} {v : Int} (h : parseInt32? text = some v) :
    (-2147483648 ≤ v ∧ v ≤ 2147483647) ∧ ∃ ds, IsDigits ds ∧
      (text.toList = ds ∧ v = Nat.ofDigitChars 10 ds 0 ∨
       text.toList = '+' :: ds ∧ v = Nat.ofDigitChars 10 ds 0 ∨
       text.toList = '-' :: ds ∧ v = -(Nat.ofDigitChars 10 ds 0 : Int)) := by
  unfold parseInt32? at h
  simp only [Option.filter_eq_some_iff, decide_eq_true_eq] at h
  obtain ⟨hv, hr⟩ := h
  refine ⟨hr, ?_⟩
  split at hv
  · obtain ⟨n, hn, rfl⟩ := Option.map_eq_some_iff.1 hv
    obtain ⟨hds, rfl⟩ := digits_eq_some hn
    exact ⟨_, hds, .inr (.inl ⟨‹_›, rfl⟩)⟩
  · obtain ⟨m, hm, rfl⟩ := Option.map_eq_some_iff.1 hv
    obtain ⟨n, hn, hnm⟩ := Option.bind_eq_some_iff.1 hm
    obtain rfl : (n : Int) = m := Option.some.inj hnm
    obtain ⟨hds, rfl⟩ := digits_eq_some hn
    exact ⟨_, hds, .inr (.inr ⟨‹_›, rfl⟩)⟩
  · obtain ⟨n, hn, rfl⟩ := Option.map_eq_some_iff.1 hv
    obtain ⟨hds, rfl⟩ := digits_eq_some hn
    exact ⟨_, hds, .inl ⟨rfl, rfl⟩⟩

theorem parseInt32?_unsigned {text : String} {ds : List Char} (ht : text.toList = ds)
    (hds : IsDigits ds) (hr : Nat.ofDigitChars 10 ds 0 ≤ 2147483647) :
    parseInt32? text = some (Nat.ofDigitChars 10 ds 0 : Int) := by
  have hd : (ds.isEmpty || !ds.all Char.isDigit) = false := by
    simp [hds.1, List.all_eq_true.2 hds.2]
  unfold parseInt32?
  simp only [ht]
  split
  · exact absurd (hds.2 _ List.mem_cons_self) (by decide)
  · exact absurd (hds.2 _ List.mem_cons_self) (by decide)
  · simp only [hd, foldl_digits_eq]
    simp
    omega

theorem parseInt32?_negative {text : String} {ds : List Char} (ht : text.toList = '-' :: ds)
    (hds : IsDigits ds) (hr : Nat.ofDigitChars 10 ds 0 ≤ 2147483648) :
    parseInt32? text = some (-(Nat.ofDigitChars 10 ds 0 : Int)) := by
  have hd : (ds.isEmpty || !ds.all Char.isDigit) = false := by
    simp [hds.1, List.all_eq_true.2 hds.2]
  unfold parseInt32?
  simp only [ht, hd, foldl_digits_eq]
  simp
  omega

/-! ## The text of a number -/

theorem toList_toString_ofNat (m : Nat) : (toString (m : Int)).toList = Nat.toDigits 10 m := by
  show (Int.repr (Int.ofNat m)).toList = _
  simp [Int.repr]

theorem toList_toString_negSucc (m : Nat) :
    (toString (Int.negSucc m)).toList = '-' :: Nat.toDigits 10 (m + 1) := by
  show (Int.repr (Int.negSucc m)).toList = _
  simp [Int.repr]

/-- The text of every integer is canonical. -/
theorem canonicalNumeral_toString (v : Int) : CanonicalNumeral (toString v) := by
  cases v with
  | ofNat m =>
    left
    rw [show Int.ofNat m = (m : Int) from rfl, toList_toString_ofNat]
    exact canonicalDigits_toDigits m
  | negSucc m =>
    right
    exact ⟨_, toList_toString_negSucc m, canonicalDigits_toDigits _,
      toDigits_ne_zero (by omega)⟩

/-- A canonical text that reads as a number is the text of that number. -/
theorem toString_eq_of_canonical {text : String} {v : Int} (h : parseInt32? text = some v)
    (hc : CanonicalNumeral text) : toString v = text := by
  obtain ⟨-, ds, hds, hcases⟩ := parseInt32?_eq_some h
  rw [← String.toList_inj]
  rcases hcases with ⟨ht, rfl⟩ | ⟨ht, rfl⟩ | ⟨ht, rfl⟩
  · -- unsigned: digits cannot start with a minus sign, so they are canonical themselves
    rcases hc with hc | ⟨ds', hm, -⟩
    · rw [toList_toString_ofNat, ht, toDigits_ofDigitChars (ht ▸ hc)]
    · exact absurd (hds.2 '-' (by simp [← ht, hm])) (by decide)
  · -- a plus sign is never canonical
    rcases hc with hc | ⟨ds', hm, -⟩
    · exact absurd (hc.1.2 '+' (by simp [ht])) (by decide)
    · simp [ht] at hm
  · rcases hc with hc | ⟨ds', hm, hcan, hzero⟩
    · exact absurd (hc.1.2 '-' (by simp [ht])) (by decide)
    · obtain rfl : ds = ds' := by simpa [ht] using hm
      -- canonical digits other than a single zero have a positive value
      have hpos : 0 < Nat.ofDigitChars 10 ds 0 := by
        refine Nat.pos_of_ne_zero fun h0 => hzero ?_
        rw [← toDigits_ofDigitChars hcan, h0, Nat.toDigits_zero]
      obtain ⟨m, hm'⟩ : ∃ m, Nat.ofDigitChars 10 ds 0 = m + 1 :=
        ⟨_, (Nat.succ_pred_eq_of_pos hpos).symm⟩
      rw [hm', show -((m + 1 : Nat) : Int) = Int.negSucc m from rfl, toList_toString_negSucc,
        ← hm', toDigits_ofDigitChars hcan, ht]

/-- The text of a number of the signed 32-bit range reads back as that number. -/
theorem parseInt32?_toString {v : Int} (hr : -2147483648 ≤ v ∧ v ≤ 2147483647) :
    parseInt32? (toString v) = some v := by
  cases v with
  | ofNat m =>
    have h := parseInt32?_unsigned (toList_toString_ofNat m) (isDigits_toDigits m)
      (by rw [Nat.ofDigitChars_ten_toDigits]; simp at hr; omega)
    rwa [Nat.ofDigitChars_ten_toDigits] at h
  | negSucc m =>
    have h := parseInt32?_negative (toList_toString_negSucc m) (isDigits_toDigits _)
      (by rw [Nat.ofDigitChars_ten_toDigits]; omega)
    rwa [Nat.ofDigitChars_ten_toDigits] at h

/-! ## Ports and their texts -/

@[simp] theorem portText_name (s : String) : portText (some { name := some s }) = s := by
  by_cases h : s.isEmpty <;> simp_all [portText, String.isEmpty_iff]

@[simp] theorem portText_number (n : Int) : portText (some { number := some n }) = toString n :=
  rfl

/-- A port with exactly one field set, as ports written by name or by number are: a number of
the signed 32-bit range, or a name that is not empty and does not read as a number. -/
def ServiceBackendPort.OneField (q : ServiceBackendPort) : Prop :=
  (∃ n, q = { number := some n } ∧ -2147483648 ≤ n ∧ n ≤ 2147483647) ∨
  ∃ s, q = { name := some s } ∧ s ≠ "" ∧ parseInt32? s = none

/-- A port text comes back from its port exactly when it reads as no number or is the text of
the number it reads as. -/
theorem portText_servicePort_eq_iff (text : String) :
    portText (some (servicePort text)) = text ↔
      ∀ v, parseInt32? text = some v → toString v = text := by
  unfold servicePort
  cases h : parseInt32? text with
  | none => simp
  | some v => simp

/-- The same condition read off the text: a port text comes back exactly when it reads as no
number or writes its number canonically. -/
theorem portText_servicePort_eq_iff_canonical (text : String) :
    portText (some (servicePort text)) = text ↔
      parseInt32? text = none ∨ CanonicalNumeral text := by
  rw [portText_servicePort_eq_iff]
  cases h : parseInt32? text with
  | none => simp
  | some v =>
    simp only [Option.some.injEq, forall_eq', reduceCtorEq, false_or]
    exact ⟨fun hv => hv ▸ canonicalNumeral_toString v, toString_eq_of_canonical h⟩

example :
    portText (some (servicePort "+80")) = "80" ∧ portText (some (servicePort "-0")) = "0" := by
  decide

/-- A port with one field set comes back from its text. -/
theorem servicePort_portText {q : ServiceBackendPort} (hq : q.OneField) :
    servicePort (portText (some q)) = q := by
  rcases hq with ⟨n, rfl, hr⟩ | ⟨s, rfl, -, hs⟩
  · rw [portText_number, servicePort, parseInt32?_toString hr]
  · simp [servicePort, hs]

/-- Port texts and backend ports round-trip on their canonical forms: a text comes back through a
service backend exactly when it reads as no number or is the text of its number, that is when it
is canonical; and a port with exactly one field set comes back through its text. -/
theorem port_texts_round_trip :
    (∀ name text : String,
      (portText (serviceBackendFor name text).port = text ↔
        ∀ v, parseInt32? text = some v → toString v = text) ∧
      (portText (serviceBackendFor name text).port = text ↔
        parseInt32? text = none ∨ CanonicalNumeral text)) ∧
    ∀ (name : String) (q : ServiceBackendPort), q.OneField →
      (serviceBackendFor name (portText (some q))).port = some q :=
  ⟨fun _ text => ⟨portText_servicePort_eq_iff text, portText_servicePort_eq_iff_canonical text⟩,
    fun _ _ hq => congrArg some (servicePort_portText hq)⟩

/-- A named port and a negative port come back through their texts. -/
theorem named_and_negative_ports_round_trip :
    ServiceBackendPort.OneField { name := some "http" } ∧
      (serviceBackendFor "svc" (portText (some { name := some "http" }))).port =
        some { name := some "http" } ∧
    ServiceBackendPort.OneField { number := some (-8080) } ∧
      (serviceBackendFor "svc" (portText (some { number := some (-8080) }))).port =
        some { number := some (-8080) } :=
  have hname : ServiceBackendPort.OneField { name := some "http" } :=
    .inr ⟨"http", rfl, by decide, by decide⟩
  have hnumber : ServiceBackendPort.OneField { number := some (-8080) } :=
    .inl ⟨-8080, rfl, by decide, by decide⟩
  ⟨hname, port_texts_round_trip.2 "svc" _ hname, hnumber, port_texts_round_trip.2 "svc" _ hnumber⟩

end IngressGuard.Kube
