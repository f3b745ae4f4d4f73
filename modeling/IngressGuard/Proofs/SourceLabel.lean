import Mathlib
import IngressGuard.Kube.Labels
import IngressGuard.Proofs.Base32HexCodec

/-!
# Source labels written and read back

A source label value carries `namespace/name` as unpadded base32hex of its UTF-8 bytes. Written
for a namespace and a non-empty name without slashes, it reads back as them, an empty namespace
as `default`. Conversely a value that reads as a namespace and a name is, in lowercase, the value
written for them, as long as the text it carries does not start with a slash: a leading slash
is read as the empty namespace part and so as `default`, which writes back differently.

Splitting at `/` works on byte positions of the text; it is shown here to split the characters
of the text at every slash.
-/

namespace IngressGuard.Kube

open String in
/-- Splitting at a one-character separator, from a position inside the text. -/
theorem splitOnAux_slash (l m r : List Char) (acc : List String) :
    String.splitOnAux (String.ofList (l ++ m ++ r)) "/" ⟨utf8Len l⟩ ⟨utf8Len l + utf8Len m⟩ 0
        acc =
      acc.reverse ++ (List.splitOnPPrepend (· == '/') r m.reverse).map String.ofList := by
  unfold String.splitOnAux
  simp only [List.append_assoc, atEnd_iff, rawEndPos_ofList, utf8Len_append, Pos.Raw.mk_le_mk,
    Nat.add_le_add_iff_left, (by omega : utf8Len m + utf8Len r ≤ utf8Len m ↔ utf8Len r = 0),
    utf8Len_eq_zero]
  split
  · subst r
    simpa using extract_of_valid l m []
  · obtain ⟨c, r, rfl⟩ := r.exists_cons_of_ne_nil ‹_›
    have hget : Pos.Raw.get (ofList (l ++ (m ++ c :: r))) ⟨utf8Len l + utf8Len m⟩ = c := by
      simpa using get_of_valid (l ++ m) (c :: r)
    have hnext : Pos.Raw.next (ofList (l ++ (m ++ c :: r))) ⟨utf8Len l + utf8Len m⟩ =
        ⟨utf8Len l + utf8Len m + c.utf8Size⟩ := by
      simpa using next_of_valid (l ++ m) c r
    have hsep : Pos.Raw.get "/" 0 = '/' := by decide
    have hsepNext : Pos.Raw.next "/" 0 = ⟨1⟩ := by decide
    have hsepEnd : "/".rawEndPos ≤ Pos.Raw.next "/" 0 := by decide
    rw [hget, hsep, hnext, if_pos hsepEnd, hsepNext]
    by_cases hc : c = '/'
    · -- a separator closes the piece read so far
      subst hc
      have hsz : '/'.utf8Size = 1 := by decide
      have hcut :
          (⟨utf8Len l + utf8Len m + 1⟩ : Pos.Raw).unoffsetBy ⟨1⟩ = ⟨utf8Len l + utf8Len m⟩ := by
        simp [Pos.Raw.ext_iff]
      have hm := extract_of_valid l m ('/' :: r)
      simp only [List.append_assoc] at hm
      rw [beq_self_eq_true, if_pos rfl, hsz, hcut, hm]
      have := splitOnAux_slash (l ++ m ++ ['/']) [] r (ofList m :: acc)
      simp only [List.append_assoc, List.singleton_append, utf8Len_append, utf8Len_cons,
        utf8Len_nil, List.reverse_nil, hsz, Nat.add_zero, Nat.zero_add] at this
      rw [Nat.add_assoc, this]
      simp [List.splitOnPPrepend_cons_eq_if]
    · -- any other character extends it
      have hne : (c == '/') = false := by simpa using hc
      have hzero :
          (⟨utf8Len l + utf8Len m⟩ : Pos.Raw).unoffsetBy 0 = ⟨utf8Len l + utf8Len m⟩ := by
        simp
      rw [hne, if_neg Bool.false_ne_true, hzero, hnext]
      have := splitOnAux_slash l (m ++ [c]) r acc
      simp only [List.append_assoc, List.singleton_append, utf8Len_append, utf8Len_cons,
        utf8Len_nil, List.reverse_append, List.reverse_cons, List.reverse_nil, List.nil_append,
        Nat.zero_add] at this
      rw [Nat.add_assoc, this]
      simp [List.splitOnPPrepend_cons_eq_if, hne]

/-- Splitting a text at slashes splits its characters at slashes. -/
theorem splitOn_slash (s : String) : s.splitOn "/" = (s.toList.splitOn '/').map String.ofList := by
  have := splitOnAux_slash [] [] s.toList []
  simp only [List.nil_append, String.ofList_toList, String.utf8Len_nil, Nat.add_zero,
    List.reverse_nil, List.splitOnPPrepend_nil_right] at this
  rw [String.splitOn, if_neg (by decide), List.splitOn_eq_splitOnP]
  exact this


theorem splitOn_slash_append {a b : String} (ha : '/' ∉ a.toList) (hb : '/' ∉ b.toList) :
    (a ++ "/" ++ b).splitOn "/" = [a, b] := by
  rw [splitOn_slash, String.toList_append, String.toList_append, List.append_assoc]
  rw [show "/".toList = ['/'] from rfl, List.singleton_append,
    List.splitOn_append_cons_self_of_not_mem ha, List.splitOn_eq_singleton hb]
  simp

theorem eq_append_of_splitOn_slash {t a b : String} (h : t.splitOn "/" = [a, b]) :
    t = a ++ "/" ++ b := by
  rw [splitOn_slash, List.map_eq_cons_iff] at h
  obtain ⟨a', rest, hsplit, rfl, hrest⟩ := h
  obtain ⟨b', rest', rfl, rfl, hnil⟩ := List.map_eq_cons_iff.1 hrest
  rw [List.map_eq_nil_iff] at hnil
  subst hnil
  have hjoin : ['/'].intercalate (t.toList.splitOn '/') = t.toList := List.intercalate_splitOn '/'
  rw [hsplit] at hjoin
  rw [← String.toList_inj, ← hjoin]
  simp [List.intercalate]

theorem decodeSource_eq_ok {value ns name : String} (h : decodeSource value = .ok (ns, name)) :
    ∃ bytes text nsPart, Base32Hex.decode (Bytes.utf8 value) = .ok bytes ∧
      String.fromUTF8? (ByteArray.mk bytes.toArray) = some text ∧
      text.splitOn "/" = [nsPart, name] ∧ name ≠ "" ∧ ns = defaultNamespace nsPart := by
  unfold decodeSource at h
  cases hd : Base32Hex.decode (Bytes.utf8 value) with
  | error e =>
    simp only [hd, Except.mapError, bind, Except.bind] at h
    cases h
  | ok bytes =>
    simp only [hd, Except.mapError, bind, Except.bind] at h
    cases htext : String.fromUTF8? (ByteArray.mk bytes.toArray) with
    | none =>
      simp only [htext] at h
      cases h
    | some text =>
      simp only [htext, pure, Except.pure] at h
      split at h
      · rename_i nsPart name' hsplit
        split at h
        · cases h
        · rename_i hname
          cases h
          exact ⟨bytes, text, nsPart, rfl, htext, hsplit, by simpa using hname, rfl⟩
      · cases h

theorem defaultNamespace_of_ne {ns : String} (h : ns ≠ "") : defaultNamespace ns = ns := by
  simp [defaultNamespace, String.isEmpty_iff, h]

theorem defaultNamespace_ne_empty (ns : String) : defaultNamespace ns ≠ "" := by
  unfold defaultNamespace
  split
  · decide
  · rename_i h
    simpa [String.isEmpty_iff] using h

theorem slash_not_mem_defaultNamespace {ns : String} (h : '/' ∉ ns.toList) :
    '/' ∉ (defaultNamespace ns).toList := by
  unfold defaultNamespace
  split
  · decide
  · exact h

/-- The text a source label value carries before it is split: its base32hex bytes read as UTF-8,
if they are. -/
def sourceText? (value : String) : Option String :=
  match Base32Hex.decode (Bytes.utf8 value) with
  | .ok bytes => String.fromUTF8? (ByteArray.mk bytes.toArray)
  | .error _ => none

/-- A namespace and a non-empty name without slashes are read back from their source label, an
empty namespace as `default`. -/
theorem decodeSource_encodeSource {ns name : String} (hns : '/' ∉ ns.toList)
    (hname : '/' ∉ name.toList) (hne : name ≠ "") :
    decodeSource (encodeSource ns name) = .ok (defaultNamespace ns, name) := by
  have hsplit := splitOn_slash_append (slash_not_mem_defaultNamespace hns) hname
  unfold decodeSource
  simp only [encodeSource, Base32Hex.decode_utf8_encode, Except.mapError, bind, Except.bind,
    fromUTF8?_utf8, pure, Except.pure, hsplit, String.isEmpty_iff, hne, if_false,
    defaultNamespace_of_ne (defaultNamespace_ne_empty ns)]

/-- A source label value that reads as a namespace and a name, where the text it carries does not
start with a slash, is the lowercase of the label written for them. -/
theorem encodeSource_of_decodeSource {value ns name : String}
    (h : decodeSource value = .ok (ns, name))
    (hhead : ∀ text, sourceText? value = some text → text.toList.head? ≠ some '/') :
    encodeSource ns name = value.toLower := by
  obtain ⟨bytes, text, nsPart, hd, htext, hsplit, -, rfl⟩ := decodeSource_eq_ok h
  have hsrc : sourceText? value = some text := by
    rw [sourceText?, hd]
    exact htext
  have hparts := eq_append_of_splitOn_slash hsplit
  -- a text that starts with its separator would have an empty namespace part
  have hns : nsPart ≠ "" := fun h0 => hhead text hsrc (by simp [hparts, h0])
  rw [defaultNamespace_of_ne hns, encodeSource, defaultNamespace_of_ne hns, ← hparts,
    utf8_of_fromUTF8? htext, Base32Hex.encode_eq_toLower hd]

theorem source_label_round_trip :
    (∀ ns name : String, '/' ∉ ns.toList → '/' ∉ name.toList → name ≠ "" →
      decodeSource (encodeSource ns name) = .ok (if ns = "" then "default" else ns, name)) ∧
    ∀ value ns name : String, decodeSource value = .ok (ns, name) →
      (∀ text, sourceText? value = some text → text.toList.head? ≠ some '/') →
      encodeSource ns name = value.toLower := by
  refine ⟨fun ns name hns hname hne => ?_,
    fun _ _ _ h hhead => encodeSource_of_decodeSource h hhead⟩
  rw [decodeSource_encodeSource hns hname hne, defaultNamespace]
  simp [String.isEmpty_iff]


theorem default_namespace_and_mixed_case_labels_read_back :
    ('/' ∉ "".toList ∧ '/' ∉ "web".toList ∧ "web" ≠ "") ∧
      decodeSource (encodeSource "" "web") = .ok (if "" = "" then "default" else "", "web") ∧
    decodeSource "C4NM4" = .ok ("a", "b") ∧
      (∀ text, sourceText? "C4NM4" = some text → text.toList.head? ≠ some '/') ∧
      encodeSource "a" "b" = "C4NM4".toLower :=
  have hwritten : '/' ∉ "".toList ∧ '/' ∉ "web".toList ∧ "web" ≠ "" :=
    ⟨by decide, by decide, by decide⟩
  have hread : decodeSource "C4NM4" = .ok ("a", "b") := by cbv
  have hhead : ∀ text, sourceText? "C4NM4" = some text → text.toList.head? ≠ some '/' := by
    intro text htext
    have hcarried : sourceText? "C4NM4" = some "a/b" := by cbv
    rw [hcarried, Option.some.injEq] at htext
    subst htext
    decide
  ⟨hwritten, source_label_round_trip.1 "" "web" hwritten.1 hwritten.2.1 hwritten.2.2,
    hread, hhead, source_label_round_trip.2 "C4NM4" "a" "b" hread hhead⟩

end IngressGuard.Kube
