import IngressGuard.Proofs.Logic

/-!
# Backup records read back from their text

A backup record is written as compact JSON (`BackupRecord.toText`) and read back by the reader
for records of string members (`Json.readStringRecord`). The proof follows the reader along the
text the writer produces: each step lemma says what one reader does to a text that starts with
what the writer wrote, whatever follows it, and the record lemma chains the steps in the order
the members are written. The main result is `BackupRecord.ofText_toText`: every record reads back
as itself, whatever its strings hold (quotes, backslashes, control characters, any other text).

Only texts the writer produces are read here. Nothing is asserted about other texts (blanks,
members in another order, the array form).
-/

namespace IngressGuard.Json

/-! ## Written strings -/

/-- The characters `quote` writes for a string, without the quotes around them. -/
def escaped (s : String) : List Char :=
  s.toList.flatMap fun c => (escapeChar c).toList

theorem quote_toList (s : String) : (quote s).toList = '"' :: escaped s ++ ['"'] := by
  simp [quote, escaped, String.toList_join, List.flatMap_map]

/-- The escapes written with a letter after the backslash: the letter and the character. -/
def letterEscapes : List (Char × Char) :=
  [('"', '"'), ('\\', '\\'), ('b', '\x08'), ('f', '\x0c'), ('n', '\n'), ('r', '\r'), ('t', '\t')]

/-- The digit a `\u00xx` escape uses for a value below sixteen. -/
def hexDigitOf (v : Nat) : Char :=
  if v < 10 then Char.ofNat (48 + v) else Char.ofNat (87 + v)

theorem hexValue_hexDigitOf : ∀ v, v < 16 → hexValue? (hexDigitOf v) = some v := by
  decide

theorem escapeChar_letter : ∀ p ∈ letterEscapes, (escapeChar p.2).toList = ['\\', p.1] := by
  decide

/-- The three ways a character is written: a letter escape, a `\u00xx` escape for the other
control characters, or the character itself. -/
theorem escapeChar_cases (c : Char) :
    (∃ l, (l, c) ∈ letterEscapes ∧ (escapeChar c).toList = ['\\', l]) ∨
    (c.toNat < 0x20 ∧ (escapeChar c).toList =
      ['\\', 'u', '0', '0', hexDigitOf (c.toNat / 16), hexDigitOf (c.toNat % 16)]) ∨
    (c ≠ '"' ∧ c ≠ '\\' ∧ 0x20 ≤ c.toNat ∧ (escapeChar c).toList = [c]) := by
  by_cases hl : ∃ p ∈ letterEscapes, p.2 = c
  · obtain ⟨⟨l, c'⟩, hmem, rfl⟩ := hl
    exact .inl ⟨l, hmem, escapeChar_letter _ hmem⟩
  · simp only [letterEscapes, List.mem_cons, List.not_mem_nil, exists_eq_or_imp, exists_eq_left,
      or_false, not_or] at hl
    obtain ⟨h1, h2, h3, h4, h5, h6, h7⟩ := hl
    unfold escapeChar
    rw [if_neg (Ne.symm h1), if_neg (Ne.symm h2), if_neg (Ne.symm h3), if_neg (Ne.symm h4),
      if_neg (Ne.symm h5), if_neg (Ne.symm h6), if_neg (Ne.symm h7)]
    split
    · exact .inr (.inl ⟨‹_›, by simp [hexDigitOf]⟩)
    · exact .inr (.inr ⟨Ne.symm h1, Ne.symm h2, by omega, by simp⟩)

theorem length_le_escaped (s : String) : s.toList.length ≤ (escaped s).length := by
  unfold escaped
  induction s.toList with
  | nil => simp
  | cons c cs ih =>
    have : 1 ≤ (escapeChar c).toList.length := by
      rcases escapeChar_cases c with ⟨l, -, hw⟩ | ⟨-, hw⟩ | ⟨-, -, -, hw⟩ <;> simp [hw]
    simp only [List.flatMap_cons, List.length_append, List.length_cons]
    omega

namespace Reader

/-! ## Reading strings -/

theorem exec_next_cons (c : Char) (rest : List Char) (i : Nat) :
    exec next ⟨c :: rest, i⟩ = (.ok (some c), ⟨rest, i + c.utf8Size⟩) := rfl

theorem exec_bump_cons (c : Char) (rest : List Char) (i : Nat) :
    exec bump ⟨c :: rest, i⟩ = (.ok (), ⟨rest, i + c.utf8Size⟩) := rfl

theorem exec_skipBlanks_cons (c : Char) (hc : isBlank c = false) (rest : List Char) (i : Nat) :
    exec skipBlanks ⟨c :: rest, i⟩ = (.ok (some c), ⟨c :: rest, i⟩) := by
  rw [skipBlanks, exec_bind, exec_modify]
  simp only [dropBlanks, hc, Bool.false_eq_true, if_false]
  rfl

theorem exec_escape_letter (l c : Char) (h : (l, c) ∈ letterEscapes) (rest : List Char) (i : Nat) :
    exec escape ⟨l :: rest, i⟩ = (.ok c, ⟨rest, i + 1⟩) := by
  simp only [letterEscapes, List.mem_cons, Prod.mk.injEq, List.not_mem_nil, or_false] at h
  rcases h with ⟨rfl, rfl⟩ | ⟨rfl, rfl⟩ | ⟨rfl, rfl⟩ | ⟨rfl, rfl⟩ | ⟨rfl, rfl⟩ | ⟨rfl, rfl⟩ |
    ⟨rfl, rfl⟩ <;> rfl

theorem exec_hexQuad (a b c d : Char) (va vb vc vd : Nat) (rest : List Char) (i : Nat)
    (ha : hexValue? a = some va) (hb : hexValue? b = some vb) (hc : hexValue? c = some vc)
    (hd : hexValue? d = some vd) :
    exec hexQuad ⟨a :: b :: c :: d :: rest, i⟩ =
      (.ok (16 * (16 * (16 * va + vb) + vc) + vd), ⟨rest, i + 4⟩) := by
  rw [hexQuad, exec_bind, exec_get]
  simp [ha, hb, hc, hd]
  rfl

theorem exec_escape_control (c : Char) (hc : c.toNat < 0x20) (rest : List Char) (i : Nat) :
    exec escape ⟨'u' :: '0' :: '0' :: hexDigitOf (c.toNat / 16) :: hexDigitOf (c.toNat % 16) :: rest, i⟩ =
      (.ok c, ⟨rest, i + 1 + 4⟩) := by
  have hquad := exec_hexQuad '0' '0' _ _ 0 0 _ _ rest (i + 1) rfl rfl
    (hexValue_hexDigitOf (c.toNat / 16) (by omega)) (hexValue_hexDigitOf (c.toNat % 16) (by omega))
  rw [show 16 * (16 * (16 * 0 + 0) + c.toNat / 16) + c.toNat % 16 = c.toNat by omega] at hquad
  rw [escape, exec_bind, exec_next_cons]
  show exec unicodeEscape _ = _
  rw [unicodeEscape, exec_bind]
  erw [hquad]
  dsimp only
  -- a control character is no surrogate, so it stands for itself
  rw [if_neg (by omega), if_pos (by omega), Char.ofNat_toNat]
  rfl

theorem stringBody_quote (fuel : Nat) (acc rest : List Char) (i : Nat) :
    exec (stringBody (fuel + 1) acc) ⟨'"' :: rest, i⟩ =
      (.ok (String.ofList acc.reverse), ⟨rest, i + 1⟩) := by
  rw [stringBody, exec_bind, exec_next_cons]
  rfl

theorem stringBody_plain (fuel : Nat) (acc rest : List Char) (i : Nat) (c : Char)
    (h1 : c ≠ '"') (h2 : c ≠ '\\') (h3 : 0x20 ≤ c.toNat) :
    exec (stringBody (fuel + 1) acc) ⟨c :: rest, i⟩ =
      exec (stringBody fuel (c :: acc)) ⟨rest, i + c.utf8Size⟩ := by
  rw [stringBody, exec_bind, exec_next_cons]
  dsimp only
  split
  next heq => exact absurd heq (by simp)
  next heq => exact absurd (Option.some.inj heq) h1
  next heq => exact absurd (Option.some.inj heq) h2
  next c' _ _ heq =>
    obtain rfl := Option.some.inj heq
    rw [if_neg (by omega)]

theorem stringBody_escaped (fuel : Nat) (acc rest rest' : List Char) (i j : Nat) (e : Char)
    (h : exec escape ⟨rest, i + 1⟩ = (.ok e, ⟨rest', j⟩)) :
    exec (stringBody (fuel + 1) acc) ⟨'\\' :: rest, i⟩ = exec (stringBody fuel (e :: acc)) ⟨rest', j⟩ := by
  rw [stringBody, exec_bind, exec_next_cons]
  dsimp only
  split
  next heq => exact absurd heq (by simp)
  next heq => exact absurd (Option.some.inj heq) (by decide)
  next =>
    rw [exec_bind]
    erw [h]
  next heq => exact absurd (Option.some.inj heq).symm ‹_›

/-- One written character is read back, whatever follows it. -/
theorem stringBody_escapeChar (fuel : Nat) (acc rest : List Char) (i : Nat) (c : Char) :
    ∃ j, exec (stringBody (fuel + 1) acc) ⟨(escapeChar c).toList ++ rest, i⟩ =
      exec (stringBody fuel (c :: acc)) ⟨rest, j⟩ := by
  rcases escapeChar_cases c with ⟨l, hl, hw⟩ | ⟨hlow, hw⟩ | ⟨h1, h2, h3, hw⟩
  · rw [hw]
    exact ⟨_, stringBody_escaped fuel acc _ rest i _ c (exec_escape_letter l c hl rest (i + 1))⟩
  · rw [hw]
    exact ⟨_, stringBody_escaped fuel acc _ rest i _ c (exec_escape_control c hlow rest (i + 1))⟩
  · rw [hw]
    exact ⟨_, stringBody_plain fuel acc rest i c h1 h2 h3⟩

/-- Written characters are read back through the closing quote, one step of fuel each. -/
theorem stringBody_escaped_text (cs : List Char) (fuel : Nat) (hfuel : cs.length < fuel)
    (acc rest : List Char) (i : Nat) :
    ∃ j, exec (stringBody fuel acc) ⟨cs.flatMap (fun c => (escapeChar c).toList) ++ '"' :: rest, i⟩ =
      (.ok (String.ofList (acc.reverse ++ cs)), ⟨rest, j⟩) := by
  induction cs generalizing fuel acc i with
  | nil =>
    obtain ⟨fuel, rfl⟩ : ∃ f, fuel = f + 1 := ⟨fuel - 1, by simp at hfuel; omega⟩
    exact ⟨_, by simpa using stringBody_quote fuel acc rest i⟩
  | cons c cs ih =>
    obtain ⟨fuel, rfl⟩ : ∃ f, fuel = f + 1 := ⟨fuel - 1, by simp at hfuel; omega⟩
    obtain ⟨j, hj⟩ := stringBody_escapeChar fuel acc
      (cs.flatMap (fun c => (escapeChar c).toList) ++ '"' :: rest) i c
    rw [List.flatMap_cons, List.append_assoc, hj]
    simpa using ih fuel (by simp at hfuel; omega) (c :: acc) j

theorem exec_stringBody_text (s : String) (fuel : Nat) (hfuel : s.toList.length < fuel)
    (rest : List Char) (i : Nat) :
    ∃ j, exec (stringBody fuel []) ⟨escaped s ++ '"' :: rest, i⟩ = (.ok s, ⟨rest, j⟩) := by
  simpa [escaped] using stringBody_escaped_text s.toList fuel hfuel [] rest i

/-! ## Reading members -/

/-- The separator written before a member: none before the first. -/
def separator (first : Bool) : List Char :=
  if first then [] else [',']

/-- The text of one member of a compact object. -/
def memberText (first : Bool) (key value : String) : List Char :=
  separator first ++ ((quote key).toList ++ ':' :: (quote value).toList)

theorem memberText_length (first : Bool) (key value : String) :
    key.toList.length + value.toList.length + 5 ≤ (memberText first key value).length := by
  have hk := length_le_escaped key
  have hv := length_le_escaped value
  simp only [memberText, quote_toList, List.length_append, List.length_cons, List.length_nil]
  omega

theorem exec_attempt {α : Type} (x : Reader α) (c : Cursor) :
    exec (attempt x) c = match exec x c with
      | (.ok a, c') => (.ok (.ok a), c')
      | (.error e, c') => (.ok (.error e), c') := by
  rw [attempt, exec_tryCatch, exec_map]
  rcases exec x c with ⟨_ | a, c'⟩ <;> rfl

theorem exec_nextKey_quote (fuel : Nat) (first : Bool) (rest : List Char) (i : Nat) :
    exec (nextKey fuel first) ⟨separator first ++ '"' :: rest, i⟩ =
      exec (stringBody fuel [] >>= fun k => pure (some k)) ⟨rest, i + if first then 1 else 2⟩ := by
  cases first <;>
  · simp only [separator, Bool.false_eq_true, if_true, if_false, List.nil_append, List.cons_append]
    unfold nextKey
    rw [exec_bind, exec_skipBlanks_cons _ rfl]
    rfl

theorem exec_nextKey_text (fuel : Nat) (first : Bool) (key : String) (hk : key.toList.length < fuel)
    (rest : List Char) (i : Nat) :
    ∃ j, exec (nextKey fuel first) ⟨separator first ++ ((quote key).toList ++ rest), i⟩ =
      (.ok (some key), ⟨rest, j⟩) := by
  obtain ⟨j, hj⟩ := exec_stringBody_text key fuel hk rest (i + if first then 1 else 2)
  refine ⟨j, ?_⟩
  simp only [quote_toList, List.cons_append, List.append_assoc, List.nil_append]
  rw [exec_nextKey_quote, exec_bind, hj]
  rfl

/-- At the closing brace there is no next key, and the brace is left for `endMap`. -/
theorem exec_nextKey_close (fuel : Nat) (rest : List Char) (i : Nat) :
    exec (nextKey fuel false) ⟨'}' :: rest, i⟩ = (.ok none, ⟨'}' :: rest, i⟩) := by
  unfold nextKey
  rw [exec_bind, exec_skipBlanks_cons _ rfl]
  rfl

theorem exec_colon (rest : List Char) (i : Nat) :
    exec colon ⟨':' :: rest, i⟩ = (.ok (), ⟨rest, i + 1⟩) := by
  rw [colon, exec_bind, exec_skipBlanks_cons _ rfl]
  rfl

theorem exec_stringValue_text (fuel : Nat) (v : String) (hv : v.toList.length < fuel)
    (rest : List Char) (i : Nat) :
    ∃ j, exec (stringValue fuel) ⟨(quote v).toList ++ rest, i⟩ = (.ok v, ⟨rest, j⟩) := by
  simp only [quote_toList, List.cons_append, List.append_assoc, List.nil_append]
  rw [stringValue, exec_bind, exec_skipBlanks_cons _ rfl]
  exact exec_stringBody_text v fuel hv rest (i + 1)

theorem exec_endMap (rest : List Char) (i : Nat) :
    exec endMap ⟨'}' :: rest, i⟩ = (.ok (), ⟨rest, i + 1⟩) := by
  rw [endMap, exec_bind, exec_skipBlanks_cons _ rfl]
  rfl

/-- A member named by a field whose slot is still empty fills that slot. -/
theorem exec_recordMembers_member (fields : List String) (fuel steps : Nat) (first : Bool)
    (slots : List (Option String)) (key value : String) (idx : Nat)
    (hidx : fields.idxOf? key = some idx) (hfree : slots.getD idx none = none)
    (hk : key.toList.length < fuel) (hv : value.toList.length < fuel) (rest : List Char) (i : Nat) :
    ∃ j, exec (recordMembers fields fuel (steps + 1) first slots)
        ⟨memberText first key value ++ rest, i⟩ =
      exec (recordMembers fields fuel steps false (slots.set idx (some value))) ⟨rest, j⟩ := by
  obtain ⟨j, hj⟩ := exec_nextKey_text fuel first key hk (':' :: ((quote value).toList ++ rest)) i
  obtain ⟨j', hj'⟩ := exec_stringValue_text fuel value hv rest (j + 1)
  refine ⟨j', ?_⟩
  rw [memberText, List.append_assoc, List.append_assoc, List.cons_append, recordMembers, exec_bind,
    hj]
  simp only [hidx, hfree, Option.isSome_none, Bool.false_eq_true, if_false]
  rw [exec_bind, exec_colon]
  dsimp only
  rw [exec_bind, hj']

theorem exec_recordMembers_close (fields : List String) (fuel steps : Nat)
    (slots : List (Option String)) (rest : List Char) (i : Nat) :
    exec (recordMembers fields fuel (steps + 1) false slots) ⟨'}' :: rest, i⟩ =
      (.ok slots, ⟨'}' :: rest, i⟩) := by
  rw [recordMembers, exec_bind, exec_nextKey_close]
  rfl

/-- Filled slots are collected without moving the reader. -/
theorem exec_mapM_filled (g : String × Option String → Reader String)
    (hg : ∀ field v, g (field, some v) = pure v) :
    ∀ (fields vals : List String), vals.length = fields.length → ∀ c,
      exec ((fields.zip (vals.map some)).mapM g) c = (.ok vals, c)
  | [], [], _, c => rfl
  | field :: fields, v :: vals, hlen, c => by
    simp only [List.map_cons, List.zip_cons_cons, List.mapM_cons, hg, exec_bind, exec_pure]
    rw [exec_mapM_filled g hg fields vals (by simpa using hlen) c]

/-- An object whose members fill every slot is read as the list of their values. -/
theorem exec_stringRecord_object {name : String} {fields : List String} {fuel : Nat}
    {body rest : List Char} {i j : Nat} {vals : List String}
    (hmembers : exec (recordMembers fields fuel fuel true (fields.map fun _ => none)) ⟨body, i + 1⟩ =
      (.ok (vals.map some), ⟨'}' :: rest, j⟩))
    (hlen : vals.length = fields.length) :
    exec (stringRecord name fields fuel) ⟨'{' :: body, i⟩ = (.ok vals, ⟨rest, j + 1⟩) := by
  rw [stringRecord, exec_bind, exec_skipBlanks_cons _ rfl]
  dsimp only
  split
  next heq => exact absurd heq (by simp)
  next heq => exact absurd heq (by simp)
  next =>
    rw [exec_bind, exec_bump_cons, show '{'.utf8Size = 1 from rfl]
    dsimp only
    rw [exec_bind, exec_attempt, exec_bind, hmembers]
    dsimp only
    rw [exec_mapM_filled _ (fun _ _ => rfl) fields vals hlen]
    dsimp only
    rw [exec_bind, exec_attempt, exec_endMap]
    rfl
  next heq => exact absurd (Option.some.inj heq).symm ‹_›

end Reader

theorem readText_of_exec {α : Type} {text : String} {reader : Nat → Reader α} {v : α}
    (h : ∃ c, exec (do let v ← reader (2 * text.toList.length + 2); Reader.finish; pure v)
      ⟨text.toList, 0⟩ = (.ok v, c)) :
    readText text reader = .ok v := by
  obtain ⟨c, h⟩ := h
  unfold readText
  dsimp only
  rw [show ((do let v ← reader (2 * text.toList.length + 2); Reader.finish; pure v : Reader α).run
    ⟨text.toList, 0⟩).run = (Except.ok v, c) from h]

end IngressGuard.Json

namespace IngressGuard.BackupRecord

open Json Json.Reader

theorem toText_members (r : BackupRecord) : r.toText.toList =
    '{' :: (memberText true "authBackendID" r.authBackendId ++
      (memberText false "serviceName" r.serviceName ++
        (memberText false "servicePortOrNamePort" r.servicePortText ++ ['}']))) := by
  simp [BackupRecord.toText, render, memberText, separator, String.intercalate_cons_cons,
    String.intercalate_singleton]

theorem exec_stringRecord_toText (r : BackupRecord) (name : String) (fuel : Nat)
    (hfuel : r.toText.toList.length < fuel) (i : Nat) :
    ∃ j, exec (stringRecord name fieldNames fuel) ⟨r.toText.toList, i⟩ =
      (.ok [r.authBackendId, r.serviceName, r.servicePortText], ⟨[], j⟩) := by
  have h₁ := memberText_length true "authBackendID" r.authBackendId
  have h₂ := memberText_length false "serviceName" r.serviceName
  have h₃ := memberText_length false "servicePortOrNamePort" r.servicePortText
  rw [toText_members] at hfuel ⊢
  simp only [List.length_cons, List.length_append, List.length_nil] at hfuel
  -- one step for each member and one for the closing brace
  obtain ⟨steps, rfl⟩ : ∃ steps, fuel = steps + 1 + 1 + 1 + 1 := ⟨fuel - 4, by omega⟩
  obtain ⟨j₁, hj₁⟩ := exec_recordMembers_member fieldNames (steps + 1 + 1 + 1 + 1) (steps + 1 + 1 + 1)
    true [none, none, none] "authBackendID" r.authBackendId 0 (by decide) rfl (by omega) (by omega)
    _ (i + 1)
  obtain ⟨j₂, hj₂⟩ := exec_recordMembers_member fieldNames (steps + 1 + 1 + 1 + 1) (steps + 1 + 1)
    false [some r.authBackendId, none, none] "serviceName" r.serviceName 1 (by decide) rfl (by omega)
    (by omega) _ j₁
  obtain ⟨j₃, hj₃⟩ := exec_recordMembers_member fieldNames (steps + 1 + 1 + 1 + 1) (steps + 1)
    false [some r.authBackendId, some r.serviceName, none] "servicePortOrNamePort" r.servicePortText 2
    (by decide) rfl (by omega) (by omega) _ j₂
  have hclose := exec_recordMembers_close fieldNames (steps + 1 + 1 + 1 + 1) steps
    [some r.authBackendId, some r.serviceName, some r.servicePortText] [] j₃
  refine ⟨j₃ + 1, exec_stringRecord_object ?_ rfl⟩
  rw [show fieldNames.map (fun _ => (none : Option String)) = [none, none, none] from rfl, hj₁]
  simp only [List.set_cons_zero]
  rw [hj₂]
  simp only [List.set_cons_zero, List.set_cons_succ]
  rw [hj₃]
  simp only [List.set_cons_zero, List.set_cons_succ]
  exact hclose

/-- A backup record reads back from its text as itself. -/
theorem ofText_toText (r : BackupRecord) : ofText r.toText = .ok r := by
  obtain ⟨j, hj⟩ :=
    exec_stringRecord_toText r "BackupData" (2 * r.toText.toList.length + 2) (by omega) 0
  have hread : readStringRecord "BackupData" fieldNames r.toText =
      .ok [r.authBackendId, r.serviceName, r.servicePortText] := by
    refine readText_of_exec ⟨⟨[], j⟩, ?_⟩
    rw [exec_bind, hj]
    rfl
  rw [ofText, hread]
  rfl

end IngressGuard.BackupRecord
